/-
Loops over consecutive positions of a list.  Such a loop updates one stretch of the
list and leaves the elements before and after it as they are.
-/

import Mathlib.Data.List.Forall2

set_option autoImplicit false

namespace AgentNucleus.Library

universe u v

variable {α : Type u} {β : Type v}

/-- The elements at `count` positions from `start` on. -/
def stretch (start count : Nat) (list : List α) : List α :=
  (list.drop start).take count

/-- One update at each of the positions, in order.  Positions past the end are skipped. -/
def modifyEach (update : α → α) : List Nat → List α → List α
  | [], list => list
  | position :: rest, list => modifyEach update rest (list.modify position update)

/-- Updates that keep a part of every element keep the parts of the list. -/
theorem map_modify {part : α → β} {update : α → α} (keeps : ∀ item, part (update item) = part item)
    (position : Nat) (list : List α) :
    (list.modify position update).map part = list.map part := by
  induction list generalizing position with
  | nil => rw [List.modify_nil]
  | cons item rest ih =>
      cases position with
      | zero => rw [List.modify_zero_cons, List.map_cons, List.map_cons, keeps]
      | succ position => rw [List.modify_succ_cons, List.map_cons, List.map_cons, ih]

theorem map_modifyEach {part : α → β} {update : α → α}
    (keeps : ∀ item, part (update item) = part item) (positions : List Nat) (list : List α) :
    (modifyEach update positions list).map part = list.map part := by
  induction positions generalizing list with
  | nil => rfl
  | cons position rest ih =>
      unfold modifyEach
      rw [ih, map_modify keeps]

theorem modify_append_cons (update : α → α) (before after : List α) (item : α) :
    (before ++ item :: after).modify before.length update = before ++ update item :: after := by
  induction before with
  | nil => exact List.modify_zero_cons update item after
  | cons first rest ih =>
      rw [List.cons_append, List.length_cons, List.modify_succ_cons, ih]
      rfl

/-- A list falls into the elements before a stretch, the stretch, and the elements after it. -/
theorem exists_split_stretch {start count : Nat} {list : List α}
    (inside : start + count ≤ list.length) :
    ∃ before after, list = before ++ (stretch start count list ++ after) ∧
      before.length = start ∧ (stretch start count list).length = count := by
  refine ⟨list.take start, (list.drop start).drop count, ?_, ?_, ?_⟩
  · unfold stretch
    rw [List.take_append_drop, List.take_append_drop]
  · rw [List.length_take]
    omega
  · unfold stretch
    rw [List.length_take, List.length_drop]
    omega

theorem stretch_append (before middle after : List α) :
    stretch before.length middle.length (before ++ (middle ++ after)) = middle := by
  unfold stretch
  rw [List.drop_left, List.take_left]

theorem mem_stretch_iff {start count : Nat} {list : List α} {item : α} :
    item ∈ stretch start count list ↔
      ∃ offset, offset < count ∧ list[start + offset]? = some item := by
  unfold stretch
  rw [List.mem_iff_getElem?]
  constructor
  · intro ⟨offset, found⟩
    rw [List.getElem?_take, List.getElem?_drop] at found
    split at found
    · next below => exact ⟨offset, below, found⟩
    · cases found
  · intro ⟨offset, below, found⟩
    refine ⟨offset, ?_⟩
    rw [List.getElem?_take, List.getElem?_drop, if_pos below]
    exact found

theorem mem_of_mem_stretch {start count : Nat} {list : List α} {item : α}
    (member : item ∈ stretch start count list) : item ∈ list :=
  List.mem_of_mem_drop (List.mem_of_mem_take member)

/-- The loop over a stretch updates the elements of the stretch. -/
theorem modifyEach_stretch (update : α → α) (before middle after : List α) :
    modifyEach update (List.range' before.length middle.length) (before ++ (middle ++ after)) =
      before ++ (middle.map update ++ after) := by
  induction middle generalizing before with
  | nil => rfl
  | cons item rest ih =>
      have shifted := ih (before ++ [update item])
      rw [List.length_append, List.length_singleton, List.append_assoc, List.append_assoc]
        at shifted
      rw [List.length_cons, List.range'_succ]
      change modifyEach update _ ((before ++ item :: (rest ++ after)).modify _ update) = _
      rw [modify_append_cons]
      exact shifted

theorem set_of_getElem? {list : List α} {position : Nat} {item : α}
    (found : list[position]? = some item) : list.set position item = list := by
  obtain ⟨_, same⟩ := List.getElem?_eq_some_iff.mp found
  rw [← same]
  exact List.set_getElem_self _

theorem findIdx_append_cons {property : α → Bool} {before : List α} {item : α}
    (missed : ∀ earlier ∈ before, property earlier = false) (found : property item = true)
    (after : List α) : (before ++ item :: after).findIdx property = before.length := by
  induction before with
  | nil =>
      rw [List.nil_append, List.findIdx_cons, found]
      rfl
  | cons first rest ih =>
      have here := missed first (List.mem_cons_self ..)
      have later := ih fun other member => missed other (List.mem_cons_of_mem first member)
      rw [List.cons_append, List.findIdx_cons, here, cond_false, later, List.length_cons]

/-! ### Counting -/

/-- An update of a list changes the number of elements of a kind by those that come to be of
it and those that cease to be. -/
theorem countP_add_countP (kind gained lost : α → Bool) (update : α → α) (list : List α)
    (each : ∀ item ∈ list, (kind item).toNat + (gained item).toNat =
      (kind (update item)).toNat + (lost item).toNat) :
    list.countP kind + list.countP gained =
      (list.map update).countP kind + list.countP lost := by
  induction list with
  | nil => rfl
  | cons item rest ih =>
      have first := each item (List.mem_cons_self ..)
      have later := ih fun other member => each other (List.mem_cons_of_mem item member)
      have counted : ∀ (property : α → Bool) (head : α) (tail : List α),
          (head :: tail).countP property = tail.countP property + (property head).toNat := by
        intro property head tail
        rw [List.countP_cons]
        cases property head <;> rfl
      rw [List.map_cons, counted, counted, counted, counted]
      omega

theorem countP_le_countP_modify (kind : α → Bool) (update : α → α)
    (after : ∀ item, kind (update item) = true) (position : Nat) (list : List α) :
    list.countP kind ≤ (list.modify position update).countP kind := by
  induction list generalizing position with
  | nil => exact Nat.le_of_eq (by rw [List.modify_nil])
  | cons item rest ih =>
      cases position with
      | zero =>
          rw [List.modify_zero_cons, List.countP_cons, List.countP_cons, after item]
          split <;> simp
      | succ position =>
          have later := ih position
          rw [List.modify_succ_cons, List.countP_cons, List.countP_cons]
          omega

theorem countP_lt_countP_modify (kind : α → Bool) (update : α → α) {position : Nat}
    {list : List α} {item : α} (found : list[position]? = some item)
    (before : kind item = false) (after : kind (update item) = true) :
    list.countP kind < (list.modify position update).countP kind := by
  induction list generalizing position with
  | nil => cases found
  | cons first rest ih =>
      cases position with
      | zero =>
          rw [List.getElem?_cons_zero, Option.some.injEq] at found
          rw [List.modify_zero_cons, List.countP_cons, List.countP_cons, found, before, after]
          simp
      | succ position =>
          have later := ih (by simpa using found)
          rw [List.modify_succ_cons, List.countP_cons, List.countP_cons]
          omega

/-! ### Element by element -/

theorem forall₂_update {related : α → α → Prop} (same : ∀ item, related item item)
    {update : α → α} {middle : List α} (changed : ∀ item ∈ middle, related item (update item))
    (before after : List α) :
    List.Forall₂ related (before ++ (middle ++ after))
      (before ++ (middle.map update ++ after)) := by
  have kept : ∀ list, List.Forall₂ related list list := fun list =>
    List.forall₂_same.mpr fun item _ => same item
  have updated : List.Forall₂ related middle (middle.map update) :=
    List.forall₂_map_right_iff.mpr (List.forall₂_same.mpr changed)
  exact List.rel_append (kept before) (List.rel_append updated (kept after))

end AgentNucleus.Library
