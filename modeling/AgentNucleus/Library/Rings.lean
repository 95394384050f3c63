/-
Lists that are kept in the slots of a ring.  Seen from its head, a ring is its list of
slots rotated; a slot that is so many places behind the head is that place of the view.
-/

import Mathlib.Data.List.Find
import Mathlib.Data.List.Rotate
import Mathlib.Data.Nat.ModEq
import Mathlib.Algebra.Order.Ring.Nat

set_option autoImplicit false

namespace AgentNucleus.Library

universe u

variable {α : Type u}

theorem getElem?_ring {slots : List α} {place : Nat} (head : Nat)
    (below : place < slots.length) :
    slots[(head + place) % slots.length]? = (slots.rotate head)[place]? := by
  rw [List.getElem?_rotate below, Nat.add_comm]

theorem getD_ring {slots : List α} {place : Nat} (head : Nat) (below : place < slots.length)
    (default : α) :
    slots.getD ((head + place) % slots.length) default =
      (slots.rotate head).getD place default := by
  rw [List.getD_eq_getElem?_getD, List.getD_eq_getElem?_getD, getElem?_ring head below]

/-- Places of one round are different slots. -/
theorem ring_place_inj {head first second count : Nat} (one : first < count)
    (other : second < count) (same : (head + first) % count = (head + second) % count) :
    first = second := by
  have congruent : Nat.ModEq count first second := Nat.ModEq.add_left_cancel' head same
  exact congruent.eq_of_lt_of_lt one other

theorem rotate_set (slots : List α) {place : Nat} (head : Nat) (below : place < slots.length)
    (item : α) :
    (slots.set ((head + place) % slots.length) item).rotate head =
      (slots.rotate head).set place item := by
  apply List.ext_getElem?
  intro index
  by_cases inside : index < slots.length
  · have position : (index + head) % slots.length < slots.length :=
      Nat.mod_lt _ (by omega)
    rw [List.getElem?_rotate (by rw [List.length_set]; exact inside), List.length_set]
    by_cases same : index = place
    · subst same
      rw [Nat.add_comm index head]
      rw [Nat.add_comm index head] at position
      rw [List.getElem?_set_self position,
        List.getElem?_set_self (by rw [List.length_rotate]; exact inside)]
    · have different : (head + place) % slots.length ≠ (index + head) % slots.length := by
        intro equal
        rw [Nat.add_comm index head] at equal
        exact same (ring_place_inj below inside equal).symm
      rw [List.getElem?_set_ne different, List.getElem?_set_ne (fun equal => same equal.symm),
        List.getElem?_rotate inside]
  · rw [List.getElem?_eq_none (by rw [List.length_rotate, List.length_set]; omega),
      List.getElem?_eq_none (by rw [List.length_set, List.length_rotate]; omega)]

/-- Where the head goes on, the element at the head is left out. -/
theorem take_succ_rotate {view : List α} {count : Nat} (inside : count < view.length)
    (default : α) :
    view.take (count + 1) = view.getD 0 default :: (view.rotate 1).take count := by
  cases view with
  | nil => cases inside
  | cons first rest =>
      rw [List.length_cons] at inside
      rw [List.take_succ_cons, List.rotate_cons_succ, List.rotate_zero,
        List.take_append_of_le_length (by omega)]
      rfl

/-- A loop over slots is the same loop over the places of the view. -/
theorem foldl_rotate {slotStep viewStep : List α → Nat → List α} {head count : Nat}
    (places : List Nat)
    (each : ∀ place ∈ places, ∀ slots : List α, slots.length = count →
      (slotStep slots place).length = count ∧
        (slotStep slots place).rotate head = viewStep (slots.rotate head) place)
    (slots : List α) (length : slots.length = count) :
    (places.foldl slotStep slots).length = count ∧
      (places.foldl slotStep slots).rotate head =
        places.foldl viewStep (slots.rotate head) := by
  induction places generalizing slots with
  | nil => exact ⟨length, rfl⟩
  | cons place rest ih =>
      obtain ⟨kept, same⟩ := each place (List.mem_cons_self ..) slots length
      have later := ih (fun other member => each other (List.mem_cons_of_mem place member))
        (slotStep slots place) kept
      rw [List.foldl_cons, List.foldl_cons, ← same]
      exact later

/-- The first index whose element is the one that is looked for. -/
theorem find?_range_split {count index : Nat} {read : Nat → α} [DecidableEq α] {item : α}
    (found : ((List.range count).find? fun i => decide (read i = item)) = some index) :
    ∃ before after, (List.range count).map read = before ++ item :: after ∧
      before.length = index ∧ item ∉ before := by
  obtain ⟨same, earlier, later, whole, missed⟩ := List.find?_eq_some_iff_append.mp found
  rw [decide_eq_true_eq] at same
  have length : earlier.length = index := by
    have at_index := congrArg (fun list => list[earlier.length]?) whole
    simp only [List.getElem?_append_right (Nat.le_refl _), Nat.sub_self,
      List.getElem?_cons_zero] at at_index
    obtain ⟨_, equal⟩ := List.getElem?_eq_some_iff.mp at_index
    rw [List.getElem_range] at equal
    exact equal
  refine ⟨earlier.map read, later.map read, ?_, ?_, ?_⟩
  · rw [whole, List.map_append, List.map_cons, same]
  · rw [List.length_map, length]
  · intro member
    obtain ⟨other, listed, equal⟩ := List.mem_map.mp member
    have different := missed other listed
    rw [decide_eq_true equal] at different
    cases different

/-! ### Loops of a view -/

/-- From the place on, every element takes the one behind it. -/
def closeGap (default : α) (start steps : Nat) (view : List α) : List α :=
  (List.range' start steps).foldl
    (fun view place => view.set place (view.getD (place + 1) default)) view

/-- The element at the place changes with the ones before it, one after the other. -/
def bringForward (default : α) (start : Nat) (view : List α) : List α :=
  (List.range' 1 start).reverse.foldl
    (fun view place =>
      (view.set place (view.getD (place - 1) default)).set (place - 1)
        (view.getD place default)) view

theorem set_append_cons (before after : List α) (item other : α) :
    (before ++ item :: after).set before.length other = before ++ other :: after := by
  rw [List.set_append_right _ _ (Nat.le_refl _), Nat.sub_self]
  rfl

theorem getD_append_cons (before after : List α) (item default : α) :
    (before ++ item :: after).getD before.length default = item := by
  rw [List.getD_eq_getElem?_getD, List.getElem?_append_right (Nat.le_refl _), Nat.sub_self]
  rfl

/-- The gap at an element closes; the last element moved stays behind. -/
theorem closeGap_split (default : α) (before moved after : List α) (item : α) :
    ∃ last, closeGap default before.length moved.length
        (before ++ item :: (moved ++ after)) = before ++ (moved ++ last :: after) := by
  induction moved generalizing before item with
  | nil => exact ⟨item, rfl⟩
  | cons next rest ih =>
      obtain ⟨last, later⟩ := ih (before ++ [next]) next
      refine ⟨last, ?_⟩
      have behind : (before ++ item :: (next :: rest ++ after)).getD (before.length + 1) default =
          next := by
        have shifted := getD_append_cons (before ++ [item]) (rest ++ after) next default
        rw [List.length_append, List.length_singleton, List.append_assoc] at shifted
        exact shifted
      unfold closeGap at later ⊢
      rw [List.length_append, List.length_singleton, List.append_assoc, List.append_assoc]
        at later
      rw [List.length_cons, List.range'_succ, List.foldl_cons, behind, set_append_cons]
      exact later

/-- The element comes to the front, and the others keep their order. -/
theorem bringForward_split (default : α) (before after : List α) (item : α) :
    bringForward default before.length (before ++ item :: after) =
      item :: (before ++ after) := by
  induction before using List.reverseRecOn generalizing after with
  | nil => rfl
  | append_singleton first last ih =>
      have later := ih (last :: after)
      have here : (first ++ [last] ++ item :: after).getD (first.length + 1) default = item := by
        have found := getD_append_cons (first ++ [last]) after item default
        rw [List.length_append, List.length_singleton] at found
        exact found
      have ahead : (first ++ [last] ++ item :: after).getD first.length default = last := by
        rw [List.append_assoc]
        exact getD_append_cons first (item :: after) last default
      have swapped : ((first ++ [last] ++ item :: after).set (first.length + 1) last).set
          first.length item = first ++ item :: last :: after := by
        have second := set_append_cons (first ++ [last]) after item last
        rw [List.length_append, List.length_singleton] at second
        rw [second, List.append_assoc]
        exact set_append_cons first (last :: after) last item
      unfold bringForward at later ⊢
      rw [List.length_append, List.length_singleton, List.range'_1_concat, List.reverse_append,
        List.reverse_singleton, List.singleton_append, List.foldl_cons, Nat.add_comm 1,
        Nat.add_sub_cancel, here, ahead, swapped, later, List.append_assoc]
      rfl

end AgentNucleus.Library
