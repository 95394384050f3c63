/-
A cache that replaces the least recently used item, as a list with the most
recently used item in front.  It holds the first part of the items in the order of
their last accesses.
-/

import Mathlib.Data.List.Dedup
import Mathlib.Data.List.Induction

set_option autoImplicit false

namespace AgentNucleus.Library

universe u

structure LruCache (α : Type u) where
  items : List α := []
  evictions : Nat := 0

/-- The distinct items of a list of accesses, the most recently accessed one first. -/
def recent {α : Type u} [DecidableEq α] (accesses : List α) : List α :=
  accesses.dedup.reverse

section Recency

variable {α : Type u} [DecidableEq α]

theorem nodup_recent (accesses : List α) : (recent accesses).Nodup :=
  List.nodup_reverse.mpr (List.nodup_dedup accesses)

private theorem dedup_snoc (accesses : List α) (item : α) :
    (accesses ++ [item]).dedup = accesses.dedup.erase item ++ [item] := by
  induction accesses with
  | nil => rfl
  | cons head rest ih =>
      rw [List.cons_append]
      by_cases same : head = item
      · subst same
        rw [List.dedup_cons_of_mem (List.mem_append_right _ (List.mem_singleton_self head)), ih]
        by_cases again : head ∈ rest
        · rw [List.dedup_cons_of_mem again]
        · rw [List.dedup_cons_of_notMem again, List.erase_cons_head,
            List.erase_of_not_mem (fun found => again (List.mem_dedup.mp found))]
      · by_cases again : head ∈ rest
        · rw [List.dedup_cons_of_mem (List.mem_append_left _ again), ih,
            List.dedup_cons_of_mem again]
        · have fresh : head ∉ rest ++ [item] := by
            intro found
            rcases List.mem_append.mp found with old | last
            · exact again old
            · exact same (List.mem_singleton.mp last)
          rw [List.dedup_cons_of_notMem fresh, ih, List.dedup_cons_of_notMem again,
            List.erase_cons_tail (fun equal => same (eq_of_beq equal)), List.cons_append]

/-- An access moves its item to the front. -/
theorem recent_snoc (accesses : List α) (item : α) :
    recent (accesses ++ [item]) = item :: (recent accesses).erase item := by
  unfold recent
  rw [dedup_snoc, List.reverse_append, List.reverse_singleton, List.singleton_append]
  have distinct := List.nodup_dedup accesses
  rw [distinct.erase_eq_filter, (List.nodup_reverse.mpr distinct).erase_eq_filter,
    List.filter_reverse]

private theorem take_erase_of_mem (items : List α) (item : α) (count : Nat)
    (member : item ∈ items.take (count + 1)) :
    (items.take (count + 1)).erase item = (items.erase item).take count := by
  induction items generalizing count with
  | nil => cases member
  | cons head rest ih =>
      rw [List.take_succ_cons] at member ⊢
      by_cases same : head = item
      · subst same
        rw [List.erase_cons_head, List.erase_cons_head]
      · have later := (List.mem_cons.mp member).resolve_left fun equal => same equal.symm
        have different : ¬(head == item) = true := fun equal => same (eq_of_beq equal)
        cases count with
        | zero => cases later
        | succ count =>
            rw [List.erase_cons_tail different, List.erase_cons_tail different,
              List.take_succ_cons, ih count later]

private theorem take_erase_of_notMem (items : List α) (item : α) (count : Nat)
    (absent : item ∉ items.take count) :
    (items.erase item).take count = items.take count := by
  induction items generalizing count with
  | nil => rfl
  | cons head rest ih =>
      cases count with
      | zero => rw [List.take_zero, List.take_zero]
      | succ count =>
          rw [List.take_succ_cons, List.mem_cons, not_or] at absent
          obtain ⟨different, later⟩ := absent
          rw [List.erase_cons_tail (fun equal => different (eq_of_beq equal).symm),
            List.take_succ_cons, List.take_succ_cons, ih count later]

end Recency

namespace LruCache

variable {α : Type u} [DecidableEq α]

/-- A hit moves the item to the front; a miss puts it there, and a full cache loses its
last item. -/
def access (capacity : Nat) (cache : LruCache α) (item : α) : LruCache α :=
  if item ∈ cache.items then { cache with items := item :: cache.items.erase item }
  else if cache.items.length < capacity then { cache with items := item :: cache.items }
  else { items := item :: cache.items.dropLast, evictions := cache.evictions + 1 }

theorem access_hit (capacity : Nat) {cache : LruCache α} {item : α}
    (hit : item ∈ cache.items) :
    access capacity cache item = { cache with items := item :: cache.items.erase item } :=
  if_pos hit

theorem access_room {capacity : Nat} {cache : LruCache α} {item : α}
    (miss : item ∉ cache.items) (room : cache.items.length < capacity) :
    access capacity cache item = { cache with items := item :: cache.items } := by
  unfold access
  rw [if_neg miss, if_pos room]

theorem access_full {capacity : Nat} {cache : LruCache α} {item : α}
    (miss : item ∉ cache.items) (full : capacity ≤ cache.items.length) :
    access capacity cache item =
      { items := item :: cache.items.dropLast, evictions := cache.evictions + 1 } := by
  unfold access
  rw [if_neg miss, if_neg (Nat.not_lt.mpr full)]

theorem mem_access_hit (capacity : Nat) {cache : LruCache α} {item : α}
    (hit : item ∈ cache.items) (other : α) :
    other ∈ (access capacity cache item).items ↔ other ∈ cache.items := by
  rw [access_hit capacity hit]
  exact (List.perm_cons_erase hit).mem_iff.symm

theorem mem_access_room {capacity : Nat} {cache : LruCache α} {item : α}
    (miss : item ∉ cache.items) (room : cache.items.length < capacity) (other : α) :
    other ∈ (access capacity cache item).items ↔ other = item ∨ other ∈ cache.items := by
  rw [access_room miss room]
  exact List.mem_cons

/-- A full cache loses its last item and no other. -/
theorem mem_access_full {capacity : Nat} {cache : LruCache α} {item least : α}
    (miss : item ∉ cache.items) (full : capacity ≤ cache.items.length)
    (distinct : cache.items.Nodup) (last : cache.items.getLast? = some least) (other : α) :
    other ∈ (access capacity cache item).items ↔
      other = item ∨ (other ∈ cache.items ∧ other ≠ least) := by
  rw [access_full miss full]
  change other ∈ item :: cache.items.dropLast ↔ _
  obtain ⟨rest, whole⟩ := List.getLast?_eq_some_iff.mp last
  rw [whole] at distinct ⊢
  have absent : least ∉ rest := fun found =>
    (List.nodup_append.mp distinct).2.2 least found least (List.mem_singleton_self least) rfl
  rw [List.dropLast_concat, List.mem_cons, List.mem_append, List.mem_singleton]
  constructor
  · intro found
    rcases found with same | kept
    · exact Or.inl same
    · exact Or.inr ⟨Or.inl kept, fun same => absent (same ▸ kept)⟩
  · intro found
    rcases found with same | ⟨kept | same, different⟩
    · exact Or.inl same
    · exact Or.inr kept
    · exact absurd same different

def run (capacity : Nat) (accesses : List α) : LruCache α :=
  accesses.foldl (access capacity) {}

theorem run_snoc (capacity : Nat) (accesses : List α) (item : α) :
    run capacity (accesses ++ [item]) = access capacity (run capacity accesses) item :=
  List.foldl_append

/-- The cache holds the most recently accessed items, as many as it has room for. -/
theorem run_items (capacity : Nat) (accesses : List α) :
    (run (capacity + 1) accesses).items = (recent accesses).take (capacity + 1) := by
  induction accesses using List.reverseRecOn with
  | nil => rfl
  | append_singleton accesses item ih =>
      rw [run_snoc, recent_snoc, List.take_succ_cons]
      unfold access
      by_cases hit : item ∈ (run (capacity + 1) accesses).items
      · rw [if_pos hit]
        change item :: (run (capacity + 1) accesses).items.erase item = _
        rw [ih] at hit ⊢
        rw [take_erase_of_mem _ item capacity hit]
      · rw [if_neg hit]
        rw [ih] at hit ⊢
        have before : item ∉ (recent accesses).take capacity := fun found =>
          hit (List.take_subset_take_left _ (Nat.le_succ capacity) found)
        by_cases room : ((recent accesses).take (capacity + 1)).length < capacity + 1
        · rw [if_pos room]
          have few : (recent accesses).length ≤ capacity := by
            rw [List.length_take] at room
            omega
          rw [take_erase_of_notMem _ item capacity before, List.take_of_length_le few,
            List.take_of_length_le (Nat.le_succ_of_le few)]
        · rw [if_neg room]
          change item :: ((recent accesses).take (capacity + 1)).dropLast = _
          have full : capacity + 1 ≤ (recent accesses).length := by
            rw [List.length_take] at room
            omega
          rw [take_erase_of_notMem _ item capacity before, List.dropLast_eq_take,
            List.length_take, Nat.min_eq_left full, Nat.add_sub_cancel, List.take_take,
            Nat.min_eq_left (Nat.le_succ capacity)]

end LruCache

end AgentNucleus.Library
