/-
Hash maps and hash sets as association lists without repeated keys.  A hash
table fixes neither the order of its entries nor a relation between that order
and its history, so every traversal takes its order as an argument.
-/

import Mathlib.Data.List.AList
import Mathlib.Algebra.Order.BigOperators.Group.List
import Mathlib.Algebra.Order.Ring.Nat

set_option autoImplicit false

namespace AgentNucleus.Library

universe u v

/-- A hash map: no key occurs twice. -/
abbrev UnorderedMap (κ : Type u) (ν : Type v) : Type (max u v) :=
  AList (fun _ : κ => ν)

/-- A hash set is a hash map without payload. -/
abbrev UnorderedSet (κ : Type u) : Type u :=
  UnorderedMap κ Unit

/-- The order in which one traversal visits the entries of a hash table.
Nothing is known about it except that it visits every entry once. -/
structure IterationOrder (κ : Type u) where
  visit : List κ → List κ
  perm : ∀ items, (visit items).Perm items

namespace IterationOrder

variable {κ : Type u}

/-- The order of the association list itself. -/
def asStored : IterationOrder κ :=
  { visit := id
    perm := fun items => List.Perm.refl items }

/-- A traversal that comes to one key first, if it is there. -/
def startingAt [DecidableEq κ] (key : κ) : IterationOrder κ :=
  { visit := fun items => if key ∈ items then key :: items.erase key else items
    perm := by
      intro items
      by_cases member : key ∈ items
      · rw [if_pos member]
        exact (List.perm_cons_erase member).symm
      · rw [if_neg member] }

@[simp] theorem mem_visit (order : IterationOrder κ) (items : List κ) (key : κ) :
    key ∈ order.visit items ↔ key ∈ items :=
  (order.perm items).mem_iff

theorem nodup_visit (order : IterationOrder κ) (items : List κ) (distinct : items.Nodup) :
    (order.visit items).Nodup :=
  (order.perm items).nodup_iff.mpr distinct

end IterationOrder

namespace UnorderedSet

variable {κ : Type u} [DecidableEq κ]

/-- `unordered_set::insert`. -/
def add (items : UnorderedSet κ) (key : κ) : UnorderedSet κ :=
  AList.insert key () items

/-- `unordered_set::erase`. -/
def remove (items : UnorderedSet κ) (key : κ) : UnorderedSet κ :=
  AList.erase key items

@[simp] theorem mem_add (items : UnorderedSet κ) (key other : κ) :
    other ∈ add items key ↔ other = key ∨ other ∈ items :=
  AList.mem_insert items

@[simp] theorem mem_remove (items : UnorderedSet κ) (key other : κ) :
    other ∈ remove items key ↔ other ≠ key ∧ other ∈ items :=
  AList.mem_erase

theorem length_add_fresh (items : UnorderedSet κ) (key : κ) (absent : key ∉ items) :
    (add items key).keys.length = items.keys.length + 1 := by
  have untouched : items.keys.erase key = items.keys :=
    List.erase_of_not_mem fun member => absent (AList.mem_keys.mpr member)
  unfold add
  rw [AList.keys_insert, untouched, List.length_cons]

theorem length_remove (items : UnorderedSet κ) (key : κ) (member : key ∈ items) :
    (remove items key).keys.length + 1 = items.keys.length := by
  have listed : key ∈ items.keys := AList.mem_keys.mp member
  have positive := List.length_pos_of_mem listed
  unfold remove
  rw [AList.keys_erase, List.length_erase_of_mem listed]
  omega

end UnorderedSet

namespace UnorderedMap

variable {κ : Type u} {ν : Type v} [DecidableEq κ]

/-! ### Lookup -/

theorem mem_iff_lookup (map : UnorderedMap κ ν) (key : κ) :
    key ∈ map ↔ ∃ value, map.lookup key = some value := by
  rw [← AList.lookup_isSome, Option.isSome_iff_exists]

omit [DecidableEq κ] in
theorem eq_empty_of_keys {map : UnorderedMap κ ν} (nothing : map.keys = []) : map = ∅ :=
  AList.ext (List.map_eq_nil_iff.mp nothing)

theorem exists_of_ne_empty {map : UnorderedMap κ ν} (something : map ≠ ∅) :
    ∃ key value, map.lookup key = some value := by
  cases keys : map.keys with
  | nil => exact absurd (eq_empty_of_keys keys) something
  | cons key rest =>
      have member : key ∈ map.keys := by
        rw [keys]
        exact List.mem_cons_self ..
      obtain ⟨value, found⟩ := (mem_iff_lookup map key).mp (AList.mem_keys.mpr member)
      exact ⟨key, value, found⟩

theorem lookup_insert_if (map : UnorderedMap κ ν) (key other : κ) (value : ν) :
    (map.insert key value).lookup other =
      if other = key then some value else map.lookup other := by
  by_cases same : other = key
  · subst same
    rw [if_pos rfl]
    exact AList.lookup_insert map
  · rw [if_neg same]
    exact AList.lookup_insert_ne same

theorem erase_missing (map : UnorderedMap κ ν) (key : κ) (missing : map.lookup key = none) :
    map.erase key = map := by
  have absent : key ∉ map := AList.lookup_eq_none.mp missing
  apply AList.ext
  exact List.kerase_of_notMem_keys absent

/-- `unordered_map::contains`. -/
def contains (map : UnorderedMap κ ν) (key : κ) : Bool :=
  (map.lookup key).isSome

theorem contains_iff (map : UnorderedMap κ ν) (key : κ) :
    map.contains key = true ↔ key ∈ map :=
  AList.lookup_isSome

/-- `unordered_map::emplace`: an existing entry stays. -/
def emplace (map : UnorderedMap κ ν) (key : κ) (value : ν) : UnorderedMap κ ν :=
  if map.contains key then map else map.insert key value

theorem emplace_fresh (map : UnorderedMap κ ν) (key : κ) (value : ν)
    (absent : map.lookup key = none) : map.emplace key value = map.insert key value := by
  unfold emplace contains
  rw [absent]
  rfl

theorem emplace_present (map : UnorderedMap κ ν) (key : κ) (value held : ν)
    (present : map.lookup key = some held) : map.emplace key value = map := by
  unfold emplace contains
  rw [present]
  rfl

theorem lookup_emplace_fresh (map : UnorderedMap κ ν) (key other : κ) (value : ν)
    (absent : map.lookup key = none) :
    (map.emplace key value).lookup other =
      if other = key then some value else map.lookup other := by
  rw [emplace_fresh map key value absent]
  exact lookup_insert_if map key other value

theorem mem_emplace (map : UnorderedMap κ ν) (key other : κ) (value : ν) :
    other ∈ map.emplace key value ↔ other = key ∨ other ∈ map := by
  unfold emplace
  by_cases present : map.contains key = true
  · rw [if_pos present]
    constructor
    · exact Or.inr
    · intro either
      rcases either with same | member
      · rw [same]
        exact (contains_iff map key).mp present
      · exact member
  · rw [if_neg present]
    exact AList.mem_insert map

/-! ### Totals over all entries -/

/-- The sum of a weight over the entries of the map. -/
def total (weight : κ → ν → Nat) (map : UnorderedMap κ ν) : Nat :=
  (map.entries.map fun entry => weight entry.1 entry.2).sum

omit [DecidableEq κ] in
/-- Every entry weighs one. -/
theorem total_one (map : UnorderedMap κ ν) : total (fun _ _ => 1) map = map.keys.length := by
  unfold total AList.keys List.keys
  rw [List.length_map]
  induction map.entries with
  | nil => rfl
  | cons head rest ih =>
      rw [List.map_cons, List.sum_cons, List.length_cons, ih, Nat.add_comm]

omit [DecidableEq κ] in
@[simp] theorem total_empty (weight : κ → ν → Nat) :
    total weight (∅ : UnorderedMap κ ν) = 0 := rfl

theorem total_insert_fresh (weight : κ → ν → Nat) (map : UnorderedMap κ ν)
    (key : κ) (value : ν) (fresh : map.lookup key = none) :
    total weight (map.insert key value) = weight key value + total weight map := by
  have absent : key ∉ map := AList.lookup_eq_none.mp fresh
  simp only [total, AList.entries_insert_of_notMem absent, List.map_cons, List.sum_cons]

private theorem total_kerase (weight : κ → ν → Nat) (key : κ) (value : ν)
    (entries : List (Sigma fun _ : κ => ν)) (present : entries.dlookup key = some value) :
    ((entries.kerase key).map fun entry => weight entry.1 entry.2).sum + weight key value =
      (entries.map fun entry => weight entry.1 entry.2).sum := by
  induction entries with
  | nil => cases present
  | cons head rest ih =>
      by_cases same : key = head.1
      · obtain ⟨headKey, headValue⟩ := head
        subst same
        rw [List.dlookup_cons_eq] at present
        cases present
        have dropped : List.kerase key (⟨key, value⟩ :: rest) = rest :=
          List.kerase_cons_eq rfl
        rw [dropped, List.map_cons, List.sum_cons, Nat.add_comm]
      · rw [List.dlookup_cons_ne _ _ same] at present
        have restTotal := ih present
        rw [List.kerase_cons_ne same]
        simp only [List.map_cons, List.sum_cons]
        omega

theorem total_erase (weight : κ → ν → Nat) (map : UnorderedMap κ ν)
    (key : κ) (value : ν) (present : map.lookup key = some value) :
    total weight (map.erase key) + weight key value = total weight map :=
  total_kerase weight key value map.entries present

/-- Writing an entry replaces whatever the key had. -/
theorem total_insert (weight : κ → ν → Nat) (map : UnorderedMap κ ν) (key : κ) (value : ν) :
    total weight (map.insert key value) = weight key value + total weight (map.erase key) := by
  simp only [total, AList.entries_insert, List.map_cons, List.sum_cons]
  rfl

/-- Overwriting one entry moves the total by the difference of the weights. -/
theorem total_insert_over (weight : κ → ν → Nat) (map : UnorderedMap κ ν)
    (key : κ) (old new : ν) (present : map.lookup key = some old) :
    total weight (map.insert key new) + weight key old =
      total weight map + weight key new := by
  have split := total_insert weight map key new
  have erased := total_erase weight map key old present
  omega

/-- Weights that agree on every entry have the same total. -/
theorem total_congr (left right : κ → ν → Nat) (map : UnorderedMap κ ν)
    (same : ∀ key value, map.lookup key = some value → left key value = right key value) :
    total left map = total right map := by
  unfold total
  congr 1
  apply List.map_congr_left
  intro entry member
  exact same entry.1 entry.2 (AList.mem_lookup_iff.mpr member)

/-- Erasing a key leaves the weight of all the others. -/
theorem total_erase_others (weight : κ → ν → Nat) (map : UnorderedMap κ ν) (key : κ) :
    total weight (map.erase key) =
      total (fun item value => if item = key then 0 else weight item value) map := by
  have outside : ∀ item value, (map.erase key).lookup item = some value → item ≠ key := by
    intro item value present same
    rw [same, AList.lookup_erase] at present
    cases present
  have kept := total_congr weight (fun item value => if item = key then 0 else weight item value)
    (map.erase key) (fun item value present => (if_neg (outside item value present)).symm)
  rw [kept]
  cases found : map.lookup key with
  | none => rw [erase_missing map key found]
  | some value =>
      have erased := total_erase
        (fun item value => if item = key then 0 else weight item value) map key value found
      rw [← erased, if_pos rfl, Nat.add_zero]

theorem total_le_total (left right : κ → ν → Nat) (map : UnorderedMap κ ν)
    (below : ∀ key value, map.lookup key = some value → left key value ≤ right key value) :
    total left map ≤ total right map := by
  unfold total
  apply List.sum_le_sum
  intro entry member
  exact below entry.1 entry.2 (AList.mem_lookup_iff.mpr member)

theorem weight_le_total (weight : κ → ν → Nat) (map : UnorderedMap κ ν)
    (key : κ) (value : ν) (present : map.lookup key = some value) :
    weight key value ≤ total weight map := by
  have erased := total_erase weight map key value present
  omega

/-- A total is zero when every entry weighs nothing. -/
theorem total_eq_zero (weight : κ → ν → Nat) (map : UnorderedMap κ ν)
    (zero : ∀ key value, map.lookup key = some value → weight key value = 0) :
    total weight map = 0 := by
  rw [total_congr weight (fun _ _ => 0) map zero]
  simp [total]

/-- The weight of the entry of a key, if there is one. -/
def weightAt (weight : κ → ν → Nat) (map : UnorderedMap κ ν) (key : κ) : Nat :=
  (map.lookup key).elim 0 (weight key)

/-- The total is the sum that a traversal collects, whatever its order. -/
theorem total_visit (weight : κ → ν → Nat) (map : UnorderedMap κ ν)
    (order : IterationOrder κ) :
    ((order.visit map.keys).map (weightAt weight map)).sum = total weight map := by
  have arranged : ((order.visit map.keys).map (weightAt weight map)).sum =
      (map.keys.map (weightAt weight map)).sum :=
    ((order.perm map.keys).map (weightAt weight map)).sum_eq
  rw [arranged]
  unfold AList.keys List.keys total
  rw [List.map_map]
  congr 1
  apply List.map_congr_left
  intro entry member
  have present : map.lookup entry.1 = some entry.2 := AList.mem_lookup_iff.mpr member
  change weightAt weight map entry.1 = weight entry.1 entry.2
  unfold weightAt
  rw [present]
  rfl

/-- Totals agree as soon as every key weighs the same on both sides; a missing key
weighs nothing. -/
theorem total_eq_of_weightAt (left right : UnorderedMap κ ν) (weight other : κ → ν → Nat)
    (same : ∀ key, weightAt weight left key = weightAt other right key) :
    total weight left = total other right := by
  induction left using AList.insertRec generalizing right with
  | H0 =>
      refine (total_eq_zero other right fun key value present => ?_).symm
      have here := same key
      unfold weightAt at here
      rw [present] at here
      exact here.symm
  | IH key value rest absent ih =>
      have missing : rest.lookup key = none := AList.lookup_eq_none.mpr absent
      rw [total_insert_fresh weight rest key value missing]
      have atKey : weight key value = weightAt other right key := by
        rw [← same key]
        unfold weightAt
        rw [AList.lookup_insert]
        rfl
      have elsewhere : ∀ item, item ≠ key →
          weightAt weight rest item = weightAt other right item := by
        intro item different
        rw [← same item]
        unfold weightAt
        rw [AList.lookup_insert_ne different]
      cases found : right.lookup key with
      | none =>
          have nothing : weight key value = 0 := by
            rw [atKey]
            unfold weightAt
            rw [found]
            rfl
          rw [nothing, Nat.zero_add]
          refine ih right fun item => ?_
          by_cases equal : item = key
          · subst equal
            unfold weightAt
            rw [missing, found]
            rfl
          · exact elsewhere item equal
      | some held =>
          have erased := total_erase other right key held found
          have paired : weight key value = other key held := by
            rw [atKey]
            unfold weightAt
            rw [found]
            rfl
          have smaller : total weight rest = total other (right.erase key) := by
            refine ih (right.erase key) fun item => ?_
            by_cases equal : item = key
            · subst equal
              unfold weightAt
              rw [missing, AList.lookup_erase]
              rfl
            · rw [elsewhere item equal]
              unfold weightAt
              rw [AList.lookup_erase_ne equal]
          omega

end UnorderedMap

end AgentNucleus.Library
