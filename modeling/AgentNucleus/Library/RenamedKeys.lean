/-
Hash maps whose keys have other names.  A renaming is a permutation of the keys; it
carries over to the entries, to the order of a traversal, and to whatever a search in
that order finds.
-/

import AgentNucleus.Library.UnorderedMap
import Mathlib.Logic.Equiv.Basic

set_option autoImplicit false

namespace AgentNucleus.Library

universe u v w

/-! ### Orders -/

namespace IterationOrder

variable {κ : Type u}

/-- The order in which the renamed keys are visited. -/
def renamed (names : Equiv.Perm κ) (order : IterationOrder κ) : IterationOrder κ where
  visit := fun items => (order.visit (items.map names.symm)).map names
  perm := by
    intro items
    have visited := (order.perm (items.map names.symm)).map names
    rw [List.map_map, names.self_comp_symm, List.map_id] at visited
    exact visited

theorem visit_renamed (names : Equiv.Perm κ) (order : IterationOrder κ) (items : List κ) :
    (order.renamed names).visit (items.map names) = (order.visit items).map names := by
  change (order.visit ((items.map names).map names.symm)).map names = _
  rw [List.map_map, names.symm_comp_self, List.map_id]

end IterationOrder

/-! ### Maps -/

namespace UnorderedMap

variable {κ : Type u} [DecidableEq κ] {ν : Type v} {μ : Type w}

/-- The second map has the entries of the first under their new names, in the same
order, with related values. -/
structure Renamed (names : Equiv.Perm κ) (values : ν → μ → Prop) (first : UnorderedMap κ ν)
    (second : UnorderedMap κ μ) : Prop where
  keys : second.keys = first.keys.map names
  lookup : ∀ key, Option.Rel values (first.lookup key) (second.lookup (names key))

namespace Renamed

variable {names : Equiv.Perm κ} {values : ν → μ → Prop} {first : UnorderedMap κ ν}
  {second : UnorderedMap κ μ}

theorem empty (names : Equiv.Perm κ) (values : ν → μ → Prop) :
    Renamed names values (∅ : UnorderedMap κ ν) (∅ : UnorderedMap κ μ) :=
  ⟨rfl, fun _ => Option.Rel.none⟩

theorem insert (renamed : Renamed names values first second) (key : κ) {value : ν} {other : μ}
    (related : values value other) :
    Renamed names values (AList.insert key value first)
      (AList.insert (names key) other second) := by
  constructor
  · rw [AList.keys_insert, AList.keys_insert, renamed.keys, List.map_cons,
      List.map_erase names.injective]
  · intro item
    rw [lookup_insert_if, lookup_insert_if]
    by_cases same : item = key
    · rw [if_pos same, if_pos (congrArg names same)]
      exact Option.Rel.some related
    · rw [if_neg same, if_neg fun equal => same (names.injective equal)]
      exact renamed.lookup item

theorem erase (renamed : Renamed names values first second) (key : κ) :
    Renamed names values (AList.erase key first) (AList.erase (names key) second) := by
  constructor
  · rw [AList.keys_erase, AList.keys_erase, renamed.keys, List.map_erase names.injective]
  · intro item
    by_cases same : item = key
    · rw [same, AList.lookup_erase, AList.lookup_erase]
      exact Option.Rel.none
    · rw [AList.lookup_erase_ne same,
        AList.lookup_erase_ne fun equal => same (names.injective equal)]
      exact renamed.lookup item

theorem missing (renamed : Renamed names values first second) {key : κ}
    (absent : first.lookup key = none) : second.lookup (names key) = none := by
  have related := renamed.lookup key
  rw [absent] at related
  generalize second.lookup (names key) = found at related
  cases related
  rfl

theorem found (renamed : Renamed names values first second) {key : κ} {value : ν}
    (present : first.lookup key = some value) :
    ∃ other, second.lookup (names key) = some other ∧ values value other := by
  have related := renamed.lookup key
  rw [present] at related
  generalize second.lookup (names key) = found at related
  cases related with
  | some holds => exact ⟨_, rfl, holds⟩

theorem contains (renamed : Renamed names values first second) (key : κ) :
    second.contains (names key) = first.contains key := by
  unfold UnorderedMap.contains
  cases present : first.lookup key with
  | none =>
      rw [renamed.missing present]
      rfl
  | some value =>
      obtain ⟨other, there, _⟩ := renamed.found present
      rw [there]
      rfl

theorem emplace (renamed : Renamed names values first second) (key : κ) {value : ν} {other : μ}
    (related : values value other) :
    Renamed names values (first.emplace key value) (second.emplace (names key) other) := by
  unfold UnorderedMap.emplace
  rw [renamed.contains]
  by_cases present : first.contains key = true
  · rw [if_pos present, if_pos present]
    exact renamed
  · rw [if_neg present, if_neg present]
    exact renamed.insert key related

theorem length (renamed : Renamed names values first second) :
    second.keys.length = first.keys.length := by
  rw [renamed.keys, List.length_map]

/-- With equal values the lookups are equal. -/
theorem lookup_eq {first second : UnorderedMap κ ν} (renamed : Renamed names Eq first second)
    (key : κ) : second.lookup (names key) = first.lookup key := by
  cases present : first.lookup key with
  | none => exact renamed.missing present
  | some value =>
      obtain ⟨_, there, rfl⟩ := renamed.found present
      exact there

end Renamed

end UnorderedMap

/-! ### Lists -/

/-- A rearrangement of a list without repetitions comes from a permutation that fixes
everything outside of it. -/
theorem exists_names_of_perm {α : Type u} [DecidableEq α] {first second : List α}
    (arranged : first.Perm second) (distinct : first.Nodup) :
    ∃ names : Equiv.Perm α,
      second = first.map names ∧ ∀ item, item ∉ first → names item = item := by
  induction arranged with
  | nil => exact ⟨Equiv.refl α, rfl, fun _ _ => rfl⟩
  | @cons head rest rest' _ ih =>
      obtain ⟨fresh, distinctRest⟩ := List.nodup_cons.mp distinct
      obtain ⟨names, same, fixed⟩ := ih distinctRest
      refine ⟨names, ?_, ?_⟩
      · rw [List.map_cons, fixed head fresh, ← same]
      · intro item outside
        exact fixed item fun member => outside (List.mem_cons_of_mem head member)
  | swap left right rest =>
      have apart := List.nodup_cons.mp distinct
      refine ⟨Equiv.swap left right, ?_, ?_⟩
      · have untouched : rest.map (Equiv.swap left right) = rest.map id := by
          apply List.map_congr_left
          intro item member
          apply Equiv.swap_apply_of_ne_of_ne
          · intro same
            exact (List.nodup_cons.mp apart.2).1 (same ▸ member)
          · intro same
            exact apart.1 (List.mem_cons_of_mem left (same ▸ member))
        rw [List.map_cons, List.map_cons, Equiv.swap_apply_left, Equiv.swap_apply_right,
          untouched, List.map_id]
      · intro item outside
        apply Equiv.swap_apply_of_ne_of_ne
        · intro same
          exact outside (same ▸ List.mem_cons_of_mem right (List.mem_cons_self ..))
        · intro same
          exact outside (same ▸ List.mem_cons_self ..)
  | @trans first middle last earlier _ ihEarlier ihLater =>
      obtain ⟨names, same, fixed⟩ := ihEarlier distinct
      obtain ⟨others, same', fixed'⟩ := ihLater (earlier.nodup_iff.mp distinct)
      refine ⟨names.trans others, ?_, ?_⟩
      · rw [same', same, List.map_map]
        rfl
      · intro item outside
        change others (names item) = item
        rw [fixed item outside]
        exact fixed' item fun member => outside (earlier.mem_iff.mpr member)

end AgentNucleus.Library
