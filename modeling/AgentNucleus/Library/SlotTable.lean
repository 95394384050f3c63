/-
Tables of a fixed number of slots.  An entry that is in use has an id; ids are given out
in increasing order, so that no two entries in use have the same one.
-/

import Mathlib.Algebra.Order.Ring.Nat
import Mathlib.Data.List.Count

set_option autoImplicit false

namespace AgentNucleus.Library

universe u

variable {α : Type u} {used : α → Bool} {id : α → UInt64}

/-- The ids in use are distinct, and smaller than the next one. -/
structure Numbered (used : α → Bool) (id : α → UInt64) (slots : List α) (next : UInt64) :
    Prop where
  below : ∀ (slot : Nat) (entry : α), slots[slot]? = some entry → used entry = true →
    id entry < next
  distinct : ∀ (slot other : Nat) (entry entry' : α), slots[slot]? = some entry →
    slots[other]? = some entry' → used entry = true → used entry' = true →
      id entry = id entry' → slot = other

theorem getElem?_set_cases {slots : List α} {slot other : Nat} {entry found : α}
    (present : (slots.set slot entry)[other]? = some found) :
    (other = slot ∧ found = entry) ∨ (other ≠ slot ∧ slots[other]? = some found) := by
  rw [List.getElem?_set] at present
  by_cases same : slot = other
  · rw [if_pos same] at present
    split at present
    · cases present
      exact .inl ⟨same.symm, rfl⟩
    · cases present
  · rw [if_neg same] at present
    exact .inr ⟨fun equal => same equal.symm, present⟩

/-- An empty table. -/
theorem Numbered.unused {slots : List α} (next : UInt64)
    (nobody : ∀ entry ∈ slots, used entry = false) : Numbered used id slots next where
  below := fun _ entry present isUsed => by
    cases (nobody entry (List.mem_of_getElem? present)).symm.trans isUsed
  distinct := fun _ _ entry _ present _ isUsed _ _ => by
    cases (nobody entry (List.mem_of_getElem? present)).symm.trans isUsed

/-- A slot is taken under the next id. -/
theorem Numbered.claim {slots : List α} {next : UInt64} (numbered : Numbered used id slots next)
    (slot : Nat) (entry : α) (named : id entry = next) (room : next.toNat + 1 < 2 ^ 64) :
    Numbered used id (slots.set slot entry) (next + 1) := by
  have larger : (next + 1).toNat = next.toNat + 1 := by
    rw [UInt64.toNat_add]
    exact Nat.mod_eq_of_lt room
  have older : ∀ {other : Nat} {found : α}, slots[other]? = some found → used found = true →
      (id found).toNat < next.toNat := fun present isUsed =>
    UInt64.lt_iff_toNat_lt.mp (numbered.below _ _ present isUsed)
  constructor
  · intro other found present isUsed
    rw [UInt64.lt_iff_toNat_lt, larger]
    rcases getElem?_set_cases present with ⟨-, rfl⟩ | ⟨-, before⟩
    · rw [named]
      omega
    · have := older before isUsed
      omega
  · intro first second entry' entry'' found found' isUsed isUsed' same
    rcases getElem?_set_cases found with ⟨rfl, rfl⟩ | ⟨_, before⟩
    · rcases getElem?_set_cases found' with ⟨rfl, rfl⟩ | ⟨_, before'⟩
      · rfl
      · have less := older before' isUsed'
        rw [← same, named] at less
        omega
    · rcases getElem?_set_cases found' with ⟨rfl, rfl⟩ | ⟨_, before'⟩
      · have less := older before isUsed
        rw [same, named] at less
        omega
      · exact numbered.distinct _ _ _ _ before before' isUsed isUsed' same

/-- A change of one entry that does not take it into use and does not rename it. -/
theorem Numbered.change {slots : List α} {next : UInt64} (numbered : Numbered used id slots next)
    (slot : Nat) (change : α → α)
    (keeps : ∀ entry, used (change entry) = true →
      used entry = true ∧ id (change entry) = id entry) :
    Numbered used id (slots.modify slot change) next := by
  have before : ∀ {other : Nat} {found : α}, (slots.modify slot change)[other]? = some found →
      used found = true → ∃ entry, slots[other]? = some entry ∧ used entry = true ∧
        id found = id entry := by
    intro other found present isUsed
    rw [List.getElem?_modify] at present
    obtain ⟨entry, there, same⟩ := Option.map_eq_some_iff.mp present
    subst same
    split at isUsed
    · next equal =>
        obtain ⟨wasUsed, named⟩ := keeps entry isUsed
        exact ⟨entry, there, wasUsed, by rw [if_pos equal]; exact named⟩
    · next different => exact ⟨entry, there, isUsed, by rw [if_neg different]⟩
  constructor
  · intro other found present isUsed
    obtain ⟨entry, there, wasUsed, named⟩ := before present isUsed
    rw [named]
    exact numbered.below other entry there wasUsed
  · intro first second found found' present present' isUsed isUsed' same
    obtain ⟨entry, there, wasUsed, named⟩ := before present isUsed
    obtain ⟨entry', there', wasUsed', named'⟩ := before present' isUsed'
    rw [named, named'] at same
    exact numbered.distinct first second entry entry' there there' wasUsed wasUsed' same

/-- The same for an entry that is written. -/
theorem Numbered.replace {slots : List α} {next : UInt64}
    (numbered : Numbered used id slots next) {slot : Nat} {old entry : α}
    (present : slots[slot]? = some old)
    (keeps : used entry = true → used old = true ∧ id entry = id old) :
    Numbered used id (slots.set slot entry) next := by
  have before : ∀ {other : Nat} {found : α}, (slots.set slot entry)[other]? = some found →
      used found = true → ∃ earlier, slots[other]? = some earlier ∧ used earlier = true ∧
        id found = id earlier := by
    intro other found there isUsed
    rcases getElem?_set_cases there with ⟨rfl, rfl⟩ | ⟨_, kept⟩
    · exact ⟨old, present, keeps isUsed⟩
    · exact ⟨found, kept, isUsed, rfl⟩
  constructor
  · intro other found there isUsed
    obtain ⟨earlier, kept, wasUsed, named⟩ := before there isUsed
    rw [named]
    exact numbered.below other earlier kept wasUsed
  · intro first second found found' there there' isUsed isUsed' same
    obtain ⟨earlier, kept, wasUsed, named⟩ := before there isUsed
    obtain ⟨earlier', kept', wasUsed', named'⟩ := before there' isUsed'
    rw [named, named'] at same
    exact numbered.distinct first second earlier earlier' kept kept' wasUsed wasUsed' same

/-! ### How many slots are in use -/

theorem modify_of_getElem? {slots : List α} {slot : Nat} {old : α} (change : α → α)
    (present : slots[slot]? = some old) :
    slots.modify slot change = slots.set slot (change old) := by
  have inside := (List.getElem?_eq_some_iff.mp present).1
  apply List.ext_getElem?
  intro other
  rw [List.getElem?_modify]
  by_cases same : slot = other
  · rw [← same, present, List.getElem?_set_self inside]
    simp
  · rw [List.getElem?_set_ne same]
    simp [same]

theorem countP_set_unused {slots : List α} {slot : Nat} {old entry : α}
    (present : slots[slot]? = some old) (free : used old = false) (taken : used entry = true) :
    (slots.set slot entry).countP used = slots.countP used + 1 := by
  obtain ⟨inside, equal⟩ := List.getElem?_eq_some_iff.mp present
  rw [List.countP_set inside, equal, free, taken]
  simp

theorem countP_modify_used {slots : List α} {slot : Nat} {old : α} (change : α → α)
    (present : slots[slot]? = some old) (taken : used old = true)
    (free : used (change old) = false) :
    (slots.modify slot change).countP used + 1 = slots.countP used := by
  obtain ⟨inside, equal⟩ := List.getElem?_eq_some_iff.mp present
  have some_ : 0 < slots.countP used :=
    List.countP_pos_iff.mpr ⟨old, List.mem_of_getElem? present, taken⟩
  rw [modify_of_getElem? change present, List.countP_set inside, equal, free, taken]
  simp
  omega

/-! ### Searching

A search goes through the slots in order and stops at the first one that matches. -/

section Search

variable {slots : List α} {slot : Nat} {old entry : α} {wanted : α → Bool}

/-- The place that a search finds, next to the entry at it. -/
theorem findIdx?_cases (slots : List α) (wanted : α → Bool) :
    (slots.findIdx? wanted = none ∧ slots.find? wanted = none) ∨
    ∃ slot entry, slots.findIdx? wanted = some slot ∧ slots.find? wanted = some entry ∧
      slots[slot]? = some entry ∧ wanted entry = true := by
  induction slots with
  | nil => exact .inl ⟨rfl, rfl⟩
  | cons first rest ih =>
      rw [List.findIdx?_cons, List.find?_cons]
      cases here : wanted first with
      | true => exact .inr ⟨0, first, rfl, rfl, rfl, here⟩
      | false =>
          rcases ih with ⟨nowhere, missing⟩ | ⟨slot, entry, place, found, present, matching⟩
          · rw [nowhere]
            exact .inl ⟨rfl, missing⟩
          · rw [place]
            exact .inr ⟨slot + 1, entry, rfl, found, present, matching⟩

/-- Neither the old entry nor the new one is searched for. -/
theorem find?_set_other (present : slots[slot]? = some old) (before : wanted old = false)
    (after : wanted entry = false) :
    (slots.set slot entry).find? wanted = slots.find? wanted := by
  induction slots generalizing slot with
  | nil => rfl
  | cons first rest ih =>
      cases slot with
      | zero =>
          cases present
          rw [List.set_cons_zero, List.find?_cons, List.find?_cons, before, after]
      | succ slot =>
          rw [List.set_cons_succ, List.find?_cons, List.find?_cons, ih present]

/-- The slot that a search finds is written, and still found. -/
theorem find?_set_found (found : slots.findIdx? wanted = some slot)
    (after : wanted entry = true) :
    (slots.set slot entry).find? wanted = some entry := by
  induction slots generalizing slot with
  | nil => cases found
  | cons first rest ih =>
      rw [List.findIdx?_cons] at found
      cases here : wanted first with
      | true =>
          rw [here, if_pos rfl] at found
          cases found
          rw [List.set_cons_zero, List.find?_cons, after]
      | false =>
          rw [here, if_neg Bool.false_ne_true] at found
          obtain ⟨place, later, rfl⟩ := Option.map_eq_some_iff.mp found
          rw [List.set_cons_succ, List.find?_cons, here]
          exact ih later

/-- A slot is written with what was not there before. -/
theorem find?_set_new (missing : slots.find? wanted = none) (inside : slot < slots.length)
    (after : wanted entry = true) :
    (slots.set slot entry).find? wanted = some entry := by
  induction slots generalizing slot with
  | nil => cases inside
  | cons first rest ih =>
      rw [List.find?_cons] at missing
      cases here : wanted first with
      | true =>
          rw [here] at missing
          cases missing
      | false =>
          rw [here] at missing
          cases slot with
          | zero => rw [List.set_cons_zero, List.find?_cons, after]
          | succ slot =>
              rw [List.set_cons_succ, List.find?_cons, here]
              exact ih missing (Nat.lt_of_succ_lt_succ inside)

/-- The only entry that matches is given up. -/
theorem find?_set_gone (only : ∀ other found, slots[other]? = some found →
      wanted found = true → other = slot) (after : wanted entry = false) :
    (slots.set slot entry).find? wanted = none := by
  rw [List.find?_eq_none]
  intro found member matching
  obtain ⟨other, present⟩ := List.getElem?_of_mem member
  rcases getElem?_set_cases present with ⟨_, rfl⟩ | ⟨apart, before⟩
  · rw [after] at matching
    cases matching
  · exact apart (only other found before matching)

end Search

end AgentNucleus.Library
