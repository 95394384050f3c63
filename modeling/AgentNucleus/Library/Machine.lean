/-
State machines driven by a list of operations.  The rules below carry a fact
about one step to all states of a run, or to every reachable state.
-/

import Mathlib.Algebra.Order.BigOperators.Group.List
import Mathlib.Algebra.Order.Ring.Nat

set_option autoImplicit false

namespace AgentNucleus.Library

universe u v

/-- A deterministic machine: the arguments of an operation include whatever the
environment chooses at that step. -/
structure Machine (σ : Type u) (ο : Type v) where
  initial : σ
  step : σ → ο → σ

namespace Machine

variable {σ : Type u} {ο : Type v} (machine : Machine σ ο)

def runFrom (state : σ) (operations : List ο) : σ :=
  operations.foldl machine.step state

def run (operations : List ο) : σ :=
  machine.runFrom machine.initial operations

def Reachable (state : σ) : Prop :=
  ∃ operations, machine.run operations = state

/-- Every step of the run is taken in a state that meets the guard. -/
def Along (guard : σ → ο → Prop) : σ → List ο → Prop
  | _, [] => True
  | state, operation :: rest =>
      guard state operation ∧ Along guard (machine.step state operation) rest

instance decidableAlong (guard : σ → ο → Prop)
    [∀ state operation, Decidable (guard state operation)] (state : σ) :
    (operations : List ο) → Decidable (machine.Along guard state operations)
  | [] => inferInstanceAs (Decidable True)
  | operation :: rest =>
      have : Decidable (machine.Along guard (machine.step state operation) rest) :=
        decidableAlong guard (machine.step state operation) rest
      inferInstanceAs (Decidable (_ ∧ _))

/-- Every state of the run, the first and the last included, has the property. -/
def Throughout (property : σ → Prop) : σ → List ο → Prop
  | state, [] => property state
  | state, operation :: rest =>
      property state ∧ Throughout property (machine.step state operation) rest

/-- How many steps of a run are events of one kind. -/
def count (event : σ → ο → Bool) : σ → List ο → Nat
  | _, [] => 0
  | state, operation :: rest =>
      (event state operation).toNat + count event (machine.step state operation) rest

@[simp] theorem runFrom_nil (state : σ) : machine.runFrom state [] = state := rfl

@[simp] theorem runFrom_cons (state : σ) (operation : ο) (rest : List ο) :
    machine.runFrom state (operation :: rest) =
      machine.runFrom (machine.step state operation) rest := rfl

theorem runFrom_append (state : σ) (first second : List ο) :
    machine.runFrom state (first ++ second) =
      machine.runFrom (machine.runFrom state first) second :=
  List.foldl_append

theorem count_append (event : σ → ο → Bool) (state : σ) (first second : List ο) :
    machine.count event state (first ++ second) =
      machine.count event state first +
        machine.count event (machine.runFrom state first) second := by
  induction first generalizing state with
  | nil => exact (Nat.zero_add _).symm
  | cons operation rest ih =>
      change (event state operation).toNat + machine.count event _ (rest ++ second) = _
      rw [ih, ← Nat.add_assoc]
      rfl

theorem count_le_length (event : σ → ο → Bool) (state : σ) (operations : List ο) :
    machine.count event state operations ≤ operations.length := by
  induction operations generalizing state with
  | nil => exact Nat.le_refl 0
  | cons operation rest ih =>
      have below := ih (machine.step state operation)
      have one := Bool.toNat_le (event state operation)
      change (event state operation).toNat + _ ≤ rest.length + 1
      omega

/-- Operations that never are events are not counted. -/
theorem count_eq_zero (event : σ → ο → Bool) (state : σ) (operations : List ο)
    (never : ∀ operation ∈ operations, ∀ state, event state operation = false) :
    machine.count event state operations = 0 := by
  induction operations generalizing state with
  | nil => rfl
  | cons operation rest ih =>
      have later := ih (machine.step state operation) fun other member =>
        never other (List.mem_cons_of_mem operation member)
      change (event state operation).toNat + _ = 0
      rw [never operation (List.mem_cons_self ..) state, later]
      rfl

/-- Every event is one of several kinds. -/
theorem count_le_sum {ι : Type} (event : σ → ο → Bool) (kinds : ι → σ → ο → Bool)
    (items : List ι) (state : σ) (operations : List ο)
    (named : machine.Along (fun state operation => event state operation = true →
      ∃ item ∈ items, kinds item state operation = true) state operations) :
    machine.count event state operations ≤
      (items.map fun item => machine.count (kinds item) state operations).sum := by
  induction operations generalizing state with
  | nil => exact Nat.zero_le _
  | cons operation rest ih =>
      have later := ih (machine.step state operation) named.2
      have now : (event state operation).toNat ≤
          (items.map fun item => (kinds item state operation).toNat).sum := by
        cases happens : event state operation with
        | false => exact Nat.zero_le _
        | true =>
            obtain ⟨item, member, kind⟩ := named.1 happens
            have listed := List.mem_map_of_mem member
              (f := fun item => (kinds item state operation).toNat)
            have one := List.single_le_sum (fun _ _ => Nat.zero_le _) _ listed
            rw [kind] at one
            exact one
      change (event state operation).toNat + machine.count event _ rest ≤
        (items.map fun item => (kinds item state operation).toNat +
          machine.count (kinds item) (machine.step state operation) rest).sum
      rw [List.sum_map_add]
      omega

theorem Reachable.runFrom {machine : Machine σ ο} {state : σ}
    (reached : machine.Reachable state) (operations : List ο) :
    machine.Reachable (machine.runFrom state operations) := by
  obtain ⟨history, rfl⟩ := reached
  exact ⟨history ++ operations, machine.runFrom_append machine.initial history operations⟩

theorem run_snoc (operations : List ο) (last : ο) :
    machine.run (operations ++ [last]) = machine.step (machine.run operations) last :=
  machine.runFrom_append machine.initial operations [last]

theorem reachable_run (operations : List ο) : machine.Reachable (machine.run operations) :=
  ⟨operations, rfl⟩

/-- The invariant rule, from an arbitrary starting state. -/
theorem runFrom_invariant (invariant : σ → Prop)
    (preserved : ∀ state operation, invariant state → invariant (machine.step state operation))
    (state : σ) (operations : List ο) (start : invariant state) :
    invariant (machine.runFrom state operations) := by
  induction operations generalizing state with
  | nil => exact start
  | cons operation rest ih =>
      exact ih (machine.step state operation) (preserved state operation start)

/-- The invariant rule for reachable states. -/
theorem reachable_invariant (invariant : σ → Prop) (start : invariant machine.initial)
    (preserved : ∀ state operation, invariant state → invariant (machine.step state operation))
    (state : σ) (reached : machine.Reachable state) : invariant state := by
  obtain ⟨operations, rfl⟩ := reached
  exact machine.runFrom_invariant invariant preserved machine.initial operations start

/-- The property holds after every initial segment of such a run. -/
theorem Throughout.at_segment {machine : Machine σ ο} {property : σ → Prop} {state : σ}
    (first second : List ο) (holds : machine.Throughout property state (first ++ second)) :
    property (machine.runFrom state first) := by
  induction first generalizing state with
  | nil =>
      cases second with
      | nil => exact holds
      | cons _ _ => exact holds.1
  | cons operation rest ih => exact ih holds.2

theorem Along.after_segment {machine : Machine σ ο} {guard : σ → ο → Prop} {state : σ}
    (first second : List ο) (guarded : machine.Along guard state (first ++ second)) :
    machine.Along guard (machine.runFrom state first) second := by
  induction first generalizing state with
  | nil => exact guarded
  | cons operation rest ih => exact ih guarded.2

theorem Along.first_segment {machine : Machine σ ο} {guard : σ → ο → Prop} {state : σ}
    (first second : List ο) (guarded : machine.Along guard state (first ++ second)) :
    machine.Along guard state first := by
  induction first generalizing state with
  | nil => trivial
  | cons operation rest ih => exact ⟨guarded.1, ih guarded.2⟩

theorem Along.append {machine : Machine σ ο} {guard : σ → ο → Prop} {state : σ}
    {first second : List ο} (before : machine.Along guard state first)
    (after : machine.Along guard (machine.runFrom state first) second) :
    machine.Along guard state (first ++ second) := by
  induction first generalizing state with
  | nil => exact after
  | cons operation rest ih => exact ⟨before.1, ih before.2 after⟩

theorem along_of_segments (guard : σ → ο → Prop) (state : σ) (operations : List ο)
    (holds : ∀ first operation second, operations = first ++ operation :: second →
      guard (machine.runFrom state first) operation) :
    machine.Along guard state operations := by
  induction operations generalizing state with
  | nil => trivial
  | cons operation rest ih =>
      refine ⟨holds [] operation rest rfl, ih (machine.step state operation) ?_⟩
      intro first other second same
      exact holds (operation :: first) other second (by rw [same]; rfl)

theorem Throughout.mono {machine : Machine σ ο} {stronger weaker : σ → Prop}
    (implied : ∀ state, stronger state → weaker state) {state : σ} {operations : List ο}
    (holds : machine.Throughout stronger state operations) :
    machine.Throughout weaker state operations := by
  induction operations generalizing state with
  | nil => exact implied state holds
  | cons operation rest ih => exact ⟨implied state holds.1, ih holds.2⟩

theorem Throughout.and {machine : Machine σ ο} {first second : σ → Prop} {state : σ}
    {operations : List ο} (one : machine.Throughout first state operations)
    (other : machine.Throughout second state operations) :
    machine.Throughout (fun state => first state ∧ second state) state operations := by
  induction operations generalizing state with
  | nil => exact ⟨one, other⟩
  | cons operation rest ih => exact ⟨⟨one.1, other.1⟩, ih one.2 other.2⟩

/-- Properties that agree in every state of the run. -/
theorem Throughout.congr {machine : Machine σ ο} {given first second : σ → Prop}
    (agree : ∀ state, given state → (first state ↔ second state)) {state : σ}
    {operations : List ο} (holds : machine.Throughout given state operations) :
    machine.Throughout first state operations ↔ machine.Throughout second state operations := by
  induction operations generalizing state with
  | nil => exact agree state holds
  | cons operation rest ih => exact and_congr (agree state holds.1) (ih holds.2)

theorem Along.mono {machine : Machine σ ο} {stronger weaker : σ → ο → Prop}
    (implied : ∀ state operation, stronger state operation → weaker state operation)
    {state : σ} {operations : List ο} (holds : machine.Along stronger state operations) :
    machine.Along weaker state operations := by
  induction operations generalizing state with
  | nil => trivial
  | cons operation rest ih => exact ⟨implied state operation holds.1, ih holds.2⟩

/-- An invariant of guarded steps may be used at each of them. -/
theorem Along.of_invariant {machine : Machine σ ο} {guard goal : σ → ο → Prop}
    (invariant : σ → Prop)
    (preserved : ∀ state operation, invariant state → guard state operation →
      invariant (machine.step state operation))
    (implied : ∀ state operation, invariant state → guard state operation →
      goal state operation)
    {state : σ} {operations : List ο} (start : invariant state)
    (guarded : machine.Along guard state operations) : machine.Along goal state operations := by
  induction operations generalizing state with
  | nil => trivial
  | cons operation rest ih =>
      exact ⟨implied state operation start guarded.1,
        ih (preserved state operation start guarded.1) guarded.2⟩

/-- A property that every step preserves holds throughout every run. -/
theorem throughout_of_invariant (property : σ → Prop)
    (preserved : ∀ state operation, property state → property (machine.step state operation))
    (state : σ) (operations : List ο) (start : property state) :
    machine.Throughout property state operations := by
  induction operations generalizing state with
  | nil => exact start
  | cons operation rest ih =>
      exact ⟨start, ih (machine.step state operation) (preserved state operation start)⟩

/-- A property that guarded steps preserve holds throughout every guarded run. -/
theorem throughout_of_along (property : σ → Prop) (guard : σ → ο → Prop)
    (preserved : ∀ state operation, property state → guard state operation →
      property (machine.step state operation))
    (state : σ) (operations : List ο) (start : property state)
    (guarded : machine.Along guard state operations) :
    machine.Throughout property state operations := by
  induction operations generalizing state with
  | nil => exact start
  | cons operation rest ih =>
      exact ⟨start, ih (machine.step state operation)
        (preserved state operation start guarded.1) guarded.2⟩

/-- When a step keeps the property exactly under the guard, the runs that have
the property throughout are exactly the guarded runs.  The invariant may depend on
the property. -/
theorem throughout_iff_along_of_kept (invariant property : σ → Prop) (guard : σ → ο → Prop)
    (allowed : ο → Prop)
    (invariant_step : ∀ state operation, invariant state → property state →
      property (machine.step state operation) → allowed operation →
      invariant (machine.step state operation))
    (step_iff : ∀ state operation, invariant state → property state → allowed operation →
      (property (machine.step state operation) ↔ guard state operation))
    (state : σ) (operations : List ο) (startInvariant : invariant state)
    (start : property state) (permitted : ∀ operation ∈ operations, allowed operation) :
    machine.Throughout property state operations ↔ machine.Along guard state operations := by
  induction operations generalizing state with
  | nil => exact ⟨fun _ => trivial, fun _ => start⟩
  | cons operation rest ih =>
      have here : allowed operation := permitted operation (List.mem_cons_self ..)
      have later : ∀ other ∈ rest, allowed other := fun other member =>
        permitted other (List.mem_cons_of_mem operation member)
      have keeps := step_iff state operation startInvariant start here
      constructor
      · intro ⟨_, after⟩
        have next : property (machine.step state operation) :=
          Throughout.at_segment [] rest after
        have nextInvariant := invariant_step state operation startInvariant start next here
        exact ⟨keeps.mp next, (ih _ nextInvariant next later).mp after⟩
      · intro ⟨guarded, after⟩
        have next := keeps.mpr guarded
        have nextInvariant := invariant_step state operation startInvariant start next here
        exact ⟨start, (ih _ nextInvariant next later).mpr after⟩

/-- The same with an invariant of its own. -/
theorem throughout_iff_along (invariant property : σ → Prop) (guard : σ → ο → Prop)
    (allowed : ο → Prop)
    (invariant_step : ∀ state operation, invariant state → allowed operation →
      invariant (machine.step state operation))
    (step_iff : ∀ state operation, invariant state → property state → allowed operation →
      (property (machine.step state operation) ↔ guard state operation))
    (state : σ) (operations : List ο) (startInvariant : invariant state)
    (start : property state) (permitted : ∀ operation ∈ operations, allowed operation) :
    machine.Throughout property state operations ↔ machine.Along guard state operations :=
  machine.throughout_iff_along_of_kept invariant property guard allowed
    (fun state operation holds _ _ here => invariant_step state operation holds here)
    step_iff state operations startInvariant start permitted

end Machine

/-! ### Places

A machine with several threads keeps the place of each in a list. -/

section Places

variable {π : Type u}

/-- When one thread moves, the number of threads at some kind of place changes as
that thread does. -/
theorem countP_set_place (kind : π → Bool) (places : List π) (thread : Nat) (old new : π)
    (place : places[thread]? = some old) :
    (places.set thread new).countP kind + (kind old).toNat =
      places.countP kind + (kind new).toNat := by
  induction places generalizing thread with
  | nil => cases place
  | cons first rest ih =>
      cases thread with
      | zero =>
          rw [List.getElem?_cons_zero, Option.some.injEq] at place
          rw [List.set_cons_zero, List.countP_cons, List.countP_cons, ← place]
          cases kind first <;> cases kind new <;> simp
      | succ thread =>
          have later := ih thread (by simpa using place)
          rw [List.set_cons_succ, List.countP_cons, List.countP_cons]
          omega

end Places

end AgentNucleus.Library
