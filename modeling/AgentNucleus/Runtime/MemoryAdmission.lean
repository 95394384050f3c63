/-
`MemoryAdmissionController`: reservations by owner against a sample of the available
memory.  Every operation runs under `mutex_` and computes in 64 bits; a second
version of each computation stops at the first sum or difference that would wrap.
-/

import AgentNucleus.Library.Machine
import AgentNucleus.Runtime.Scheduler

set_option autoImplicit false

namespace AgentNucleus.Runtime

open Library

/-- The sum, unless it leaves the 64 bits. -/
def addChecked (left right : UInt64) : Option UInt64 :=
  if left.toNat + right.toNat < 2 ^ 64 then some (left + right) else none

/-- The difference, unless it is negative. -/
def subChecked (left right : UInt64) : Option UInt64 :=
  if right.toNat ≤ left.toNat then some (left - right) else none

theorem addChecked_of_lt {left right : UInt64} (fits : left.toNat + right.toNat < 2 ^ 64) :
    addChecked left right = some (left + right) ∧
      (left + right).toNat = left.toNat + right.toNat := by
  constructor
  · exact if_pos fits
  · rw [UInt64.toNat_add]
    exact Nat.mod_eq_of_lt fits

theorem subChecked_of_le {left right : UInt64} (below : right.toNat ≤ left.toNat) :
    subChecked left right = some (left - right) ∧
      (left - right).toNat = left.toNat - right.toNat := by
  constructor
  · exact if_pos below
  · exact UInt64.toNat_sub_of_le _ _ (UInt64.le_iff_toNat_le.mpr below)

structure MemoryAdmissionController where
  reservations : UnorderedMap AgentId UInt64 := ∅
  safetyMarginBytes : UInt64

namespace MemoryAdmissionController

/-! ### The code -/

/-- One turn of the loops over `reservations_`; `counts` is the condition in front
of the addition. -/
def addReservation (controller : MemoryAdmissionController) (counts : AgentId → Bool)
    (reserved : UInt64) (id : AgentId) : UInt64 :=
  match controller.reservations.lookup id with
  | none => reserved
  | some reservation => if counts id then reserved + reservation else reserved

def sumReservations (controller : MemoryAdmissionController) (counts : AgentId → Bool)
    (order : IterationOrder AgentId) : UInt64 :=
  (order.visit controller.reservations.keys).foldl (controller.addReservation counts) 0

/-- The right operand of `||` is evaluated only for a margin below what is
available. -/
def protectedBytes (controller : MemoryAdmissionController) (available reserved : UInt64) :
    UInt64 :=
  if controller.safetyMarginBytes ≥ available ∨
      reserved ≥ available - controller.safetyMarginBytes then available
  else controller.safetyMarginBytes + reserved

/-- The local of this name in `try_reserve`. -/
def allocatable (controller : MemoryAdmissionController) (owner : AgentId)
    (snapshot : MemorySnapshot) (order : IterationOrder AgentId) : UInt64 :=
  let reserved := controller.sumReservations (fun id => id != owner) order
  snapshot.availableBytes - controller.protectedBytes snapshot.availableBytes reserved

def grant (controller : MemoryAdmissionController) (owner : AgentId)
    (bytes allocatable : UInt64) : MemoryAdmissionController × Outcome :=
  if bytes > allocatable then
    (controller, .rejected (text "memory admission rejected: requested=" ++
      toStdString bytes ++ text " allocatable=" ++ toStdString allocatable))
  else
    ({ controller with reservations := controller.reservations.insert owner bytes }, .accepted)

def tryReserve (controller : MemoryAdmissionController) (owner : AgentId) (bytes : UInt64)
    (snapshot : MemorySnapshot) (order : IterationOrder AgentId) :
    MemoryAdmissionController × Outcome :=
  controller.grant owner bytes (controller.allocatable owner snapshot order)

def release (controller : MemoryAdmissionController) (owner : AgentId) :
    MemoryAdmissionController :=
  { controller with reservations := controller.reservations.erase owner }

def reservedBytes (controller : MemoryAdmissionController) (order : IterationOrder AgentId) :
    UInt64 :=
  controller.sumReservations (fun _ => true) order

/-! ### The code with every sum and difference checked -/

def addReservationChecked (controller : MemoryAdmissionController) (counts : AgentId → Bool)
    (reserved : UInt64) (id : AgentId) : Option UInt64 :=
  match controller.reservations.lookup id with
  | none => some reserved
  | some reservation =>
      if counts id then addChecked reserved reservation else some reserved

def sumReservationsChecked (controller : MemoryAdmissionController) (counts : AgentId → Bool)
    (order : IterationOrder AgentId) : Option UInt64 :=
  (order.visit controller.reservations.keys).foldlM (controller.addReservationChecked counts) 0

def protectedBytesChecked (controller : MemoryAdmissionController)
    (available reserved : UInt64) : Option UInt64 :=
  if controller.safetyMarginBytes ≥ available then some available
  else do
    let room ← subChecked available controller.safetyMarginBytes
    if reserved ≥ room then some available
    else addChecked controller.safetyMarginBytes reserved

def tryReserveChecked (controller : MemoryAdmissionController) (owner : AgentId)
    (bytes : UInt64) (snapshot : MemorySnapshot) (order : IterationOrder AgentId) :
    Option (MemoryAdmissionController × Outcome) := do
  let reserved ← controller.sumReservationsChecked (fun id => id != owner) order
  let protectedBytes ← controller.protectedBytesChecked snapshot.availableBytes reserved
  let allocatable ← subChecked snapshot.availableBytes protectedBytes
  some (controller.grant owner bytes allocatable)

def reservedBytesChecked (controller : MemoryAdmissionController)
    (order : IterationOrder AgentId) : Option UInt64 :=
  controller.sumReservationsChecked (fun _ => true) order

/-! ### Runs -/

inductive Operation where
  | tryReserve (owner : AgentId) (bytes : UInt64) (snapshot : MemorySnapshot)
      (order : IterationOrder AgentId)
  | release (owner : AgentId)

def step (controller : MemoryAdmissionController) : Operation → MemoryAdmissionController
  | .tryReserve owner bytes snapshot order => (controller.tryReserve owner bytes snapshot order).1
  | .release owner => controller.release owner

def machine (safetyMarginBytes : UInt64) : Machine MemoryAdmissionController Operation :=
  { initial := { safetyMarginBytes := safetyMarginBytes }
    step := step }

/-! ### Reservations as numbers -/

/-- The sum of all reservations. -/
def reservedTotal (controller : MemoryAdmissionController) : Nat :=
  UnorderedMap.total (fun _ bytes => bytes.toNat) controller.reservations

/-- The sum of the reservations that satisfy the condition of a loop. -/
def countedTotal (controller : MemoryAdmissionController) (counts : AgentId → Bool) : Nat :=
  UnorderedMap.total (fun id bytes => if counts id then bytes.toNat else 0)
    controller.reservations

/-- The sum of the reservations of the other owners. -/
def othersTotal (controller : MemoryAdmissionController) (owner : AgentId) : Nat :=
  controller.countedTotal fun id => id != owner

/-- What `try_reserve` may give, over the integers. -/
def allocatableBytes (controller : MemoryAdmissionController) (owner : AgentId)
    (snapshot : MemorySnapshot) : Int :=
  max 0 ((snapshot.availableBytes.toNat : Int) - controller.safetyMarginBytes.toNat -
    controller.othersTotal owner)

/-- All reservations together fit in 64 bits. -/
def Bounded (controller : MemoryAdmissionController) : Prop :=
  controller.reservedTotal < 2 ^ 64

section Sums

variable (controller : MemoryAdmissionController)

theorem countedTotal_le (counts : AgentId → Bool) :
    controller.countedTotal counts ≤ controller.reservedTotal := by
  apply UnorderedMap.total_le_total
  intro id bytes _
  split
  · exact Nat.le_refl _
  · exact Nat.zero_le _

private theorem foldl_reservations (counts : AgentId → Bool) (ids : List AgentId)
    (reserved : UInt64)
    (fits : reserved.toNat + (ids.map (UnorderedMap.weightAt
      (fun id bytes => if counts id then bytes.toNat else 0) controller.reservations)).sum <
        2 ^ 64) :
    ids.foldlM (controller.addReservationChecked counts) reserved =
        some (ids.foldl (controller.addReservation counts) reserved) ∧
      (ids.foldl (controller.addReservation counts) reserved).toNat =
        reserved.toNat + (ids.map (UnorderedMap.weightAt
          (fun id bytes => if counts id then bytes.toNat else 0)
          controller.reservations)).sum := by
  induction ids generalizing reserved with
  | nil => exact ⟨rfl, rfl⟩
  | cons id rest ih =>
      rw [List.map_cons, List.sum_cons] at fits ⊢
      rw [List.foldlM_cons, List.foldl_cons]
      have turn : controller.addReservationChecked counts reserved id =
            some (controller.addReservation counts reserved id) ∧
          (controller.addReservation counts reserved id).toNat =
            reserved.toNat + UnorderedMap.weightAt
              (fun id bytes => if counts id then bytes.toNat else 0)
              controller.reservations id := by
        unfold addReservationChecked addReservation UnorderedMap.weightAt at *
        cases found : controller.reservations.lookup id with
        | none => exact ⟨rfl, rfl⟩
        | some reservation =>
            rw [found] at fits
            cases counted : counts id with
            | false =>
                simp [counted]
            | true =>
                simp only [Option.elim_some, counted, if_true] at fits ⊢
                exact addChecked_of_lt (by omega)
      obtain ⟨checked, value⟩ := turn
      rw [checked]
      obtain ⟨later, total⟩ := ih (controller.addReservation counts reserved id) (by omega)
      refine ⟨later, ?_⟩
      rw [total, value, Nat.add_assoc]

/-- No partial sum of a loop wraps, and the loop computes the sum. -/
theorem Bounded.sumReservations {controller : MemoryAdmissionController}
    (bounded : controller.Bounded) (counts : AgentId → Bool) (order : IterationOrder AgentId) :
    controller.sumReservationsChecked counts order =
        some (controller.sumReservations counts order) ∧
      (controller.sumReservations counts order).toNat = controller.countedTotal counts := by
  have total := UnorderedMap.total_visit
    (fun id (bytes : UInt64) => if counts id then bytes.toNat else 0)
    controller.reservations order
  have below := controller.countedTotal_le counts
  unfold Bounded at bounded
  unfold countedTotal at below ⊢
  obtain ⟨checked, value⟩ := foldl_reservations controller counts
    (order.visit controller.reservations.keys) 0 (by
      rw [total]
      change 0 + _ < _
      omega)
  refine ⟨checked, ?_⟩
  rw [← total, ← Nat.zero_add (List.sum _)]
  exact value

end Sums

/-! ### Admission -/

section Admission

variable {controller : MemoryAdmissionController}

/-- What is protected leaves exactly the allocatable bytes. -/
private theorem protectedBytes_spec (controller : MemoryAdmissionController)
    (available reserved : UInt64) :
    controller.protectedBytesChecked available reserved =
        some (controller.protectedBytes available reserved) ∧
      ((controller.safetyMarginBytes.toNat + reserved.toNat < available.toNat ∧
          (controller.protectedBytes available reserved).toNat =
            controller.safetyMarginBytes.toNat + reserved.toNat) ∨
        (available.toNat ≤ controller.safetyMarginBytes.toNat + reserved.toNat ∧
          controller.protectedBytes available reserved = available)) := by
  have bound := available.toNat_lt
  unfold protectedBytesChecked protectedBytes
  by_cases margin : controller.safetyMarginBytes ≥ available
  · rw [if_pos margin, if_pos (Or.inl margin)]
    refine ⟨rfl, Or.inr ⟨?_, rfl⟩⟩
    have large := UInt64.le_iff_toNat_le.mp margin
    omega
  · have small : controller.safetyMarginBytes.toNat < available.toNat := by
      rw [ge_iff_le, UInt64.le_iff_toNat_le] at margin
      omega
    obtain ⟨checked, room⟩ := subChecked_of_le (Nat.le_of_lt small)
    rw [if_neg margin, checked, Option.bind_eq_bind, Option.bind_some]
    by_cases full : reserved ≥ available - controller.safetyMarginBytes
    · rw [if_pos full, if_pos (Or.inr full)]
      refine ⟨rfl, Or.inr ⟨?_, rfl⟩⟩
      rw [ge_iff_le, UInt64.le_iff_toNat_le, room] at full
      omega
    · have left : reserved.toNat < available.toNat - controller.safetyMarginBytes.toNat := by
        rw [ge_iff_le, UInt64.le_iff_toNat_le, room] at full
        omega
      have fits : controller.safetyMarginBytes.toNat + reserved.toNat < 2 ^ 64 := by omega
      obtain ⟨sum, value⟩ := addChecked_of_lt fits
      rw [if_neg full, if_neg (not_or.mpr ⟨margin, full⟩), sum]
      exact ⟨rfl, Or.inl ⟨by omega, value⟩⟩

theorem Bounded.tryReserve (bounded : controller.Bounded) (owner : AgentId) (bytes : UInt64)
    (snapshot : MemorySnapshot) (order : IterationOrder AgentId) :
    controller.tryReserveChecked owner bytes snapshot order =
        some (controller.tryReserve owner bytes snapshot order) ∧
      ((controller.allocatable owner snapshot order).toNat : Int) =
        controller.allocatableBytes owner snapshot := by
  obtain ⟨sum, others⟩ := bounded.sumReservations (fun id => id != owner) order
  obtain ⟨checked, cases⟩ := protectedBytes_spec controller snapshot.availableBytes
    (controller.sumReservations (fun id => id != owner) order)
  have below : (controller.protectedBytes snapshot.availableBytes
      (controller.sumReservations (fun id => id != owner) order)).toNat ≤
        snapshot.availableBytes.toNat := by
    rcases cases with ⟨small, value⟩ | ⟨_, same⟩
    · omega
    · rw [same]
  obtain ⟨difference, value⟩ := subChecked_of_le below
  constructor
  · unfold tryReserveChecked
    simp only [sum, checked, difference, Option.bind_eq_bind, Option.bind_some]
    rfl
  · unfold allocatable allocatableBytes othersTotal
    rw [value, ← others]
    rcases cases with ⟨small, protects⟩ | ⟨large, same⟩
    · omega
    · rw [same]
      omega

theorem tryReserve_cases (controller : MemoryAdmissionController) (owner : AgentId)
    (bytes : UInt64) (snapshot : MemorySnapshot) (order : IterationOrder AgentId) :
    (bytes ≤ controller.allocatable owner snapshot order ∧
      controller.tryReserve owner bytes snapshot order =
        ({ controller with reservations := controller.reservations.insert owner bytes },
          .accepted)) ∨
    (¬bytes ≤ controller.allocatable owner snapshot order ∧
      (controller.tryReserve owner bytes snapshot order).2.ok = false ∧
      (controller.tryReserve owner bytes snapshot order).1 = controller) := by
  unfold tryReserve grant
  by_cases refused : bytes > controller.allocatable owner snapshot order
  · apply Or.inr
    refine ⟨UInt64.not_le.mpr refused, ?_⟩
    rw [if_pos refused]
    exact ⟨rfl, rfl⟩
  · apply Or.inl
    refine ⟨UInt64.not_lt.mp refused, ?_⟩
    exact if_neg refused

theorem Bounded.allocates_iff (bounded : controller.Bounded) (owner : AgentId)
    (bytes : UInt64) (snapshot : MemorySnapshot) (order : IterationOrder AgentId) :
    bytes ≤ controller.allocatable owner snapshot order ↔
      (bytes.toNat : Int) ≤ controller.allocatableBytes owner snapshot := by
  obtain ⟨_, value⟩ := bounded.tryReserve owner bytes snapshot order
  rw [UInt64.le_iff_toNat_le, ← value, Int.ofNat_le]

/-- The reservations of the others are those left without the owner's. -/
theorem othersTotal_eq (controller : MemoryAdmissionController) (owner : AgentId) :
    controller.othersTotal owner =
      UnorderedMap.total (fun _ bytes => bytes.toNat) (controller.reservations.erase owner) := by
  rw [UnorderedMap.total_erase_others]
  unfold othersTotal countedTotal
  apply UnorderedMap.total_congr
  intro id bytes _
  by_cases own : id = owner
  · simp [own]
  · simp [own]

theorem reservedTotal_insert (controller : MemoryAdmissionController) (owner : AgentId)
    (bytes : UInt64) :
    reservedTotal { controller with
      reservations := controller.reservations.insert owner bytes } =
        bytes.toNat + controller.othersTotal owner := by
  rw [othersTotal_eq]
  exact UnorderedMap.total_insert _ _ owner bytes

theorem othersTotal_le (controller : MemoryAdmissionController) (owner : AgentId) :
    controller.othersTotal owner ≤ controller.reservedTotal :=
  controller.countedTotal_le _

/-- An admission of more than nothing stays inside the sample, margin included. -/
theorem Bounded.within (bounded : controller.Bounded) {owner : AgentId} {bytes : UInt64}
    {snapshot : MemorySnapshot} {order : IterationOrder AgentId}
    (admitted : bytes ≤ controller.allocatable owner snapshot order) (positive : 0 < bytes) :
    controller.safetyMarginBytes.toNat + (bytes.toNat + controller.othersTotal owner) ≤
      snapshot.availableBytes.toNat := by
  have fits := (bounded.allocates_iff owner bytes snapshot order).mp admitted
  have some : 0 < bytes.toNat := UInt64.lt_iff_toNat_lt.mp positive
  unfold allocatableBytes at fits
  omega

theorem Bounded.step (bounded : controller.Bounded) (operation : Operation) :
    (controller.step operation).Bounded := by
  have others := controller.othersTotal_le
  unfold Bounded at bounded
  cases operation with
  | release owner =>
      have left := others owner
      rw [othersTotal_eq] at left
      exact Nat.lt_of_le_of_lt left bounded
  | tryReserve owner bytes snapshot order =>
      change reservedTotal (controller.tryReserve owner bytes snapshot order).1 < 2 ^ 64
      rcases controller.tryReserve_cases owner bytes snapshot order with
        ⟨admitted, result⟩ | ⟨_, _, same⟩
      · rw [result, reservedTotal_insert]
        have below := others owner
        by_cases zero : bytes.toNat = 0
        · omega
        · have positive : 0 < bytes := UInt64.lt_iff_toNat_lt.mpr (Nat.pos_of_ne_zero zero)
          have within := Bounded.within bounded admitted positive
          have available := snapshot.availableBytes.toNat_lt
          omega
      · rw [same]
        exact bounded

end Admission

/-- The answer of `try_reserve` and what it does to the reservations. -/
structure Exact (controller : MemoryAdmissionController) : Prop where
  unwrapped : ∀ owner bytes snapshot order,
    controller.tryReserveChecked owner bytes snapshot order =
      some (controller.tryReserve owner bytes snapshot order)
  reserved : ∀ order,
    controller.reservedBytesChecked order = some (controller.reservedBytes order) ∧
      (controller.reservedBytes order).toNat = controller.reservedTotal
  admits : ∀ owner bytes snapshot order,
    (controller.tryReserve owner bytes snapshot order).2.ok = true ↔
      (bytes.toNat : Int) ≤ controller.allocatableBytes owner snapshot
  success : ∀ owner bytes snapshot order,
    (controller.tryReserve owner bytes snapshot order).2.ok = true →
      (controller.tryReserve owner bytes snapshot order).1 =
        { controller with reservations := controller.reservations.insert owner bytes }
  failure : ∀ owner bytes snapshot order,
    (controller.tryReserve owner bytes snapshot order).2.ok = false →
      (controller.tryReserve owner bytes snapshot order).1 = controller
  within : ∀ owner bytes snapshot order,
    (controller.tryReserve owner bytes snapshot order).2.ok = true → 0 < bytes →
      controller.safetyMarginBytes.toNat +
          (controller.tryReserve owner bytes snapshot order).1.reservedTotal ≤
        snapshot.availableBytes.toNat

theorem Bounded.exact {controller : MemoryAdmissionController} (bounded : controller.Bounded) :
    controller.Exact := by
  have cases := controller.tryReserve_cases
  refine ⟨?_, ?_, ?_, ?_, ?_, ?_⟩
  · intro owner bytes snapshot order
    exact (bounded.tryReserve owner bytes snapshot order).1
  · intro order
    exact bounded.sumReservations (fun _ => true) order
  · intro owner bytes snapshot order
    rw [← bounded.allocates_iff owner bytes snapshot order]
    rcases cases owner bytes snapshot order with ⟨admitted, result⟩ | ⟨refused, answer, _⟩
    · rw [result]
      exact ⟨fun _ => admitted, fun _ => rfl⟩
    · rw [answer]
      exact ⟨nofun, fun admitted => absurd admitted refused⟩
  · intro owner bytes snapshot order accepted
    rcases cases owner bytes snapshot order with ⟨_, result⟩ | ⟨_, answer, _⟩
    · rw [result]
    · rw [answer] at accepted
      cases accepted
  · intro owner bytes snapshot order rejected
    rcases cases owner bytes snapshot order with ⟨_, result⟩ | ⟨_, _, same⟩
    · rw [result] at rejected
      cases rejected
    · exact same
  · intro owner bytes snapshot order accepted positive
    rcases cases owner bytes snapshot order with ⟨admitted, result⟩ | ⟨_, answer, _⟩
    · rw [result, reservedTotal_insert]
      exact bounded.within admitted positive
    · rw [answer] at accepted
      cases accepted

/-- Admission is exact integer arithmetic in every reachable state. -/
theorem memory_admission_exact (safetyMarginBytes : UInt64) (operations : List Operation) :
    ((machine safetyMarginBytes).run operations).Exact := by
  apply Bounded.exact
  apply (machine safetyMarginBytes).runFrom_invariant Bounded
  · intro controller operation bounded
    exact bounded.step operation
  · unfold Bounded reservedTotal
    exact Nat.two_pow_pos 64

end MemoryAdmissionController

end AgentNucleus.Runtime
