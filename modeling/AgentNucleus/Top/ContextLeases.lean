/-
Leases and pins.  The pin count of a context is the number of its leases that
have not been finished, and as long as it is positive the context keeps its
sequence to itself.
-/

import AgentNucleus.Top.LongRuns
import AgentNucleus.Top.SequenceOwnership

set_option autoImplicit false

namespace AgentNucleus.Top.ContextManager

open AgentNucleus.Library
open AgentNucleus.Runtime (AgentId ContextId StdString TimePoint)

variable {manager : ContextManager}

/-! ### Successful calls on one context -/

def leases (key : ContextId) (manager : ContextManager) (operation : Operation) : Bool :=
  (manager.leaseGiven operation).any fun lease => lease.contextId == key

def finishesOn (key : ContextId) (manager : ContextManager) : Operation → Bool
  | .acquire _ _ _ _ _ _ => false
  | .finish contextId now => contextId == key && (manager.finish contextId now).2.2
  | .release _ _ _ _ => false

/-- The context is resident on the sequence. -/
def Holding (key : ContextId) (sequence : Int32) (manager : ContextManager) : Prop :=
  ∃ entry, manager.context? key = some entry ∧ entry.resident = true ∧
    entry.sequenceId = sequence

/-- The pins of one context after so many leases and finishes. -/
structure PinsExact (key : ContextId) (leased finished : Nat) (manager : ContextManager) :
    Prop where
  stored : ∀ entry, manager.context? key = some entry →
    entry.pinCount.toNat + finished = leased ∧ (entry.pinCount ≠ 0 → entry.resident = true)
  missing : manager.context? key = none → leased = finished

/-! ### What a call does to the pins -/

private theorem pinCount_pred (count : UInt64) (pinned : count ≠ 0) :
    (count - 1).toNat + 1 = count.toNat := by
  have positive : 0 < count.toNat := UInt64.lt_iff_toNat_lt.mp (UInt64.pos_iff_ne_zero.mpr pinned)
  have one : (1 : UInt64) ≤ count := UInt64.le_iff_toNat_le.mpr positive
  rw [UInt64.toNat_sub_of_le _ _ one]
  exact Nat.sub_add_cancel positive

/-- A key that appears is the one of a context created and leased by the call. -/
theorem Acquired.appeared {agentId parentId : AgentId} {requestedContext : ContextId}
    {now : TimePoint} {after : ContextManager} {result : Option ContextLease}
    (acquired : manager.Acquired agentId parentId requestedContext now after result)
    (sound : manager.Sound) (fresh : manager.context? manager.nextContextId = none)
    (key : ContextId) (missing : manager.context? key = none) :
    after.context? key = none ∧ (∀ lease, result = some lease → lease.contextId ≠ key) ∨
      ∃ lease, result = some lease ∧ lease.contextId = key ∧
        after.context? key = some (newEntry key lease.sequenceId agentId now) := by
  cases acquired with
  | refused => exact Or.inl ⟨missing, nofun⟩
  | unrestored other waiting obtained sequence granted away taken =>
      exact Or.inl ⟨(taken.context?_none key).mpr missing, nofun⟩
  | created obtained sequence default stranger room taken =>
      have absent : obtained.context? obtained.nextContextId = none := by
        rw [taken.nextContextId]
        exact (taken.context?_none _).mpr fresh
      have stored : (obtained.insertNew sequence agentId now).context? key =
          if key = obtained.nextContextId then
            some (newEntry obtained.nextContextId sequence agentId now)
          else obtained.context? key := by
        unfold context?
        rw [contexts_insertNew_fresh obtained sequence agentId now absent,
          UnorderedMap.lookup_insert_if]
      rw [stored]
      by_cases same : key = obtained.nextContextId
      · rw [if_pos same, same]
        exact Or.inr ⟨_, rfl, rfl, rfl⟩
      · rw [if_neg same]
        refine Or.inl ⟨(taken.context?_none key).mpr missing, ?_⟩
        intro lease equal
        cases equal
        exact fun named => same named.symm
  | leased other granted found home =>
      have different := different_of_missing manager missing found.1
      refine Or.inl ⟨?_, ?_⟩
      · rw [context?_lease, if_neg different]
        exact missing
      · intro lease equal
        cases equal
        change granted.id ≠ key
        rw [(sound other granted found.1).ownId]
        exact different.symm
  | restored other waiting obtained sequence granted away taken =>
      have different := different_of_missing manager missing granted.1
      refine Or.inl ⟨?_, ?_⟩
      · rw [context?_lease, context?_swapIn, if_neg different, if_neg different]
        exact (taken.context?_none key).mpr missing
      · intro lease equal
        cases equal
        change waiting.id ≠ key
        rw [(sound other waiting granted.1).ownId]
        exact different.symm

theorem Finished.missing {contextId : ContextId} {now : TimePoint} {after : ContextManager}
    {result : Bool} (finished : manager.Finished contextId now after result)
    (key : ContextId) (missing : manager.context? key = none) :
    (contextId == key && result) = false := by
  cases finished with
  | refused => exact Bool.and_false _
  | unpinned found held pinned =>
      have different := different_of_missing manager missing held
      rw [Bool.and_true, beq_eq_false_iff_ne]
      exact different.symm

private theorem any_eq_false {result : Option ContextLease} {key : ContextId}
    (elsewhere : ∀ lease, result = some lease → lease.contextId ≠ key) :
    (result.any fun lease => lease.contextId == key) = false := by
  cases result with
  | none => rfl
  | some lease => exact beq_eq_false_iff_ne.mpr (elsewhere lease rfl)

private theorem any_eq_true {result : Option ContextLease} {key : ContextId}
    (lease : ContextLease) (given : result = some lease) (named : lease.contextId = key) :
    (result.any fun lease => lease.contextId == key) = true := by
  rw [given]
  exact beq_iff_eq.mpr named

/-- A kept context has the same pins, and it is home if it is pinned. -/
private theorem Kept.pins {entry current : Entry} (kept : Kept entry current) {leased : Nat}
    {finished : Nat}
    (before : entry.pinCount.toNat + finished = leased ∧
      (entry.pinCount ≠ 0 → entry.resident = true)) :
    current.pinCount.toNat + finished = leased ∧
      (current.pinCount ≠ 0 → current.resident = true) := by
  cases kept with
  | same => exact before
  | evicted home unpinned => exact ⟨before.1, fun pinned => absurd unpinned pinned⟩

theorem Acquired.pins {agentId parentId : AgentId} {requestedContext : ContextId}
    {now : TimePoint} {after : ContextManager} {result : Option ContextLease} {key : ContextId}
    {leased finished : Nat}
    (acquired : manager.Acquired agentId parentId requestedContext now after result)
    (pins : PinsExact key leased finished manager) (sound : manager.Sound)
    (fresh : manager.context? manager.nextContextId = none)
    (few : leased + (result.any fun lease => lease.contextId == key).toNat <
      finished + 2 ^ 64) :
    PinsExact key (leased + (result.any fun lease => lease.contextId == key).toNat) finished
      after := by
  cases present : manager.context? key with
  | none =>
      have before := pins.missing present
      rcases acquired.appeared sound fresh key present with gone | ⟨lease, given, named, found⟩
      · rw [any_eq_false gone.2]
        constructor
        · intro current found
          rw [gone.1] at found
          cases found
        · intro still
          exact before
      · rw [any_eq_true lease given named]
        constructor
        · intro current held
          rw [found] at held
          cases held
          refine ⟨?_, fun pinned => rfl⟩
          change 1 + finished = leased + 1
          omega
        · intro still
          rw [found] at still
          cases still
  | some entry =>
      have before := pins.stored entry present
      obtain ⟨current, found, kept | ⟨lease, given, named, old, granted, holds⟩⟩ :=
        acquired.entry sound fresh key entry present
      · rw [any_eq_false kept.2]
        constructor
        · intro held same
          rw [found] at same
          cases same
          exact kept.1.pins before
        · intro still
          rw [found] at still
          cases still
      · rw [any_eq_true lease given named] at few ⊢
        change leased + 1 < finished + 2 ^ 64 at few
        constructor
        · intro held same
          rw [found] at same
          cases same
          refine ⟨?_, fun pinned => holds.resident⟩
          have counted : (entry.pinCount + 1).toNat = entry.pinCount.toNat + 1 := by
            rw [UInt64.toNat_add]
            change (entry.pinCount.toNat + 1) % 2 ^ 64 = _
            apply Nat.mod_eq_of_lt
            omega
          rw [holds.pinned, counted]
          change _ = leased + 1
          omega
        · intro still
          rw [found] at still
          cases still

theorem Finished.pins {contextId : ContextId} {now : TimePoint} {after : ContextManager}
    {result : Bool} {key : ContextId} {leased finished : Nat}
    (finish : manager.Finished contextId now after result)
    (pins : PinsExact key leased finished manager) :
    PinsExact key leased (finished + (contextId == key && result).toNat) after := by
  cases present : manager.context? key with
  | none =>
      rw [finish.missing key present]
      constructor
      · intro current found
        rw [finish.stored key present] at found
        cases found
      · intro still
        exact pins.missing present
  | some entry =>
      have before := pins.stored entry present
      obtain ⟨current, found, ⟨same, elsewhere⟩ | ⟨named, succeeded, pinned, written⟩⟩ :=
        finish.entry key entry present
      · have nothing : (contextId == key && result) = false := by
          rw [Bool.and_eq_false_iff, beq_eq_false_iff_ne]
          by_cases named : contextId = key
          · exact Or.inr (Bool.eq_false_iff.mpr fun succeeded => elsewhere ⟨named, succeeded⟩)
          · exact Or.inl named
        rw [nothing]
        constructor
        · intro held equal
          rw [found] at equal
          cases equal
          rw [same]
          exact before
        · intro still
          rw [found] at still
          cases still
      · have counted : (contextId == key && result) = true := by
          rw [named, succeeded, beq_self_eq_true]
          rfl
        rw [counted]
        constructor
        · intro held equal
          rw [found] at equal
          cases equal
          rw [written]
          refine ⟨?_, fun _ => before.2 pinned⟩
          have lower := pinCount_pred entry.pinCount pinned
          change (entry.pinCount - 1).toNat + (finished + 1) = leased
          omega
        · intro still
          rw [found] at still
          cases still

/-- The last owner of a pinned context cannot leave it. -/
private theorem idle_of_last (entry : Entry) (owner : AgentId)
    (member : owned entry owner = true)
    (last : UnorderedSet.remove entry.owners owner = ∅)
    (idle : entry.owners.keys.length = 1 → entry.pinCount = 0) : entry.pinCount = 0 := by
  apply idle
  rw [← UnorderedSet.length_remove entry.owners owner ((UnorderedMap.contains_iff _ _).mp member),
    last]
  rfl

theorem Released.pins {agentId parentId : AgentId} {contextId : ContextId}
    {now : TimePoint} {after : ContextManager} {result : Release} {key : ContextId}
    {leased finished : Nat}
    (released : manager.Released agentId parentId contextId now after result)
    (pins : PinsExact key leased finished manager) : PinsExact key leased finished after := by
  cases present : manager.context? key with
  | none =>
      constructor
      · intro current found
        rw [released.stored key present] at found
        cases found
      · intro still
        exact pins.missing present
  | some entry =>
      have before := pins.stored entry present
      have loses := released.entry key entry present
      generalize outcome : after.context? key = left at loses
      constructor
      · intro current found
        rw [outcome] at found
        subst found
        cases loses with
        | refused message => exact before
        | elsewhere different result => exact before
        | left owner named chosen member shared => exact before
      · intro gone
        rw [outcome] at gone
        subst gone
        cases loses with
        | removed owner sequence named chosen member last idle =>
            have unpinned := idle_of_last entry owner member last idle
            rw [unpinned] at before
            have balance := before.1
            change 0 + finished = leased at balance
            omega

theorem PinsExact.step {key : ContextId} {leased finished : Nat}
    (pins : PinsExact key leased finished manager) (sound : manager.Sound)
    (fresh : manager.context? manager.nextContextId = none) (operation : Operation)
    (few : leased + (leases key manager operation).toNat <
      finished + (finishesOn key manager operation).toNat + 2 ^ 64) :
    PinsExact key (leased + (leases key manager operation).toNat)
      (finished + (finishesOn key manager operation).toNat) (manager.step operation) := by
  cases operation with
  | acquire agentId parentId requestedContext swap now order =>
      exact (acquire_spec manager agentId parentId requestedContext swap now order).pins pins
        sound fresh few
  | finish contextId now => exact (finish_spec manager contextId now).pins pins
  | release agentId parentId contextId now =>
      exact (release_spec manager agentId parentId contextId now).pins pins

/-! ### What a call does to a pinned context -/

/-- No call evicts a pinned context, removes it or moves it to another sequence. -/
theorem step_pinned (sound : manager.Sound)
    (fresh : manager.context? manager.nextContextId = none) (key : ContextId) (entry : Entry)
    (present : manager.context? key = some entry) (home : entry.resident = true)
    (pinned : entry.pinCount ≠ 0) (operation : Operation) :
    Holding key entry.sequenceId (manager.step operation) := by
  cases operation with
  | acquire agentId parentId requestedContext swap now order =>
      obtain ⟨current, found, kept | ⟨lease, given, named, old, granted, holds⟩⟩ :=
        (acquire_spec manager agentId parentId requestedContext swap now order).entry sound fresh
          key entry present
      · obtain ⟨kept, elsewhere⟩ := kept
        cases kept with
        | same => exact ⟨entry, found, home, rfl⟩
        | evicted resident unpinned => exact absurd unpinned pinned
      · exact ⟨current, found, holds.resident, holds.sequence.trans (holds.stays home)⟩
  | finish contextId now =>
      obtain ⟨current, found, same | ⟨named, succeeded, counted, written⟩⟩ :=
        (finish_spec manager contextId now).entry key entry present
      · rw [same.1] at found
        exact ⟨entry, found, home, rfl⟩
      · rw [written] at found
        exact ⟨_, found, home, rfl⟩
  | release agentId parentId contextId now =>
      have loses := (release_spec manager agentId parentId contextId now).entry key entry present
      change Holding key entry.sequenceId (manager.release agentId parentId contextId now).1
      generalize outcome :
        (manager.release agentId parentId contextId now).1.context? key = left at loses
      generalize (manager.release agentId parentId contextId now).2 = result at loses
      cases loses with
      | refused message => exact ⟨entry, outcome, home, rfl⟩
      | elsewhere different result => exact ⟨entry, outcome, home, rfl⟩
      | left owner named chosen member shared => exact ⟨_, outcome, home, rfl⟩
      | removed owner sequence named chosen member last idle =>
          exact absurd (idle_of_last entry owner member last idle) pinned

/-- A lease names a resident context and the sequence it occupies. -/
theorem Acquired.holding {agentId parentId : AgentId} {requestedContext : ContextId}
    {now : TimePoint} {after : ContextManager} {lease : ContextLease}
    (acquired : manager.Acquired agentId parentId requestedContext now after (some lease))
    (sound : manager.Sound) (fresh : manager.context? manager.nextContextId = none) :
    Holding lease.contextId lease.sequenceId after := by
  cases present : manager.context? lease.contextId with
  | none =>
      rcases acquired.appeared sound fresh lease.contextId present with gone | appeared
      · exact absurd rfl (gone.2 lease rfl)
      · obtain ⟨same, given, named, found⟩ := appeared
        cases given
        exact ⟨_, found, rfl, rfl⟩
  | some entry =>
      obtain ⟨current, found, kept | ⟨same, given, named, old, granted, holds⟩⟩ :=
        acquired.entry sound fresh lease.contextId entry present
      · exact absurd rfl (kept.2 lease rfl)
      · cases given
        exact ⟨current, found, holds.resident, holds.sequence⟩

theorem step_holding (sound : manager.Sound)
    (fresh : manager.context? manager.nextContextId = none) (operation : Operation)
    (lease : ContextLease) (given : manager.leaseGiven operation = some lease) :
    Holding lease.contextId lease.sequenceId (manager.step operation) := by
  cases operation with
  | acquire agentId parentId requestedContext swap now order =>
      have acquired := acquire_spec manager agentId parentId requestedContext swap now order
      change (manager.acquire agentId parentId requestedContext swap now order).2.2 = _ at given
      rw [given] at acquired
      exact acquired.holding sound fresh
  | finish contextId now => cases given
  | release agentId parentId contextId now => cases given

/-! ### Whole runs -/

theorem PinsExact.runFrom {key : ContextId} {leased finished issued : Nat}
    (maxResidentContexts maxLogicalContexts : UInt64) (operations : List Operation)
    (pins : PinsExact key leased finished manager) (sound : manager.Sound)
    (numbered : Numbered issued manager)
    (few : issued + creations manager operations < 2 ^ 64)
    (bounded : ∀ first later, operations = first ++ later →
      leased + (machine maxResidentContexts maxLogicalContexts).count (leases key) manager first <
        finished + (machine maxResidentContexts maxLogicalContexts).count (finishesOn key)
          manager first + 2 ^ 64) :
    PinsExact key
      (leased + (machine maxResidentContexts maxLogicalContexts).count (leases key) manager
        operations)
      (finished + (machine maxResidentContexts maxLogicalContexts).count (finishesOn key) manager
        operations)
      ((machine maxResidentContexts maxLogicalContexts).runFrom manager operations) := by
  induction operations generalizing manager leased finished issued with
  | nil => exact pins
  | cons operation rest ih =>
      change issued + ((manager.creates operation).toNat +
        creations (manager.step operation) rest) < _ at few
      have first := bounded [operation] rest rfl
      have next := pins.step sound (numbered.fresh (by omega)) operation first
      have later := ih next (step_sound operation sound) (numbered.step operation (by omega))
        (by omega) (by
          intro before after same
          have here := bounded (operation :: before) after (by rw [same]; rfl)
          simp only [Machine.count] at here
          rw [← Nat.add_assoc, ← Nat.add_assoc] at here
          exact here)
      simp only [Machine.count]
      rw [← Nat.add_assoc, ← Nat.add_assoc]
      exact later

/-- A context that stays pinned keeps its sequence. -/
theorem Holding.runFrom {key : ContextId} {sequence : Int32} {leased finished issued : Nat}
    (maxResidentContexts maxLogicalContexts : UInt64) (operations : List Operation)
    (holding : Holding key sequence manager) (pins : PinsExact key leased finished manager)
    (sound : manager.Sound) (numbered : Numbered issued manager)
    (few : issued + creations manager operations < 2 ^ 64)
    (bounded : ∀ first later, operations = first ++ later →
      leased + (machine maxResidentContexts maxLogicalContexts).count (leases key) manager first <
        finished + (machine maxResidentContexts maxLogicalContexts).count (finishesOn key)
          manager first + 2 ^ 64)
    (outstanding : ∀ first later, operations = first ++ later →
      finished + (machine maxResidentContexts maxLogicalContexts).count (finishesOn key)
          manager first <
        leased + (machine maxResidentContexts maxLogicalContexts).count (leases key)
          manager first) :
    Holding key sequence
      ((machine maxResidentContexts maxLogicalContexts).runFrom manager operations) := by
  induction operations generalizing manager leased finished issued with
  | nil => exact holding
  | cons operation rest ih =>
      change issued + ((manager.creates operation).toNat +
        creations (manager.step operation) rest) < _ at few
      have fresh := numbered.fresh (by omega)
      have next := pins.step sound fresh operation (bounded [operation] rest rfl)
      obtain ⟨entry, present, home, rfl⟩ := holding
      have pinned : entry.pinCount ≠ 0 := by
        intro unpinned
        have balance := (pins.stored entry present).1
        rw [unpinned] at balance
        change 0 + finished = leased at balance
        have more := outstanding [] (operation :: rest) rfl
        change finished < leased at more
        omega
      apply ih (step_pinned sound fresh key entry present home pinned operation) next
        (step_sound operation sound) (numbered.step operation (by omega)) (by omega)
      · intro before after same
        have here := bounded (operation :: before) after (by rw [same]; rfl)
        simp only [Machine.count] at here
        rw [← Nat.add_assoc, ← Nat.add_assoc] at here
        exact here
      · intro before after same
        have here := outstanding (operation :: before) after (by rw [same]; rfl)
        simp only [Machine.count] at here
        rw [← Nat.add_assoc, ← Nat.add_assoc] at here
        exact here

/-! ### No two contexts on one sequence -/

theorem Holding.unique {key other : ContextId} {sequence : Int32}
    (once : manager.occurrences sequence.toInt ≤ 1) (first : Holding key sequence manager)
    (second : Holding other sequence manager) : other = key := by
  by_contra different
  obtain ⟨entry, present, home, named⟩ := first
  obtain ⟨rival, found, rivalHome, rivalNamed⟩ := second
  have one : holds sequence.toInt entry = 1 := by
    rw [holds_resident sequence.toInt entry home, named]
    exact if_pos rfl
  have two : holds sequence.toInt rival = 1 := by
    rw [holds_resident sequence.toInt rival rivalHome, rivalNamed]
    exact if_pos rfl
  have split := UnorderedMap.total_erase (fun _ entry => holds sequence.toInt entry)
    manager.contexts key entry present
  have still : (manager.contexts.erase key).lookup other = some rival := by
    rw [AList.lookup_erase_ne different]
    exact found
  have below := UnorderedMap.weight_le_total (fun _ entry => holds sequence.toInt entry)
    (manager.contexts.erase key) other rival still
  have held : manager.heldOccurrences sequence.toInt ≤ 1 :=
    (Nat.le_add_left _ _).trans once
  unfold heldOccurrences at held
  rw [one] at split
  rw [two] at below
  omega

private theorem ofNat_injective {first second : Nat} (low : first < 2 ^ 32)
    (high : second < 2 ^ 32)
    (same : Int32.ofNat (first + 1) = Int32.ofNat (second + 1)) : first = second := by
  have equal := congrArg (fun sequence => sequence.toBitVec.toNat) same
  simp only [Int32.toBitVec_ofNat', BitVec.toNat_ofNat] at equal
  omega

theorem pushSequences_eq (count : Nat) (free : List Int32) :
    pushSequences count free =
      (List.range count).map (fun sequence => Int32.ofNat (sequence + 1)) ++ free := by
  induction count generalizing free with
  | zero => rfl
  | succ count ih =>
      change pushSequences count (Int32.ofNat (count + 1) :: free) = _
      rw [ih, List.range_succ, List.map_append, List.append_assoc]
      rfl

private theorem pushSequences_nodup (count : Nat) (fits : count ≤ 2 ^ 32) :
    (pushSequences count []).Nodup := by
  rw [pushSequences_eq, List.append_nil]
  apply List.Nodup.map_on _ List.nodup_range
  intro first low second high same
  rw [List.mem_range] at low high
  exact ofNat_injective (by omega) (by omega) same

private theorem tally_le_one (id : Int) (sequences : List Int32) (apart : sequences.Nodup) :
    (sequences.map (tally id)).sum ≤ 1 := by
  induction sequences with
  | nil => exact Nat.zero_le _
  | cons sequence rest ih =>
      rw [List.nodup_cons] at apart
      rw [List.map_cons, List.sum_cons]
      by_cases here : sequence.toInt = id
      · have others : (rest.map (tally id)).sum = 0 := by
          apply List.sum_eq_zero
          intro part member
          obtain ⟨other, inside, rfl⟩ := List.mem_map.mp member
          apply if_neg
          intro same
          have equal : other = sequence := Int32.toInt_inj.mp (same.trans here.symm)
          rw [equal] at inside
          exact apart.1 inside
        rw [others]
        unfold tally
        rw [if_pos here]
      · have nothing : tally id sequence = 0 := if_neg here
        rw [nothing, Nat.zero_add]
        exact ih apart.2

/-- Up to `2 ^ 32` sequences are cast to different integers, and no call adds one. -/
theorem sequences_apart (maxResidentContexts maxLogicalContexts : UInt64)
    (operations : List Operation) (fits : (max 1 maxResidentContexts).toNat ≤ 2 ^ 32)
    (id : Int) :
    ((machine maxResidentContexts maxLogicalContexts).run operations).occurrences id ≤ 1 := by
  apply (machine maxResidentContexts maxLogicalContexts).runFrom_invariant
    (fun manager => manager.occurrences id ≤ 1)
  · intro manager operation once
    obtain ⟨lost, conserved, kept⟩ := step_occurrences manager id operation
    change (manager.step operation).occurrences id ≤ 1
    omega
  · exact tally_le_one id _ (pushSequences_nodup _ fits)

/-! ### Leases are stable -/

/-- How often a run leases a context. -/
def leasedTimes (maxResidentContexts maxLogicalContexts : UInt64) (key : ContextId)
    (operations : List Operation) : Nat :=
  (machine maxResidentContexts maxLogicalContexts).count (leases key)
    (machine maxResidentContexts maxLogicalContexts).initial operations

/-- How often a run finishes a lease on it. -/
def finishedTimes (maxResidentContexts maxLogicalContexts : UInt64) (key : ContextId)
    (operations : List Operation) : Nat :=
  (machine maxResidentContexts maxLogicalContexts).count (finishesOn key)
    (machine maxResidentContexts maxLogicalContexts).initial operations

/-- The state after the run and what any further call does to a leased context;
and, for every lease the run returned, that its sequence has been its own as
long as the context has had a lease open. -/
structure LeasesStable (maxResidentContexts maxLogicalContexts : UInt64)
    (operations : List Operation) : Prop where
  pinned : ∀ key,
    finishedTimes maxResidentContexts maxLogicalContexts key operations <
        leasedTimes maxResidentContexts maxLogicalContexts key operations →
      ∃ entry,
        ((machine maxResidentContexts maxLogicalContexts).run operations).context? key =
            some entry ∧
          entry.resident = true ∧
          entry.pinCount.toNat =
            leasedTimes maxResidentContexts maxLogicalContexts key operations -
              finishedTimes maxResidentContexts maxLogicalContexts key operations ∧
          ∀ operation, Holding key entry.sequenceId
            (((machine maxResidentContexts maxLogicalContexts).run operations).step operation)
  exclusive : ∀ first operation later lease,
    operations = first ++ operation :: later →
    ((machine maxResidentContexts maxLogicalContexts).run first).leaseGiven operation =
      some lease →
    (∀ between rest, later = between ++ rest →
      finishedTimes maxResidentContexts maxLogicalContexts lease.contextId
          (first ++ operation :: between) <
        leasedTimes maxResidentContexts maxLogicalContexts lease.contextId
          (first ++ operation :: between)) →
    Holding lease.contextId lease.sequenceId
        ((machine maxResidentContexts maxLogicalContexts).run operations) ∧
      ∀ other, Holding other lease.sequenceId
          ((machine maxResidentContexts maxLogicalContexts).run operations) →
        other = lease.contextId

private theorem creations_append (manager : ContextManager)
    (maxResidentContexts maxLogicalContexts : UInt64) (first second : List Operation) :
    creations manager (first ++ second) =
      creations manager first +
        creations ((machine maxResidentContexts maxLogicalContexts).runFrom manager first)
          second := by
  induction first generalizing manager with
  | nil => exact (Nat.zero_add _).symm
  | cons operation rest ih =>
      change (manager.creates operation).toNat + creations _ (rest ++ second) = _
      rw [ih (manager.step operation), ← Nat.add_assoc]
      rfl

private theorem create_pins (maxResidentContexts maxLogicalContexts : UInt64)
    (key : ContextId) : PinsExact key 0 0 (create maxResidentContexts maxLogicalContexts) :=
  ⟨nofun, fun _ => rfl⟩

/-- The pins of a context after a run. -/
theorem pins_run (maxResidentContexts maxLogicalContexts : UInt64)
    (operations : List Operation) (key : ContextId)
    (few : creations (create maxResidentContexts maxLogicalContexts) operations < 2 ^ 64)
    (bounded : ∀ first later, operations = first ++ later →
      leasedTimes maxResidentContexts maxLogicalContexts key first <
        finishedTimes maxResidentContexts maxLogicalContexts key first + 2 ^ 64) :
    PinsExact key (leasedTimes maxResidentContexts maxLogicalContexts key operations)
      (finishedTimes maxResidentContexts maxLogicalContexts key operations)
      ((machine maxResidentContexts maxLogicalContexts).run operations) := by
  have started := create_pins maxResidentContexts maxLogicalContexts key
  have after := started.runFrom maxResidentContexts maxLogicalContexts operations nofun
    (create_numbered maxResidentContexts maxLogicalContexts) (by omega) (by
      intro first later same
      rw [Nat.zero_add, Nat.zero_add]
      exact bounded first later same)
  rw [Nat.zero_add, Nat.zero_add] at after
  exact after

theorem leasedTimes_append (maxResidentContexts maxLogicalContexts : UInt64) (key : ContextId)
    (first second : List Operation) :
    leasedTimes maxResidentContexts maxLogicalContexts key (first ++ second) =
      leasedTimes maxResidentContexts maxLogicalContexts key first +
        (machine maxResidentContexts maxLogicalContexts).count (leases key)
          ((machine maxResidentContexts maxLogicalContexts).run first) second :=
  Machine.count_append ..

theorem finishedTimes_append (maxResidentContexts maxLogicalContexts : UInt64)
    (key : ContextId) (first second : List Operation) :
    finishedTimes maxResidentContexts maxLogicalContexts key (first ++ second) =
      finishedTimes maxResidentContexts maxLogicalContexts key first +
        (machine maxResidentContexts maxLogicalContexts).count (finishesOn key)
          ((machine maxResidentContexts maxLogicalContexts).run first) second :=
  Machine.count_append ..

/-- A sequence that is held at some point of a run is held for as long as leases
on the context are open. -/
private theorem holding_later (maxResidentContexts maxLogicalContexts : UInt64)
    (start later : List Operation) (key : ContextId) (sequence : Int32)
    (holding : Holding key sequence
      ((machine maxResidentContexts maxLogicalContexts).run start))
    (few : creations (create maxResidentContexts maxLogicalContexts) (start ++ later) < 2 ^ 64)
    (bounded : ∀ first rest, start ++ later = first ++ rest →
      leasedTimes maxResidentContexts maxLogicalContexts key first <
        finishedTimes maxResidentContexts maxLogicalContexts key first + 2 ^ 64)
    (outstanding : ∀ between rest, later = between ++ rest →
      finishedTimes maxResidentContexts maxLogicalContexts key (start ++ between) <
        leasedTimes maxResidentContexts maxLogicalContexts key (start ++ between)) :
    Holding key sequence
      ((machine maxResidentContexts maxLogicalContexts).run (start ++ later)) := by
  rw [creations_append _ maxResidentContexts maxLogicalContexts] at few
  have pins := pins_run maxResidentContexts maxLogicalContexts start key (by omega) (by
    intro first rest same
    exact bounded first (rest ++ later) (by rw [same, List.append_assoc]))
  have sound := sound_run maxResidentContexts maxLogicalContexts start
  have numbered := numbered_run maxResidentContexts maxLogicalContexts start (by omega)
  unfold Machine.run
  rw [Machine.runFrom_append]
  apply holding.runFrom maxResidentContexts maxLogicalContexts later pins sound numbered few
  · intro between rest same
    rw [← leasedTimes_append, ← finishedTimes_append]
    exact bounded (start ++ between) rest (by rw [same, List.append_assoc])
  · intro between rest same
    rw [← leasedTimes_append, ← finishedTimes_append]
    exact outstanding between rest same

private theorem max_one_le (maxResidentContexts : UInt64)
    (fits : maxResidentContexts.toNat ≤ 2 ^ 32) :
    (max 1 maxResidentContexts).toNat ≤ 2 ^ 32 := by
  change (if 1 ≤ maxResidentContexts then maxResidentContexts else 1).toNat ≤ 2 ^ 32
  split_ifs
  · exact fits
  · exact Nat.one_le_two_pow

/-- Leases are stable in every run that has up to `2 ^ 32` sequences, creates
fewer than `2 ^ 64` contexts and never has `2 ^ 64` leases open on one of them. -/
theorem leases_stable (maxResidentContexts maxLogicalContexts : UInt64)
    (operations : List Operation) (fits : maxResidentContexts.toNat ≤ 2 ^ 32)
    (few : creations (create maxResidentContexts maxLogicalContexts) operations < 2 ^ 64)
    (bounded : ∀ key first later, operations = first ++ later →
      leasedTimes maxResidentContexts maxLogicalContexts key first <
        finishedTimes maxResidentContexts maxLogicalContexts key first + 2 ^ 64) :
    LeasesStable maxResidentContexts maxLogicalContexts operations := by
  constructor
  · intro key outstanding
    have pins := pins_run maxResidentContexts maxLogicalContexts operations key few (bounded key)
    have sound := sound_run maxResidentContexts maxLogicalContexts operations
    have fresh := (numbered_run maxResidentContexts maxLogicalContexts operations few).fresh few
    cases present :
        ((machine maxResidentContexts maxLogicalContexts).run operations).context? key with
    | none =>
        have balance := pins.missing present
        omega
    | some entry =>
        have balance := pins.stored entry present
        have pinned : entry.pinCount ≠ 0 := by
          intro unpinned
          have equal := balance.1
          rw [unpinned] at equal
          change 0 + _ = _ at equal
          omega
        have home := balance.2 pinned
        exact ⟨entry, rfl, home, by omega, step_pinned sound fresh key entry present home pinned⟩
  · intro first operation later lease same given outstanding
    have parts : ∀ between : List Operation,
        first ++ operation :: between = (first ++ [operation]) ++ between := by
      intro between
      rw [List.append_assoc]
      rfl
    rw [parts] at same
    subst same
    have before : (machine maxResidentContexts maxLogicalContexts).run (first ++ [operation]) =
        ((machine maxResidentContexts maxLogicalContexts).run first).step operation := by
      unfold Machine.run
      rw [Machine.runFrom_append]
      rfl
    have fewBefore := few
    rw [creations_append _ maxResidentContexts maxLogicalContexts,
      creations_append _ maxResidentContexts maxLogicalContexts] at fewBefore
    have numbered := numbered_run maxResidentContexts maxLogicalContexts first (by omega)
    have leased := step_holding (sound_run maxResidentContexts maxLogicalContexts first)
      (numbered.fresh (by omega)) operation lease given
    rw [← before] at leased
    have holding := holding_later maxResidentContexts maxLogicalContexts (first ++ [operation])
      later lease.contextId lease.sequenceId leased few (bounded lease.contextId) (by
        intro between rest equal
        rw [← parts]
        exact outstanding between rest equal)
    refine ⟨holding, ?_⟩
    intro other rival
    have once := sequences_apart maxResidentContexts maxLogicalContexts
      (first ++ [operation] ++ later) (max_one_le maxResidentContexts fits)
      lease.sequenceId.toInt
    exact holding.unique once rival

/-- Agent 2 finds its context only after the one of agent 1 has been finished. -/
def underPressure : List Operation :=
  let always : SwapCallback := fun _ _ error => (true, error)
  let swap : ContextSwapCallbacks := { save := some always, load := some always }
  [.acquire 1 0 0 swap 0 .asStored, .acquire 2 0 0 swap 1 .asStored, .finish 1 2,
    .acquire 2 0 0 swap 3 .asStored, .acquire 1 0 0 swap 4 .asStored]

theorem underPressure_stable : LeasesStable 1 2 underPressure := by
  apply leases_stable 1 2 underPressure (by decide) (by decide)
  intro key first later same
  have count := (machine 1 2).count_le_length (leases key) (machine 1 2).initial first
  have length := congrArg List.length same
  rw [List.length_append] at length
  change 5 = first.length + later.length at length
  change (machine 1 2).count (leases key) (machine 1 2).initial first < _
  omega

/-! ### The three bounds are needed -/

private theorem finishedTimes_zero (maxResidentContexts maxLogicalContexts : UInt64)
    (key : ContextId) (operations : List Operation)
    (never : ∀ operation ∈ operations, ∀ now, operation ≠ .finish key now) :
    finishedTimes maxResidentContexts maxLogicalContexts key operations = 0 := by
  apply Machine.count_eq_zero
  intro operation member manager
  cases operation with
  | acquire agentId parentId requestedContext swap now order => rfl
  | finish contextId now =>
      have different : contextId ≠ key := by
        rintro rfl
        exact never _ member now rfl
      change (contextId == key && _) = false
      rw [beq_eq_false_iff_ne.mpr different]
      rfl
  | release agentId parentId contextId now => rfl

private theorem passages_elsewhere (agentId : AgentId) (first count : Nat) (key : ContextId)
    (other : ∀ index < count, UInt64.ofNat (first + index + 1) ≠ key) :
    ∀ operation ∈ passages agentId none first count, ∀ now, operation ≠ .finish key now := by
  induction count with
  | zero => exact nofun
  | succ count ih =>
      intro operation member now same
      rcases List.mem_append.mp member with inside | last
      · exact ih (fun index small => other index (Nat.lt_succ_of_lt small)) operation inside
          now same
      · rw [same] at last
        have named : key = UInt64.ofNat (first + count + 1) ∧ now = 0 := by
          simpa [passage] using last
        exact other count (Nat.lt_succ_self count) named.1.symm

/-- The next context of agent 1 gets an id that is in use. -/
private theorem round_unstable (operations : List Operation)
    (waiting : Waiting (AList.insert 1 firstEntry ∅) [2] 1 1 ((machine 2 2).run operations))
    (unfinished : finishedTimes 2 2 1 (operations ++ [leaseAgain]) = 0) :
    ¬LeasesStable 2 2 (operations ++ [leaseAgain]) := by
  intro stable
  have after : (machine 2 2).run (operations ++ [leaseAgain]) =
      ((machine 2 2).run operations).step leaseAgain := by
    unfold Machine.run
    rw [Machine.runFrom_append]
    rfl
  have leased := leasedTimes_append 2 2 1 operations [leaseAgain]
  have exclusive := stable.exclusive operations leaseAgain []
  rw [after] at exclusive
  generalize (machine 2 2).run operations = manager at waiting exclusive leased
  have used := waiting.nextUsed
  have acquired := waiting.acquireAgain
  have given : manager.leaseGiven leaseAgain =
      some { contextId := 1, sequenceId := 2, created := true } := by
    change (manager.acquire 1 0 0 none 0 .asStored).2.2 = _
    rw [acquired, waiting.next_eq]
  have held := (exclusive _ rfl given (by
    intro between rest same
    have nothing : between = [] := (List.append_eq_nil_iff.mp same.symm).1
    subst nothing
    change finishedTimes 2 2 1 _ < leasedTimes 2 2 1 _
    rw [unfinished, leased]
    have one : leases 1 manager leaseAgain = true := by
      unfold leases
      rw [given]
      rfl
    simp only [Machine.count, one]
    exact Nat.lt_of_lt_of_le Nat.one_pos (Nat.le_add_left _ _))).1
  obtain ⟨entry, found, home, sequence⟩ := held
  change (manager.acquire 1 0 0 none 0 .asStored).1.context? 1 = some entry at found
  rw [acquired] at found
  unfold context? at found
  rw [contexts_insertNew_used { manager with freeSequences := [] } 2 1 0 firstEntry used] at found
  change manager.contexts.lookup 1 = some entry at found
  rw [waiting.contexts_eq] at found
  rw [(firstEntry_only found).2] at sequence
  exact absurd sequence (by decide)

private theorem id_round_unstable : ¬LeasesStable 2 2 (comingRound ++ [leaseAgain]) := by
  apply round_unstable comingRound comingRound_waiting
  apply finishedTimes_zero
  intro operation member now same
  rcases List.mem_append.mp member with inside | last
  · rcases List.mem_cons.mp inside with first | later
    · rw [same] at first
      cases first
    · apply passages_elsewhere 1 1 (2 ^ 64 - 1) 1 _ operation later now same
      intro index small equal
      have numbers := congrArg UInt64.toNat equal
      rw [UInt64.toNat_ofNat'] at numbers
      change (1 + index + 1) % 2 ^ 64 = 1 at numbers
      omega
  · rw [same] at last
    cases List.mem_singleton.mp last

private theorem leaseAgain_counted {entry : Entry} (alone : AloneAtHome entry manager)
    (count : Nat) :
    (machine 1 1).count (leases 1) manager (List.replicate count leaseAgain) = count := by
  induction count generalizing manager entry with
  | zero => rfl
  | succ count ih =>
      have given : leases 1 manager leaseAgain = true := by
        change ((manager.acquire 1 0 0 none 0 .asStored).2.2.any fun lease =>
          lease.contextId == 1) = true
        rw [alone.acquire]
        exact beq_iff_eq.mpr alone.id_eq
      change (leases 1 manager leaseAgain).toNat + _ = count + 1
      rw [given]
      change 1 + (machine 1 1).count (leases 1) (manager.step leaseAgain) _ = count + 1
      rw [ih alone.step, Nat.add_comm]

/-- A pin count of 64 bits cannot count that many leases. -/
private theorem many_leases_unstable (count : Nat) (many : 2 ^ 64 ≤ count + 1) :
    ¬LeasesStable 1 1 (leaseAgain :: List.replicate count leaseAgain) := by
  intro stable
  have alone : AloneAtHome (newEntry 1 1 1 0)
      ((machine 1 1).step (machine 1 1).initial leaseAgain) :=
    ⟨rfl, rfl, rfl, by decide⟩
  have leased : leasedTimes 1 1 1 (leaseAgain :: List.replicate count leaseAgain) =
      1 + count := by
    have first : leases 1 (machine 1 1).initial leaseAgain = true := by decide
    unfold leasedTimes
    simp only [Machine.count, first, leaseAgain_counted alone count]
    rfl
  have finished : finishedTimes 1 1 1 (leaseAgain :: List.replicate count leaseAgain) = 0 := by
    apply finishedTimes_zero
    intro operation member now same
    have named : operation = leaseAgain := by
      rcases List.mem_cons.mp member with first | later
      · exact first
      · exact List.eq_of_mem_replicate later
    rw [named] at same
    cases same
  obtain ⟨entry, found, home, pins, kept⟩ := stable.pinned 1 (by omega)
  have below := UInt64.toNat_lt entry.pinCount
  rw [leased, finished] at pins
  omega

private theorem create_equal (limit : UInt64) (positive : 1 ≤ limit) :
    create limit limit =
      { maxResidentContexts := limit
        maxLogicalContexts := limit
        freeSequences := pushSequences limit.toNat [] } := by
  have resident : max 1 limit = limit := if_pos positive
  have same : max limit limit = limit := if_pos (UInt64.le_refl limit)
  unfold create
  simp only [resident, ite_self, same]

/-- Two of so many contexts are on sequences that are cast to the same integer. -/
private theorem crowd_unstable (count : Nat) (large : count = 2 ^ 32) (limit : UInt64)
    (number : limit.toNat = count + 1) : ¬LeasesStable limit limit (crowd (count + 1)) := by
  intro stable
  have positive : 1 ≤ limit := by
    rw [UInt64.le_iff_toNat_le, number]
    exact Nat.le_add_left 1 count
  have created := create_equal limit positive
  have length : (pushSequences (count + 1) []).length = count + 1 := by
    rw [pushSequences_eq, List.append_nil, List.length_map, List.length_range]
  have filled := crowd_filled limit limit (count + 1)
    (by
      rw [created, number]
      exact length.ge)
    (by
      rw [created, number]
      exact length.le)
  have free : (create limit limit).freeSequences = pushSequences (count + 1) [] := by
    rw [created, number]
  rw [free] at filled
  have holding : ∀ index, index < count + 1 →
      Holding (UInt64.ofNat (index + 1)) (Int32.ofNat (index + 1))
        ((machine limit limit).run (crowd (count + 1))) := by
    intro index small
    obtain ⟨entry, held, found, home, named, equal⟩ := filled.taken index small
    rw [pushSequences_eq, List.append_nil, List.getElem?_map, List.getElem?_range small] at named
    cases named
    exact ⟨entry, found, home, equal⟩
  obtain ⟨later, same, acquires⟩ := crowd_succ count
  have acquired := acquire_stranger (create limit limit) 1 0 none 0 .asStored 1
    ((pushSequences (count + 1) []).drop 1) (by decide) nofun
    (by
      rw [created]
      exact UInt64.le_iff_toNat_le.mp positive)
    (by
      rw [free, pushSequences_eq, List.range_succ_eq_map]
      rfl)
  have given : (create limit limit).leaseGiven (.acquire 1 0 0 none 0 .asStored) =
      some { contextId := 1, sequenceId := 1, created := true } := by
    change ((create limit limit).acquire 1 0 0 none 0 .asStored).2.2 = _
    rw [acquired, created]
  have unfinished : ∀ between rest, later = between ++ rest →
      finishedTimes limit limit 1 (.acquire 1 0 0 none 0 .asStored :: between) <
        leasedTimes limit limit 1 (.acquire 1 0 0 none 0 .asStored :: between) := by
    intro between rest split
    rw [finishedTimes_zero limit limit 1 _ (by
      intro operation member now equal
      rcases List.mem_cons.mp member with first | inside
      · rw [equal] at first
        cases first
      · obtain ⟨agentId, named⟩ := acquires operation (by
          rw [split]
          exact List.mem_append_left rest inside)
        rw [equal] at named
        cases named)]
    have one : leases 1 (create limit limit) (.acquire 1 0 0 none 0 .asStored) = true := by
      unfold leases
      rw [given]
      rfl
    change 0 < (leases 1 (create limit limit) _).toNat + _
    rw [one]
    exact Nat.lt_of_lt_of_le Nat.one_pos (Nat.le_add_right 1 _)
  have alone := (stable.exclusive [] _ later _ same given unfinished).2
    (UInt64.ofNat (count + 1))
  have last := holding count (Nat.lt_succ_self count)
  have wraps : Int32.ofNat (count + 1) = 1 := by
    rw [large]
    decide
  rw [wraps] at last
  have equal := congrArg UInt64.toNat (alone last)
  rw [large] at equal
  exact absurd equal (by decide)

/-- Each of the three bounds is needed: the id counter that comes round, a pin
count that comes round, and sequences that share an integer. -/
theorem lease_bounds_needed :
    ¬LeasesStable 2 2 (comingRound ++ [leaseAgain]) ∧
      ¬LeasesStable 1 1 (leaseAgain :: List.replicate (2 ^ 64 - 1) leaseAgain) ∧
      ¬LeasesStable (UInt64.ofNat (2 ^ 32 + 1)) (UInt64.ofNat (2 ^ 32 + 1))
        (crowd (2 ^ 32 + 1)) :=
  ⟨id_round_unstable, many_leases_unstable (2 ^ 64 - 1) (by decide),
    crowd_unstable (2 ^ 32) rfl _ (by decide)⟩

end AgentNucleus.Top.ContextManager
