/-
The statistics of a `ContextManager` against its tables, and the limits on what
it stores.
-/

import AgentNucleus.Top.LongRuns
import AgentNucleus.Top.SequenceBalance

set_option autoImplicit false

namespace AgentNucleus.Top.ContextManager

open AgentNucleus.Library
open AgentNucleus.Runtime (AgentId ContextId TimePoint)

variable {manager : ContextManager}

/-! ### Counters of 64 bits -/

private theorem counter_up (counter : UInt64) (count : Nat) (exact : counter.toNat = count)
    (fits : count + 1 < 2 ^ 64) : (counter + 1).toNat = count + 1 := by
  rw [UInt64.toNat_add, exact]
  exact Nat.mod_eq_of_lt fits

private theorem counter_down (counter : UInt64) (count : Nat)
    (exact : counter.toNat = count + 1) : (counter - 1).toNat = count := by
  have one : (1 : UInt64) ≤ counter := by
    rw [UInt64.le_iff_toNat_le, exact]
    change 1 ≤ count + 1
    omega
  rw [UInt64.toNat_sub_of_le _ _ one, exact]
  rfl

/-- The statistics agree with the tables while the call holds `held` sequences;
`joined` owners have been added so far. -/
structure Counted (held joined : Nat) (manager : ContextManager) : Prop where
  active : manager.stats.activeContexts.toNat = manager.storedContexts
  created : manager.stats.createdContexts.toNat =
    manager.stats.releasedContexts.toNat + manager.storedContexts
  createdFew : manager.stats.createdContexts.toNat ≤ joined
  owners : manager.stats.activeOwners.toNat = entryTotal ownerCount manager
  ownersFew : entryTotal ownerCount manager ≤ joined
  resident : manager.stats.residentContexts.toNat = entryTotal residentCount manager
  swapped : manager.stats.swappedContexts.toNat = entryTotal swappedCount manager
  balanced : Balanced held manager
  room : manager.storedContexts ≤ manager.maxLogicalContexts.toNat

/-! ### Parts of a call -/

theorem Counted.popped {joined : Nat} (counted : Counted 0 joined manager)
    (sequence : Int32) (rest : List Int32) (free : manager.freeSequences = sequence :: rest) :
    Counted 1 joined { manager with freeSequences := rest } :=
  { counted with balanced := counted.balanced.popped sequence rest free }

theorem Counted.pushFree {joined : Nat} (counted : Counted 1 joined manager)
    (sequence : Int32) : Counted 0 joined (manager.pushFree sequence) :=
  { counted with balanced := counted.balanced.pushFree sequence }

theorem Counted.stored_below {held joined : Nat} (counted : Counted held joined manager) :
    manager.storedContexts < 2 ^ 64 := by
  rw [← counted.active]
  exact UInt64.toNat_lt _

private theorem storedContexts_store (key : ContextId) (old new : Entry)
    (present : manager.context? key = some old) :
    (manager.store key new).storedContexts = manager.storedContexts := by
  rw [storedContexts_eq, storedContexts_eq]
  have moved := entryTotal_store (fun _ => 1) key old new present
  omega

theorem Counted.swapOut {joined : Nat} (counted : Counted 0 joined manager)
    (key : ContextId) (entry : Entry) (present : manager.context? key = some entry)
    (home : entry.resident = true) : Counted 1 joined (manager.swapOut key entry) := by
  have counts := counts_home entry home
  have stored : (manager.swapOut key entry).storedContexts = manager.storedContexts :=
    storedContexts_store key entry { entry with sequenceId := -1, resident := false } present
  have owners : entryTotal ownerCount (manager.swapOut key entry) =
      entryTotal ownerCount manager :=
    Nat.add_right_cancel (entryTotal_store ownerCount key entry
      { entry with sequenceId := -1, resident := false } present)
  have resident : entryTotal residentCount (manager.swapOut key entry) + residentCount entry =
      entryTotal residentCount manager + 0 :=
    entryTotal_store residentCount key entry
      { entry with sequenceId := -1, resident := false } present
  have swapped : entryTotal swappedCount (manager.swapOut key entry) + swappedCount entry =
      entryTotal swappedCount manager + 1 :=
    entryTotal_store swappedCount key entry
      { entry with sequenceId := -1, resident := false } present
  rw [counts.1, Nat.add_zero] at resident
  rw [counts.2, Nat.add_zero] at swapped
  have split := resident_add_swapped manager
  have below := counted.stored_below
  have sequences := counted.balanced
  unfold Balanced at sequences
  constructor
  · rw [stored]
    exact counted.active
  · rw [stored]
    exact counted.created
  · exact counted.createdFew
  · rw [owners]
    exact counted.owners
  · rw [owners]
    exact counted.ownersFew
  · exact counter_down _ _ (counted.resident.trans resident.symm)
  · rw [swapped]
    exact counter_up _ _ counted.swapped (by omega)
  · exact counted.balanced.swapOut key entry present home
  · rw [stored]
    exact counted.room

theorem Counted.swapIn {joined : Nat} (counted : Counted 1 joined manager)
    (key : ContextId) (entry : Entry) (sequence : Int32)
    (present : manager.context? key = some entry) (away : entry.resident = false) :
    Counted 0 joined (manager.swapIn key entry sequence) := by
  have counts := counts_away entry away
  have stored : (manager.swapIn key entry sequence).storedContexts = manager.storedContexts :=
    storedContexts_store key entry { entry with sequenceId := sequence, resident := true } present
  have owners : entryTotal ownerCount (manager.swapIn key entry sequence) =
      entryTotal ownerCount manager :=
    Nat.add_right_cancel (entryTotal_store ownerCount key entry
      { entry with sequenceId := sequence, resident := true } present)
  have resident : entryTotal residentCount (manager.swapIn key entry sequence) +
      residentCount entry = entryTotal residentCount manager + 1 :=
    entryTotal_store residentCount key entry
      { entry with sequenceId := sequence, resident := true } present
  have swapped : entryTotal swappedCount (manager.swapIn key entry sequence) +
      swappedCount entry = entryTotal swappedCount manager + 0 :=
    entryTotal_store swappedCount key entry
      { entry with sequenceId := sequence, resident := true } present
  rw [counts.1, Nat.add_zero] at resident
  rw [counts.2, Nat.add_zero] at swapped
  have split := resident_add_swapped manager
  have below := counted.stored_below
  have sequences := counted.balanced
  unfold Balanced at sequences
  constructor
  · rw [stored]
    exact counted.active
  · rw [stored]
    exact counted.created
  · exact counted.createdFew
  · rw [owners]
    exact counted.owners
  · rw [owners]
    exact counted.ownersFew
  · rw [resident]
    exact counter_up _ _ counted.resident (by omega)
  · exact counter_down _ _ (counted.swapped.trans swapped.symm)
  · exact counted.balanced.swapIn key entry sequence present away
  · rw [stored]
    exact counted.room

theorem Obtained.counted {excludedContext : ContextId} {obtained : ContextManager}
    {sequence : Int32} {joined : Nat}
    (taken : manager.Obtained excludedContext obtained sequence)
    (counted : Counted 0 joined manager) : Counted 1 joined obtained := by
  cases taken with
  | popped sequence rest free => exact counted.popped sequence rest free
  | swappedOut order key entry exhausted candidate =>
      have eligible := skipped_eq_false excludedContext entry candidate.eligible
      exact counted.swapOut key entry candidate.present eligible.1

theorem Counted.insertNew {joined : Nat} (counted : Counted 1 joined manager)
    (sequence : Int32) (agentId : AgentId) (now : TimePoint)
    (fresh : manager.context? manager.nextContextId = none)
    (room : manager.storedContexts < manager.maxLogicalContexts.toNat)
    (few : joined + 1 < 2 ^ 64) :
    Counted 0 (joined + 1) (manager.insertNew sequence agentId now) := by
  have stored : (manager.insertNew sequence agentId now).storedContexts =
      manager.storedContexts + 1 := by
    rw [storedContexts_eq, storedContexts_eq,
      entryTotal_insertNew (fun _ => 1) sequence agentId now fresh, Nat.add_comm]
  have owners : entryTotal ownerCount (manager.insertNew sequence agentId now) =
      1 + entryTotal ownerCount manager :=
    entryTotal_insertNew ownerCount sequence agentId now fresh
  have resident : entryTotal residentCount (manager.insertNew sequence agentId now) =
      1 + entryTotal residentCount manager :=
    entryTotal_insertNew residentCount sequence agentId now fresh
  have swapped : entryTotal swappedCount (manager.insertNew sequence agentId now) =
      0 + entryTotal swappedCount manager :=
    entryTotal_insertNew swappedCount sequence agentId now fresh
  have split := resident_add_swapped manager
  have sequences := counted.balanced
  unfold Balanced at sequences
  have createdFew := counted.createdFew
  have ownersFew := counted.ownersFew
  have created := counted.created
  have counter := counter_up manager.stats.createdContexts _ rfl (by omega)
  constructor
  · rw [stored]
    exact counter_up _ _ counted.active (by omega)
  · rw [stored]
    exact counter.trans (by rw [created, Nat.add_assoc]; rfl)
  · exact counter.le.trans (by omega)
  · rw [owners, Nat.add_comm]
    exact counter_up _ _ counted.owners (by omega)
  · rw [owners]
    omega
  · rw [resident, Nat.add_comm]
    exact counter_up _ _ counted.resident (by omega)
  · rw [swapped, Nat.zero_add]
    exact counted.swapped
  · exact counted.balanced.insertNew sequence agentId now fresh
  · rw [stored]
    exact room

/-- A write that keeps the residency of an entry, together with a new value for
the counter of owners. -/
theorem Counted.reown {joined later : Nat} (counted : Counted 0 joined manager)
    (key : ContextId) (old new : Entry) (activeOwners sharedAcquisitions : UInt64)
    (present : manager.context? key = some old) (home : new.resident = old.resident)
    (more : joined ≤ later)
    (exact : activeOwners.toNat = entryTotal ownerCount (manager.store key new))
    (few : entryTotal ownerCount (manager.store key new) ≤ later) :
    Counted 0 later
      (({ manager with
          stats :=
            { manager.stats with
              activeOwners := activeOwners
              sharedAcquisitions := sharedAcquisitions } } : ContextManager).store key new) := by
  have stored := storedContexts_store key old new present
  have resident : entryTotal residentCount (manager.store key new) =
      entryTotal residentCount manager := by
    have moved := entryTotal_store residentCount key old new present
    unfold residentCount at moved ⊢
    rw [home] at moved
    exact Nat.add_right_cancel moved
  have swapped : entryTotal swappedCount (manager.store key new) =
      entryTotal swappedCount manager := by
    have moved := entryTotal_store swappedCount key old new present
    unfold swappedCount at moved ⊢
    rw [home] at moved
    exact Nat.add_right_cancel moved
  constructor
  · exact counted.active.trans stored.symm
  · change _ = _ + (manager.store key new).storedContexts
    rw [stored]
    exact counted.created
  · exact counted.createdFew.trans more
  · exact exact
  · exact few
  · exact counted.resident.trans resident.symm
  · exact counted.swapped.trans swapped.symm
  · exact counted.balanced.reown _ key old new present home rfl rfl rfl
  · exact stored.le.trans counted.room

theorem Counted.storeSame {joined : Nat} (counted : Counted 0 joined manager)
    (key : ContextId) (old new : Entry) (present : manager.context? key = some old)
    (home : new.resident = old.resident) (owners : ownerCount new = ownerCount old) :
    Counted 0 joined (manager.store key new) := by
  have moved := entryTotal_store ownerCount key old new present
  rw [owners] at moved
  have kept := Nat.add_right_cancel moved
  exact counted.reown key old new manager.stats.activeOwners manager.stats.sharedAcquisitions
    present home (le_refl _) (counted.owners.trans kept.symm) (kept.le.trans counted.ownersFew)

theorem Counted.lease {joined : Nat} (counted : Counted 0 joined manager)
    (key : ContextId) (entry : Entry) (agentId : AgentId) (now : TimePoint)
    (present : manager.context? key = some entry)
    (few : joined + (!owned entry agentId).toNat < 2 ^ 64) :
    Counted 0 (joined + (!owned entry agentId).toNat) (manager.lease key entry agentId now) := by
  have ownersFew := counted.ownersFew
  unfold ContextManager.lease shareWith
  cases owner : owned entry agentId with
  | true => exact counted.storeSame key entry (pin entry now) present rfl rfl
  | false =>
      rw [owner] at few
      change joined + 1 < 2 ^ 64 at few
      have absent : agentId ∉ entry.owners := by
        intro member
        unfold owned at owner
        rw [(UnorderedMap.contains_iff entry.owners agentId).mpr member] at owner
        cases owner
      have longer : ownerCount
          (pin { entry with owners := UnorderedSet.add entry.owners agentId } now) =
            ownerCount entry + 1 :=
        UnorderedSet.length_add_fresh entry.owners agentId absent
      have moved := entryTotal_store ownerCount key entry
        (pin { entry with owners := UnorderedSet.add entry.owners agentId } now) present
      rw [longer] at moved
      have total : entryTotal ownerCount (manager.store key
          (pin { entry with owners := UnorderedSet.add entry.owners agentId } now)) =
            entryTotal ownerCount manager + 1 := by
        omega
      have exact : (manager.stats.activeOwners + 1).toNat = entryTotal ownerCount
          (manager.store key
            (pin { entry with owners := UnorderedSet.add entry.owners agentId } now)) := by
        rw [total]
        exact counter_up _ _ counted.owners (by omega)
      have few : entryTotal ownerCount (manager.store key
          (pin { entry with owners := UnorderedSet.add entry.owners agentId } now)) ≤
            joined + 1 := by
        omega
      rw [if_neg Bool.false_ne_true]
      exact counted.reown key entry _ _ _ present rfl (Nat.le_succ joined) exact few

/-- An owner that leaves was counted. -/
private theorem dropOwner_counted {joined : Nat} (counted : Counted 0 joined manager)
    (key : ContextId) (entry : Entry) (owner : AgentId)
    (present : manager.context? key = some entry) (member : owned entry owner = true) :
    ownerCount { entry with owners := UnorderedSet.remove entry.owners owner } + 1 =
        ownerCount entry ∧
      manager.dropOwner =
        { manager with
          stats := { manager.stats with activeOwners := manager.stats.activeOwners - 1 } } := by
  have shorter : ownerCount { entry with owners := UnorderedSet.remove entry.owners owner } + 1 =
      ownerCount entry :=
    UnorderedSet.length_remove entry.owners owner ((UnorderedMap.contains_iff _ _).mp member)
  have counts := weight_le_entryTotal ownerCount key entry present
  have positive : 0 < manager.stats.activeOwners := by
    rw [UInt64.lt_iff_toNat_lt, counted.owners]
    change 0 < _
    omega
  refine ⟨shorter, ?_⟩
  unfold dropOwner
  rw [if_pos positive]

theorem Counted.left {joined : Nat} (counted : Counted 0 joined manager)
    (key : ContextId) (entry : Entry) (owner : AgentId) (now : TimePoint)
    (present : manager.context? key = some entry) (member : owned entry owner = true) :
    Counted 0 joined
      (manager.dropOwner.store key
        { entry with owners := UnorderedSet.remove entry.owners owner, lastAccess := now }) := by
  obtain ⟨shorter, dropped⟩ := dropOwner_counted counted key entry owner present member
  have moved := entryTotal_store ownerCount key entry
    { entry with owners := UnorderedSet.remove entry.owners owner, lastAccess := now } present
  change _ + ownerCount entry = _ +
    ownerCount { entry with owners := UnorderedSet.remove entry.owners owner } at moved
  have ownersFew := counted.ownersFew
  have total : entryTotal ownerCount manager = entryTotal ownerCount (manager.store key
      { entry with owners := UnorderedSet.remove entry.owners owner, lastAccess := now }) + 1 := by
    omega
  rw [dropped]
  refine counted.reown key entry _ _ manager.stats.sharedAcquisitions present rfl
    (le_refl joined) ?_ (by omega)
  exact counter_down _ _ (counted.owners.trans total)

/-- How a removal writes the statistics and the limits. -/
private theorem removeContext_fields (key : ContextId) (left : Entry) :
    ((manager.removeContext key left).1.maxResidentContexts = manager.maxResidentContexts ∧
      (manager.removeContext key left).1.maxLogicalContexts = manager.maxLogicalContexts) ∧
    (manager.removeContext key left).1.stats =
      { manager.stats with
        activeContexts := manager.stats.activeContexts - 1
        residentContexts :=
          if left.resident then manager.stats.residentContexts - 1
          else manager.stats.residentContexts
        swappedContexts :=
          if left.resident then manager.stats.swappedContexts
          else manager.stats.swappedContexts - 1
        releasedContexts := manager.stats.releasedContexts + 1 } := by
  unfold removeContext
  cases left.resident with
  | true => exact ⟨⟨rfl, rfl⟩, rfl⟩
  | false => exact ⟨⟨rfl, rfl⟩, rfl⟩

/-- Removing a context takes its one owner and its place out of the counts. -/
theorem Counted.removed {joined : Nat} (counted : Counted 0 joined manager)
    (key : ContextId) (entry : Entry) (owner : AgentId)
    (present : manager.context? key = some entry) (member : owned entry owner = true)
    (last : UnorderedSet.remove entry.owners owner = ∅) :
    Counted 0 joined
      (manager.dropOwner.removeContext key
        { entry with owners := UnorderedSet.remove entry.owners owner }).1 := by
  obtain ⟨shorter, dropped⟩ := dropOwner_counted counted key entry owner present member
  have single : ownerCount entry = 1 := by
    rw [← shorter]
    unfold ownerCount
    rw [last]
    rfl
  have leaves : ∀ weight : Entry → Nat,
      entryTotal weight (manager.dropOwner.removeContext key
        { entry with owners := UnorderedSet.remove entry.owners owner }).1 + weight entry =
          entryTotal weight manager := by
    intro weight
    rw [← entryTotal_congr weight (contexts_dropOwner manager)]
    apply entryTotal_removeContext
    rw [context?_dropOwner]
    exact present
  have fields := @removeContext_fields manager.dropOwner key
    { entry with owners := UnorderedSet.remove entry.owners owner }
  have balance := counted.balanced.removed key entry
    { entry with owners := UnorderedSet.remove entry.owners owner } present rfl
  generalize (manager.dropOwner.removeContext key
    { entry with owners := UnorderedSet.remove entry.owners owner }).1 = after at *
  obtain ⟨⟨-, maxLogical⟩, stats⟩ := fields
  rw [dropped] at maxLogical stats
  have stored : after.storedContexts + 1 = manager.storedContexts := by
    rw [storedContexts_eq, storedContexts_eq]
    exact leaves fun _ => 1
  have owners := leaves ownerCount
  rw [single] at owners
  have resident := leaves residentCount
  have swapped := leaves swappedCount
  have created := counted.created
  have ownersFew := counted.ownersFew
  have sequences := counted.balanced
  unfold Balanced at sequences
  have room := counted.room
  have createdBelow := UInt64.toNat_lt manager.stats.createdContexts
  have releasedCounter := counter_up manager.stats.releasedContexts _ rfl (by omega)
  constructor
  · rw [stats]
    exact counter_down _ _ (counted.active.trans stored.symm)
  · rw [stats]
    change manager.stats.createdContexts.toNat =
      (manager.stats.releasedContexts + 1).toNat + after.storedContexts
    omega
  · rw [stats]
    exact counted.createdFew
  · rw [stats]
    exact counter_down _ _ (counted.owners.trans owners.symm)
  · omega
  · rw [stats]
    change (if entry.resident then manager.stats.residentContexts - 1
      else manager.stats.residentContexts).toNat = _
    cases home : entry.resident with
    | true =>
        rw [(counts_home entry home).1] at resident
        exact counter_down _ _ (counted.resident.trans resident.symm)
    | false =>
        rw [(counts_away entry home).1] at resident
        exact counted.resident.trans resident.symm
  · rw [stats]
    change (if entry.resident then manager.stats.swappedContexts
      else manager.stats.swappedContexts - 1).toNat = _
    cases home : entry.resident with
    | true =>
        rw [(counts_home entry home).2] at swapped
        exact counted.swapped.trans swapped.symm
    | false =>
        rw [(counts_away entry home).2] at swapped
        exact counter_down _ _ (counted.swapped.trans swapped.symm)
  · exact balance
  · rw [maxLogical]
    change _ ≤ manager.maxLogicalContexts.toNat
    omega

/-! ### Whole calls -/

/-- Whether a lease comes with one more owner: the context is new, or the agent
did not own it before the call. -/
def joinedBy (manager : ContextManager) (agentId : AgentId) : Option ContextLease → Bool
  | none => false
  | some lease => lease.created || !manager.owns agentId lease.contextId

def joins (manager : ContextManager) : Operation → Bool
  | .acquire agentId parentId requestedContext swap now order =>
      manager.joinedBy agentId
        (manager.acquire agentId parentId requestedContext swap now order).2.2
  | .finish _ _ => false
  | .release _ _ _ _ => false

/-- How many owners a run adds. -/
def joinings (manager : ContextManager) : List Operation → Nat
  | [] => 0
  | operation :: rest =>
      (manager.joins operation).toNat + joinings (manager.step operation) rest

theorem created_le_joinedBy (agentId : AgentId) (result : Option ContextLease) :
    (result.any ContextLease.created).toNat ≤ (manager.joinedBy agentId result).toNat := by
  cases result with
  | none => exact le_refl _
  | some lease =>
      change lease.created.toNat ≤ (lease.created || _).toNat
      cases lease.created with
      | false => exact Nat.zero_le _
      | true => exact le_refl _

theorem creates_le_joins (operation : Operation) :
    (manager.creates operation).toNat ≤ (manager.joins operation).toNat := by
  cases operation with
  | acquire agentId parentId requestedContext swap now order =>
      exact created_le_joinedBy agentId _
  | finish contextId now => exact le_refl _
  | release agentId parentId contextId now => exact le_refl _

private theorem Obtained.storedContexts {excludedContext : ContextId}
    {obtained : ContextManager} {sequence : Int32}
    (taken : manager.Obtained excludedContext obtained sequence) :
    obtained.storedContexts = manager.storedContexts := by
  cases taken with
  | popped sequence rest free => rfl
  | swappedOut order key entry exhausted candidate =>
      exact storedContexts_store key entry { entry with sequenceId := -1, resident := false }
        candidate.present

private theorem Obtained.maxLogicalContexts {excludedContext : ContextId}
    {obtained : ContextManager} {sequence : Int32}
    (taken : manager.Obtained excludedContext obtained sequence) :
    obtained.maxLogicalContexts = manager.maxLogicalContexts := by
  cases taken <;> rfl

/-- A lease on a stored context joins exactly when its entry lists no such owner. -/
private theorem joinedBy_leaseOf (sound : manager.Sound) (agentId : AgentId) (key : ContextId)
    (entry current : Entry) (present : manager.context? key = some entry)
    (sameId : current.id = entry.id) (wasSwapped : Bool) :
    manager.joinedBy agentId (some (leaseOf current wasSwapped)) = !owned entry agentId := by
  have ownId := (sound key entry present).ownId
  have found : manager.context? current.id = some entry := by
    rw [sameId, ownId]
    exact present
  change (false || !manager.owns agentId current.id) = _
  unfold owns
  rw [found]
  rfl

theorem Acquired.counted {agentId parentId : AgentId} {requestedContext : ContextId}
    {now : TimePoint} {after : ContextManager} {result : Option ContextLease} {joined : Nat}
    (acquired : manager.Acquired agentId parentId requestedContext now after result)
    (counted : Counted 0 joined manager) (sound : manager.Sound)
    (fresh : manager.context? manager.nextContextId = none)
    (few : joined + (manager.joinedBy agentId result).toNat < 2 ^ 64) :
    Counted 0 (joined + (manager.joinedBy agentId result).toNat) after := by
  cases acquired with
  | refused => exact counted
  | unrestored key entry obtained sequence granted away taken =>
      exact (taken.counted counted).pushFree sequence
  | created obtained sequence default stranger room taken =>
      apply (taken.counted counted).insertNew sequence agentId now
      · rw [taken.nextContextId]
        exact (taken.context?_none _).mpr fresh
      · rw [taken.storedContexts, taken.maxLogicalContexts]
        exact room
      · exact few
  | leased key entry granted home =>
      have joins := joinedBy_leaseOf sound agentId key entry entry granted.1 rfl false
      rw [joins] at few ⊢
      exact counted.lease key entry agentId now granted.1 few
  | restored key entry obtained sequence granted away taken =>
      have joins := joinedBy_leaseOf sound agentId key entry
        { entry with sequenceId := sequence, resident := true } granted.1 rfl true
      rw [joins] at few ⊢
      have swapped := (taken.counted counted).swapIn key entry sequence
        (taken.context?_away key entry granted.1 away) away
      apply swapped.lease key { entry with sequenceId := sequence, resident := true } agentId now
      · rw [context?_swapIn, if_pos rfl]
      · exact few

theorem Finished.counted {contextId : ContextId} {now : TimePoint} {after : ContextManager}
    {result : Bool} {joined : Nat} (finished : manager.Finished contextId now after result)
    (counted : Counted 0 joined manager) : Counted 0 joined after := by
  cases finished with
  | refused => exact counted
  | unpinned entry found pinned => exact counted.storeSame contextId entry _ found rfl rfl

theorem Released.counted {agentId parentId : AgentId} {contextId : ContextId}
    {now : TimePoint} {after : ContextManager} {result : Release} {joined : Nat}
    (released : manager.Released agentId parentId contextId now after result)
    (counted : Counted 0 joined manager) : Counted 0 joined after := by
  cases released with
  | refused message => exact counted
  | left entry owner found chosen member shared =>
      exact counted.left contextId entry owner now found member
  | removed entry owner found chosen member last idle =>
      exact counted.removed contextId entry owner found member last

theorem Counted.step {joined : Nat} (counted : Counted 0 joined manager)
    (sound : manager.Sound) (fresh : manager.context? manager.nextContextId = none)
    (operation : Operation) (few : joined + (manager.joins operation).toNat < 2 ^ 64) :
    Counted 0 (joined + (manager.joins operation).toNat) (manager.step operation) := by
  cases operation with
  | acquire agentId parentId requestedContext swap now order =>
      exact (acquire_spec manager agentId parentId requestedContext swap now order).counted
        counted sound fresh few
  | finish contextId now => exact (finish_spec manager contextId now).counted counted
  | release agentId parentId contextId now =>
      exact (release_spec manager agentId parentId contextId now).counted counted

/-! ### Whole runs -/

theorem create_counted (maxResidentContexts maxLogicalContexts : UInt64) :
    Counted 0 0 (create maxResidentContexts maxLogicalContexts) := by
  constructor
  · rfl
  · rfl
  · exact le_refl 0
  · rfl
  · exact le_refl 0
  · rfl
  · rfl
  · exact create_balanced maxResidentContexts maxLogicalContexts
  · exact Nat.zero_le _

theorem Counted.runFrom {count joined : Nat} (maxResidentContexts maxLogicalContexts : UInt64)
    (operations : List Operation) (counted : Counted 0 joined manager)
    (sound : manager.Sound) (numbered : Numbered count manager) (issued : count ≤ joined)
    (few : joined + joinings manager operations < 2 ^ 64) :
    Counted 0 (joined + joinings manager operations)
      ((machine maxResidentContexts maxLogicalContexts).runFrom manager operations) := by
  induction operations generalizing manager count joined with
  | nil => exact counted
  | cons operation rest ih =>
      change joined + ((manager.joins operation).toNat +
        joinings (manager.step operation) rest) < _ at few
      have creates := @creates_le_joins manager operation
      have fresh := numbered.fresh (by omega)
      have next := counted.step sound fresh operation (by omega)
      have later := ih next (step_sound operation sound) (numbered.step operation (by omega))
        (by omega) (by omega)
      change Counted 0 (joined + ((manager.joins operation).toNat +
        joinings (manager.step operation) rest)) _
      rw [← Nat.add_assoc]
      exact later

theorem counted_run (maxResidentContexts maxLogicalContexts : UInt64)
    (operations : List Operation)
    (few : joinings (create maxResidentContexts maxLogicalContexts) operations < 2 ^ 64) :
    Counted 0 (joinings (create maxResidentContexts maxLogicalContexts) operations)
      ((machine maxResidentContexts maxLogicalContexts).run operations) := by
  have started := create_counted maxResidentContexts maxLogicalContexts
  have after := started.runFrom maxResidentContexts maxLogicalContexts operations nofun
    (create_numbered maxResidentContexts maxLogicalContexts) (le_refl 0) (by omega)
  rw [Nat.zero_add] at after
  exact after

/-! ### Counters that go down -/

/-- No call takes a counter below zero: every counter that a part of a call
lowers is at most what it was before. -/
structure NoUnderflow (manager : ContextManager) : Prop where
  swapOut : ∀ excludedContext swap error order,
    (manager.obtainSequenceLocked excludedContext swap error order).1.stats.residentContexts ≤
      manager.stats.residentContexts
  swapIn : ∀ key entry swap error order obtained written sequence,
    manager.context? key = some entry → entry.resident = false →
    manager.obtainSequenceLocked entry.id swap error order = (obtained, written, some sequence) →
    (obtained.swapIn key entry sequence).stats.swappedContexts ≤ obtained.stats.swappedContexts
  finish : ∀ contextId now key entry current,
    manager.context? key = some entry →
    (manager.finish contextId now).1.context? key = some current →
    current.pinCount ≤ entry.pinCount
  release : ∀ agentId parentId contextId now,
    (manager.release agentId parentId contextId now).1.stats.activeContexts ≤
        manager.stats.activeContexts ∧
      (manager.release agentId parentId contextId now).1.stats.activeOwners ≤
        manager.stats.activeOwners ∧
      (manager.release agentId parentId contextId now).1.stats.residentContexts ≤
        manager.stats.residentContexts ∧
      (manager.release agentId parentId contextId now).1.stats.swappedContexts ≤
        manager.stats.swappedContexts

private theorem lowered (counter : UInt64) (positive : 0 < counter.toNat) :
    counter - 1 ≤ counter := by
  have one : (1 : UInt64) ≤ counter := UInt64.le_iff_toNat_le.mpr positive
  rw [UInt64.le_iff_toNat_le, UInt64.toNat_sub_of_le _ _ one]
  exact Nat.sub_le _ _

private theorem owners_dropOwner_le :
    manager.dropOwner.stats.activeOwners ≤ manager.stats.activeOwners := by
  unfold dropOwner
  by_cases positive : 0 < manager.stats.activeOwners
  · rw [if_pos positive]
    exact lowered _ (UInt64.lt_iff_toNat_lt.mp positive)
  · rw [if_neg positive]
    exact UInt64.le_refl _

private theorem stats_dropOwner :
    manager.dropOwner.stats =
      { manager.stats with activeOwners := manager.dropOwner.stats.activeOwners } := by
  unfold dropOwner
  split <;> rfl

/-- A stored context keeps the counters it is part of above zero. -/
private theorem Counted.positive {held joined : Nat} (counted : Counted held joined manager)
    (key : ContextId) (entry : Entry) (present : manager.context? key = some entry) :
    0 < manager.stats.activeContexts.toNat ∧
      (entry.resident = true → 0 < manager.stats.residentContexts.toNat) ∧
      (entry.resident = false → 0 < manager.stats.swappedContexts.toNat) := by
  rw [counted.active, counted.resident, counted.swapped, storedContexts_eq]
  have resident := weight_le_entryTotal residentCount key entry present
  have swapped := weight_le_entryTotal swappedCount key entry present
  refine ⟨weight_le_entryTotal (fun _ => 1) key entry present, ?_, ?_⟩
  · intro home
    rw [(counts_home entry home).1] at resident
    exact resident
  · intro away
    rw [(counts_away entry away).2] at swapped
    exact swapped

theorem Counted.noUnderflow {joined : Nat} (counted : Counted 0 joined manager) :
    NoUnderflow manager := by
  constructor
  · intro excludedContext swap error order
    rcases sought : manager.obtainSequenceLocked excludedContext swap error order with
      ⟨obtained, written, _ | sequence⟩
    · rw [obtainSequenceLocked_none manager excludedContext swap error order obtained written
        sought]
      exact UInt64.le_refl _
    · cases obtainSequenceLocked_some manager excludedContext swap error order obtained written
        sequence sought with
      | popped sequence rest free => exact UInt64.le_refl _
      | swappedOut other key entry exhausted candidate =>
          have eligible := skipped_eq_false excludedContext entry candidate.eligible
          exact lowered _ ((counted.positive key entry candidate.present).2.1 eligible.1)
  · intro key entry swap error order obtained written sequence present away sought
    have taken := obtainSequenceLocked_some manager entry.id swap error order obtained written
      sequence sought
    have still := taken.context?_away key entry present away
    exact lowered _ (((taken.counted counted).positive key entry still).2.2 away)
  · intro contextId now key entry current present found
    obtain ⟨after, left, same | finished⟩ :=
      (finish_spec manager contextId now).entry key entry present
    · rw [found] at left
      cases left
      rw [same.1]
      exact UInt64.le_refl _
    · rw [found] at left
      cases left
      rw [finished.2.2.2]
      exact lowered _ (UInt64.pos_iff_ne_zero.mpr finished.2.2.1)
  · intro agentId parentId contextId now
    have released := release_spec manager agentId parentId contextId now
    generalize (manager.release agentId parentId contextId now).1 = after at released
    generalize (manager.release agentId parentId contextId now).2 = result at released
    cases released with
    | refused message =>
        exact ⟨UInt64.le_refl _, UInt64.le_refl _, UInt64.le_refl _, UInt64.le_refl _⟩
    | left entry owner found chosen member shared =>
        change manager.dropOwner.stats.activeContexts ≤ _ ∧ _ ≤ _ ∧
          manager.dropOwner.stats.residentContexts ≤ _ ∧
          manager.dropOwner.stats.swappedContexts ≤ _
        rw [stats_dropOwner]
        exact ⟨UInt64.le_refl _, owners_dropOwner_le, UInt64.le_refl _, UInt64.le_refl _⟩
    | removed entry owner found chosen member last idle =>
        have positive := counted.positive contextId entry found
        rw [(removeContext_fields contextId _).2, stats_dropOwner]
        refine ⟨lowered _ positive.1, owners_dropOwner_le, ?_, ?_⟩
        · change (if entry.resident then manager.stats.residentContexts - 1
            else manager.stats.residentContexts) ≤ _
          cases home : entry.resident with
          | true => exact lowered _ (positive.2.1 home)
          | false => exact UInt64.le_refl _
        · change (if entry.resident then manager.stats.swappedContexts
            else manager.stats.swappedContexts - 1) ≤ _
          cases home : entry.resident with
          | true => exact UInt64.le_refl _
          | false => exact lowered _ (positive.2.2 home)

/-! ### What the statistics say -/

/-- The statistics describe the tables, and the limits hold. -/
structure CountersExact (manager : ContextManager) : Prop where
  active : manager.stats.activeContexts.toNat = manager.storedContexts
  created : manager.stats.releasedContexts ≤ manager.stats.createdContexts ∧
    manager.stats.activeContexts =
      manager.stats.createdContexts - manager.stats.releasedContexts
  owners : manager.stats.activeOwners.toNat = entryTotal ownerCount manager
  resident : manager.stats.residentContexts.toNat = entryTotal residentCount manager
  swapped : manager.stats.swappedContexts.toNat = entryTotal swappedCount manager
  residentLimit : entryTotal residentCount manager ≤ manager.maxResidentContexts.toNat
  storedLimit : manager.storedContexts ≤ manager.maxLogicalContexts.toNat
  noUnderflow : NoUnderflow manager

theorem Counted.exact {joined : Nat} (counted : Counted 0 joined manager) :
    CountersExact manager := by
  have created := counted.created
  have sequences := counted.balanced
  unfold Balanced at sequences
  have ordered : manager.stats.releasedContexts ≤ manager.stats.createdContexts := by
    rw [UInt64.le_iff_toNat_le]
    omega
  constructor
  · exact counted.active
  · refine ⟨ordered, UInt64.toNat_inj.mp ?_⟩
    rw [UInt64.toNat_sub_of_le _ _ ordered, counted.active]
    omega
  · exact counted.owners
  · exact counted.resident
  · exact counted.swapped
  · omega
  · exact counted.room
  · exact counted.noUnderflow

/-- In every run that has added fewer than `2 ^ 64` owners, the statistics are
exact and the configured limits hold. -/
theorem counters_exact (maxResidentContexts maxLogicalContexts : UInt64)
    (operations : List Operation)
    (few : joinings (create maxResidentContexts maxLogicalContexts) operations < 2 ^ 64) :
    CountersExact ((machine maxResidentContexts maxLogicalContexts).run operations) ∧
      ((machine maxResidentContexts maxLogicalContexts).run operations).limits =
        (create maxResidentContexts maxLogicalContexts).limits :=
  ⟨(counted_run maxResidentContexts maxLogicalContexts operations few).exact,
    limits_run maxResidentContexts maxLogicalContexts operations⟩

/-- One agent's context is swapped out for another one's and comes back. -/
def swappedTwice : List Operation :=
  [.acquire 1 0 0 (some { save := some fun _ _ error => (true, error) }) 0 .asStored,
    .finish 1 1,
    .acquire 2 0 0 (some { save := some fun _ _ error => (true, error) }) 2 .asStored,
    .finish 2 3,
    .acquire 1 0 0
      (some
        { save := some fun _ _ error => (true, error)
          load := some fun _ _ error => (true, error) }) 4 .asStored]

theorem swappedTwice_exact :
    CountersExact ((machine 1 2).run swappedTwice) ∧
      ((machine 1 2).run swappedTwice).limits = (create 1 2).limits :=
  counters_exact 1 2 swappedTwice (by decide)

private theorem round_inexact
    (waiting : Waiting (AList.insert 1 firstEntry ∅) [2] 1 1 manager) :
    ¬CountersExact (manager.step (.acquire 1 0 0 none 0 .asStored)) := by
  intro exact
  have used := waiting.nextUsed
  have acquired := waiting.acquireAgain
  have stored := exact.active
  change ((manager.acquire 1 0 0 none 0 .asStored).1.stats.activeContexts).toNat =
    (manager.acquire 1 0 0 none 0 .asStored).1.contexts.keys.length at stored
  rw [acquired] at stored
  change (manager.stats.activeContexts + 1).toNat =
    ((({ manager with freeSequences := [] } : ContextManager).insertNew 2 1 0).contexts.keys).length
      at stored
  rw [contexts_insertNew_used { manager with freeSequences := [] } 2 1 0 firstEntry used,
    waiting.active_eq] at stored
  change 2 = manager.contexts.keys.length at stored
  rw [waiting.contexts_eq] at stored
  exact absurd stored (by decide)

private theorem run_inexact (operations : List Operation)
    (waiting : Waiting (AList.insert 1 firstEntry ∅) [2] 1 1 ((machine 2 2).run operations)) :
    ¬CountersExact ((machine 2 2).run (operations ++ [.acquire 1 0 0 none 0 .asStored])) := by
  unfold Machine.run at waiting ⊢
  rw [Machine.runFrom_append]
  exact round_inexact waiting

/-- When the id counter has come round, `emplace` drops the new context but the
statistics count it. -/
theorem dropped_context_counted :
    ¬CountersExact ((machine 2 2).run (comingRound ++ [.acquire 1 0 0 none 0 .asStored])) :=
  run_inexact comingRound comingRound_waiting

end AgentNucleus.Top.ContextManager
