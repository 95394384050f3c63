/-
The sequences of a `ContextManager`.  A call holds at most one of them outside
the tables; counting that one in, the free list and the resident contexts always
make up the configured number.
-/

import AgentNucleus.Top.ContextHistory

set_option autoImplicit false

namespace AgentNucleus.Top.ContextManager

open AgentNucleus.Library
open AgentNucleus.Runtime (AgentId ContextId TimePoint)

/-! ### Totals over the table -/

def entryTotal (weight : Entry → Nat) (manager : ContextManager) : Nat :=
  UnorderedMap.total (fun _ entry => weight entry) manager.contexts

def storedContexts (manager : ContextManager) : Nat := manager.contexts.keys.length

def ownerCount (entry : Entry) : Nat := entry.owners.keys.length

def residentCount (entry : Entry) : Nat := entry.resident.toNat

def swappedCount (entry : Entry) : Nat := (!entry.resident).toNat

variable {manager : ContextManager}

theorem entryTotal_congr (weight : Entry → Nat) {left right : ContextManager}
    (same : left.contexts = right.contexts) :
    entryTotal weight left = entryTotal weight right := by
  unfold entryTotal
  rw [same]

theorem entryTotal_store (weight : Entry → Nat) (key : ContextId) (old new : Entry)
    (present : manager.context? key = some old) :
    entryTotal weight (manager.store key new) + weight old =
      entryTotal weight manager + weight new :=
  UnorderedMap.total_insert_over (fun _ entry => weight entry) manager.contexts key old new present

theorem entryTotal_insertNew (weight : Entry → Nat) (sequence : Int32) (agentId : AgentId)
    (now : TimePoint) (fresh : manager.context? manager.nextContextId = none) :
    entryTotal weight (manager.insertNew sequence agentId now) =
      weight (newEntry manager.nextContextId sequence agentId now) + entryTotal weight manager := by
  unfold entryTotal
  rw [contexts_insertNew_fresh manager sequence agentId now fresh]
  exact UnorderedMap.total_insert_fresh (fun _ entry => weight entry) manager.contexts
    manager.nextContextId _ fresh

theorem entryTotal_removeContext (weight : Entry → Nat) (key : ContextId) (entry left : Entry)
    (present : manager.context? key = some entry) :
    entryTotal weight (manager.removeContext key left).1 + weight entry =
      entryTotal weight manager := by
  unfold entryTotal
  rw [contexts_removeContext]
  exact UnorderedMap.total_erase (fun _ entry => weight entry) manager.contexts key entry present

theorem weight_le_entryTotal (weight : Entry → Nat) (key : ContextId) (entry : Entry)
    (present : manager.context? key = some entry) :
    weight entry ≤ entryTotal weight manager :=
  UnorderedMap.weight_le_total (fun _ entry => weight entry) manager.contexts key entry present

theorem storedContexts_eq : manager.storedContexts = entryTotal (fun _ => 1) manager :=
  (UnorderedMap.total_one manager.contexts).symm

/-- Every context is resident or swapped out. -/
theorem resident_add_swapped (manager : ContextManager) :
    entryTotal residentCount manager + entryTotal swappedCount manager =
      manager.storedContexts := by
  rw [storedContexts_eq]
  unfold entryTotal UnorderedMap.total
  induction manager.contexts.entries with
  | nil => rfl
  | cons head rest ih =>
      simp only [List.map_cons, List.sum_cons] at ih ⊢
      have one : residentCount head.2 + swappedCount head.2 = 1 := by
        unfold residentCount swappedCount
        cases head.2.resident <;> rfl
      omega

/-! ### Sequences -/

/-- The sequences of a manager while a call holds `held` of them. -/
def Balanced (held : Nat) (manager : ContextManager) : Prop :=
  manager.freeSequences.length + entryTotal residentCount manager + held =
    manager.maxResidentContexts.toNat

theorem counts_home (entry : Entry) (home : entry.resident = true) :
    residentCount entry = 1 ∧ swappedCount entry = 0 := by
  unfold residentCount swappedCount
  rw [home]
  exact ⟨rfl, rfl⟩

theorem counts_away (entry : Entry) (away : entry.resident = false) :
    residentCount entry = 0 ∧ swappedCount entry = 1 := by
  unfold residentCount swappedCount
  rw [away]
  exact ⟨rfl, rfl⟩

theorem Balanced.popped (balanced : Balanced 0 manager) (sequence : Int32) (rest : List Int32)
    (free : manager.freeSequences = sequence :: rest) :
    Balanced 1 { manager with freeSequences := rest } := by
  unfold Balanced at balanced
  rw [free, List.length_cons] at balanced
  change rest.length + entryTotal residentCount manager + 1 = manager.maxResidentContexts.toNat
  omega

theorem Balanced.pushFree (balanced : Balanced 1 manager) (sequence : Int32) :
    Balanced 0 (manager.pushFree sequence) := by
  unfold Balanced at balanced
  change manager.freeSequences.length + 1 + entryTotal residentCount manager + 0 =
    manager.maxResidentContexts.toNat
  omega

theorem Balanced.swapOut (balanced : Balanced 0 manager) (key : ContextId) (entry : Entry)
    (present : manager.context? key = some entry) (home : entry.resident = true) :
    Balanced 1 (manager.swapOut key entry) := by
  have resident : entryTotal residentCount (manager.swapOut key entry) + residentCount entry =
      entryTotal residentCount manager + 0 :=
    entryTotal_store residentCount key entry
      { entry with sequenceId := -1, resident := false } present
  rw [(counts_home entry home).1] at resident
  unfold Balanced at balanced
  change manager.freeSequences.length + entryTotal residentCount (manager.swapOut key entry) + 1 =
    manager.maxResidentContexts.toNat
  omega

theorem Balanced.swapIn (balanced : Balanced 1 manager) (key : ContextId) (entry : Entry)
    (sequence : Int32) (present : manager.context? key = some entry)
    (away : entry.resident = false) : Balanced 0 (manager.swapIn key entry sequence) := by
  have resident : entryTotal residentCount (manager.swapIn key entry sequence) +
      residentCount entry = entryTotal residentCount manager + 1 :=
    entryTotal_store residentCount key entry
      { entry with sequenceId := sequence, resident := true } present
  rw [(counts_away entry away).1] at resident
  unfold Balanced at balanced
  change manager.freeSequences.length +
    entryTotal residentCount (manager.swapIn key entry sequence) + 0 =
      manager.maxResidentContexts.toNat
  omega

theorem Obtained.balanced {excludedContext : ContextId} {obtained : ContextManager}
    {sequence : Int32} (taken : manager.Obtained excludedContext obtained sequence)
    (balanced : Balanced 0 manager) : Balanced 1 obtained := by
  cases taken with
  | popped sequence rest free => exact balanced.popped sequence rest free
  | swappedOut order key entry exhausted candidate =>
      have eligible := skipped_eq_false excludedContext entry candidate.eligible
      exact balanced.swapOut key entry candidate.present eligible.1

theorem Balanced.insertNew (balanced : Balanced 1 manager) (sequence : Int32)
    (agentId : AgentId) (now : TimePoint)
    (fresh : manager.context? manager.nextContextId = none) :
    Balanced 0 (manager.insertNew sequence agentId now) := by
  have resident : entryTotal residentCount (manager.insertNew sequence agentId now) =
      1 + entryTotal residentCount manager :=
    entryTotal_insertNew residentCount sequence agentId now fresh
  unfold Balanced at balanced
  change manager.freeSequences.length +
    entryTotal residentCount (manager.insertNew sequence agentId now) + 0 =
      manager.maxResidentContexts.toNat
  omega

/-- Writes that leave the residency of an entry alone. -/
theorem Balanced.reown (balanced : Balanced 0 manager) (other : ContextManager)
    (key : ContextId) (old new : Entry) (present : manager.context? key = some old)
    (home : new.resident = old.resident)
    (contexts : other.contexts = (manager.store key new).contexts)
    (free : other.freeSequences = manager.freeSequences)
    (limit : other.maxResidentContexts = manager.maxResidentContexts) :
    Balanced 0 other := by
  have moved := entryTotal_store residentCount key old new present
  rw [← entryTotal_congr residentCount contexts] at moved
  have same : residentCount new = residentCount old := by
    unfold residentCount
    rw [home]
  unfold Balanced at balanced ⊢
  rw [free, limit]
  omega

theorem Balanced.lease (balanced : Balanced 0 manager) (key : ContextId) (entry : Entry)
    (agentId : AgentId) (now : TimePoint) (present : manager.context? key = some entry) :
    Balanced 0 (manager.lease key entry agentId now) := by
  unfold ContextManager.lease shareWith
  cases owned entry agentId with
  | true => exact balanced.reown _ key entry (pin entry now) present rfl rfl rfl rfl
  | false =>
      exact balanced.reown _ key entry
        (pin { entry with owners := UnorderedSet.add entry.owners agentId } now) present
        rfl rfl rfl rfl

theorem Balanced.left (balanced : Balanced 0 manager) (key : ContextId) (old new : Entry)
    (present : manager.context? key = some old) (home : new.resident = old.resident) :
    Balanced 0 (manager.dropOwner.store key new) := by
  apply balanced.reown _ key old new present home
  · change manager.dropOwner.contexts.insert key new = manager.contexts.insert key new
    rw [contexts_dropOwner]
  · exact freeSequences_dropOwner manager
  · change manager.dropOwner.maxResidentContexts = manager.maxResidentContexts
    unfold dropOwner
    split <;> rfl

private theorem maxResidentContexts_removed (key : ContextId) (left : Entry) :
    (manager.dropOwner.removeContext key left).1.maxResidentContexts =
      manager.maxResidentContexts := by
  unfold removeContext dropOwner
  split <;> split <;> rfl

/-- A resident context gives its sequence back. -/
theorem Balanced.removed (balanced : Balanced 0 manager) (key : ContextId) (entry left : Entry)
    (present : manager.context? key = some entry) (home : left.resident = entry.resident) :
    Balanced 0 (manager.dropOwner.removeContext key left).1 := by
  have found : manager.dropOwner.context? key = some entry := by
    rw [context?_dropOwner]
    exact present
  have erased := entryTotal_removeContext residentCount key entry left found
  rw [entryTotal_congr residentCount (contexts_dropOwner manager)] at erased
  unfold Balanced at balanced ⊢
  rw [maxResidentContexts_removed, freeSequences_removeContext, freeSequences_dropOwner, home]
  cases residence : entry.resident with
  | true =>
      rw [(counts_home entry residence).1] at erased
      rw [if_pos rfl, List.length_cons]
      omega
  | false =>
      rw [(counts_away entry residence).1] at erased
      rw [if_neg Bool.false_ne_true]
      omega

theorem Acquired.balanced {agentId parentId : AgentId} {requestedContext : ContextId}
    {now : TimePoint} {after : ContextManager} {result : Option ContextLease}
    (acquired : manager.Acquired agentId parentId requestedContext now after result)
    (balanced : Balanced 0 manager) (fresh : manager.context? manager.nextContextId = none) :
    Balanced 0 after := by
  cases acquired with
  | refused => exact balanced
  | unrestored key entry obtained sequence granted away taken =>
      exact (taken.balanced balanced).pushFree sequence
  | created obtained sequence default stranger room taken =>
      apply (taken.balanced balanced).insertNew sequence agentId now
      rw [taken.nextContextId]
      exact (taken.context?_none _).mpr fresh
  | leased key entry granted home => exact balanced.lease key entry agentId now granted.1
  | restored key entry obtained sequence granted away taken =>
      have swapped := (taken.balanced balanced).swapIn key entry sequence
        (taken.context?_away key entry granted.1 away) away
      apply swapped.lease key { entry with sequenceId := sequence, resident := true } agentId now
      rw [context?_swapIn, if_pos rfl]

theorem step_balanced (operation : Operation) (balanced : Balanced 0 manager)
    (fresh : manager.context? manager.nextContextId = none) :
    Balanced 0 (manager.step operation) := by
  cases operation with
  | acquire agentId parentId requestedContext swap now order =>
      exact (acquire_spec manager agentId parentId requestedContext swap now order).balanced
        balanced fresh
  | finish contextId now =>
      have finished := finish_spec manager contextId now
      change Balanced 0 (manager.finish contextId now).1
      generalize (manager.finish contextId now).1 = after at finished
      generalize (manager.finish contextId now).2.2 = result at finished
      cases finished with
      | refused => exact balanced
      | unpinned entry found pinned =>
          exact balanced.reown _ contextId entry
            { entry with pinCount := entry.pinCount - 1, lastAccess := now } found rfl rfl rfl rfl
  | release agentId parentId contextId now =>
      have released := release_spec manager agentId parentId contextId now
      change Balanced 0 (manager.release agentId parentId contextId now).1
      generalize (manager.release agentId parentId contextId now).1 = after at released
      generalize (manager.release agentId parentId contextId now).2 = result at released
      cases released with
      | refused message => exact balanced
      | left entry owner found chosen member shared =>
          exact balanced.left contextId entry _ found rfl
      | removed entry owner found chosen member last idle =>
          exact balanced.removed contextId entry _ found rfl

theorem pushSequences_length (count : Nat) (free : List Int32) :
    (pushSequences count free).length = count + free.length := by
  induction count generalizing free with
  | zero => exact (Nat.zero_add free.length).symm
  | succ count ih =>
      change (pushSequences count (Int32.ofNat (count + 1) :: free)).length = _
      rw [ih, List.length_cons]
      omega

theorem create_balanced (maxResidentContexts maxLogicalContexts : UInt64) :
    Balanced 0 (create maxResidentContexts maxLogicalContexts) :=
  pushSequences_length _ []

/-! ### The limits -/

/-- The two configured limits. -/
def limits (manager : ContextManager) : UInt64 × UInt64 :=
  (manager.maxResidentContexts, manager.maxLogicalContexts)

private theorem limits_shareWith (entry : Entry) (agentId : AgentId) :
    (manager.shareWith entry agentId).1.limits = manager.limits := by
  unfold shareWith
  split <;> rfl

private theorem limits_dropOwner : manager.dropOwner.limits = manager.limits := by
  unfold dropOwner
  split <;> rfl

private theorem limits_removeContext (key : ContextId) (left : Entry) :
    (manager.removeContext key left).1.limits = manager.limits := by
  unfold removeContext
  cases left.resident <;> rfl

private theorem Obtained.limits {excludedContext : ContextId} {obtained : ContextManager}
    {sequence : Int32} (taken : manager.Obtained excludedContext obtained sequence) :
    obtained.limits = manager.limits := by
  cases taken <;> rfl

theorem Acquired.limits {agentId parentId : AgentId} {requestedContext : ContextId}
    {now : TimePoint} {after : ContextManager} {result : Option ContextLease}
    (acquired : manager.Acquired agentId parentId requestedContext now after result) :
    after.limits = manager.limits := by
  cases acquired with
  | refused => rfl
  | unrestored key entry obtained sequence granted away taken => exact taken.limits
  | created obtained sequence default stranger room taken => exact taken.limits
  | leased key entry granted home => exact limits_shareWith entry agentId
  | restored key entry obtained sequence granted away taken =>
      exact (limits_shareWith _ agentId).trans taken.limits

theorem Finished.limits {contextId : ContextId} {now : TimePoint}
    {after : ContextManager} {result : Bool}
    (finished : manager.Finished contextId now after result) : after.limits = manager.limits := by
  cases finished <;> rfl

theorem Released.limits {agentId parentId : AgentId} {contextId : ContextId}
    {now : TimePoint} {after : ContextManager} {result : Release}
    (released : manager.Released agentId parentId contextId now after result) :
    after.limits = manager.limits := by
  cases released with
  | refused message => rfl
  | left entry owner found chosen member shared => exact limits_dropOwner
  | removed entry owner found chosen member last idle =>
      exact (limits_removeContext contextId _).trans limits_dropOwner

theorem step_limits (operation : Operation) :
    (manager.step operation).limits = manager.limits := by
  cases operation with
  | acquire agentId parentId requestedContext swap now order =>
      exact (acquire_spec manager agentId parentId requestedContext swap now order).limits
  | finish contextId now => exact (finish_spec manager contextId now).limits
  | release agentId parentId contextId now =>
      exact (release_spec manager agentId parentId contextId now).limits

theorem limits_run (maxResidentContexts maxLogicalContexts : UInt64)
    (operations : List Operation) :
    ((machine maxResidentContexts maxLogicalContexts).run operations).limits =
      (create maxResidentContexts maxLogicalContexts).limits :=
  (machine maxResidentContexts maxLogicalContexts).runFrom_invariant
    (fun manager => manager.limits = (create maxResidentContexts maxLogicalContexts).limits)
    (fun _ operation same => (step_limits operation).trans same) _ operations rfl

end AgentNucleus.Top.ContextManager
