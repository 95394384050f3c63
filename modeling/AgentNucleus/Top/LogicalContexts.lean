/-
What a `ContextManager` is for, without sequences: contexts with owners and open
leases.  Swapping never shows at this level; a manager that can always provide a
sequence gives exactly the answers of the abstract one.
-/

import AgentNucleus.Top.ContextHistory

set_option autoImplicit false

namespace AgentNucleus.Top

open AgentNucleus.Library
open AgentNucleus.Runtime (AgentId ContextId StdString TimePoint text)

structure LogicalContext where
  owners : UnorderedSet AgentId
  pinCount : UInt64

/-- The statistics that do not speak of residency. -/
structure LogicalStats where
  activeContexts : UInt64 := 0
  activeOwners : UInt64 := 0
  createdContexts : UInt64 := 0
  sharedAcquisitions : UInt64 := 0
  releasedContexts : UInt64 := 0
deriving DecidableEq, Repr

structure LogicalContexts where
  maxLogicalContexts : UInt64
  contexts : UnorderedMap ContextId LogicalContext := ∅
  nextContextId : UInt64 := 1
  stats : LogicalStats := {}

namespace LogicalContexts

def hasOwner (context : LogicalContext) (agentId : AgentId) : Bool :=
  UnorderedMap.contains context.owners agentId

/-- The context that a traversal of the given keys finds for an agent. -/
def findForAgent (logical : LogicalContexts) (agentId : AgentId) (visited : List ContextId) :
    Option ContextId :=
  visited.find? fun contextId =>
    match logical.contexts.lookup contextId with
    | none => false
    | some context => hasOwner context agentId

/-- Whom a request for a context is granted: its id, and whether it is new. -/
def granted (logical : LogicalContexts) (agentId parentId : AgentId)
    (requestedContext : ContextId) (visited : List ContextId) :
    Except StdString (ContextId × Bool) :=
  if agentId = 0 then .error (text "agent id 0 cannot own a context")
  else if requestedContext = 0 then
    match logical.findForAgent agentId visited with
    | some existing => .ok (existing, false)
    | none =>
        if logical.maxLogicalContexts.toNat ≤ logical.contexts.keys.length then
          .error (text "logical context capacity is exhausted")
        else .ok (logical.nextContextId, true)
  else
    match logical.contexts.lookup requestedContext with
    | none => .error (text "requested context does not exist")
    | some context =>
        if hasOwner context agentId || (parentId != 0 && hasOwner context parentId) then
          .ok (requestedContext, false)
        else .error (text "context ownership check failed")

def create (logical : LogicalContexts) (agentId : AgentId) : LogicalContexts :=
  { logical with
    contexts := logical.contexts.insert logical.nextContextId
      { owners := UnorderedSet.add ∅ agentId, pinCount := 1 }
    nextContextId := logical.nextContextId + 1
    stats :=
      { logical.stats with
        createdContexts := logical.stats.createdContexts + 1
        activeContexts := logical.stats.activeContexts + 1
        activeOwners := logical.stats.activeOwners + 1 } }

/-- One more lease, and the agent becomes an owner. -/
def lease (logical : LogicalContexts) (contextId : ContextId) (context : LogicalContext)
    (agentId : AgentId) : LogicalContexts :=
  if hasOwner context agentId then
    { logical with
      contexts := logical.contexts.insert contextId
        { context with pinCount := context.pinCount + 1 } }
  else
    { logical with
      contexts := logical.contexts.insert contextId
        { owners := UnorderedSet.add context.owners agentId
          pinCount := context.pinCount + 1 }
      stats :=
        { logical.stats with
          activeOwners := logical.stats.activeOwners + 1
          sharedAcquisitions := logical.stats.sharedAcquisitions + 1 } }

def letIn (logical : LogicalContexts) (agentId : AgentId) (target : ContextId × Bool) :
    LogicalContexts :=
  if target.2 then logical.create agentId
  else
    match logical.contexts.lookup target.1 with
    | none => logical
    | some context => logical.lease target.1 context agentId

def finish (logical : LogicalContexts) (contextId : ContextId) :
    LogicalContexts × Except StdString Unit :=
  match logical.contexts.lookup contextId with
  | none => (logical, .error (text "context does not exist"))
  | some context =>
      if context.pinCount = 0 then (logical, .error (text "context is not pinned"))
      else
        ({ logical with
            contexts := logical.contexts.insert contextId
              { context with pinCount := context.pinCount - 1 } }, .ok ())

def ownerToRelease (context : LogicalContext) (agentId parentId : AgentId) : AgentId :=
  if !hasOwner context agentId && parentId != 0 && hasOwner context parentId then parentId
  else agentId

def dropOwner (logical : LogicalContexts) : LogicalContexts :=
  if 0 < logical.stats.activeOwners then
    { logical with
      stats := { logical.stats with activeOwners := logical.stats.activeOwners - 1 } }
  else logical

def remove (logical : LogicalContexts) (contextId : ContextId) : LogicalContexts :=
  { logical with
    contexts := logical.contexts.erase contextId
    stats :=
      { logical.stats with
        releasedContexts := logical.stats.releasedContexts + 1
        activeContexts := logical.stats.activeContexts - 1 } }

/-- A success tells whether the context has been removed. -/
def release (logical : LogicalContexts) (agentId parentId : AgentId) (contextId : ContextId) :
    LogicalContexts × Except StdString Bool :=
  match logical.contexts.lookup contextId with
  | none => (logical, .error (text "context does not exist"))
  | some context =>
      let owner := ownerToRelease context agentId parentId
      if !hasOwner context owner then
        (logical, .error (text "context ownership check failed"))
      else if context.owners.keys.length = 1 ∧ context.pinCount ≠ 0 then
        (logical, .error (text "context is busy"))
      else
        let left := { context with owners := UnorderedSet.remove context.owners owner }
        if left.owners.keys.isEmpty then (logical.dropOwner.remove contextId, .ok true)
        else
          ({ logical.dropOwner with
              contexts := logical.dropOwner.contexts.insert contextId left }, .ok false)

def acquire (logical : LogicalContexts) (agentId parentId : AgentId)
    (requestedContext : ContextId) (visited : List ContextId) :
    LogicalContexts × Except StdString (ContextId × Bool) :=
  match logical.granted agentId parentId requestedContext visited with
  | .error message => (logical, .error message)
  | .ok target => (logical.letIn agentId target, .ok target)

/-- The calls, with the order in which an acquire visits the contexts. -/
inductive Request where
  | acquire (agentId parentId : AgentId) (requestedContext : ContextId)
      (visited : List ContextId)
  | finish (contextId : ContextId)
  | release (agentId parentId : AgentId) (contextId : ContextId)

/-- What a caller learns, without sequences and restored flags. -/
inductive Answer where
  | acquired (result : Except StdString (ContextId × Bool))
  | finished (result : Except StdString Unit)
  | released (result : Except StdString Bool)

def step (logical : LogicalContexts) : Request → LogicalContexts × Answer
  | .acquire agentId parentId requestedContext visited =>
      ((logical.acquire agentId parentId requestedContext visited).1,
        .acquired (logical.acquire agentId parentId requestedContext visited).2)
  | .finish contextId => ((logical.finish contextId).1, .finished (logical.finish contextId).2)
  | .release agentId parentId contextId =>
      ((logical.release agentId parentId contextId).1,
        .released (logical.release agentId parentId contextId).2)

end LogicalContexts

namespace ContextManager

/-! ### What a manager represents -/

def view (entry : Entry) : LogicalContext :=
  { owners := entry.owners, pinCount := entry.pinCount }

def logicalStats (stats : ContextManagerStats) : LogicalStats :=
  { activeContexts := stats.activeContexts
    activeOwners := stats.activeOwners
    createdContexts := stats.createdContexts
    sharedAcquisitions := stats.sharedAcquisitions
    releasedContexts := stats.releasedContexts }

structure Represents (manager : ContextManager) (logical : LogicalContexts) : Prop where
  contexts : ∀ key, (manager.context? key).map view = logical.contexts.lookup key
  next : manager.nextContextId = logical.nextContextId
  limit : manager.maxLogicalContexts = logical.maxLogicalContexts
  stats : logicalStats manager.stats = logical.stats

variable {manager : ContextManager} {logical : LogicalContexts}

theorem Represents.lookup (represents : Represents manager logical) {key : ContextId}
    {entry : Entry} (present : manager.context? key = some entry) :
    logical.contexts.lookup key = some (view entry) := by
  rw [← represents.contexts key, present]
  rfl

theorem Represents.missing (represents : Represents manager logical) {key : ContextId}
    (absent : manager.context? key = none) : logical.contexts.lookup key = none := by
  rw [← represents.contexts key, absent]
  rfl

/-- The tables have the same keys, so they have the same size. -/
theorem Represents.stored (represents : Represents manager logical) :
    manager.contexts.keys.length = logical.contexts.keys.length := by
  apply List.Perm.length_eq
  rw [List.perm_ext_iff_of_nodup (AList.keys_nodup _) (AList.keys_nodup _)]
  intro key
  have same := represents.contexts key
  rw [← AList.mem_keys, ← AList.mem_keys, ← AList.lookup_isSome, ← AList.lookup_isSome, ← same,
    Option.isSome_map]
  rfl

/-! ### Sequences do not show -/

theorem Represents.congr (represents : Represents manager logical) (other : ContextManager)
    (contexts : ∀ key, (other.context? key).map view = (manager.context? key).map view)
    (next : other.nextContextId = manager.nextContextId)
    (limit : other.maxLogicalContexts = manager.maxLogicalContexts)
    (stats : logicalStats other.stats = logicalStats manager.stats) : Represents other logical :=
  { contexts := fun key => (contexts key).trans (represents.contexts key)
    next := next.trans represents.next
    limit := limit.trans represents.limit
    stats := stats.trans represents.stats }

/-- Writing an entry that looks the same. -/
private theorem view_store (key : ContextId) (old new : Entry)
    (present : manager.context? key = some old) (same : view new = view old)
    (other : ContextId) :
    ((manager.store key new).context? other).map view = (manager.context? other).map view := by
  rw [context?_store]
  by_cases here : other = key
  · rw [if_pos here, here, present]
    exact congrArg some same
  · rw [if_neg here]

theorem Obtained.represents {excludedContext : ContextId} {obtained : ContextManager}
    {sequence : Int32} (taken : manager.Obtained excludedContext obtained sequence)
    (represents : Represents manager logical) : Represents obtained logical := by
  cases taken with
  | popped sequence rest free => exact represents.congr _ (fun _ => rfl) rfl rfl rfl
  | swappedOut order key entry exhausted candidate =>
      refine represents.congr (manager.swapOut key entry) ?_ rfl rfl rfl
      exact view_store key entry { entry with sequenceId := -1, resident := false }
        candidate.present rfl

theorem Represents.swapIn (represents : Represents manager logical) (key : ContextId)
    (entry : Entry) (sequence : Int32) (present : manager.context? key = some entry) :
    Represents (manager.swapIn key entry sequence) logical := by
  refine represents.congr (manager.swapIn key entry sequence) ?_ rfl rfl rfl
  exact view_store key entry { entry with sequenceId := sequence, resident := true } present rfl

/-! ### Acquire -/

theorem Represents.insertNew (represents : Represents manager logical) (sequence : Int32)
    (agentId : AgentId) (now : TimePoint)
    (fresh : manager.context? manager.nextContextId = none) :
    Represents (manager.insertNew sequence agentId now) (logical.create agentId) := by
  have stats := represents.stats
  constructor
  · intro key
    unfold context? LogicalContexts.create
    rw [contexts_insertNew_fresh manager sequence agentId now fresh,
      UnorderedMap.lookup_insert_if, UnorderedMap.lookup_insert_if, represents.next]
    by_cases same : key = logical.nextContextId
    · rw [if_pos same, if_pos same]
      rfl
    · rw [if_neg same, if_neg same]
      exact represents.contexts key
  · change manager.nextContextId + 1 = logical.nextContextId + 1
    rw [represents.next]
  · exact represents.limit
  · unfold LogicalContexts.create
    rw [← stats]
    rfl

theorem Represents.store (represents : Represents manager logical) (key : ContextId)
    (entry : Entry) :
    Represents (manager.store key entry)
      { logical with contexts := logical.contexts.insert key (view entry) } := by
  refine ⟨?_, represents.next, represents.limit, represents.stats⟩
  intro other
  rw [context?_store, UnorderedMap.lookup_insert_if]
  by_cases same : other = key
  · rw [if_pos same, if_pos same]
    rfl
  · rw [if_neg same, if_neg same]
    exact represents.contexts other

theorem Represents.restate (represents : Represents manager logical)
    (stats : ContextManagerStats) :
    Represents { manager with stats := stats } { logical with stats := logicalStats stats } :=
  ⟨represents.contexts, represents.next, represents.limit, rfl⟩

theorem Represents.lease (represents : Represents manager logical) (key : ContextId)
    (entry : Entry) (agentId : AgentId) (now : TimePoint) :
    Represents (manager.lease key entry agentId now)
      (logical.lease key (view entry) agentId) := by
  obtain ⟨limit, contexts, next, stats⟩ := logical
  have named : logicalStats manager.stats = stats := represents.stats
  subst named
  have same : LogicalContexts.hasOwner (view entry) agentId = owned entry agentId := rfl
  unfold ContextManager.lease shareWith LogicalContexts.lease
  rw [same]
  cases owned entry agentId with
  | true => exact represents.store key (pin entry now)
  | false =>
      exact (represents.restate
        { manager.stats with
          activeOwners := manager.stats.activeOwners + 1
          sharedAcquisitions := manager.stats.sharedAcquisitions + 1 }).store key
        (pin { entry with owners := UnorderedSet.add entry.owners agentId } now)

private theorem Represents.admit_stored (represents : Represents manager logical)
    (sound : manager.Sound) (agentId : AgentId) (key : ContextId) (entry : Entry)
    (present : manager.context? key = some entry) :
    logical.letIn agentId (entry.id, false) = logical.lease key (view entry) agentId := by
  unfold LogicalContexts.letIn
  rw [if_neg Bool.false_ne_true, (sound key entry present).ownId, represents.lookup present]

/-- The contexts after an acquire with the given result. -/
def admitted (logical : LogicalContexts) (agentId : AgentId) :
    Option ContextLease → LogicalContexts
  | none => logical
  | some lease => logical.letIn agentId (lease.contextId, lease.created)

/-- What a call does to the contexts is told by the lease it returns. -/
theorem Acquired.represents {agentId parentId : AgentId} {requestedContext : ContextId}
    {now : TimePoint} {after : ContextManager} {result : Option ContextLease}
    (acquired : manager.Acquired agentId parentId requestedContext now after result)
    (represents : Represents manager logical) (sound : manager.Sound)
    (fresh : manager.context? manager.nextContextId = none) :
    Represents after (admitted logical agentId result) := by
  cases acquired with
  | refused => exact represents
  | unrestored key entry obtained sequence granted away taken =>
      exact (taken.represents represents).congr _ (fun _ => rfl) rfl rfl rfl
  | created obtained sequence default stranger room taken =>
      apply (taken.represents represents).insertNew sequence agentId now
      rw [taken.nextContextId]
      exact (taken.context?_none _).mpr fresh
  | leased key entry granted home =>
      change Represents _ (logical.letIn agentId (entry.id, false))
      rw [represents.admit_stored sound agentId key entry granted.1]
      exact represents.lease key entry agentId now
  | restored key entry obtained sequence granted away taken =>
      have still := taken.context?_away key entry granted.1 away
      change Represents _ (logical.letIn agentId (entry.id, false))
      rw [represents.admit_stored sound agentId key entry granted.1]
      exact ((taken.represents represents).swapIn key entry sequence still).lease key
        { entry with sequenceId := sequence, resident := true } agentId now

/-- The manager can provide a sequence whenever a call needs one. -/
structure Serving (manager : ContextManager) (swap : Option ContextSwapCallbacks)
    (order : IterationOrder ContextId) : Prop where
  obtains : manager.contexts.keys.length < manager.maxLogicalContexts.toNat →
    ∃ after written sequence,
      manager.obtainSequenceLocked 0 swap [] order = (after, written, some sequence)
  restores : ∀ key entry, manager.context? key = some entry →
    ∃ after written current,
      manager.makeResidentLocked key entry swap [] order = (after, written, some current) ∧
        current.id = entry.id

/-- What an acquire answers, without the sequence and the restored flag. -/
def answerOfAcquire (result : ContextManager × StdString × Option ContextLease) :
    Except StdString (ContextId × Bool) :=
  match result.2.2 with
  | none => .error result.2.1
  | some lease => .ok (lease.contextId, lease.created)

private theorem Represents.findForAgent (represents : Represents manager logical)
    (agentId : AgentId) (order : IterationOrder ContextId) :
    logical.findForAgent agentId (manager.traversal order) =
      manager.findForAgentLocked agentId order := by
  unfold LogicalContexts.findForAgent findForAgentLocked
  congr 1
  funext key
  rw [← represents.contexts key]
  cases manager.context? key with
  | none => rfl
  | some entry => rfl

private theorem acquireExisting_answer (sound : manager.Sound) (key : ContextId) (entry : Entry)
    (present : manager.context? key = some entry) (swap : Option ContextSwapCallbacks)
    (now : TimePoint) (order : IterationOrder ContextId)
    (serving : Serving manager swap order) :
    answerOfAcquire (manager.acquireExisting key swap now order) = .ok (key, false) := by
  obtain ⟨after, written, current, made, sameId⟩ := serving.restores key entry present
  unfold acquireExisting
  simp only [present, made]
  change Except.ok (current.id, false) = _
  rw [sameId, (sound key entry present).ownId]

private theorem acquireRequested_answer (represents : Represents manager logical)
    (sound : manager.Sound) (agentId parentId : AgentId) (requestedContext : ContextId)
    (named : agentId ≠ 0) (requested : requestedContext ≠ 0)
    (swap : Option ContextSwapCallbacks) (now : TimePoint) (order : IterationOrder ContextId)
    (serving : Serving manager swap order) :
    answerOfAcquire (manager.acquireRequested agentId parentId requestedContext swap now order) =
      logical.granted agentId parentId requestedContext (manager.traversal order) := by
  unfold acquireRequested LogicalContexts.granted
  rw [if_neg named, if_neg requested]
  cases present : manager.context? requestedContext with
  | none =>
      rw [represents.missing present]
      rfl
  | some entry =>
      rw [represents.lookup present]
      have authorized : (LogicalContexts.hasOwner (view entry) agentId ||
          (parentId != 0 && LogicalContexts.hasOwner (view entry) parentId)) =
            authorizedLocked entry agentId parentId := rfl
      simp only [authorized]
      cases authorizedLocked entry agentId parentId with
      | false => rfl
      | true =>
          obtain ⟨after, written, current, made, sameId⟩ :=
            serving.restores requestedContext entry present
          simp only [Bool.not_true, Bool.false_eq_true, if_false, if_true, made,
            leaseOf_shareWith]
          change Except.ok (current.id, false) = _
          rw [sameId, (sound requestedContext entry present).ownId]

/-- A manager that can always provide a sequence answers like the abstract one. -/
theorem Represents.acquire_answer (represents : Represents manager logical)
    (sound : manager.Sound) (agentId parentId : AgentId) (requestedContext : ContextId)
    (swap : Option ContextSwapCallbacks) (now : TimePoint) (order : IterationOrder ContextId)
    (serving : Serving manager swap order) :
    answerOfAcquire (manager.acquire agentId parentId requestedContext swap now order) =
      logical.granted agentId parentId requestedContext (manager.traversal order) := by
  unfold acquire
  by_cases anonymous : agentId = 0
  · unfold LogicalContexts.granted
    rw [if_pos anonymous, if_pos anonymous]
    rfl
  · rw [if_neg anonymous]
    by_cases default : requestedContext = 0
    · unfold LogicalContexts.granted
      rw [if_pos default, if_neg anonymous, if_pos default, represents.findForAgent]
      cases search : manager.findForAgentLocked agentId order with
      | some existing =>
          obtain ⟨entry, present, owner⟩ :=
            findForAgentLocked_some manager agentId order existing search
          exact acquireExisting_answer sound existing entry present swap now order serving
      | none =>
          change answerOfAcquire (manager.acquireNew agentId swap now order) = if _ then _ else _
          unfold acquireNew
          rw [← represents.limit, ← represents.stored]
          by_cases full : manager.maxLogicalContexts.toNat ≤ manager.contexts.keys.length
          · rw [if_pos full, if_pos full]
            rfl
          · rw [if_neg full, if_neg full]
            obtain ⟨obtained, written, sequence, sought⟩ := serving.obtains (not_le.mp full)
            have taken := obtainSequenceLocked_some manager 0 swap [] order obtained written
              sequence sought
            simp only [sought]
            change Except.ok (obtained.nextContextId, true) = _
            rw [taken.nextContextId, represents.next]
    · rw [if_neg default]
      exact acquireRequested_answer represents sound agentId parentId requestedContext anonymous
        default swap now order serving

theorem Represents.acquire (represents : Represents manager logical) (sound : manager.Sound)
    (fresh : manager.context? manager.nextContextId = none) (agentId parentId : AgentId)
    (requestedContext : ContextId) (swap : Option ContextSwapCallbacks) (now : TimePoint)
    (order : IterationOrder ContextId) (serving : Serving manager swap order) :
    Represents (manager.acquire agentId parentId requestedContext swap now order).1
        (logical.acquire agentId parentId requestedContext (manager.traversal order)).1 ∧
      (logical.acquire agentId parentId requestedContext (manager.traversal order)).2 =
        answerOfAcquire
          (manager.acquire agentId parentId requestedContext swap now order) := by
  have answer := represents.acquire_answer sound agentId parentId requestedContext swap now order
    serving
  have after := (acquire_spec manager agentId parentId requestedContext swap now order).represents
    represents sound fresh
  unfold LogicalContexts.acquire
  rw [← answer]
  unfold answerOfAcquire
  cases given : (manager.acquire agentId parentId requestedContext swap now order).2.2 with
  | none =>
      rw [given] at after
      exact ⟨after, rfl⟩
  | some lease =>
      rw [given] at after
      exact ⟨after, rfl⟩

/-! ### Finish and release -/

theorem Represents.finish (represents : Represents manager logical) (contextId : ContextId)
    (now : TimePoint) :
    Represents (manager.finish contextId now).1 (logical.finish contextId).1 ∧
      (logical.finish contextId).2 =
        if (manager.finish contextId now).2.2 then .ok ()
        else .error (manager.finish contextId now).2.1 := by
  unfold ContextManager.finish LogicalContexts.finish
  cases present : manager.context? contextId with
  | none =>
      rw [represents.missing present]
      exact ⟨represents, rfl⟩
  | some entry =>
      rw [represents.lookup present]
      by_cases unpinned : entry.pinCount = 0
      · have same : (view entry).pinCount = 0 := unpinned
        simp only [if_pos unpinned, if_pos same]
        exact ⟨represents, rfl⟩
      · have same : ¬(view entry).pinCount = 0 := unpinned
        simp only [if_neg unpinned, if_neg same]
        exact ⟨represents.store contextId
          { entry with pinCount := entry.pinCount - 1, lastAccess := now }, rfl⟩

theorem Represents.dropOwner (represents : Represents manager logical) :
    Represents manager.dropOwner logical.dropOwner := by
  obtain ⟨limit, contexts, next, stats⟩ := logical
  have named : logicalStats manager.stats = stats := represents.stats
  subst named
  unfold ContextManager.dropOwner LogicalContexts.dropOwner
  by_cases positive : 0 < manager.stats.activeOwners
  · have same : 0 < (logicalStats manager.stats).activeOwners := positive
    simp only [if_pos positive, if_pos same]
    exact represents.restate
      { manager.stats with activeOwners := manager.stats.activeOwners - 1 }
  · have same : ¬0 < (logicalStats manager.stats).activeOwners := positive
    simp only [if_neg positive, if_neg same]
    exact represents

theorem Represents.removeContext (represents : Represents manager logical)
    (key : ContextId) (left : Entry) :
    Represents (manager.removeContext key left).1 (logical.remove key) := by
  constructor
  · intro other
    rw [context?_removeContext]
    unfold LogicalContexts.remove
    by_cases same : other = key
    · rw [if_pos same, same]
      exact (AList.lookup_erase key logical.contexts).symm
    · rw [if_neg same]
      exact (represents.contexts other).trans (AList.lookup_erase_ne same).symm
  · rw [nextContextId_removeContext]
    exact represents.next
  · unfold ContextManager.removeContext
    cases left.resident with
    | true => exact represents.limit
    | false => exact represents.limit
  · unfold ContextManager.removeContext LogicalContexts.remove
    rw [← represents.stats]
    cases left.resident with
    | true => rfl
    | false => rfl

/-- What a release answers, without the sequence. -/
def Release.answer (result : Release) : Except StdString Bool :=
  if result.released then .ok result.contextRemoved else .error result.error

theorem Represents.release (represents : Represents manager logical)
    (agentId parentId : AgentId) (contextId : ContextId) (now : TimePoint) :
    Represents (manager.release agentId parentId contextId now).1
        (logical.release agentId parentId contextId).1 ∧
      (logical.release agentId parentId contextId).2 =
        (manager.release agentId parentId contextId now).2.answer := by
  unfold ContextManager.release LogicalContexts.release
  cases present : manager.context? contextId with
  | none =>
      rw [represents.missing present]
      exact ⟨represents, rfl⟩
  | some entry =>
      rw [represents.lookup present]
      have chosen : LogicalContexts.ownerToRelease (view entry) agentId parentId =
          ownerToRelease entry agentId parentId := rfl
      have member : LogicalContexts.hasOwner (view entry)
          (ownerToRelease entry agentId parentId) =
            owned entry (ownerToRelease entry agentId parentId) := rfl
      simp only [chosen, member]
      cases owned entry (ownerToRelease entry agentId parentId) with
      | false => exact ⟨represents, rfl⟩
      | true =>
          simp only [Bool.not_true, Bool.false_eq_true, if_false]
          by_cases busy : entry.owners.keys.length = 1 ∧ entry.pinCount ≠ 0
          · have same : (view entry).owners.keys.length = 1 ∧ (view entry).pinCount ≠ 0 := busy
            rw [if_pos busy, if_pos same]
            exact ⟨represents, rfl⟩
          · have same : ¬((view entry).owners.keys.length = 1 ∧ (view entry).pinCount ≠ 0) := busy
            rw [if_neg busy, if_neg same]
            have viewed : (view entry).owners = entry.owners := rfl
            simp only [viewed]
            by_cases last : (UnorderedSet.remove entry.owners
                (ownerToRelease entry agentId parentId)).keys.isEmpty = true
            · simp only [if_pos last]
              exact ⟨represents.dropOwner.removeContext contextId _, rfl⟩
            · simp only [if_neg last]
              exact ⟨represents.dropOwner.store contextId
                { entry with
                  owners := UnorderedSet.remove entry.owners
                    (ownerToRelease entry agentId parentId)
                  lastAccess := now }, rfl⟩

/-! ### Every call -/

/-- The call as the abstract contexts see it. -/
def request (manager : ContextManager) : Operation → LogicalContexts.Request
  | .acquire agentId parentId requestedContext _ _ order =>
      .acquire agentId parentId requestedContext (manager.traversal order)
  | .finish contextId _ => .finish contextId
  | .release agentId parentId contextId _ => .release agentId parentId contextId

def answer (manager : ContextManager) : Operation → LogicalContexts.Answer
  | .acquire agentId parentId requestedContext swap now order =>
      .acquired
        (answerOfAcquire (manager.acquire agentId parentId requestedContext swap now order))
  | .finish contextId now =>
      .finished
        (if (manager.finish contextId now).2.2 then .ok ()
          else .error (manager.finish contextId now).2.1)
  | .release agentId parentId contextId now =>
      .released (manager.release agentId parentId contextId now).2.answer

/-- An acquire meets a manager that can provide a sequence. -/
def Served (manager : ContextManager) : Operation → Prop
  | .acquire _ _ _ swap _ order => Serving manager swap order
  | .finish _ _ => True
  | .release _ _ _ _ => True

/-- The manager refines the abstract contexts, step by step. -/
theorem Represents.step (represents : Represents manager logical) (sound : manager.Sound)
    (fresh : manager.context? manager.nextContextId = none) (operation : Operation)
    (served : Served manager operation) :
    Represents (manager.step operation) (logical.step (manager.request operation)).1 ∧
      (logical.step (manager.request operation)).2 = manager.answer operation := by
  cases operation with
  | acquire agentId parentId requestedContext swap now order =>
      have refined := represents.acquire sound fresh agentId parentId requestedContext swap now
        order served
      exact ⟨refined.1, congrArg LogicalContexts.Answer.acquired refined.2⟩
  | finish contextId now =>
      have refined := represents.finish contextId now
      exact ⟨refined.1, congrArg LogicalContexts.Answer.finished refined.2⟩
  | release agentId parentId contextId now =>
      have refined := represents.release agentId parentId contextId now
      exact ⟨refined.1, congrArg LogicalContexts.Answer.released refined.2⟩

end ContextManager

end AgentNucleus.Top
