/-
`ContextManager`: the contexts of one model, the sequences of its KV cache that
they occupy, and the leases agents take on them.  Each public operation is one
atomic step, as every one of them holds `mutex_`.
-/

import AgentNucleus.Library.Machine
import AgentNucleus.Library.UnorderedMap
import AgentNucleus.Runtime.Types

set_option autoImplicit false

namespace AgentNucleus.Top

open AgentNucleus.Library
open AgentNucleus.Runtime (AgentId ContextId StdString TimePoint text)

structure ContextLease where
  contextId : ContextId := 0
  sequenceId : Int32 := -1
  created : Bool := false
  restored : Bool := false
deriving DecidableEq, Repr

/-- A callback sees the error text written so far and may extend it.  Nothing is
known about its result. -/
abbrev SwapCallback := ContextId → Int32 → StdString → Bool × StdString

/-- An empty `std::function` is `none`. -/
structure ContextSwapCallbacks where
  save : Option SwapCallback := none
  load : Option SwapCallback := none

structure ContextManagerStats where
  activeContexts : UInt64 := 0
  activeOwners : UInt64 := 0
  residentContexts : UInt64 := 0
  swappedContexts : UInt64 := 0
  createdContexts : UInt64 := 0
  sharedAcquisitions : UInt64 := 0
  releasedContexts : UInt64 := 0
  swapOuts : UInt64 := 0
  swapIns : UInt64 := 0
deriving DecidableEq, Repr

structure Entry where
  id : ContextId := 0
  sequenceId : Int32 := -1
  resident : Bool := true
  pinCount : UInt64 := 0
  owners : UnorderedSet AgentId := ∅
  lastAccess : TimePoint := 0

/-- The vector `free_sequences_` is a stack: its back is the head of the list. -/
structure ContextManager where
  maxResidentContexts : UInt64
  maxLogicalContexts : UInt64
  contexts : UnorderedMap ContextId Entry := ∅
  freeSequences : List Int32
  nextContextId : UInt64 := 1
  stats : ContextManagerStats := {}

namespace ContextManager

/-- The loop of the constructor: it counts down and casts every value to `int`. -/
def pushSequences : Nat → List Int32 → List Int32
  | 0, free => free
  | sequence + 1, free => pushSequences sequence (Int32.ofNat (sequence + 1) :: free)

def create (maxResidentContexts maxLogicalContexts : UInt64) : ContextManager :=
  let resident := max 1 maxResidentContexts
  { maxResidentContexts := resident
    maxLogicalContexts :=
      max resident (if maxLogicalContexts = 0 then resident else maxLogicalContexts)
    freeSequences := pushSequences resident.toNat [] }

def context? (manager : ContextManager) (id : ContextId) : Option Entry :=
  manager.contexts.lookup id

/-- Writing through an `Entry &` that refers to the entry of `id`. -/
def store (manager : ContextManager) (id : ContextId) (entry : Entry) : ContextManager :=
  { manager with contexts := manager.contexts.insert id entry }

/-- `free_sequences_.push_back(sequence)`. -/
def pushFree (manager : ContextManager) (sequence : Int32) : ContextManager :=
  { manager with freeSequences := sequence :: manager.freeSequences }

def owned (entry : Entry) (agentId : AgentId) : Bool :=
  UnorderedMap.contains entry.owners agentId

/-- The keys of `contexts_` in the order of one traversal. -/
def traversal (manager : ContextManager) (order : IterationOrder ContextId) : List ContextId :=
  order.visit manager.contexts.keys

def findForAgentLocked (manager : ContextManager) (agentId : AgentId)
    (order : IterationOrder ContextId) : Option ContextId :=
  (manager.traversal order).find? fun contextId =>
    match manager.context? contextId with
    | none => false
    | some entry => owned entry agentId

def authorizedLocked (entry : Entry) (agentId parentId : AgentId) : Bool :=
  owned entry agentId || (parentId != 0 && owned entry parentId)

/-! ### Obtaining a sequence -/

/-- What disqualifies an entry from being swapped out. -/
def skipped (excludedContext : ContextId) (entry : Entry) : Bool :=
  !entry.resident || entry.pinCount != 0 || entry.id == excludedContext

/-- One turn of the search for the least recently used entry; the candidate is
an iterator, hence a key with its entry. -/
def considerCandidate (manager : ContextManager) (excludedContext : ContextId)
    (candidate : Option (ContextId × Entry)) (current : ContextId) :
    Option (ContextId × Entry) :=
  match manager.context? current with
  | none => candidate
  | some entry =>
      if skipped excludedContext entry then candidate
      else
        match candidate with
        | none => some (current, entry)
        | some best =>
            if entry.lastAccess < best.2.lastAccess then some (current, entry) else some best

def swapOutCandidate (manager : ContextManager) (excludedContext : ContextId)
    (order : IterationOrder ContextId) : Option (ContextId × Entry) :=
  (manager.traversal order).foldl (manager.considerCandidate excludedContext) none

/-- The writes to the candidate after a successful save. -/
def swapOut (manager : ContextManager) (key : ContextId) (entry : Entry) : ContextManager :=
  { manager.store key { entry with sequenceId := -1, resident := false } with
    stats :=
      { manager.stats with
        swapOuts := manager.stats.swapOuts + 1
        residentContexts := manager.stats.residentContexts - 1
        swappedContexts := manager.stats.swappedContexts + 1 } }

/-- `if (error->empty()) *error = message;` -/
def orMessage (error message : StdString) : StdString :=
  if error.isEmpty then message else error

/-- `std::function` members are called only when they are set, and `swap` itself
may be null. -/
def saveCallback (swap : Option ContextSwapCallbacks) : Option SwapCallback :=
  swap.bind ContextSwapCallbacks.save

def loadCallback (swap : Option ContextSwapCallbacks) : Option SwapCallback :=
  swap.bind ContextSwapCallbacks.load

def obtainSequenceLocked (manager : ContextManager) (excludedContext : ContextId)
    (swap : Option ContextSwapCallbacks) (error : StdString)
    (order : IterationOrder ContextId) : ContextManager × StdString × Option Int32 :=
  match manager.freeSequences with
  | sequence :: rest => ({ manager with freeSequences := rest }, error, some sequence)
  | [] =>
      match saveCallback swap with
      | none => (manager, text "all model contexts are in use", none)
      | some save =>
          match manager.swapOutCandidate excludedContext order with
          | none =>
              (manager, text "all resident contexts are pinned by active requests", none)
          | some candidate =>
              match save candidate.2.id candidate.2.sequenceId error with
              | (false, written) =>
                  (manager,
                    orMessage written (text "cannot swap out least-recently-used context"),
                    none)
              | (true, written) =>
                  (manager.swapOut candidate.1 candidate.2, written,
                    some candidate.2.sequenceId)

/-- The writes to `*entry` and the statistics after a successful load. -/
def swapIn (manager : ContextManager) (key : ContextId) (entry : Entry)
    (sequence : Int32) : ContextManager :=
  { manager.store key { entry with sequenceId := sequence, resident := true } with
    stats :=
      { manager.stats with
        swapIns := manager.stats.swapIns + 1
        residentContexts := manager.stats.residentContexts + 1
        swappedContexts := manager.stats.swappedContexts - 1 } }

/-- `entry` is the entry of `key`.  It is swapped out when a sequence is sought
for it, so the search cannot write to it.  The result is the entry as it is
after a success. -/
def makeResidentLocked (manager : ContextManager) (key : ContextId) (entry : Entry)
    (swap : Option ContextSwapCallbacks) (error : StdString)
    (order : IterationOrder ContextId) : ContextManager × StdString × Option Entry :=
  if entry.resident then (manager, error, some entry)
  else
    match loadCallback swap with
    | none => (manager, text "context is swapped out", none)
    | some load =>
        match manager.obtainSequenceLocked entry.id swap error order with
        | (obtained, failure, none) => (obtained, failure, none)
        | (obtained, written, some sequence) =>
            match load entry.id sequence written with
            | (false, failure) =>
                (obtained.pushFree sequence,
                  orMessage failure (text "cannot restore swapped context"), none)
            | (true, loaded) =>
                (obtained.swapIn key entry sequence, loaded,
                  some { entry with sequenceId := sequence, resident := true })

/-! ### Acquire, finish and release -/

/-- `entry.last_access = now; ++entry.pin_count;` -/
def pin (entry : Entry) (now : TimePoint) : Entry :=
  { entry with lastAccess := now, pinCount := entry.pinCount + 1 }

def leaseOf (entry : Entry) (wasSwapped : Bool) : ContextLease :=
  { contextId := entry.id
    sequenceId := entry.sequenceId
    created := false
    restored := wasSwapped }

def newEntry (id : ContextId) (sequence : Int32) (agentId : AgentId) (now : TimePoint) : Entry :=
  { id := id
    sequenceId := sequence
    resident := true
    pinCount := 1
    owners := UnorderedSet.add ∅ agentId
    lastAccess := now }

/-- An id that is in use again makes `emplace` drop the new entry. -/
def insertNew (manager : ContextManager) (sequence : Int32) (agentId : AgentId)
    (now : TimePoint) : ContextManager :=
  { manager with
    contexts := manager.contexts.emplace manager.nextContextId
      (newEntry manager.nextContextId sequence agentId now)
    nextContextId := manager.nextContextId + 1
    stats :=
      { manager.stats with
        createdContexts := manager.stats.createdContexts + 1
        activeContexts := manager.stats.activeContexts + 1
        activeOwners := manager.stats.activeOwners + 1
        residentContexts := manager.stats.residentContexts + 1 } }

/-- The default branch for an agent that owns no context yet. -/
def acquireNew (manager : ContextManager) (agentId : AgentId)
    (swap : Option ContextSwapCallbacks) (now : TimePoint)
    (order : IterationOrder ContextId) : ContextManager × StdString × Option ContextLease :=
  if manager.maxLogicalContexts.toNat ≤ manager.contexts.keys.length then
    (manager, text "logical context capacity is exhausted", none)
  else
    match manager.obtainSequenceLocked 0 swap [] order with
    | (obtained, failure, none) => (obtained, failure, none)
    | (obtained, written, some sequence) =>
        (obtained.insertNew sequence agentId now, written,
          some { contextId := obtained.nextContextId
                 sequenceId := sequence
                 created := true
                 restored := false })

/-- The default branch for an agent that owns `existing`. -/
def acquireExisting (manager : ContextManager) (existing : ContextId)
    (swap : Option ContextSwapCallbacks) (now : TimePoint)
    (order : IterationOrder ContextId) : ContextManager × StdString × Option ContextLease :=
  match manager.context? existing with
  | none => (manager, [], none)
  | some entry =>
      match manager.makeResidentLocked existing entry swap [] order with
      | (after, failure, none) => (after, failure, none)
      | (after, written, some current) =>
          (after.store existing (pin current now), written,
            some (leaseOf current (!entry.resident)))

/-- `if (entry.owners.insert(agent_id).second) { … }` -/
def shareWith (manager : ContextManager) (entry : Entry) (agentId : AgentId) :
    ContextManager × Entry :=
  if owned entry agentId then (manager, entry)
  else
    ({ manager with
        stats :=
          { manager.stats with
            activeOwners := manager.stats.activeOwners + 1
            sharedAcquisitions := manager.stats.sharedAcquisitions + 1 } },
      { entry with owners := UnorderedSet.add entry.owners agentId })

def acquireRequested (manager : ContextManager) (agentId parentId : AgentId)
    (requestedContext : ContextId) (swap : Option ContextSwapCallbacks) (now : TimePoint)
    (order : IterationOrder ContextId) : ContextManager × StdString × Option ContextLease :=
  match manager.context? requestedContext with
  | none => (manager, text "requested context does not exist", none)
  | some entry =>
      if !authorizedLocked entry agentId parentId then
        (manager, text "context ownership check failed", none)
      else
        match manager.makeResidentLocked requestedContext entry swap [] order with
        | (after, failure, none) => (after, failure, none)
        | (after, written, some current) =>
            let shared := after.shareWith current agentId
            (shared.1.store requestedContext (pin shared.2 now), written,
              some (leaseOf shared.2 (!entry.resident)))

/-- Both traversals of one call meet the same table, hence in the same order. -/
def acquire (manager : ContextManager) (agentId parentId : AgentId)
    (requestedContext : ContextId) (swap : Option ContextSwapCallbacks) (now : TimePoint)
    (order : IterationOrder ContextId) : ContextManager × StdString × Option ContextLease :=
  if agentId = 0 then (manager, text "agent id 0 cannot own a context", none)
  else if requestedContext = 0 then
    match manager.findForAgentLocked agentId order with
    | some existing => manager.acquireExisting existing swap now order
    | none => manager.acquireNew agentId swap now order
  else manager.acquireRequested agentId parentId requestedContext swap now order

def finish (manager : ContextManager) (contextId : ContextId) (now : TimePoint) :
    ContextManager × StdString × Bool :=
  match manager.context? contextId with
  | none => (manager, text "context does not exist", false)
  | some entry =>
      if entry.pinCount = 0 then (manager, text "context is not pinned", false)
      else
        (manager.store contextId
            { entry with pinCount := entry.pinCount - 1, lastAccess := now },
          [], true)

/-- What `release` returns and writes through its pointers. -/
structure Release where
  released : Bool
  releasedSequence : Int32 := -1
  error : StdString := []
  contextRemoved : Bool := false
deriving DecidableEq, Repr

def Release.rejected (message : StdString) : Release := { released := false, error := message }

/-- The parent's ownership is given up only if the agent has none itself. -/
def ownerToRelease (entry : Entry) (agentId parentId : AgentId) : AgentId :=
  if !owned entry agentId && parentId != 0 && owned entry parentId then parentId else agentId

/-- `if (stats_.active_owners > 0) --stats_.active_owners;` -/
def dropOwner (manager : ContextManager) : ContextManager :=
  if 0 < manager.stats.activeOwners then
    { manager with
      stats := { manager.stats with activeOwners := manager.stats.activeOwners - 1 } }
  else manager

/-- The last owner has left: the sequence of a resident context becomes free. -/
def removeContext (manager : ContextManager) (contextId : ContextId) (entry : Entry) :
    ContextManager × Release :=
  let returned : ContextManager :=
    if entry.resident then
      { manager.pushFree entry.sequenceId with
        stats :=
          { manager.stats with residentContexts := manager.stats.residentContexts - 1 } }
    else
      { manager with
        stats := { manager.stats with swappedContexts := manager.stats.swappedContexts - 1 } }
  ({ returned with
      contexts := returned.contexts.erase contextId
      stats :=
        { returned.stats with
          releasedContexts := returned.stats.releasedContexts + 1
          activeContexts := returned.stats.activeContexts - 1 } },
    { released := true
      releasedSequence := if entry.resident then entry.sequenceId else -1
      contextRemoved := true })

def release (manager : ContextManager) (agentId parentId : AgentId) (contextId : ContextId)
    (now : TimePoint) : ContextManager × Release :=
  match manager.context? contextId with
  | none => (manager, .rejected (text "context does not exist"))
  | some entry =>
      let owner := ownerToRelease entry agentId parentId
      if !owned entry owner then (manager, .rejected (text "context ownership check failed"))
      else if entry.owners.keys.length = 1 ∧ entry.pinCount ≠ 0 then
        (manager, .rejected (text "context is busy"))
      else
        let left := { entry with owners := UnorderedSet.remove entry.owners owner }
        if left.owners.keys.isEmpty then manager.dropOwner.removeContext contextId left
        else
          (manager.dropOwner.store contextId { left with lastAccess := now },
            { released := true })

def owns (manager : ContextManager) (agentId : AgentId) (contextId : ContextId) : Bool :=
  match manager.context? contextId with
  | none => false
  | some entry => owned entry agentId

/-! ### Runs -/

/-- The public operations that change the manager, with the callbacks, the clock
and the iteration order each call meets. -/
inductive Operation where
  | acquire (agentId parentId : AgentId) (requestedContext : ContextId)
      (swap : Option ContextSwapCallbacks) (now : TimePoint) (order : IterationOrder ContextId)
  | finish (contextId : ContextId) (now : TimePoint)
  | release (agentId parentId : AgentId) (contextId : ContextId) (now : TimePoint)

def step (manager : ContextManager) : Operation → ContextManager
  | .acquire agentId parentId requestedContext swap now order =>
      (manager.acquire agentId parentId requestedContext swap now order).1
  | .finish contextId now => (manager.finish contextId now).1
  | .release agentId parentId contextId now => (manager.release agentId parentId contextId now).1

def machine (maxResidentContexts maxLogicalContexts : UInt64) :
    Machine ContextManager Operation :=
  { initial := create maxResidentContexts maxLogicalContexts
    step := step }

end ContextManager

end AgentNucleus.Top
