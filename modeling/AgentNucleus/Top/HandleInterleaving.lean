/-
Concurrent calls of `TopRuntime::handle`, as far as they touch contexts and
sequences: the `release_context` path and the `generate` path.  A step is one
call of the context manager or of the model library, and any thread may take
the next step.
-/

import AgentNucleus.Top.ContextManager
import Mathlib.Logic.Function.Basic

set_option autoImplicit false

namespace AgentNucleus.Top

open AgentNucleus.Library
open AgentNucleus.Runtime (AgentId ContextId TimePoint)

def kSharedPrefixSlots : UInt64 := 8

/-- The part of the configuration that shapes contexts and sequences. -/
structure TopRuntimeConfig where
  maxContexts : UInt64 := 16
  maxSwappedContexts : UInt64 := 0
  enableContextSwap : Bool := false

namespace TopRuntimeConfig

def maxSize : UInt64 := 0 - 1

def logicalContextLimit (config : TopRuntimeConfig) : UInt64 :=
  if !config.enableContextSwap then config.maxContexts
  else if maxSize - config.maxContexts < config.maxSwappedContexts then maxSize
  else config.maxContexts + config.maxSwappedContexts

/-- `initialize` refuses every other configuration. -/
def accepted (config : TopRuntimeConfig) : Bool :=
  !(config.maxContexts == 0 ||
    (config.enableContextSwap && config.maxSwappedContexts == 0) ||
    config.logicalContextLimit == maxSize ||
    decide (64 - kSharedPrefixSlots - 1 < config.maxContexts))

end TopRuntimeConfig

/-- A configuration that `initialize` has accepted. -/
abbrev AcceptedConfig := { config : TopRuntimeConfig // config.accepted = true }

/-- `seq_state_t`. -/
structure SeqState where
  currentPos : Int32 := 0
  inUse : Bool := false
deriving DecidableEq, Repr

abbrev ThreadId := Nat

/-- Where a thread is inside `handle`. -/
inductive Thread where
  | idle
  /-- `release_context`: the context manager has released, the sequence is not
  cleared yet. -/
  | clearing (sequence : Int32) (contextId : ContextId) (removed : Bool)
  /-- `release_context`: the conversation of the removed context is still stored. -/
  | closing (contextId : ContextId)
  /-- `generate` holds `conversation_mutex_`, here and in the states below. -/
  | generating
  | leased (agentId parentId : AgentId) (lease : ContextLease)
  | finishing (agentId parentId : AgentId) (lease : ContextLease) (undo : Bool)
  | undoing (agentId parentId : AgentId) (lease : ContextLease)
  | wiping (sequence : Int32) (contextId : ContextId)
deriving DecidableEq

structure TopRuntime where
  config : TopRuntimeConfig
  contexts : ContextManager
  seqStates : Int32 → SeqState
  conversations : UnorderedSet ContextId
  conversationMutex : Option ThreadId
  threads : ThreadId → Thread

namespace TopRuntime

/-- After the constructor and a successful `initialize`. -/
def create (config : AcceptedConfig) : TopRuntime :=
  { config := config.val
    contexts := ContextManager.create config.val.maxContexts config.val.logicalContextLimit
    seqStates := fun _ => {}
    conversations := ∅
    conversationMutex := none
    threads := fun _ => .idle }

/-- `n_seq_max - MAX_SHARED_SYS`. -/
def privateSeqLimit (runtime : TopRuntime) : Int :=
  runtime.config.maxContexts.toNat + 1

/-- Sequence numbers outside the private range are ignored. -/
def llmClearSeq (runtime : TopRuntime) (sequence : Int32) : TopRuntime :=
  if sequence.toInt ≤ 0 ∨ runtime.privateSeqLimit ≤ sequence.toInt then runtime
  else { runtime with seqStates := Function.update runtime.seqStates sequence {} }

def goto (runtime : TopRuntime) (thread : ThreadId) (next : Thread) : TopRuntime :=
  { runtime with threads := Function.update runtime.threads thread next }

/-- The end of the scope of `conversation_lock`. -/
def unlock (runtime : TopRuntime) (thread : ThreadId) : TopRuntime :=
  { runtime with conversationMutex := none }.goto thread .idle

/-- `swap_callbacks`, if swapping is configured. -/
def swapCallbacks (runtime : TopRuntime) (save load : SwapCallback) :
    Option ContextSwapCallbacks :=
  if runtime.config.enableContextSwap then some { save := some save, load := some load }
  else none

/-- What the callbacks of one acquire wrote to the sequences. -/
def swapped (runtime : TopRuntime) (writes : Int32 → Option SeqState) : TopRuntime :=
  if runtime.config.enableContextSwap then
    { runtime with
      seqStates := fun sequence => (writes sequence).getD (runtime.seqStates sequence) }
  else runtime

/-! ### The `release_context` path -/

/-- The next statement that does something: the clear needs a released sequence,
the rest a removed context. -/
def afterRelease (outcome : ContextManager.Release) (contextId : ContextId) : Thread :=
  if 0 ≤ outcome.releasedSequence.toInt then
    .clearing outcome.releasedSequence contextId outcome.contextRemoved
  else if outcome.contextRemoved then .closing contextId
  else .idle

def releaseContext (runtime : TopRuntime) (thread : ThreadId) (agentId parentId : AgentId)
    (contextId : ContextId) (now : TimePoint) : TopRuntime :=
  if contextId = 0 then runtime
  else
    let result := runtime.contexts.release agentId parentId contextId now
    if result.2.released then
      { runtime with contexts := result.1 }.goto thread (afterRelease result.2 contextId)
    else { runtime with contexts := result.1 }

def clearReleased (runtime : TopRuntime) (thread : ThreadId) (sequence : Int32)
    (contextId : ContextId) (removed : Bool) : TopRuntime :=
  (runtime.llmClearSeq sequence).goto thread (if removed then .closing contextId else .idle)

/-- The conversation is erased under `conversation_mutex_`. -/
def closeConversation (runtime : TopRuntime) (thread : ThreadId) (contextId : ContextId) :
    TopRuntime :=
  if runtime.conversationMutex.isNone then
    { runtime with
      conversations := UnorderedSet.remove runtime.conversations contextId }.goto thread .idle
  else runtime

/-! ### The `generate` path -/

def beginGenerate (runtime : TopRuntime) (thread : ThreadId) : TopRuntime :=
  if runtime.conversationMutex.isNone then
    { runtime with conversationMutex := some thread }.goto thread .generating
  else runtime

def acquireLease (runtime : TopRuntime) (thread : ThreadId) (agentId parentId : AgentId)
    (requestedContext : ContextId) (save load : SwapCallback) (now : TimePoint)
    (order : IterationOrder ContextId) (writes : Int32 → Option SeqState) : TopRuntime :=
  let result := runtime.contexts.acquire agentId parentId requestedContext
    (runtime.swapCallbacks save load) now order
  let after := { runtime.swapped writes with contexts := result.1 }
  match result.2.2 with
  | none => after.unlock thread
  | some lease =>
      { after with conversations := UnorderedSet.add after.conversations lease.contextId }.goto
        thread (.leased agentId parentId lease)

/-- The returns between the lease and the inference are reached only with an
existing context. -/
def leaveEarly (runtime : TopRuntime) (thread : ThreadId) (agentId parentId : AgentId)
    (lease : ContextLease) : TopRuntime :=
  if lease.created then runtime
  else runtime.goto thread (.finishing agentId parentId lease false)

/-- `llm_inference` on the sequence of the lease; a failure is undone if the
context is new. -/
def infer (runtime : TopRuntime) (thread : ThreadId) (agentId parentId : AgentId)
    (lease : ContextLease) (succeeded : Bool) (state : SeqState) : TopRuntime :=
  { runtime with
    seqStates := Function.update runtime.seqStates lease.sequenceId state }.goto thread
      (.finishing agentId parentId lease (!succeeded && lease.created))

def finishPin (runtime : TopRuntime) (thread : ThreadId) (agentId parentId : AgentId)
    (lease : ContextLease) (undo : Bool) (now : TimePoint) : TopRuntime :=
  let after := { runtime with contexts := (runtime.contexts.finish lease.contextId now).1 }
  if undo then after.goto thread (.undoing agentId parentId lease) else after.unlock thread

/-- `conversations_.erase(lease->context_id)` and the return. -/
def dropConversation (runtime : TopRuntime) (thread : ThreadId) (contextId : ContextId) :
    TopRuntime :=
  { runtime with
    conversations := UnorderedSet.remove runtime.conversations contextId }.unlock thread

def undoCreation (runtime : TopRuntime) (thread : ThreadId) (agentId parentId : AgentId)
    (lease : ContextLease) (now : TimePoint) : TopRuntime :=
  let result := runtime.contexts.release agentId parentId lease.contextId now
  let after := { runtime with contexts := result.1 }
  if result.2.released ∧ 0 ≤ result.2.releasedSequence.toInt then
    after.goto thread (.wiping result.2.releasedSequence lease.contextId)
  else after.dropConversation thread lease.contextId

/-! ### Interleavings -/

/-- The next step of one thread.  An action that does not fit the place where
its thread stands, or that waits for the mutex, leaves everything as it is. -/
inductive Action where
  | release (thread : ThreadId) (agentId parentId : AgentId) (contextId : ContextId)
      (now : TimePoint)
  | clear (thread : ThreadId)
  | close (thread : ThreadId)
  | generate (thread : ThreadId)
  | acquire (thread : ThreadId) (agentId parentId : AgentId) (requestedContext : ContextId)
      (save load : SwapCallback) (now : TimePoint) (order : IterationOrder ContextId)
      (writes : Int32 → Option SeqState)
  | leave (thread : ThreadId)
  | infer (thread : ThreadId) (succeeded : Bool) (state : SeqState)
  | finish (thread : ThreadId) (now : TimePoint)
  | undo (thread : ThreadId) (now : TimePoint)
  | wipe (thread : ThreadId)

def step (runtime : TopRuntime) : Action → TopRuntime
  | .release thread agentId parentId contextId now =>
      match runtime.threads thread with
      | .idle => runtime.releaseContext thread agentId parentId contextId now
      | _ => runtime
  | .clear thread =>
      match runtime.threads thread with
      | .clearing sequence contextId removed =>
          runtime.clearReleased thread sequence contextId removed
      | _ => runtime
  | .close thread =>
      match runtime.threads thread with
      | .closing contextId => runtime.closeConversation thread contextId
      | _ => runtime
  | .generate thread =>
      match runtime.threads thread with
      | .idle => runtime.beginGenerate thread
      | _ => runtime
  | .acquire thread agentId parentId requestedContext save load now order writes =>
      match runtime.threads thread with
      | .generating =>
          runtime.acquireLease thread agentId parentId requestedContext save load now order
            writes
      | _ => runtime
  | .leave thread =>
      match runtime.threads thread with
      | .leased agentId parentId lease => runtime.leaveEarly thread agentId parentId lease
      | _ => runtime
  | .infer thread succeeded state =>
      match runtime.threads thread with
      | .leased agentId parentId lease =>
          runtime.infer thread agentId parentId lease succeeded state
      | _ => runtime
  | .finish thread now =>
      match runtime.threads thread with
      | .finishing agentId parentId lease undo =>
          runtime.finishPin thread agentId parentId lease undo now
      | _ => runtime
  | .undo thread now =>
      match runtime.threads thread with
      | .undoing agentId parentId lease =>
          runtime.undoCreation thread agentId parentId lease now
      | _ => runtime
  | .wipe thread =>
      match runtime.threads thread with
      | .wiping sequence contextId =>
          (runtime.llmClearSeq sequence).dropConversation thread contextId
      | _ => runtime

def machine (config : AcceptedConfig) : Machine TopRuntime Action :=
  { initial := create config
    step := step }

end TopRuntime

end AgentNucleus.Top
