/-
`TopRuntime::handle` with everything it stores: contexts, conversations,
snapshots, their files and the loaded model.  One call runs at a time.  What is
outside answers as it likes: the file system, llama.cpp, the chat template, the
clock and the cancellation callback.  How a payload is parsed does not matter to
the stores, so that a call carries what it is parsed to.
-/

import AgentNucleus.Runtime.InvocationProtocol
import AgentNucleus.Top.HandleInterleaving
import AgentNucleus.Top.LlamaModel

set_option autoImplicit false

namespace AgentNucleus.Runtime

def InvocationStatus.ok : InvocationStatus := ⟨0⟩
def InvocationStatus.rejected : InvocationStatus := ⟨1⟩
def InvocationStatus.cancelled : InvocationStatus := ⟨3⟩

end AgentNucleus.Runtime

namespace AgentNucleus.Top

open AgentNucleus.Library
open AgentNucleus.Runtime (AgentId ContextId InvocationKind InvocationRequest InvocationStatus
  AgentPerformanceMetrics StdString TimePoint cStr text)

def LLM_MAX_PROMPT : Nat := 131072

/-- The configuration, as far as the calls read it. -/
structure ServingConfig extends TopRuntimeConfig where
  modelAlias : StdString := text "default"
  contextTokens : UInt32 := 4096
  batchTokens : UInt32 := 512
  maxTokens : UInt32 := 256
  useChatTemplate : Bool := true

namespace ServingConfig

/-- `initialize` refuses every other configuration. -/
def accepted (config : ServingConfig) : Bool :=
  config.toTopRuntimeConfig.accepted && !config.modelAlias.isEmpty &&
    config.contextTokens != 0 && decide (config.contextTokens.toNat < 2 ^ 31) &&
    config.batchTokens != 0 && decide (config.batchTokens.toNat < 2 ^ 31) &&
    config.maxTokens != 0 && decide (config.maxTokens ≤ config.contextTokens)

def modelConfig (config : ServingConfig) : LlmModelConfig where
  nCtx := config.contextTokens.toNat
  nBatch := config.batchTokens.toNat
  nSeqMax := config.maxContexts.toNat + kSharedPrefixSlots.toNat + 1
  maxTokens := config.maxTokens.toNat

end ServingConfig

abbrev AcceptedServing := { config : ServingConfig // config.accepted = true }

theorem accepted_maxContexts {config : TopRuntimeConfig} (accepted : config.accepted = true) :
    0 < config.maxContexts.toNat ∧ config.maxContexts.toNat ≤ 55 := by
  unfold TopRuntimeConfig.accepted at accepted
  simp only [Bool.not_eq_true', Bool.or_eq_false_iff, beq_eq_false_iff_ne,
    decide_eq_false_iff_not] at accepted
  obtain ⟨⟨⟨positive, _⟩, _⟩, few⟩ := accepted
  have above := UInt64.not_lt.mp few
  constructor
  · apply Nat.pos_of_ne_zero
    intro zero
    exact positive (UInt64.toNat_inj.mp zero)
  · exact UInt64.le_iff_toNat_le.mp above

/-- `llm_load_model` accepts what `initialize` passes on. -/
theorem AcceptedServing.loads (config : AcceptedServing) :
    config.val.modelConfig.load.isSome = true := by
  have accepted := config.property
  unfold ServingConfig.accepted at accepted
  simp only [Bool.and_eq_true] at accepted
  have few := (accepted_maxContexts accepted.1.1.1.1.1.1.1).2
  have slots : kSharedPrefixSlots.toNat = 8 := rfl
  have sequences : config.val.modelConfig.nSeqMax =
      config.val.maxContexts.toNat + kSharedPrefixSlots.toNat + 1 := rfl
  have allowed : ¬kMaxSeqPerModel < sequencesOr config.val.modelConfig.nSeqMax := by
    unfold sequencesOr kMaxSeqPerModel
    split <;> omega
  unfold LlmModelConfig.load
  rw [if_neg allowed]
  rfl

def AcceptedServing.loaded (config : AcceptedServing) : LoadedConfig :=
  config.val.modelConfig.load.get config.loads

/-- The path of a snapshot is determined by its context. -/
structure Snapshot where
  position : Nat := 0
  bytes : UInt64 := 0
deriving DecidableEq, Repr

/-- A message is a role with a content. -/
structure Conversation where
  messages : List (StdString × StdString) := []
  templateActive : Bool := true
deriving DecidableEq, Repr

structure RuntimeStores where
  contexts : ContextManager
  conversations : UnorderedMap ContextId Conversation := ∅
  snapshots : UnorderedMap ContextId Snapshot := ∅
  snapshotBytes : UInt64 := 0
  /-- What the file of a context holds. -/
  files : ContextId → Option (Finset Nat) := fun _ => none
  llm : LlmModel := {}
  /-- Not in the program: the position that the sequence of a context had when the
  context was swapped out last. -/
  parkedAt : ContextId → Nat := fun _ => 0
  /-- Not in the program: for every context that was made resident again, the
  position at which it had been swapped out and the sequence it has received. -/
  returns : List (Nat × LlmModel.SeqState) := []

abbrev Serve := Program Answer RuntimeStores

/-- `InvocationHandlerResult`.  The type of an output follows from the call, and
the measured execution time is left out. -/
structure HandlerResult where
  status : InvocationStatus := .ok
  message : StdString := []
  contextId : ContextId := 0
  metrics : AgentPerformanceMetrics := {}
  output : StdString := []

def HandlerResult.rejected (message : StdString) : HandlerResult :=
  { status := .rejected, message }

def HandlerResult.failed (message : StdString) : HandlerResult :=
  { status := .failed, message }

namespace RuntimeStores

variable (config : AcceptedServing)

def create : RuntimeStores where
  contexts := ContextManager.create config.val.maxContexts config.val.logicalContextLimit

/-! ### What is outside -/

/-- A call of the model library. -/
def onLlm {α : Type} (program : Llm α) : Serve α :=
  program.on RuntimeStores.llm fun stores llm => { stores with llm }

def clock : Serve TimePoint := do
  let answer ← Program.ask
  pure answer.now

def succeeds : Serve Bool := do
  let answer ← Program.ask
  pure answer.succeeded

def cancelRequested : Serve Bool := do
  let answer ← Program.ask
  pure answer.cancelled

/-- `format_chat` fails on an empty history. -/
def formatChat (messages : List (StdString × StdString)) : Serve (Option StdString) :=
  if messages.isEmpty then pure none
  else do
    let answer ← Program.ask
    pure answer.rendered

/-- `reports` says whether a pointer for the error of the allocation is passed. -/
def makeTextResult (output : StdString) (reports : Bool) : Serve HandlerResult := do
  let answer ← Program.ask
  if answer.succeeded then pure { output }
  else
    pure (HandlerResult.failed
      (if reports then answer.output else text "cannot allocate invocation output"))

/-! ### Snapshots -/

def storeFile (contextId : ContextId) (content : Option (Finset Nat)) (stores : RuntimeStores) :
    RuntimeStores :=
  { stores with files := Function.update stores.files contextId content }

/-- `fs::remove`; the result is whether it has succeeded. -/
def removeFile (contextId : ContextId) : Serve Bool := do
  let answer ← Program.ask
  if answer.succeeded then
    Program.change (storeFile contextId none)
    pure true
  else pure false

/-- What a snapshot adds to `snapshot_bytes_`; a missing one adds nothing. -/
def bytesOf (snapshots : UnorderedMap ContextId Snapshot) (contextId : ContextId) : UInt64 :=
  match snapshots.lookup contextId with
  | some snapshot => snapshot.bytes
  | none => 0

def storeSnapshot (contextId : ContextId) (snapshot : Snapshot) (stores : RuntimeStores) :
    RuntimeStores :=
  { stores with
    snapshots := stores.snapshots.insert contextId snapshot
    snapshotBytes :=
      stores.snapshotBytes - bytesOf stores.snapshots contextId + snapshot.bytes }

def eraseSnapshot (contextId : ContextId) (stores : RuntimeStores) : RuntimeStores :=
  { stores with
    snapshots := stores.snapshots.erase contextId
    snapshotBytes := stores.snapshotBytes - bytesOf stores.snapshots contextId }

/-- The checkpoint is renamed into place, and the sequence is cleared. -/
def publishCheckpoint (contextId : ContextId) (sequenceId : Int32)
    (checkpoint : LlmModel.Checkpoint) (bytes : UInt64) (error : StdString) :
    Serve (Bool × StdString) := do
  let renamed ← succeeds
  if !renamed then pure (false, text "cannot publish context checkpoint atomically")
  else
    Program.change (storeFile contextId (some checkpoint.positions))
    Program.change (storeSnapshot contextId { position := checkpoint.position, bytes })
    onLlm (LlmModel.llmClearSeq config.loaded sequenceId.toInt)
    pure (true, error)

/-- The temporary file is read by nobody else.  The directory exists whenever
swapping is configured. -/
def swapOutContext (contextId : ContextId) (sequenceId : Int32) (error : StdString) :
    Serve (Bool × StdString) := do
  let saved ← onLlm (LlmModel.llmCheckpointSeq config.loaded sequenceId.toInt)
  match saved with
  | none => pure (false, text "cannot checkpoint llama sequence")
  | some (checkpoint, bytes) =>
      let secured ← succeeds
      if !secured then pure (false, text "cannot secure context checkpoint")
      else
        let _ ← removeFile contextId
        publishCheckpoint config contextId sequenceId checkpoint bytes error

/-- A file that cannot be removed keeps its snapshot. -/
def forgetRestored (contextId : ContextId) (error : StdString) : Serve (Bool × StdString) := do
  let removed ← removeFile contextId
  if removed then
    Program.change (eraseSnapshot contextId)
    pure (true, error)
  else pure (true, error)

def swapInContext (contextId : ContextId) (sequenceId : Int32) (error : StdString) :
    Serve (Bool × StdString) := do
  let found ← Program.inspect fun stores => stores.snapshots.lookup contextId
  match found with
  | none => pure (false, text "context checkpoint does not exist")
  | some snapshot =>
      let file ← Program.inspect fun stores => stores.files contextId
      let restored ← onLlm
        (LlmModel.llmRestoreSeq config.loaded sequenceId.toInt file snapshot.position)
      if !restored then pure (false, text "cannot restore llama sequence checkpoint")
      else forgetRestored contextId error

def removeSnapshot (contextId : ContextId) : Serve Unit := do
  let found ← Program.inspect fun stores => stores.snapshots.lookup contextId
  match found with
  | none => pure ()
  | some _ =>
      let _ ← removeFile contextId
      Program.change (eraseSnapshot contextId)

/-! ### The context manager with these callbacks -/

def setContexts (contexts : ContextManager) (stores : RuntimeStores) : RuntimeStores :=
  { stores with contexts }

/-- Not in the program: `parkedAt` and `returns` are written. -/
def notePark (key : ContextId) (position : Nat) (stores : RuntimeStores) : RuntimeStores :=
  { stores with parkedAt := Function.update stores.parkedAt key position }

def noteReturn (key : ContextId) (sequenceId : Int32) (stores : RuntimeStores) :
    RuntimeStores :=
  { stores with
    returns := (stores.parkedAt key, stores.llm.seqStates sequenceId.toInt) :: stores.returns }

/-- The candidate is swapped out, if it can be saved. -/
def saveCandidate (manager : ContextManager) (candidate : ContextId × Entry)
    (error : StdString) : Serve (StdString × Option Int32) := do
  let before ← Program.inspect fun stores =>
    (stores.llm.seqStates candidate.2.sequenceId.toInt).currentPos
  let saved ← swapOutContext config candidate.2.id candidate.2.sequenceId error
  if saved.1 then
    Program.change (setContexts (manager.swapOut candidate.1 candidate.2))
    Program.change (notePark candidate.1 before)
    pure (saved.2, some candidate.2.sequenceId)
  else
    pure (ContextManager.orMessage saved.2
      (text "cannot swap out least-recently-used context"), none)

def obtainSequenceLocked (excludedContext : ContextId) (error : StdString)
    (order : IterationOrder ContextId) : Serve (StdString × Option Int32) := do
  let manager ← Program.inspect RuntimeStores.contexts
  match manager.freeSequences with
  | sequence :: rest =>
      Program.change (setContexts { manager with freeSequences := rest })
      pure (error, some sequence)
  | [] =>
      if !config.val.enableContextSwap then
        pure (text "all model contexts are in use", none)
      else
        match manager.swapOutCandidate excludedContext order with
        | none => pure (text "all resident contexts are pinned by active requests", none)
        | some candidate => saveCandidate config manager candidate error

/-- The entry of a context that is swapped out receives a sequence. -/
def loadInto (key : ContextId) (entry : Entry) (sequence : Int32) (error : StdString) :
    Serve (StdString × Option Entry) := do
  let obtained ← Program.inspect RuntimeStores.contexts
  let loaded ← swapInContext config entry.id sequence error
  if loaded.1 then
    Program.change (setContexts (obtained.swapIn key entry sequence))
    Program.change (noteReturn key sequence)
    pure (loaded.2, some { entry with sequenceId := sequence, resident := true })
  else
    Program.change (setContexts (obtained.pushFree sequence))
    pure (ContextManager.orMessage loaded.2 (text "cannot restore swapped context"), none)

def makeResidentLocked (key : ContextId) (entry : Entry) (error : StdString)
    (order : IterationOrder ContextId) : Serve (StdString × Option Entry) :=
  if entry.resident then pure (error, some entry)
  else if !config.val.enableContextSwap then pure (text "context is swapped out", none)
  else do
    let obtained ← obtainSequenceLocked config entry.id error order
    match obtained.2 with
    | none => pure (obtained.1, none)
    | some sequence => loadInto config key entry sequence obtained.1

def acquireNew (agentId : AgentId) (now : TimePoint) (order : IterationOrder ContextId) :
    Serve (StdString × Option ContextLease) := do
  let manager ← Program.inspect RuntimeStores.contexts
  if manager.maxLogicalContexts.toNat ≤ manager.contexts.keys.length then
    pure (text "logical context capacity is exhausted", none)
  else
    let obtained ← obtainSequenceLocked config 0 [] order
    match obtained.2 with
    | none => pure (obtained.1, none)
    | some sequence =>
        let manager ← Program.inspect RuntimeStores.contexts
        Program.change (setContexts (manager.insertNew sequence agentId now))
        pure (obtained.1, some {
          contextId := manager.nextContextId
          sequenceId := sequence
          created := true
          restored := false })

/-- `key` is stored with `entry`.  The default branch shares nothing, as the agent
is an owner there. -/
def leaseEntry (key : ContextId) (entry : Entry) (agentId : AgentId) (now : TimePoint)
    (order : IterationOrder ContextId) : Serve (StdString × Option ContextLease) := do
  let made ← makeResidentLocked config key entry [] order
  match made.2 with
  | none => pure (made.1, none)
  | some current =>
      let manager ← Program.inspect RuntimeStores.contexts
      let shared := manager.shareWith current agentId
      Program.change (setContexts (shared.1.store key (ContextManager.pin shared.2 now)))
      pure (made.1, some (ContextManager.leaseOf shared.2 (!entry.resident)))

def acquire (agentId parentId : AgentId) (requestedContext : ContextId)
    (order : IterationOrder ContextId) : Serve (StdString × Option ContextLease) :=
  if agentId = 0 then pure (text "agent id 0 cannot own a context", none)
  else do
    let now ← clock
    let manager ← Program.inspect RuntimeStores.contexts
    if requestedContext = 0 then
      match manager.findForAgentLocked agentId order with
      | none => acquireNew config agentId now order
      | some existing =>
          match manager.context? existing with
          | none => pure ([], none)
          | some entry => leaseEntry config existing entry agentId now order
    else
      match manager.context? requestedContext with
      | none => pure (text "requested context does not exist", none)
      | some entry =>
          if !ContextManager.authorizedLocked entry agentId parentId then
            pure (text "context ownership check failed", none)
          else leaseEntry config requestedContext entry agentId now order

def finish (contextId : ContextId) : Serve Unit := do
  let now ← clock
  Program.change fun stores =>
    setContexts (stores.contexts.finish contextId now).1 stores

def release (agentId parentId : AgentId) (contextId : ContextId) :
    Serve ContextManager.Release := do
  let now ← clock
  let outcome ← Program.inspect fun stores =>
    stores.contexts.release agentId parentId contextId now
  Program.change (setContexts outcome.1)
  pure outcome.2

/-! ### The `release_context` operation -/

/-- A released sequence is cleared. -/
def clearReleased (sequenceId : Int32) : Serve Unit :=
  if 0 ≤ sequenceId.toInt then
    onLlm (LlmModel.llmClearSeq config.loaded sequenceId.toInt)
  else pure ()

def eraseConversation (contextId : ContextId) (stores : RuntimeStores) : RuntimeStores :=
  { stores with conversations := stores.conversations.erase contextId }

def forgetRemoved (removed : Bool) (contextId : ContextId) : Serve Unit :=
  if removed then do
    removeSnapshot contextId
    Program.change (eraseConversation contextId)
  else pure ()

def releaseContext (request : InvocationRequest) : Serve HandlerResult :=
  if request.contextId = 0 then
    pure (HandlerResult.rejected (text "context id is required"))
  else do
    let outcome ← release request.agentId request.parentId request.contextId
    if !outcome.released then
      pure (HandlerResult.rejected
        (ContextManager.orMessage outcome.error (text "context id is required")))
    else
      clearReleased config outcome.releasedSequence
      forgetRemoved outcome.contextRemoved request.contextId
      makeTextResult (text "\x7b\"released\":true\x7d") false

/-! ### The `warmup_prefix` operation -/

/-- The prompt is rendered, if the template can do it. -/
def renderSystem (systemPrompt : StdString) : Serve StdString :=
  if config.val.useChatTemplate then do
    let formatted ← formatChat [(text "system", systemPrompt)]
    pure (formatted.getD systemPrompt)
  else pure systemPrompt

/-- `result == -2 || cancel_requested()`. -/
def cancelledBy (result : Int) : Serve Bool :=
  if result = -2 then pure true else cancelRequested

def stopped (cancelled : Bool) (cancelMessage failMessage : StdString) : HandlerResult :=
  if cancelled then { status := .cancelled, message := cancelMessage }
  else HandlerResult.failed failMessage

def warmupPrefix (systemPrompt : StdString) : Serve HandlerResult :=
  if systemPrompt.isEmpty ∨ LLM_MAX_PROMPT < systemPrompt.length then
    pure (HandlerResult.rejected (text "warmup_prefix requires a valid system prompt"))
  else do
    let rendered ← renderSystem config systemPrompt
    let sequence ← onLlm (LlmModel.llmWarmupSharedKv config.loaded (some (cStr rendered)) true)
    if sequence < 0 then
      let cancelled ← cancelledBy sequence
      pure (stopped cancelled (text "shared prefix warmup cancelled")
        (text "shared prefix encoding failed"))
    else
      makeTextResult (text "\x7b\"warmed\":true,\"reserved_sequence\":" ++
        text (toString sequence) ++ text "\x7d") false

/-! ### The `generate` operation -/

/-- What the payload and the inputs of a request are parsed to. -/
structure GeneratePayload where
  prompt : StdString
  systemPrompt : StdString := []
  maxTokens : Int
  /-- Temperature and `top_p` are in range. -/
  samplingValid : Bool := true

def GeneratePayload.invalid (payload : GeneratePayload) : Bool :=
  payload.prompt.isEmpty || decide (LLM_MAX_PROMPT < payload.prompt.length) ||
    decide (LLM_MAX_PROMPT < payload.systemPrompt.length) ||
    decide (payload.maxTokens ≤ 0) || decide (4096 < payload.maxTokens) ||
    !payload.samplingValid

def storeConversation (contextId : ContextId) (conversation : Conversation)
    (stores : RuntimeStores) : RuntimeStores :=
  { stores with conversations := stores.conversations.insert contextId conversation }

/-- The conversation of a lease, as it is after `try_emplace`. -/
def conversationOf (lease : ContextLease) (stores : RuntimeStores) : Conversation :=
  if lease.created then { templateActive := config.val.useChatTemplate }
  else (stores.conversations.lookup lease.contextId).getD { templateActive := false }

/-- The prompts that go to the model; `applied` says whether they were rendered. -/
structure RenderedTurn where
  prompt : StdString
  systemPrompt : StdString
  applied : Bool := false

/-- A rendered first turn, cut after the rendered system prompt if it starts with it. -/
def renderFirst (systemPrompt formatted : StdString) : Serve RenderedTurn :=
  if systemPrompt.isEmpty then
    pure { prompt := formatted, systemPrompt := [], applied := true }
  else do
    let formattedSystem ← formatChat [(text "system", systemPrompt)]
    match formattedSystem with
    | some start =>
        if start.isPrefixOf formatted then
          pure { prompt := formatted.drop start.length, systemPrompt := start, applied := true }
        else pure { prompt := formatted, systemPrompt := [], applied := true }
    | none => pure { prompt := formatted, systemPrompt := [], applied := true }

/-- The new part of a rendered history, with the line feed that the template has
consumed. -/
def renderedTail (previous formatted : StdString) : StdString :=
  let tail := formatted.drop previous.length
  if previous.getLast? = some 10 then 10 :: tail else tail

/-- The first turn of a new context.  Without a rendering the template is given up. -/
def renderCreated (conversation : Conversation) (payload : GeneratePayload) :
    Serve (Conversation × RenderedTurn) := do
  let systemMessages :=
    if payload.systemPrompt.isEmpty then [] else [(text "system", payload.systemPrompt)]
  let messages := conversation.messages ++ systemMessages ++ [(text "user", payload.prompt)]
  let formatted ← formatChat messages
  match formatted with
  | some formatted =>
      let turn ← renderFirst payload.systemPrompt formatted
      pure ({ conversation with messages }, turn)
  | none =>
      pure ({ messages := [], templateActive := false },
        { prompt := payload.prompt, systemPrompt := payload.systemPrompt })

/-- A later turn.  A failure leaves the history as it was. -/
def renderLater (conversation : Conversation) (payload : GeneratePayload) :
    Serve (Conversation × Except StdString RenderedTurn) := do
  let previous ← formatChat conversation.messages
  match previous with
  | none => pure (conversation, .error (text "cannot render previous chat history"))
  | some previous =>
      let messages := conversation.messages ++ [(text "user", payload.prompt)]
      let formatted ← formatChat messages
      match formatted with
      | none => pure (conversation, .error (text "cannot extend chat template history"))
      | some formatted =>
          if previous.isPrefixOf formatted then
            pure ({ conversation with messages }, .ok {
              prompt := renderedTail previous formatted
              systemPrompt := []
              applied := true })
          else
            pure (conversation, .error (text "chat template history became inconsistent"))

def renderTurn (conversation : Conversation) (created : Bool) (payload : GeneratePayload) :
    Serve (Conversation × Except StdString RenderedTurn) :=
  if !conversation.templateActive then
    pure (conversation,
      .ok { prompt := payload.prompt, systemPrompt := payload.systemPrompt })
  else if created then do
    let rendered ← renderCreated conversation payload
    pure (rendered.1, .ok rendered.2)
  else renderLater conversation payload

/-- `conversation.messages.resize(previous_message_count);` -/
def dropMessages (contextId : ContextId) (previousCount : Nat) (applied : Bool) : Serve Unit :=
  if applied then
    Program.change fun stores =>
      match stores.conversations.lookup contextId with
      | none => stores
      | some conversation =>
          storeConversation contextId
            { conversation with messages := conversation.messages.take previousCount } stores
  else pure ()

/-- The sequence of a context that could be released is cleared. -/
def clearOutcome (outcome : ContextManager.Release) : Serve Unit :=
  if outcome.released then clearReleased config outcome.releasedSequence else pure ()

/-- A failed first turn takes its context back. -/
def abandonContext (request : InvocationRequest) (lease : ContextLease) : Serve Unit :=
  if lease.created then do
    let outcome ← release request.agentId request.parentId lease.contextId
    clearOutcome config outcome
    Program.change (eraseConversation lease.contextId)
  else pure ()

/-- `cancel_requested() || llm_response_value.cancelled`. -/
def cancelledDuring (response : LlmResponse) : Serve Bool := do
  let cancelled ← cancelRequested
  pure (cancelled || response.cancelled)

def failTurn (request : InvocationRequest) (lease : ContextLease) (previousCount : Nat)
    (applied : Bool) (response : LlmResponse) : Serve HandlerResult := do
  dropMessages lease.contextId previousCount applied
  abandonContext config request lease
  let cancelled ← cancelledDuring response
  pure (stopped cancelled (text "model generation cancelled") (text "model generation failed"))

/-- The answer becomes a part of the history. -/
def recordAnswer (contextId : ContextId) (output : StdString) (applied : Bool) : Serve Unit :=
  if applied then
    Program.change fun stores =>
      match stores.conversations.lookup contextId with
      | none => stores
      | some conversation =>
          storeConversation contextId
            { conversation with
              messages := conversation.messages ++ [(text "assistant", output)] } stores
  else pure ()

def completeTurn (lease : ContextLease) (applied : Bool) (response : LlmResponse) :
    Serve HandlerResult := do
  let generated ← Program.ask
  recordAnswer lease.contextId generated.output applied
  let result ← makeTextResult generated.output true
  pure { result with
    contextId := lease.contextId
    metrics :=
      { inputTokens := UInt64.ofNat response.promptTokens
        outputTokens := UInt64.ofNat response.tokensGenerated
        reusedTokens := UInt64.ofNat response.reusedTokens
        cacheBytes := response.cacheBytes
        cacheHit := response.cacheHit } }

/-- The pin is given back in every case. -/
def serveTurn (request : InvocationRequest) (payload : GeneratePayload) (lease : ContextLease)
    (previousCount : Nat) (turn : RenderedTurn) : Serve HandlerResult := do
  let outcome ← onLlm (LlmModel.llmInference config.loaded {
    seqId := lease.sequenceId.toInt
    isFirstTurn := lease.created
    closeTurn := turn.applied
    systemPrompt := if turn.systemPrompt.isEmpty then none else some (cStr turn.systemPrompt)
    maxTokens := payload.maxTokens
    cancellable := true })
  finish lease.contextId
  if outcome.1 ≠ 0 then failTurn config request lease previousCount turn.applied outcome.2
  else completeTurn lease turn.applied outcome.2

def serveLease (request : InvocationRequest) (payload : GeneratePayload) (lease : ContextLease) :
    Serve HandlerResult := do
  let conversation ← Program.inspect (conversationOf config lease)
  let rendered ← renderTurn conversation lease.created payload
  Program.change (storeConversation lease.contextId rendered.1)
  match rendered.2 with
  | .error message =>
      finish lease.contextId
      pure (HandlerResult.failed message)
  | .ok turn => serveTurn config request payload lease conversation.messages.length turn

def generate (request : InvocationRequest) (payload : Except StdString GeneratePayload)
    (order : IterationOrder ContextId) : Serve HandlerResult :=
  match payload with
  | .error message => pure (HandlerResult.rejected message)
  | .ok payload =>
      if payload.invalid then
        pure (HandlerResult.rejected (text "invalid model generation payload"))
      else do
        let acquired ← acquire config request.agentId request.parentId request.contextId order
        match acquired.2 with
        | none => pure { status := .busy, message := acquired.1 }
        | some lease => serveLease config request payload lease

/-! ### One call -/

/-- A request with what its payload is parsed to, and everything that the call
meets outside. -/
structure HandleCall where
  request : InvocationRequest
  payload : Except StdString GeneratePayload := .ok { prompt := [], maxTokens := 0 }
  warmupPrompt : StdString := []
  order : IterationOrder ContextId := .asStored
  answers : Answers Answer

/-- The statistics are only read; their text is left out. -/
def handleModel (call : HandleCall) : Serve HandlerResult :=
  if call.request.target ≠ config.val.modelAlias then
    pure (HandlerResult.rejected (text "unknown model alias: " ++ call.request.target))
  else if call.request.operation = text "release_context" then
    releaseContext config call.request
  else if call.request.operation = text "stats" then makeTextResult [] false
  else if call.request.operation = text "warmup_prefix" then
    warmupPrefix config call.warmupPrompt
  else if call.request.operation = text "generate" then
    generate config call.request call.payload call.order
  else
    pure (HandlerResult.rejected
      (text "model operation must be generate, warmup_prefix, stats, or release_context"))

/-- A tool stores nothing here; its result is left out. -/
def handle (call : HandleCall) : Serve HandlerResult := do
  let cancelled ← cancelRequested
  if cancelled then
    pure { status := .cancelled, message := text "invocation cancelled before execution" }
  else if call.request.kind = InvocationKind.model then handleModel config call
  else if call.request.kind = InvocationKind.tool then makeTextResult [] true
  else pure (HandlerResult.rejected (text "unsupported invocation kind"))

/-- Calls that are executed one at a time, after `initialize`. -/
def machine : Machine RuntimeStores HandleCall where
  initial := create config
  step := fun stores call => (handle config call).after stores call.answers

end RuntimeStores

end AgentNucleus.Top
