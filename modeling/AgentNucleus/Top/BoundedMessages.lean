/-
The statuses and messages of `TopRuntime`.  Every text that a call of the model passes on
is a literal of the program or the reason of a failed system call, apart from the name of
an unknown model.
-/

import AgentNucleus.Top.InvocationHandling
import AgentNucleus.Top.SequenceRenaming

set_option autoImplicit false

namespace AgentNucleus.Top

open AgentNucleus.Library
open AgentNucleus.Library.Program (Coupled Yields)
open AgentNucleus.Runtime (AgentId ContextId InvocationRequest InvocationStatus StdString TimePoint
  kMaxStringSize text)

/-- A failed system call gives its reason as a text that can be sent. -/
def Explained (answer : Answer) : Prop :=
  answer.succeeded = false → answer.output.length ≤ kMaxStringSize

/-- What a response can carry. -/
structure HandlerResult.Sendable (result : HandlerResult) : Prop where
  status : result.status.value ≤ InvocationStatus.busy.value
  message : result.message.length ≤ kMaxStringSize

theorem HandlerResult.rejected_sendable {message : StdString}
    (fits : message.length ≤ kMaxStringSize) : (HandlerResult.rejected message).Sendable :=
  ⟨show InvocationStatus.rejected.value ≤ InvocationStatus.busy.value by decide, fits⟩

theorem HandlerResult.failed_sendable {message : StdString}
    (fits : message.length ≤ kMaxStringSize) : (HandlerResult.failed message).Sendable :=
  ⟨show InvocationStatus.failed.value ≤ InvocationStatus.busy.value by decide, fits⟩

/-- The length of a literal is read off its characters. -/
theorem length_literal (characters : List Char) :
    (text (String.ofList characters)).length = characters.length := by
  unfold text
  rw [List.length_map, String.toList_ofList]

theorem literal_fits (characters : List Char) (short : characters.length ≤ kMaxStringSize) :
    (text (String.ofList characters)).length ≤ kMaxStringSize := by
  rw [length_literal]
  exact short

theorem orMessage_fits {error message : StdString} (errorFits : error.length ≤ kMaxStringSize)
    (messageFits : message.length ≤ kMaxStringSize) :
    (ContextManager.orMessage error message).length ≤ kMaxStringSize := by
  unfold ContextManager.orMessage
  split
  · exact messageFits
  · exact errorFits

/-- The texts of `release`. -/
theorem ContextManager.release_error_fits (manager : ContextManager) (agentId parentId : AgentId)
    (contextId : ContextId) (now : TimePoint) :
    (manager.release agentId parentId contextId now).2.error.length ≤ kMaxStringSize := by
  unfold ContextManager.release
  split
  · exact literal_fits _ (by decide)
  · dsimp only
    split
    · exact literal_fits _ (by decide)
    · split
      · exact literal_fits _ (by decide)
      · split
        · exact Nat.zero_le _
        · exact Nat.zero_le _

namespace RuntimeStores

variable {config : AcceptedServing}

/-! ### What is outside -/

theorem onLlm_yields {α : Type} {program other : Llm α} {results : α → α → Prop}
    (coupled : Coupled Explained
      (LlmModel.Renamed (LlmModel.Renaming.identity config.loaded)) program other results) :
    Yields Explained (onLlm program) fun _ => True :=
  (Yields.ofCoupled coupled fun model => ⟨model, .identity model⟩).on

theorem asks_yields {α : Type} (view : Answer → α) :
    Yields Explained (Program.ask >>= fun answer => (pure (view answer) : Serve α))
      fun _ => True :=
  Yields.ask_then fun _ _ => Yields.pure trivial

theorem formatChat_yields (messages : List (StdString × StdString)) :
    Yields Explained (formatChat messages) fun _ => True := by
  unfold formatChat
  apply Yields.ite
  · intro _
    exact Yields.pure trivial
  · intro _
    exact asks_yields Answer.rendered

theorem makeTextResult_yields (output : StdString) (reports : Bool) :
    Yields Explained (makeTextResult output reports) HandlerResult.Sendable := by
  unfold makeTextResult
  apply Yields.ask_then
  intro answer explained
  apply Yields.ite
  · intro _
    apply Yields.pure
    exact ⟨show InvocationStatus.ok.value ≤ InvocationStatus.busy.value by decide, Nat.zero_le _⟩
  · intro failed
    apply Yields.pure
    apply HandlerResult.failed_sendable
    cases reports with
    | true => exact explained (Bool.eq_false_iff.mpr failed)
    | false => exact literal_fits _ (by decide)

/-! ### Snapshots -/

/-- An error text that can be sent. -/
def ErrorFits {α : Type} (result : StdString × α) : Prop :=
  result.1.length ≤ kMaxStringSize

def SavedFits (result : Bool × StdString) : Prop :=
  result.2.length ≤ kMaxStringSize

theorem removeFile_yields (contextId : ContextId) :
    Yields Explained (removeFile contextId) fun _ => True := by
  unfold removeFile
  apply Yields.ask_then
  intro answer _
  apply Yields.ite
  · intro _
    refine Yields.change.bind ?_
    intro _ _
    exact Yields.pure trivial
  · intro _
    exact Yields.pure trivial

theorem publishCheckpoint_yields (contextId : ContextId) (sequenceId : Int32)
    (checkpoint : LlmModel.Checkpoint) (bytes : UInt64) {error : StdString}
    (fits : error.length ≤ kMaxStringSize) :
    Yields Explained (publishCheckpoint config contextId sequenceId checkpoint bytes error)
      SavedFits := by
  unfold publishCheckpoint
  refine (asks_yields Answer.succeeded).bind ?_
  intro renamed _
  apply Yields.ite
  · intro _
    exact Yields.pure (literal_fits _ (by decide))
  · intro _
    refine Yields.change.bind ?_
    intro _ _
    refine Yields.change.bind ?_
    intro _ _
    refine (onLlm_yields (LlmModel.llmClearSeq_coupled (.identity config.loaded) _)).bind ?_
    intro _ _
    exact Yields.pure fits

theorem swapOutContext_yields (contextId : ContextId) (sequenceId : Int32) {error : StdString}
    (fits : error.length ≤ kMaxStringSize) :
    Yields Explained (swapOutContext config contextId sequenceId error) SavedFits := by
  unfold swapOutContext
  refine (onLlm_yields (LlmModel.llmCheckpointSeq_coupled (.identity config.loaded) _)).bind ?_
  intro saved _
  cases saved with
  | none => exact Yields.pure (literal_fits _ (by decide))
  | some stored =>
      refine (asks_yields Answer.succeeded).bind ?_
      intro secured _
      apply Yields.ite
      · intro _
        exact Yields.pure (literal_fits _ (by decide))
      · intro _
        refine (removeFile_yields contextId).bind ?_
        intro _ _
        exact publishCheckpoint_yields contextId sequenceId stored.1 stored.2 fits

theorem forgetRestored_yields (contextId : ContextId) {error : StdString}
    (fits : error.length ≤ kMaxStringSize) :
    Yields Explained (forgetRestored contextId error) SavedFits := by
  unfold forgetRestored
  refine (removeFile_yields contextId).bind ?_
  intro removed _
  apply Yields.ite
  · intro _
    refine Yields.change.bind ?_
    intro _ _
    exact Yields.pure fits
  · intro _
    exact Yields.pure fits

theorem swapInContext_yields (contextId : ContextId) (sequenceId : Int32) {error : StdString}
    (fits : error.length ≤ kMaxStringSize) :
    Yields Explained (swapInContext config contextId sequenceId error) SavedFits := by
  unfold swapInContext
  apply Yields.inspect_then
  intro found
  cases found with
  | none => exact Yields.pure (literal_fits _ (by decide))
  | some snapshot =>
      apply Yields.inspect_then
      intro file
      refine (onLlm_yields
        (LlmModel.llmRestoreSeq_coupled (.identity config.loaded) _ file _)).bind ?_
      intro restored _
      apply Yields.ite
      · intro _
        exact Yields.pure (literal_fits _ (by decide))
      · intro _
        exact forgetRestored_yields contextId fits

theorem removeSnapshot_yields (contextId : ContextId) :
    Yields Explained (removeSnapshot contextId) fun _ => True := by
  unfold removeSnapshot
  apply Yields.inspect_then
  intro found
  cases found with
  | none => exact Yields.pure trivial
  | some snapshot =>
      refine (removeFile_yields contextId).bind ?_
      intro _ _
      exact Yields.change

/-! ### The context manager with these callbacks -/

theorem saveCandidate_yields (manager : ContextManager) (candidate : ContextId × Entry)
    {error : StdString} (fits : error.length ≤ kMaxStringSize) :
    Yields Explained (saveCandidate config manager candidate error) ErrorFits := by
  unfold saveCandidate
  apply Yields.inspect_then
  intro before
  refine (swapOutContext_yields _ _ fits).bind ?_
  intro saved savedFits
  apply Yields.ite
  · intro _
    refine Yields.change.bind ?_
    intro _ _
    refine Yields.change.bind ?_
    intro _ _
    exact Yields.pure savedFits
  · intro _
    exact Yields.pure (orMessage_fits savedFits (literal_fits _ (by decide)))

theorem obtainSequenceLocked_yields (excludedContext : ContextId) {error : StdString}
    (order : IterationOrder ContextId) (fits : error.length ≤ kMaxStringSize) :
    Yields Explained (obtainSequenceLocked config excludedContext error order) ErrorFits := by
  unfold obtainSequenceLocked
  apply Yields.inspect_then
  intro manager
  cases manager.freeSequences with
  | cons sequence rest =>
      refine Yields.change.bind ?_
      intro _ _
      exact Yields.pure fits
  | nil =>
      apply Yields.ite
      · intro _
        exact Yields.pure (literal_fits _ (by decide))
      · intro _
        cases manager.swapOutCandidate excludedContext order with
        | none => exact Yields.pure (literal_fits _ (by decide))
        | some candidate => exact saveCandidate_yields manager candidate fits

theorem loadInto_yields (key : ContextId) (entry : Entry) (sequence : Int32)
    {error : StdString} (fits : error.length ≤ kMaxStringSize) :
    Yields Explained (loadInto config key entry sequence error) ErrorFits := by
  unfold loadInto
  apply Yields.inspect_then
  intro obtained
  refine (swapInContext_yields _ _ fits).bind ?_
  intro loaded loadedFits
  apply Yields.ite
  · intro _
    refine Yields.change.bind ?_
    intro _ _
    refine Yields.change.bind ?_
    intro _ _
    exact Yields.pure loadedFits
  · intro _
    refine Yields.change.bind ?_
    intro _ _
    exact Yields.pure (orMessage_fits loadedFits (literal_fits _ (by decide)))

theorem makeResidentLocked_yields (key : ContextId) (entry : Entry) {error : StdString}
    (order : IterationOrder ContextId) (fits : error.length ≤ kMaxStringSize) :
    Yields Explained (makeResidentLocked config key entry error order) ErrorFits := by
  unfold makeResidentLocked
  apply Yields.ite
  · intro _
    exact Yields.pure fits
  · intro _
    apply Yields.ite
    · intro _
      exact Yields.pure (literal_fits _ (by decide))
    · intro _
      refine (obtainSequenceLocked_yields entry.id order fits).bind ?_
      rintro ⟨written, obtained⟩ writtenFits
      cases obtained with
      | none => exact Yields.pure writtenFits
      | some sequence => exact loadInto_yields key entry sequence writtenFits

theorem acquireNew_yields (agentId : AgentId) (now : TimePoint)
    (order : IterationOrder ContextId) :
    Yields Explained (acquireNew config agentId now order) ErrorFits := by
  unfold acquireNew
  apply Yields.inspect_then
  intro manager
  apply Yields.ite
  · intro _
    exact Yields.pure (literal_fits _ (by decide))
  · intro _
    refine (obtainSequenceLocked_yields 0 order (Nat.zero_le _)).bind ?_
    rintro ⟨written, obtained⟩ writtenFits
    cases obtained with
    | none => exact Yields.pure writtenFits
    | some sequence =>
        apply Yields.inspect_then
        intro manager
        refine Yields.change.bind ?_
        intro _ _
        exact Yields.pure writtenFits

theorem leaseEntry_yields (key : ContextId) (entry : Entry) (agentId : AgentId)
    (now : TimePoint) (order : IterationOrder ContextId) :
    Yields Explained (leaseEntry config key entry agentId now order) ErrorFits := by
  unfold leaseEntry
  refine (makeResidentLocked_yields key entry order (Nat.zero_le _)).bind ?_
  rintro ⟨written, made⟩ writtenFits
  cases made with
  | none => exact Yields.pure writtenFits
  | some current =>
      apply Yields.inspect_then
      intro manager
      refine Yields.change.bind ?_
      intro _ _
      exact Yields.pure writtenFits

theorem acquire_yields (agentId parentId : AgentId) (requestedContext : ContextId)
    (order : IterationOrder ContextId) :
    Yields Explained (acquire config agentId parentId requestedContext order) ErrorFits := by
  unfold acquire
  apply Yields.ite
  · intro _
    exact Yields.pure (literal_fits _ (by decide))
  · intro _
    refine (asks_yields Answer.now).bind ?_
    intro now _
    apply Yields.inspect_then
    intro manager
    apply Yields.ite
    · intro _
      cases manager.findForAgentLocked agentId order with
      | none => exact acquireNew_yields agentId now order
      | some existing =>
          dsimp only
          cases manager.context? existing with
          | none => exact Yields.pure (Nat.zero_le _)
          | some entry => exact leaseEntry_yields existing entry agentId now order
    · intro _
      cases manager.context? requestedContext with
      | none => exact Yields.pure (literal_fits _ (by decide))
      | some entry =>
          apply Yields.ite
          · intro _
            exact Yields.pure (literal_fits _ (by decide))
          · intro _
            exact leaseEntry_yields requestedContext entry agentId now order

/-! ### The operations -/

theorem finish_yields (contextId : ContextId) :
    Yields Explained (finish contextId) fun _ => True := by
  unfold finish
  refine (asks_yields Answer.now).bind ?_
  intro now _
  exact Yields.change

theorem release_yields (agentId parentId : AgentId) (contextId : ContextId) :
    Yields Explained (release agentId parentId contextId)
      fun outcome => outcome.error.length ≤ kMaxStringSize := by
  unfold release
  refine (asks_yields Answer.now).bind ?_
  intro now _
  have outcomes : Yields Explained
      (Program.inspect fun stores : RuntimeStores =>
        stores.contexts.release agentId parentId contextId now)
      fun outcome => outcome.2.error.length ≤ kMaxStringSize :=
    Yields.inspect fun stores =>
      ContextManager.release_error_fits stores.contexts agentId parentId contextId now
  refine outcomes.bind ?_
  rintro ⟨after, outcome⟩ fits
  refine Yields.change.bind ?_
  intro _ _
  exact Yields.pure fits

theorem clearReleased_yields (sequenceId : Int32) :
    Yields Explained (clearReleased config sequenceId) fun _ => True := by
  unfold clearReleased
  apply Yields.ite
  · intro _
    exact onLlm_yields (LlmModel.llmClearSeq_coupled (.identity config.loaded) _)
  · intro _
    exact Yields.pure trivial

theorem forgetRemoved_yields (removed : Bool) (contextId : ContextId) :
    Yields Explained (forgetRemoved removed contextId) fun _ => True := by
  unfold forgetRemoved
  apply Yields.ite
  · intro _
    refine (removeSnapshot_yields contextId).bind ?_
    intro _ _
    exact Yields.change
  · intro _
    exact Yields.pure trivial

theorem releaseContext_yields (request : InvocationRequest) :
    Yields Explained (releaseContext config request) HandlerResult.Sendable := by
  unfold releaseContext
  apply Yields.ite
  · intro _
    exact Yields.pure (HandlerResult.rejected_sendable (literal_fits _ (by decide)))
  · intro _
    refine (release_yields _ _ _).bind ?_
    intro outcome fits
    apply Yields.ite
    · intro _
      exact Yields.pure (HandlerResult.rejected_sendable
        (orMessage_fits fits (literal_fits _ (by decide))))
    · intro _
      refine (clearReleased_yields outcome.releasedSequence).bind ?_
      intro _ _
      refine (forgetRemoved_yields outcome.contextRemoved request.contextId).bind ?_
      intro _ _
      exact makeTextResult_yields _ _

theorem stopped_sendable (cancelled : Bool) {cancelMessage failMessage : StdString}
    (cancelFits : cancelMessage.length ≤ kMaxStringSize)
    (failFits : failMessage.length ≤ kMaxStringSize) :
    (stopped cancelled cancelMessage failMessage).Sendable := by
  unfold stopped
  split
  · exact ⟨show InvocationStatus.cancelled.value ≤ InvocationStatus.busy.value by decide,
      cancelFits⟩
  · exact HandlerResult.failed_sendable failFits

theorem renderSystem_yields (systemPrompt : StdString) :
    Yields Explained (renderSystem config systemPrompt) fun _ => True := by
  unfold renderSystem
  apply Yields.ite
  · intro _
    refine (formatChat_yields _).bind ?_
    intro formatted _
    exact Yields.pure trivial
  · intro _
    exact Yields.pure trivial

theorem warmupPrefix_yields (systemPrompt : StdString) :
    Yields Explained (warmupPrefix config systemPrompt) HandlerResult.Sendable := by
  unfold warmupPrefix
  apply Yields.ite
  · intro _
    exact Yields.pure (HandlerResult.rejected_sendable (literal_fits _ (by decide)))
  · intro _
    refine (renderSystem_yields systemPrompt).bind ?_
    intro rendered _
    refine (onLlm_yields
      (LlmModel.llmWarmupSharedKv_coupled (.identity config.loaded) _ _)).bind ?_
    intro sequence _
    apply Yields.ite
    · intro _
      have stops : Yields Explained (cancelledBy sequence) fun _ => True := by
        unfold cancelledBy
        apply Yields.ite
        · intro _
          exact Yields.pure trivial
        · intro _
          exact asks_yields Answer.cancelled
      refine stops.bind ?_
      intro cancelled _
      exact Yields.pure (stopped_sendable cancelled (literal_fits _ (by decide))
        (literal_fits _ (by decide)))
    · intro _
      exact makeTextResult_yields _ _

/-- A turn that could not be rendered has an error text that can be sent. -/
def RenderFits (rendered : Conversation × Except StdString RenderedTurn) : Prop :=
  ∀ message, rendered.2 = .error message → message.length ≤ kMaxStringSize

theorem renderCreated_yields (conversation : Conversation) (payload : GeneratePayload) :
    Yields Explained (renderCreated conversation payload) fun _ => True := by
  unfold renderCreated
  refine (formatChat_yields _).bind ?_
  intro formatted _
  cases formatted with
  | none => exact Yields.pure trivial
  | some formatted =>
      have first : Yields Explained (renderFirst payload.systemPrompt formatted)
          fun _ => True := by
        unfold renderFirst
        apply Yields.ite
        · intro _
          exact Yields.pure trivial
        · intro _
          refine (formatChat_yields _).bind ?_
          intro system _
          cases system with
          | none => exact Yields.pure trivial
          | some start =>
              apply Yields.ite
              · intro _
                exact Yields.pure trivial
              · intro _
                exact Yields.pure trivial
      refine first.bind ?_
      intro turn _
      exact Yields.pure trivial

theorem renderLater_yields (conversation : Conversation) (payload : GeneratePayload) :
    Yields Explained (renderLater conversation payload) RenderFits := by
  unfold renderLater
  have refused (characters : List Char) (short : characters.length ≤ kMaxStringSize) :
      RenderFits (conversation, .error (text (String.ofList characters))) := by
    rintro message same
    cases same
    exact literal_fits characters short
  refine (formatChat_yields _).bind ?_
  intro previous _
  cases previous with
  | none => exact Yields.pure (refused _ (by decide))
  | some previous =>
      refine (formatChat_yields _).bind ?_
      intro formatted _
      cases formatted with
      | none => exact Yields.pure (refused _ (by decide))
      | some formatted =>
          apply Yields.ite
          · intro _
            exact Yields.pure nofun
          · intro _
            exact Yields.pure (refused _ (by decide))

theorem renderTurn_yields (conversation : Conversation) (created : Bool)
    (payload : GeneratePayload) :
    Yields Explained (renderTurn conversation created payload) RenderFits := by
  unfold renderTurn
  apply Yields.ite
  · intro _
    exact Yields.pure nofun
  · intro _
    apply Yields.ite
    · intro _
      refine (renderCreated_yields conversation payload).bind ?_
      intro rendered _
      exact Yields.pure nofun
    · intro _
      exact renderLater_yields conversation payload

theorem failTurn_yields (request : InvocationRequest) (lease : ContextLease)
    (previousCount : Nat) (applied : Bool) (response : LlmResponse) :
    Yields Explained (failTurn config request lease previousCount applied response)
      HandlerResult.Sendable := by
  unfold failTurn
  have drops : Yields Explained (dropMessages lease.contextId previousCount applied)
      fun _ => True := by
    unfold dropMessages
    apply Yields.ite
    · intro _
      exact Yields.change
    · intro _
      exact Yields.pure trivial
  have abandons : Yields Explained (abandonContext config request lease) fun _ => True := by
    unfold abandonContext
    apply Yields.ite
    · intro _
      refine (release_yields _ _ _).bind ?_
      intro outcome _
      have clears : Yields Explained (clearOutcome config outcome) fun _ => True := by
        unfold clearOutcome
        apply Yields.ite
        · intro _
          exact clearReleased_yields outcome.releasedSequence
        · intro _
          exact Yields.pure trivial
      refine clears.bind ?_
      intro _ _
      exact Yields.change
    · intro _
      exact Yields.pure trivial
  refine drops.bind ?_
  intro _ _
  refine abandons.bind ?_
  intro _ _
  have stops : Yields Explained (cancelledDuring response) fun _ => True := by
    unfold cancelledDuring
    refine (asks_yields Answer.cancelled).bind ?_
    intro cancelled _
    exact Yields.pure trivial
  refine stops.bind ?_
  intro cancelled _
  exact Yields.pure (stopped_sendable cancelled (literal_fits _ (by decide))
    (literal_fits _ (by decide)))

theorem completeTurn_yields (lease : ContextLease) (applied : Bool) (response : LlmResponse) :
    Yields Explained (completeTurn lease applied response) HandlerResult.Sendable := by
  unfold completeTurn
  apply Yields.ask_then
  intro generated _
  have records : Yields Explained (recordAnswer lease.contextId generated.output applied)
      fun _ => True := by
    unfold recordAnswer
    apply Yields.ite
    · intro _
      exact Yields.change
    · intro _
      exact Yields.pure trivial
  refine records.bind ?_
  intro _ _
  refine (makeTextResult_yields generated.output true).bind ?_
  intro result sendable
  exact Yields.pure ⟨sendable.status, sendable.message⟩

theorem serveLease_yields (request : InvocationRequest) (payload : GeneratePayload)
    (lease : ContextLease) :
    Yields Explained (serveLease config request payload lease) HandlerResult.Sendable := by
  unfold serveLease
  apply Yields.inspect_then
  intro conversation
  refine (renderTurn_yields conversation lease.created payload).bind ?_
  rintro ⟨after, rendered⟩ fits
  refine Yields.change.bind ?_
  intro _ _
  cases rendered with
  | error message =>
      refine (finish_yields lease.contextId).bind ?_
      intro _ _
      exact Yields.pure (HandlerResult.failed_sendable (fits message rfl))
  | ok turn =>
      dsimp only
      unfold serveTurn
      refine (onLlm_yields (LlmModel.llmInference_coupled (.identity config.loaded) _)).bind ?_
      intro outcome _
      refine (finish_yields lease.contextId).bind ?_
      intro _ _
      apply Yields.ite
      · intro _
        exact failTurn_yields request lease _ _ _
      · intro _
        exact completeTurn_yields lease _ _

theorem generate_yields (request : InvocationRequest)
    (payload : Except StdString GeneratePayload) (order : IterationOrder ContextId)
    (worded : ∀ message, payload = .error message → message.length ≤ kMaxStringSize) :
    Yields Explained (generate config request payload order) HandlerResult.Sendable := by
  unfold generate
  cases payload with
  | error message => exact Yields.pure (HandlerResult.rejected_sendable (worded message rfl))
  | ok payload =>
      apply Yields.ite
      · intro _
        exact Yields.pure (HandlerResult.rejected_sendable (literal_fits _ (by decide)))
      · intro _
        refine (acquire_yields _ _ _ order).bind ?_
        rintro ⟨message, acquired⟩ fits
        cases acquired with
        | none =>
            apply Yields.pure
            exact ⟨show InvocationStatus.busy.value ≤ InvocationStatus.busy.value by decide, fits⟩
        | some lease => exact serveLease_yields request payload lease

/-- Only the name of an unknown model can be too long. -/
theorem handleModel_yields (call : HandleCall)
    (worded : ∀ message, call.payload = .error message → message.length ≤ kMaxStringSize)
    (target : call.request.target ≠ config.val.modelAlias →
      (text "unknown model alias: " ++ call.request.target).length ≤ kMaxStringSize) :
    Yields Explained (handleModel config call) HandlerResult.Sendable := by
  unfold handleModel
  apply Yields.ite
  · intro unknown
    exact Yields.pure (HandlerResult.rejected_sendable (target unknown))
  · intro _
    apply Yields.ite
    · intro _
      exact releaseContext_yields call.request
    · intro _
      apply Yields.ite
      · intro _
        exact makeTextResult_yields [] _
      · intro _
        apply Yields.ite
        · intro _
          exact warmupPrefix_yields call.warmupPrompt
        · intro _
          apply Yields.ite
          · intro _
            exact generate_yields call.request call.payload call.order worded
          · intro _
            exact Yields.pure
              (HandlerResult.rejected_sendable (literal_fits _ (by decide)))

end RuntimeStores

end AgentNucleus.Top
