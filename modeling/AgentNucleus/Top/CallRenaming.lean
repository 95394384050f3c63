/-
Whole calls under other names.  Requests differ in the context they name and in the order
of a traversal; what comes back differs in the id of its context.
-/

import AgentNucleus.Top.InvocationHandling
import AgentNucleus.Top.StoreRenaming

set_option autoImplicit false

namespace AgentNucleus.Top

open AgentNucleus.Library
open AgentNucleus.Library.Program (Coupled Leads)
open AgentNucleus.Runtime (AgentId ContextId InvocationHandlerResult InvocationKind
  InvocationMappedInput InvocationRequest InvocationStatus StdString TimePoint cStr text)

namespace RuntimeStores

variable {config : AcceptedServing} {allowed : Answer → Prop}
  (names : ContextNames config.loaded) {next : ContextId → Prop}

/-- The request for the same context. -/
def renamedRequest (names : ContextNames config.loaded) (request : InvocationRequest) :
    InvocationRequest :=
  { request with contextId := names.id request.contextId }

/-! ### The `release_context` operation -/

theorem clearReleased_coupled {sequence sequence' : Int32}
    (taken : names.Sequence sequence sequence') :
    Coupled allowed (Renamed names next) (clearReleased config sequence)
      (clearReleased config sequence') Eq := by
  have agree : 0 ≤ sequence.toInt ↔ 0 ≤ sequence'.toInt := by
    rw [show sequence'.toInt = names.sequences.rename sequence.toInt from taken]
    have outside := names.sequences.outside_iff sequence.toInt
    by_cases absent : sequence.toInt ≤ 0
    · rw [names.sequences.fixed _ (Or.inl absent)]
    · by_cases beyond : LlmModel.privateSeqLimit config.loaded ≤ sequence.toInt
      · rw [names.sequences.fixed _ (Or.inr beyond)]
      · have inside : ¬names.sequences.rename sequence.toInt ≤ 0 := by
          intro low
          rcases outside.mpr (Or.inl low) with other | other
          · exact absent other
          · exact beyond other
        constructor
        · intro _
          omega
        · intro _
          omega
  unfold clearReleased
  apply Coupled.ite agree
  · intro _
    exact llmClearSeq_coupled names taken
  · intro _
    exact Coupled.pure rfl

theorem forgetRemoved_coupled (removed : Bool) (contextId : ContextId) :
    Coupled allowed (Renamed names next) (forgetRemoved removed contextId)
      (forgetRemoved removed (names.id contextId)) Eq := by
  unfold forgetRemoved
  apply Coupled.ite Iff.rfl
  · intro _
    refine (removeSnapshot_coupled names contextId).bind ?_
    intro _ _ _
    exact Coupled.change fun _ _ renamed => renamed.eraseConversation contextId
  · intro _
    exact Coupled.pure rfl

theorem releaseContext_coupled (request : InvocationRequest) :
    Coupled allowed (Renamed names next) (releaseContext config request)
      (releaseContext config (renamedRequest names request)) (HandlerResult.Renamed names) := by
  unfold releaseContext renamedRequest
  apply Coupled.ite (names.id_eq_zero_iff request.contextId)
  · intro _
    exact Coupled.pure (HandlerResult.Renamed.unnamed names rfl)
  · intro _
    refine (release_coupled names request.agentId request.parentId request.contextId).bind ?_
    intro outcome outcome' same
    rw [same.released, same.error, same.contextRemoved]
    apply Coupled.ite Iff.rfl
    · intro _
      exact Coupled.pure (HandlerResult.Renamed.unnamed names rfl)
    · intro _
      refine (clearReleased_coupled names same.releasedSequence).bind ?_
      intro _ _ _
      refine (forgetRemoved_coupled names outcome.contextRemoved request.contextId).bind ?_
      intro _ _ _
      exact makeTextResult_coupled names _ _

/-! ### The `warmup_prefix` operation -/

theorem stopped_unnamed (cancelled : Bool) (cancelMessage failMessage : StdString) :
    (stopped cancelled cancelMessage failMessage).contextId = 0 := by
  cases cancelled with
  | true => rfl
  | false => rfl

theorem warmupPrefix_coupled (systemPrompt : StdString) :
    Coupled allowed (Renamed names next) (warmupPrefix config systemPrompt)
      (warmupPrefix config systemPrompt) (HandlerResult.Renamed names) := by
  unfold warmupPrefix
  apply Coupled.ite Iff.rfl
  · intro _
    exact Coupled.pure (HandlerResult.Renamed.unnamed names rfl)
  · intro _
    refine (renderSystem_coupled systemPrompt).bind ?_
    rintro rendered _ rfl
    refine (onLlm_coupled names
      (LlmModel.llmWarmupSharedKv_coupled names.sequences (some (cStr rendered)) true)).bind ?_
    rintro sequence _ rfl
    apply Coupled.ite Iff.rfl
    · intro _
      refine (cancelledBy_coupled sequence).bind ?_
      rintro cancelled _ rfl
      exact Coupled.pure (HandlerResult.Renamed.unnamed names (stopped_unnamed _ _ _))
    · intro _
      exact makeTextResult_coupled names _ _

/-! ### The `generate` operation -/

/-- A change of a stored conversation. -/
private theorem rewriteConversation_coupled (contextId : ContextId)
    (rewrite : Conversation → Conversation) :
    Coupled allowed (Renamed names next)
      (Program.change fun stores =>
        match stores.conversations.lookup contextId with
        | none => stores
        | some conversation => storeConversation contextId (rewrite conversation) stores)
      (Program.change fun stores =>
        match stores.conversations.lookup (names.id contextId) with
        | none => stores
        | some conversation =>
            storeConversation (names.id contextId) (rewrite conversation) stores) Eq := by
  apply Coupled.change
  intro first second renamed
  rw [renamed.conversations.lookup_eq]
  cases first.conversations.lookup contextId with
  | none => exact renamed
  | some conversation => exact renamed.storeConversation contextId _

theorem dropMessages_coupled (contextId : ContextId) (previousCount : Nat) (applied : Bool) :
    Coupled allowed (Renamed names next) (dropMessages contextId previousCount applied)
      (dropMessages (names.id contextId) previousCount applied) Eq := by
  unfold dropMessages
  apply Coupled.ite Iff.rfl
  · intro _
    exact rewriteConversation_coupled names contextId fun conversation =>
      { conversation with messages := conversation.messages.take previousCount }
  · intro _
    exact Coupled.pure rfl

theorem recordAnswer_coupled (contextId : ContextId) (output : StdString) (applied : Bool) :
    Coupled allowed (Renamed names next) (recordAnswer contextId output applied)
      (recordAnswer (names.id contextId) output applied) Eq := by
  unfold recordAnswer
  apply Coupled.ite Iff.rfl
  · intro _
    exact rewriteConversation_coupled names contextId fun conversation =>
      { conversation with
        messages := conversation.messages ++ [(text "assistant", output)] }
  · intro _
    exact Coupled.pure rfl

theorem clearOutcome_coupled {outcome outcome' : ContextManager.Release}
    (same : ContextManager.ReleaseRenamed names outcome outcome') :
    Coupled allowed (Renamed names next) (clearOutcome config outcome)
      (clearOutcome config outcome') Eq := by
  unfold clearOutcome
  rw [same.released]
  apply Coupled.ite Iff.rfl
  · intro _
    exact clearReleased_coupled names same.releasedSequence
  · intro _
    exact Coupled.pure rfl

section Turns

variable (request : InvocationRequest) {lease lease' : ContextLease}
  (leases : ContextManager.LeaseRenamed names lease lease')

include leases

theorem abandonContext_coupled :
    Coupled allowed (Renamed names next) (abandonContext config request lease)
      (abandonContext config (renamedRequest names request) lease') Eq := by
  unfold abandonContext renamedRequest
  rw [leases.created, leases.contextId]
  apply Coupled.ite Iff.rfl
  · intro _
    refine (release_coupled names request.agentId request.parentId lease.contextId).bind ?_
    intro outcome outcome' same
    refine (clearOutcome_coupled names same).bind ?_
    intro _ _ _
    exact Coupled.change fun _ _ renamed => renamed.eraseConversation lease.contextId
  · intro _
    exact Coupled.pure rfl

theorem failTurn_coupled (previousCount : Nat) (applied : Bool) {response response' : LlmResponse}
    (same : response'.cancelled = response.cancelled) :
    Coupled allowed (Renamed names next)
      (failTurn config request lease previousCount applied response)
      (failTurn config (renamedRequest names request) lease' previousCount applied response')
      (HandlerResult.Renamed names) := by
  unfold failTurn
  have dropped : Coupled allowed (Renamed names next)
      (dropMessages lease.contextId previousCount applied)
      (dropMessages lease'.contextId previousCount applied) Eq := by
    rw [leases.contextId]
    exact dropMessages_coupled names lease.contextId previousCount applied
  refine dropped.bind ?_
  intro _ _ _
  refine (abandonContext_coupled names request leases).bind ?_
  intro _ _ _
  refine (cancelledDuring_coupled response response' same).bind ?_
  rintro cancelled _ rfl
  exact Coupled.pure (HandlerResult.Renamed.unnamed names (stopped_unnamed _ _ _))

omit request in
theorem completeTurn_coupled (applied : Bool) (response : LlmResponse) :
    Coupled allowed (Renamed names next) (completeTurn lease applied response)
      (completeTurn lease' applied (names.sequences.response response))
      (HandlerResult.Renamed names) := by
  unfold completeTurn
  rw [leases.contextId]
  apply Coupled.ask_then
  intro generated _
  refine (recordAnswer_coupled names lease.contextId generated.output applied).bind ?_
  intro _ _ _
  refine (makeTextResult_coupled names generated.output true).bind ?_
  rintro result _ rfl
  exact Coupled.pure rfl

theorem serveTurn_coupled (payload : GeneratePayload) (previousCount : Nat)
    (turn : RenderedTurn) :
    Coupled allowed (Renamed names next)
      (serveTurn config request payload lease previousCount turn)
      (serveTurn config (renamedRequest names request) payload lease' previousCount turn)
      (HandlerResult.Renamed names) := by
  unfold serveTurn
  rw [leases.created,
    show lease'.sequenceId.toInt = names.sequences.rename lease.sequenceId.toInt from
      leases.sequenceId]
  refine (onLlm_coupled names (LlmModel.llmInference_coupled names.sequences _)).bind ?_
  rintro outcome _ rfl
  have finished : Coupled allowed (Renamed names next) (finish lease.contextId)
      (finish lease'.contextId) Eq := by
    rw [leases.contextId]
    exact finish_coupled names lease.contextId
  refine finished.bind ?_
  intro _ _ _
  apply Coupled.ite Iff.rfl
  · intro _
    exact failTurn_coupled names request leases previousCount turn.applied rfl
  · intro _
    exact completeTurn_coupled names leases turn.applied outcome.2

omit request in
theorem conversationOf_coupled :
    Coupled allowed (Renamed names next) (Program.inspect (conversationOf config lease))
      (Program.inspect (conversationOf config lease')) Eq := by
  apply Coupled.inspect
  intro first second renamed
  unfold conversationOf
  rw [leases.created, leases.contextId, renamed.conversations.lookup_eq]

theorem serveLease_coupled (payload : GeneratePayload) :
    Coupled allowed (Renamed names next) (serveLease config request payload lease)
      (serveLease config (renamedRequest names request) payload lease')
      (HandlerResult.Renamed names) := by
  unfold serveLease
  refine (conversationOf_coupled names leases).bind ?_
  rintro conversation _ rfl
  rw [leases.created]
  refine (renderTurn_coupled conversation lease.created payload).bind ?_
  rintro rendered _ rfl
  have stored : Coupled allowed (Renamed names next)
      (Program.change (storeConversation lease.contextId rendered.1))
      (Program.change (storeConversation lease'.contextId rendered.1)) Eq := by
    rw [leases.contextId]
    exact Coupled.change fun _ _ renamed => renamed.storeConversation lease.contextId _
  refine stored.bind ?_
  intro _ _ _
  cases rendered.2 with
  | error message =>
      have finished : Coupled allowed (Renamed names next) (finish lease.contextId)
          (finish lease'.contextId) Eq := by
        rw [leases.contextId]
        exact finish_coupled names lease.contextId
      refine finished.bind ?_
      intro _ _ _
      exact Coupled.pure (HandlerResult.Renamed.unnamed names rfl)
  | ok turn => exact serveTurn_coupled names request leases payload _ turn

end Turns

/-! ### Whole calls -/

section Calls

variable {later : ContextId → Prop}
  (fits : ∀ id, next id → IdFits names.base id ∧ later (id + 1))
  (kept : ∀ id, next id → later id)

include fits kept

theorem generate_leads (request : InvocationRequest)
    (payload : Except StdString GeneratePayload) (order : IterationOrder ContextId) :
    Leads allowed (Renamed names next) (Renamed names later)
      (generate config request payload order)
      (generate config (renamedRequest names request) payload (order.renamed names.id))
      (HandlerResult.Renamed names) := by
  have still : ∀ first second, Renamed names next first second →
      Renamed names later first second := fun _ _ renamed => renamed.mono kept
  unfold generate
  cases payload with
  | error message =>
      exact Leads.ofCoupled (Coupled.pure (HandlerResult.Renamed.unnamed names rfl)) still
  | ok payload =>
      apply Leads.ite Iff.rfl
      · intro _
        exact Leads.ofCoupled (Coupled.pure (HandlerResult.Renamed.unnamed names rfl)) still
      · intro _
        refine (acquire_leads names fits kept request.agentId request.parentId
          request.contextId order).bind ?_
        rintro ⟨message, lease⟩ ⟨_, lease'⟩ ⟨rfl, granted⟩
        cases granted with
        | none =>
            exact Leads.ofCoupled (Coupled.pure (HandlerResult.Renamed.unnamed names rfl))
              fun _ _ renamed => renamed
        | some leases =>
            exact Leads.ofCoupled (serveLease_coupled names request leases payload)
              fun _ _ renamed => renamed

/-- The same call with the other names. -/
def HandleCall.renamed (names : ContextNames config.loaded) (call : HandleCall) : HandleCall :=
  { call with
    request := renamedRequest names call.request
    order := call.order.renamed names.id }

theorem handleModel_leads (call : HandleCall) :
    Leads allowed (Renamed names next) (Renamed names later) (handleModel config call)
      (handleModel config (call.renamed names)) (HandlerResult.Renamed names) := by
  have still : ∀ first second, Renamed names next first second →
      Renamed names later first second := fun _ _ renamed => renamed.mono kept
  unfold handleModel
  apply Leads.ite Iff.rfl
  · intro _
    exact Leads.ofCoupled (Coupled.pure (HandlerResult.Renamed.unnamed names rfl)) still
  · intro _
    apply Leads.ite Iff.rfl
    · intro _
      exact Leads.ofCoupled (releaseContext_coupled names call.request) still
    · intro _
      apply Leads.ite Iff.rfl
      · intro _
        exact Leads.ofCoupled (makeTextResult_coupled names [] _) still
      · intro _
        apply Leads.ite Iff.rfl
        · intro _
          exact Leads.ofCoupled (warmupPrefix_coupled names call.warmupPrompt) still
        · intro _
          apply Leads.ite Iff.rfl
          · intro _
            exact generate_leads names fits kept call.request call.payload call.order
          · intro _
            exact Leads.ofCoupled (Coupled.pure (HandlerResult.Renamed.unnamed names rfl)) still

end Calls

end RuntimeStores

/-! ### The handler -/

/-- A result with the context under its other name. -/
def renamedResult (ids : Equiv.Perm ContextId) (result : InvocationHandlerResult) :
    InvocationHandlerResult :=
  { result with contextId := ids result.contextId }

def Outcome.renamed (ids : Equiv.Perm ContextId) (outcome : Outcome) : Outcome :=
  outcome.map fun result => result.map (renamedResult ids)

namespace HandleEnvironment

variable (environment : HandleEnvironment)

/-- The traversals meet the other names. -/
def renamed (ids : Equiv.Perm ContextId) : HandleEnvironment :=
  { environment with order := environment.order.renamed ids }

theorem withRegion_renamed (outputType : UInt32) (ids : Equiv.Perm ContextId)
    (result : HandlerResult) :
    environment.withRegion outputType { result with contextId := ids result.contextId } =
      renamedResult ids (environment.withRegion outputType result) := by
  unfold withRegion renamedResult
  dsimp only
  by_cases failed : result.status ≠ .ok
  · rw [if_pos failed, if_pos failed]
  · rw [if_neg failed, if_neg failed]
    cases environment.textRegion result.output with
    | error message => rfl
    | ok region => rfl

theorem modelResult_renamed (ids : Equiv.Perm ContextId) (request : InvocationRequest)
    (contextId : ContextId) (result : HandlerResult) :
    environment.modelResult { request with contextId }
        { result with contextId := ids result.contextId } =
      renamedResult ids (environment.modelResult request result) := by
  unfold modelResult
  dsimp only
  by_cases stats : request.operation = text "stats"
  · rw [if_pos stats, if_pos stats]
    exact environment.withRegion_renamed _ ids { result with output := environment.statistics }
  · rw [if_neg stats, if_neg stats]
    exact environment.withRegion_renamed _ ids result

theorem toolResult_renamed (ids : Equiv.Perm ContextId) (tool : ToolResult)
    (stored : HandlerResult) :
    environment.toolResult tool { stored with contextId := ids stored.contextId } =
      renamedResult ids (environment.toolResult tool stored) := by
  unfold toolResult
  rw [environment.withRegion_renamed]
  rfl

end HandleEnvironment

namespace ServingRuntime

open RuntimeStores (Renamed cancelRequested_coupled handleModel_leads makeTextResult_coupled
  renamedRequest)

variable (runtime : ServingRuntime) (ready : runtime.initialized = true)

variable (names : ContextNames (runtime.accepting ready).loaded) {allowed : Answer → Prop}
  {next later : ContextId → Prop} (environment : HandleEnvironment)
  (request : InvocationRequest) (inputs : List InvocationMappedInput)

theorem handle_leads (fits : ∀ id, next id → IdFits names.base id ∧ later (id + 1))
    (kept : ∀ id, next id → later id) :
    Leads allowed (Renamed names next) (Renamed names later)
      (runtime.handle environment request inputs)
      (runtime.handle (environment.renamed names.id) (renamedRequest names request) inputs)
      fun outcome other => other = outcome.renamed names.id := by
  have still : ∀ first second, Renamed names next first second →
      Renamed names later first second := fun _ _ renamed => renamed.mono kept
  have unnamed (result : InvocationHandlerResult) (none : result.contextId = 0) :
      some (.ok result) = Outcome.renamed names.id (some (.ok result)) := by
    change _ = some (Except.ok (renamedResult names.id result))
    unfold renamedResult
    rw [none, names.id_zero, ← none]
  unfold handle
  rw [dif_pos ready, dif_pos ready]
  refine (Leads.ofCoupled cancelRequested_coupled fun _ _ renamed => renamed).bind ?_
  rintro cancelled _ rfl
  apply Leads.ite Iff.rfl
  · intro _
    exact Leads.ofCoupled (Coupled.pure (unnamed _ rfl)) still
  · intro _
    apply Leads.ite Iff.rfl
    · intro _
      unfold handleModel
      refine (handleModel_leads names fits kept (runtime.call environment request inputs)).bind ?_
      rintro result _ rfl
      refine Leads.ofCoupled (Coupled.pure ?_) fun _ _ renamed => renamed
      exact congrArg (fun result => some (Except.ok result))
        (environment.modelResult_renamed names.id request _ result)
    · intro _
      apply Leads.ite Iff.rfl
      · intro _
        have same : runtime.tools.execute (environment.renamed names.id).tool
            (renamedRequest names request) inputs =
            runtime.tools.execute environment.tool request inputs :=
          ToolManager.execute_context runtime.enableShellTool environment.tool request inputs _
        unfold handleTool
        rw [same]
        cases runtime.tools.execute environment.tool request inputs with
        | none => exact Leads.ofCoupled (Coupled.pure rfl) still
        | some executed =>
            cases executed with
            | error what => exact Leads.ofCoupled (Coupled.pure rfl) still
            | ok tool =>
                refine (Leads.ofCoupled (makeTextResult_coupled names tool.output true)
                  still).bind ?_
                rintro stored _ rfl
                refine Leads.ofCoupled (Coupled.pure ?_) fun _ _ renamed => renamed
                exact congrArg (fun result => some (Except.ok result))
                  (environment.toolResult_renamed names.id tool stored)
      · intro _
        exact Leads.ofCoupled (Coupled.pure (unnamed _ rfl)) still

end ServingRuntime

end AgentNucleus.Top
