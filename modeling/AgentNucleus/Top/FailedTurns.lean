/-
A turn in a context that exists already, and what is left of it when it fails.
The history is shortened again in any case; the sequence is given up when its
new positions cannot be removed, and both go on when only the output is lost.
-/

import AgentNucleus.Top.AlignedCalls
import AgentNucleus.Top.StoreRuns
import AgentNucleus.Top.TurnCleanup

set_option autoImplicit false

namespace AgentNucleus.Top.RuntimeStores

open AgentNucleus.Library
open AgentNucleus.Library.Program (Triple)
open AgentNucleus.Runtime (AgentId ContextId InvocationKind InvocationRequest InvocationStatus
  StdString TimePoint cStr text)
open AgentNucleus.Top.LlmModel (Aligned IsPrivate)

variable (config : AcceptedServing)

/-! ### A call up to its inference -/

/-- What a call has made ready when it comes to the inference. -/
structure PreparedTurn where
  payload : GeneratePayload
  lease : ContextLease
  previousCount : Nat
  turn : RenderedTurn

/-- The request of the inference. -/
def PreparedTurn.llmRequest (prepared : PreparedTurn) : LlmRequest where
  seqId := prepared.lease.sequenceId.toInt
  isFirstTurn := prepared.lease.created
  closeTurn := prepared.turn.applied
  systemPrompt :=
    if prepared.turn.systemPrompt.isEmpty then none else some (cStr prepared.turn.systemPrompt)
  maxTokens := prepared.payload.maxTokens
  cancellable := true

def prepareLease (payload : GeneratePayload) (lease : ContextLease) :
    Serve (Except HandlerResult PreparedTurn) := do
  let conversation ← Program.inspect (conversationOf config lease)
  let rendered ← renderTurn conversation lease.created payload
  Program.change (storeConversation lease.contextId rendered.1)
  match rendered.2 with
  | .error message =>
      finish lease.contextId
      pure (.error (HandlerResult.failed message))
  | .ok turn =>
      pure (.ok { payload, lease, previousCount := conversation.messages.length, turn })

/-- Either the inference comes next, or the call ends before it. -/
def prepareTurn (request : InvocationRequest) (payload : Except StdString GeneratePayload)
    (order : IterationOrder ContextId) : Serve (Except HandlerResult PreparedTurn) :=
  match payload with
  | .error message => pure (.error (HandlerResult.rejected message))
  | .ok payload =>
      if payload.invalid then
        pure (.error (HandlerResult.rejected (text "invalid model generation payload")))
      else do
        let acquired ← acquire config request.agentId request.parentId request.contextId order
        match acquired.2 with
        | none => pure (.error { status := .busy, message := acquired.1 })
        | some lease => prepareLease config payload lease

/-- The rest of the call. -/
def finishTurn (request : InvocationRequest) :
    Except HandlerResult PreparedTurn → Serve HandlerResult
  | .error result => pure result
  | .ok prepared =>
      serveTurn config request prepared.payload prepared.lease prepared.previousCount prepared.turn

theorem serveLease_eq (request : InvocationRequest) (payload : GeneratePayload)
    (lease : ContextLease) :
    serveLease config request payload lease =
      prepareLease config payload lease >>= finishTurn config request := by
  unfold serveLease prepareLease
  rw [bind_assoc]
  congr
  funext conversation
  rw [bind_assoc]
  congr
  funext rendered
  rw [bind_assoc]
  congr
  funext stored
  cases rendered.2 with
  | error message => rfl
  | ok turn => rfl

theorem generate_eq (request : InvocationRequest) (payload : Except StdString GeneratePayload)
    (order : IterationOrder ContextId) :
    generate config request payload order =
      prepareTurn config request payload order >>= finishTurn config request := by
  cases payload with
  | error message => rfl
  | ok payload =>
      unfold generate prepareTurn
      by_cases invalid : payload.invalid = true
      · simp only [if_pos invalid]
        rfl
      · simp only [if_neg invalid]
        rw [bind_assoc]
        congr
        funext acquired
        cases acquired.2 with
        | none => rfl
        | some lease => exact serveLease_eq config request payload lease

/-! ### The two ways in which history and sequence part -/

/-- The sequence could not be cut back to where the turn began. -/
def PreparedTurn.cleanupRefused (prepared : PreparedTurn) (stores : RuntimeStores)
    (answers : Answers Answer) : Bool :=
  LlmModel.cleanupRefused config.loaded prepared.llmRequest stores.llm answers

/-- The turn is complete, but there is no memory for its output.  The clock and
the generated text come before that. -/
def PreparedTurn.outputRefused (prepared : PreparedTurn) (stores : RuntimeStores)
    (answers : Answers Answer) : Bool :=
  let ended := LlmModel.llmInference config.loaded prepared.llmRequest stores.llm answers
  decide (ended.1.1.1 = 0) && !(ended.2 2).succeeded

/-- A turn in a context that existed goes one of these ways. -/
def partsReady (stores : RuntimeStores) (answers : Answers Answer) :
    Except HandlerResult PreparedTurn → Bool
  | .error _ => false
  | .ok prepared =>
      !prepared.lease.created &&
        (prepared.cleanupRefused config stores answers ||
          prepared.outputRefused config stores answers)

def partsTurn (stores : RuntimeStores) (call : HandleCall) : Bool :=
  let asked := cancelRequested stores call.answers
  if asked.1.1 then false
  else
    let ready := prepareTurn config call.request call.payload call.order asked.1.2 asked.2
    partsReady config ready.1.2 ready.2 ready.1.1

/-- The call is one of the `generate` operation. -/
structure HandleCall.Generates (call : HandleCall) : Prop where
  kind : call.request.kind = InvocationKind.model
  target : call.request.target = config.val.modelAlias
  operation : call.request.operation = text "generate"

/-- The context that the call asks for, if it exists already. -/
def HandleCall.context? (call : HandleCall) (stores : RuntimeStores) : Option ContextId :=
  requestedEntry stores.contexts call.request.agentId call.request.contextId call.order

def historyOf (stores : RuntimeStores) (contextId : ContextId) : List (StdString × StdString) :=
  ((stores.conversations.lookup contextId).map Conversation.messages).getD []

/-- History and sequence of a context are as they were. -/
structure SameTurns (before after : RuntimeStores) (contextId : ContextId) (entry : Entry) :
    Prop where
  history : after.historyOf contextId = before.historyOf contextId
  sequence : ∃ current, after.contexts.context? contextId = some current ∧
    after.sequenceOf contextId current = before.sequenceOf contextId entry

def Unfinished (result : HandlerResult) : Prop :=
  result.status = .failed ∨ result.status = .cancelled

/-- A call that fails or is cancelled leaves its context as it was, unless it has
removed it. -/
def KeepsTogether (stores : RuntimeStores) (call : HandleCall) : Prop :=
  ∀ contextId entry, call.context? stores = some contextId →
    stores.contexts.context? contextId = some entry →
      Unfinished (handle config call stores call.answers).1.1 →
        SameTurns stores ((handle config call).after stores call.answers) contextId entry ∨
          ((handle config call).after stores call.answers).contexts.context? contextId = none

variable {config} {stores start middle : RuntimeStores}

/-! ### The history -/

theorem conversationOf_messages {lease : ContextLease} (old : lease.created = false) :
    (conversationOf config lease stores).messages = stores.historyOf lease.contextId := by
  unfold conversationOf historyOf
  rw [old, if_neg Bool.false_ne_true]
  cases stores.conversations.lookup lease.contextId with
  | none => rfl
  | some conversation => rfl

/-- The messages of a conversation without those of the turn. -/
def messagesBefore (conversation : Conversation) (previousCount : Nat) (applied : Bool) :
    List (StdString × StdString) :=
  if applied then conversation.messages.take previousCount else conversation.messages

/-- What a later turn adds to the history can be taken away again. -/
structure Extends (conversation : Conversation)
    (rendered : Conversation × Except StdString RenderedTurn) : Prop where
  failed : ∀ message, rendered.2 = .error message → rendered.1.messages = conversation.messages
  goesOn : ∀ turn, rendered.2 = .ok turn →
    messagesBefore rendered.1 conversation.messages.length turn.applied =
      conversation.messages

private theorem Extends.error (conversation : Conversation) (message : StdString) :
    Extends conversation (conversation, .error message) :=
  ⟨fun _ _ => rfl, nofun⟩

theorem renderTurn_extends (conversation : Conversation) (payload : GeneratePayload)
    (before : RuntimeStores → Prop) :
    Triple before (renderTurn conversation false payload)
      fun rendered stores => before stores ∧ Extends conversation rendered := by
  have failed (message : StdString) : Triple before
      (pure (conversation, .error message) :
        Serve (Conversation × Except StdString RenderedTurn))
      fun rendered stores => before stores ∧ Extends conversation rendered :=
    Triple.pure _ fun _ holds => ⟨holds, Extends.error conversation message⟩
  apply Triple.ite
  · intro plain
    apply Triple.pure
    intro stores holds
    refine ⟨holds, nofun, ?_⟩
    intro turn same
    cases same
    rfl
  · intro templated
    apply Triple.bind (formatChat_keeps _ _)
    intro previous
    cases previous with
    | none => exact failed _
    | some previous =>
        apply Triple.bind (formatChat_keeps _ _)
        intro formatted
        cases formatted with
        | none => exact failed _
        | some formatted =>
            apply Triple.ite
            · intro starts
              apply Triple.pure
              intro stores holds
              refine ⟨holds, nofun, ?_⟩
              intro turn same
              cases same
              exact List.take_left
            · intro differs
              exact failed _

/-! ### The sequence of a lease -/

/-- The context of a lease is resident in the sequence of the lease. -/
def HeldBy (lease : ContextLease) (stores : RuntimeStores) : Prop :=
  ∃ current, stores.contexts.context? lease.contextId = some current ∧
    current.resident = true ∧ current.sequenceId = lease.sequenceId

/-- The state of a sequence with the positions that it holds. -/
def atSequence (stores : RuntimeStores) (sequenceId : Int32) : LlmModel.SeqState × Finset Nat :=
  (stores.llm.seqStates sequenceId.toInt, stores.llm.memory sequenceId.toInt)

theorem HeldBy.sequence_iff {lease : ContextLease} (held : HeldBy lease stores)
    (sequence : LlmModel.SeqState × Finset Nat) :
    (∃ current, stores.contexts.context? lease.contextId = some current ∧
      stores.sequenceOf lease.contextId current = sequence) ↔
        stores.atSequence lease.sequenceId = sequence := by
  obtain ⟨entry, present, home, own⟩ := held
  have here : stores.sequenceOf lease.contextId entry = stores.atSequence lease.sequenceId := by
    rw [sequenceOf_home _ _ home, own]
    rfl
  constructor
  · intro found
    obtain ⟨current, same, read⟩ := found
    cases present.symm.trans same
    rw [← here]
    exact read
  · intro read
    exact ⟨entry, present, here.trans read⟩

theorem HeldBy.congr {lease : ContextLease} (held : HeldBy lease stores)
    (same : middle.contexts = stores.contexts) : HeldBy lease middle := by
  unfold HeldBy
  rw [same]
  exact held

/-- The positions of a sequence follow from its state. -/
theorem atSequence_eq_iff (before : Aligned config.loaded stores.llm)
    (after : Aligned config.loaded middle.llm) {sequenceId : Int32}
    (found : IsPrivate config.loaded sequenceId.toInt) :
    middle.atSequence sequenceId = stores.atSequence sequenceId ↔
      middle.llm.seqStates sequenceId.toInt = stores.llm.seqStates sequenceId.toInt := by
  unfold atSequence
  rw [Prod.mk.injEq, memory_of_state before found, memory_of_state after found]
  constructor
  · intro same
    exact same.1
  · intro same
    exact ⟨same, by rw [same]⟩

theorem HeldBy.finish {lease : ContextLease} (held : HeldBy lease stores) (now : TimePoint) :
    HeldBy lease (setContexts (stores.contexts.finish lease.contextId now).1 stores) := by
  obtain ⟨entry, present, home, own⟩ := held
  have finished := ContextManager.finish_spec stores.contexts lease.contextId now
  unfold HeldBy setContexts
  dsimp only
  generalize (stores.contexts.finish lease.contextId now).1 = after at finished ⊢
  generalize (stores.contexts.finish lease.contextId now).2.2 = result at finished
  cases finished with
  | refused => exact ⟨entry, present, home, own⟩
  | unpinned current found pinned =>
      cases present.symm.trans found
      refine ⟨{ entry with pinCount := entry.pinCount - 1, lastAccess := now }, ?_, home, own⟩
      rw [ContextManager.context?_store, if_pos rfl]

/-! ### The call before its inference -/

/-- What has happened before the inference.  An existing context is the one that was
asked for, and has its sequence back. -/
structure Ready (config : AcceptedServing) (start : RuntimeStores) (target : Option ContextId)
    (prepared : PreparedTurn) (stores : RuntimeStores) : Prop where
  leased : Leased config prepared.lease stores
  created : prepared.lease.created = true → target = none
  named : prepared.lease.created = false → target = some prepared.lease.contextId
  held : prepared.lease.created = false → HeldBy prepared.lease stores
  sequence : prepared.lease.created = false → ∃ entry,
    start.contexts.context? prepared.lease.contextId = some entry ∧
      stores.atSequence prepared.lease.sequenceId =
        start.sequenceOf prepared.lease.contextId entry
  history : prepared.lease.created = false → ∃ conversation,
    stores.conversations.lookup prepared.lease.contextId = some conversation ∧
      messagesBefore conversation prepared.previousCount prepared.turn.applied =
        start.historyOf prepared.lease.contextId

/-- A call that ends before its inference leaves its context as it was. -/
def EndsEarly (start : RuntimeStores) (target : Option ContextId) (result : HandlerResult)
    (stores : RuntimeStores) : Prop :=
  Unfinished result → ∀ contextId entry, target = some contextId →
    start.contexts.context? contextId = some entry → SameTurns start stores contextId entry

def ComesTo (config : AcceptedServing) (start : RuntimeStores) (target : Option ContextId) :
    Except HandlerResult PreparedTurn → RuntimeStores → Prop
  | .error result => EndsEarly start target result
  | .ok prepared => Ready config start target prepared

theorem EndsEarly.rejected {target : Option ContextId} (message : StdString) :
    EndsEarly start target (HandlerResult.rejected message) stores := by
  intro unfinished
  rcases unfinished with failed | cancelled
  · cases failed
  · cases cancelled

theorem EndsEarly.busy {target : Option ContextId} (message : StdString) :
    EndsEarly start target { status := .busy, message } stores := by
  intro unfinished
  rcases unfinished with failed | cancelled
  · cases failed
  · cases cancelled

theorem historyOf_storeConversation (contextId : ContextId) (conversation : Conversation)
    (stores : RuntimeStores) :
    (storeConversation contextId conversation stores).historyOf contextId =
      conversation.messages := by
  unfold historyOf storeConversation
  dsimp only
  rw [UnorderedMap.lookup_insert_if, if_pos rfl]
  rfl

private theorem prepareLease_comes (payload : GeneratePayload) (lease : ContextLease)
    {target : Option ContextId} (lent : Lent config start target (some lease) middle) :
    Triple (fun stores => stores = middle) (prepareLease config payload lease)
      (ComesTo config start target) := by
  have leased : Leased config lease middle := ⟨lent.apart, lent.held lease rfl⟩
  have older (old : lease.created = false) : target = some lease.contextId ∧
      HeldBy lease middle ∧ ∃ entry, start.contexts.context? lease.contextId = some entry ∧
        middle.atSequence lease.sequenceId = start.sequenceOf lease.contextId entry := by
    obtain ⟨named, entry, current, before, present, home, own, same⟩ :=
      lent.existing lease rfl old
    have held : HeldBy lease middle := ⟨current, present, home, own⟩
    exact ⟨named, held, entry, before, (held.sequence_iff _).mp ⟨current, present, same⟩⟩
  have history (old : lease.created = false) :
      (conversationOf config lease middle).messages = start.historyOf lease.contextId := by
    rw [conversationOf_messages old]
    unfold historyOf
    rw [lent.conversations]
  apply Triple.inspect_then
  -- What the rendering adds depends on whether the context is new.
  have renders : Triple (fun stores => stores = middle)
      (renderTurn (conversationOf config lease middle) lease.created payload)
      fun rendered stores => stores = middle ∧
        (lease.created = true → ∃ turn, rendered.2 = .ok turn) ∧
        (lease.created = false → Extends (conversationOf config lease middle) rendered) := by
    cases created : lease.created with
    | true =>
        apply (renderTurn_spec _ true payload _).weaken
        intro rendered stores holds
        refine ⟨holds.1, holds.2, ?_⟩
        intro old
        cases old
    | false =>
        apply (renderTurn_extends _ payload _).weaken
        intro rendered stores holds
        refine ⟨holds.1, ?_, fun _ => holds.2⟩
        intro new
        cases new
  apply Triple.bind renders
  intro rendered
  apply Triple.from_state
  intro unchanged result
  obtain ⟨same, first, later⟩ := result
  subst same
  apply Triple.change_then
  cases outcome : rendered.2 with
  | error message =>
      have old : lease.created = false := by
        cases created : lease.created with
        | false => rfl
        | true =>
            obtain ⟨turn, given⟩ := first created
            rw [outcome] at given
            cases given
      obtain ⟨named, held, entry, before, same⟩ := older old
      apply Triple.bind (finish_leaves lease.contextId _)
      intro finished
      apply Triple.pure
      intro after left
      obtain ⟨now, ended⟩ := left
      subst ended
      intro unfinished contextId asked target present
      cases named.symm.trans target
      cases before.symm.trans present
      constructor
      · rw [← history old, ← (later old).failed message outcome]
        exact historyOf_storeConversation lease.contextId rendered.1 unchanged
      · exact ((HeldBy.finish held now).sequence_iff _).mpr same
  | ok turn =>
      apply Triple.pure
      intro after stored
      subst stored
      refine ⟨⟨leased.1.setConversations _, leased.2⟩, lent.created lease rfl, ?_, ?_, ?_, ?_⟩
      · intro old
        exact (older old).1
      · intro old
        exact (older old).2.1
      · intro old
        exact (older old).2.2
      · intro old
        refine ⟨rendered.1, ?_, ?_⟩
        · change (unchanged.conversations.insert lease.contextId rendered.1).lookup
            lease.contextId = some rendered.1
          rw [UnorderedMap.lookup_insert_if, if_pos rfl]
        · exact ((later old).goesOn turn outcome).trans (history old)

theorem prepareTurn_comes (apart : Apart config none none start) (call : HandleCall) :
    Triple (fun stores => stores = start)
      (prepareTurn config call.request call.payload call.order)
      (ComesTo config start (call.context? start)) := by
  have rejected (message : StdString) (stores : RuntimeStores) (_ : stores = start) :
      ComesTo config start (call.context? start) (.error (HandlerResult.rejected message))
        stores :=
    EndsEarly.rejected message
  unfold prepareTurn
  cases call.payload with
  | error message => exact Triple.pure _ (rejected message)
  | ok payload =>
      apply Triple.ite
      · intro invalid
        exact Triple.pure _ (rejected _)
      · intro valid
        apply Triple.bind (acquire_lent apart call.request.agentId call.request.parentId
          call.request.contextId call.order)
        intro acquired
        apply Triple.from_state
        intro middle lent
        cases result : acquired.2 with
        | none =>
            apply Triple.pure
            intro stores same
            exact EndsEarly.busy acquired.1
        | some lease =>
            rw [result] at lent
            exact prepareLease_comes payload lease lent

/-! ### The end of the turn -/

/-- The end of a failed turn in an existing context. -/
theorem failTurn_later (request : InvocationRequest) {lease : ContextLease}
    (old : lease.created = false) (previousCount : Nat) (applied : Bool)
    (response : LlmResponse) {conversation : Conversation}
    (found : middle.conversations.lookup lease.contextId = some conversation) :
    Triple (fun stores => stores = middle)
      (failTurn config request lease previousCount applied response)
      fun result after => Unfinished result ∧ after.contexts = middle.contexts ∧
        after.llm = middle.llm ∧
        after.historyOf lease.contextId = messagesBefore conversation previousCount applied := by
  have dropped : Triple (fun stores => stores = middle)
      (dropMessages lease.contextId previousCount applied)
      fun _ after => after.contexts = middle.contexts ∧ after.llm = middle.llm ∧
        after.historyOf lease.contextId = messagesBefore conversation previousCount applied := by
    unfold dropMessages messagesBefore
    cases applied with
    | false =>
        apply Triple.pure
        intro stores same
        subst same
        refine ⟨rfl, rfl, ?_⟩
        unfold historyOf
        rw [found]
        rfl
    | true =>
        apply Triple.change
        intro stores same
        subst same
        simp only [found]
        exact ⟨rfl, rfl, historyOf_storeConversation ..⟩
  have kept : abandonContext config request lease = pure () := by
    unfold abandonContext
    rw [old]
    rfl
  unfold failTurn
  rw [kept]
  apply Triple.bind dropped
  intro done
  rw [pure_bind]
  apply Triple.bind (cancelledDuring_keeps response _)
  intro cancelled
  apply Triple.pure
  intro after holds
  refine ⟨?_, holds⟩
  cases cancelled with
  | true => exact Or.inr rfl
  | false => exact Or.inl rfl

private theorem recordAnswer_run (contextId : ContextId) (output : StdString) (applied : Bool)
    (stores : RuntimeStores) (answers : Answers Answer) :
    ∃ after, recordAnswer contextId output applied stores answers = (((), after), answers) ∧
      after.contexts = stores.contexts ∧ after.llm = stores.llm := by
  cases applied with
  | false => exact ⟨stores, rfl, rfl, rfl⟩
  | true =>
      refine ⟨_, rfl, ?_⟩
      dsimp only
      cases stores.conversations.lookup contextId with
      | none => exact ⟨rfl, rfl⟩
      | some conversation => exact ⟨rfl, rfl⟩

/-- A completed turn is reported as such unless its output cannot be created. -/
theorem completeTurn_run (lease : ContextLease) (applied : Bool) (response : LlmResponse)
    (stores : RuntimeStores) (answers : Answers Answer) :
    (completeTurn lease applied response stores answers).1.1.status =
        (if (answers 1).succeeded then .ok else .failed) ∧
      (completeTurn lease applied response stores answers).1.2.contexts = stores.contexts ∧
      (completeTurn lease applied response stores answers).1.2.llm = stores.llm := by
  obtain ⟨after, recorded, contexts, llm⟩ := recordAnswer_run lease.contextId
    (answers 0).output applied stores fun index => answers (index + 1)
  have ends : (completeTurn lease applied response stores answers).1.1.status =
        (makeTextResult (answers 0).output true after fun index => answers (index + 1)).1.1.status ∧
      (completeTurn lease applied response stores answers).1.2 =
        (makeTextResult (answers 0).output true after fun index => answers (index + 1)).1.2 := by
    have asked : Program.ask stores answers =
        ((answers 0, stores), fun index => answers (index + 1)) := rfl
    unfold completeTurn
    rw [Program.run_bind _ _ _ _ _ asked]
    dsimp only
    rw [Program.run_bind _ _ _ _ _ recorded]
    exact ⟨rfl, rfl⟩
  have asked : makeTextResult (answers 0).output true after (fun index => answers (index + 1)) =
      ((if (answers 1).succeeded then { output := (answers 0).output }
        else HandlerResult.failed (answers 1).output, after),
        fun index => answers (index + 2)) := by
    change ((if (answers 1).succeeded then _ else _ : Serve HandlerResult) after _) = _
    cases (answers 1).succeeded with
    | true => rfl
    | false => rfl
  rw [ends.1, ends.2, asked]
  refine ⟨?_, contexts, llm⟩
  cases (answers 1).succeeded with
  | true => rfl
  | false => rfl

/-- The inference with what follows it. -/
theorem serveTurn_run (prepared : PreparedTurn) (request : InvocationRequest)
    {answers rest : Answers Answer} {outcome : Int × LlmResponse} {llm : LlmModel}
    (inferred : LlmModel.llmInference config.loaded prepared.llmRequest stores.llm answers =
      ((outcome, llm), rest)) :
    finishTurn config request (.ok prepared) stores answers =
      (if outcome.1 ≠ 0 then
        failTurn config request prepared.lease prepared.previousCount prepared.turn.applied
          outcome.2
      else completeTurn prepared.lease prepared.turn.applied outcome.2 : Serve HandlerResult)
        (setContexts (stores.contexts.finish prepared.lease.contextId (rest 0).now).1
          { stores with llm }) fun index => rest (index + 1) := by
  have served : onLlm (LlmModel.llmInference config.loaded prepared.llmRequest) stores answers =
      ((outcome, { stores with llm }), rest) :=
    Program.run_on RuntimeStores.llm (fun stores llm => { stores with llm }) _ stores answers _
      inferred
  exact (Program.run_bind _ _ _ _ _ served).trans rfl

section LaterTurn

variable {prepared : PreparedTurn} {target : Option ContextId} {entry : Entry}

/-- The sequence of an existing context, before and after its turn. -/
private theorem Ready.sequence_iff (ready : Ready config start target prepared stores)
    (old : prepared.lease.created = false)
    (present : start.contexts.context? prepared.lease.contextId = some entry)
    (held : HeldBy prepared.lease middle) (aligned : Aligned config.loaded middle.llm) :
    (∃ current, middle.contexts.context? prepared.lease.contextId = some current ∧
      middle.sequenceOf prepared.lease.contextId current =
        start.sequenceOf prepared.lease.contextId entry) ↔
      middle.llm.seqStates prepared.lease.sequenceId.toInt =
        stores.llm.seqStates prepared.lease.sequenceId.toInt := by
  obtain ⟨before, found, same⟩ := ready.sequence old
  cases present.symm.trans found
  obtain ⟨current, stored, home, own⟩ := ready.held old
  have isPrivate := ready.leased.1.resident_private stored home
  rw [own] at isPrivate
  rw [← same, held.sequence_iff]
  exact atSequence_eq_iff ready.leased.1.aligned aligned isPrivate

/-- A failed turn leaves history and sequence, unless the sequence was given up. -/
private theorem failTurn_undoes (ready : Ready config start target prepared stores)
    (old : prepared.lease.created = false)
    (present : start.contexts.context? prepared.lease.contextId = some entry)
    {answers : Answers Answer} {llm : LlmModel} (aligned : Aligned config.loaded llm)
    (state : llm.seqStates prepared.lease.sequenceId.toInt =
      if prepared.cleanupRefused config stores answers then {}
      else stores.llm.seqStates prepared.lease.sequenceId.toInt)
    (used : prepared.cleanupRefused config stores answers = true →
      (stores.llm.seqStates prepared.lease.sequenceId.toInt).inUse = true)
    (request : InvocationRequest) (response : LlmResponse) (now : TimePoint) :
    Triple (fun middle => middle =
        setContexts (stores.contexts.finish prepared.lease.contextId now).1 { stores with llm })
      (failTurn config request prepared.lease prepared.previousCount prepared.turn.applied
        response)
      fun result after => Unfinished result ∧ HeldBy prepared.lease after ∧
        (SameTurns start after prepared.lease.contextId entry ↔
          prepared.cleanupRefused config stores answers = false) := by
  obtain ⟨conversation, found, shortened⟩ := ready.history old
  have stored : (setContexts (stores.contexts.finish prepared.lease.contextId now).1
      { stores with llm }).conversations.lookup prepared.lease.contextId = some conversation :=
    found
  apply (failTurn_later request old prepared.previousCount prepared.turn.applied response
    stored).weaken
  intro result after left
  obtain ⟨unfinished, contexts, model, history⟩ := left
  have held : HeldBy prepared.lease after :=
    ((ready.held old).finish now).congr contexts
  have modelAligned : Aligned config.loaded after.llm := by
    rw [model]
    exact aligned
  refine ⟨unfinished, held, ?_⟩
  have states : after.llm.seqStates prepared.lease.sequenceId.toInt =
      stores.llm.seqStates prepared.lease.sequenceId.toInt ↔
        prepared.cleanupRefused config stores answers = false := by
    rw [model]
    change llm.seqStates _ = _ ↔ _
    rw [state]
    cases refused : prepared.cleanupRefused config stores answers with
    | false => simp
    | true =>
        constructor
        · intro same
          have inUse := used refused
          rw [if_pos rfl] at same
          rw [← same] at inUse
          cases inUse
        · intro kept
          cases kept
  rw [← states, ← ready.sequence_iff old present held modelAligned]
  constructor
  · intro same
    exact same.sequence
  · intro same
    exact ⟨history.trans shortened, same⟩

/-- A completed turn has moved its sequence. -/
private theorem completeTurn_moves (ready : Ready config start target prepared stores)
    (old : prepared.lease.created = false)
    (present : start.contexts.context? prepared.lease.contextId = some entry)
    {llm : LlmModel} (aligned : Aligned config.loaded llm)
    (moved : (stores.llm.seqStates prepared.lease.sequenceId.toInt).currentPos <
      (llm.seqStates prepared.lease.sequenceId.toInt).currentPos)
    (response : LlmResponse) (now : TimePoint) (answers : Answers Answer) :
    let ended := completeTurn prepared.lease prepared.turn.applied response
      (setContexts (stores.contexts.finish prepared.lease.contextId now).1 { stores with llm })
      answers
    (Unfinished ended.1.1 ↔ (answers 1).succeeded = false) ∧
      HeldBy prepared.lease ended.1.2 ∧
      ¬SameTurns start ended.1.2 prepared.lease.contextId entry := by
  obtain ⟨status, contexts, model⟩ := completeTurn_run prepared.lease prepared.turn.applied
    response
    (setContexts (stores.contexts.finish prepared.lease.contextId now).1 { stores with llm })
    answers
  have held := ((ready.held old).finish now).congr contexts
  refine ⟨?_, held, ?_⟩
  · unfold Unfinished
    rw [status]
    cases (answers 1).succeeded with
    | true => simp [InvocationStatus.ok, InvocationStatus.failed, InvocationStatus.cancelled]
    | false => simp
  · intro same
    have unmoved := (ready.sequence_iff old present held (by
      rw [model]
      exact aligned)).mp same.sequence
    rw [model] at unmoved
    change llm.seqStates _ = _ at unmoved
    rw [unmoved] at moved
    exact Nat.lt_irrefl _ moved

/-- After a later turn the context is where it was exactly if neither the sequence nor
the output was refused. -/
theorem finishTurn_keeps (ready : Ready config start target prepared stores)
    (old : prepared.lease.created = false)
    (present : start.contexts.context? prepared.lease.contextId = some entry)
    (request : InvocationRequest) (answers : Answers Answer) :
    let ended := finishTurn config request (.ok prepared) stores answers
    HeldBy prepared.lease ended.1.2 ∧
      ((Unfinished ended.1.1 → SameTurns start ended.1.2 prepared.lease.contextId entry) ↔
        (prepared.cleanupRefused config stores answers ||
          prepared.outputRefused config stores answers) = false) := by
  have served := (LlmModel.llmInference_spec prepared.llmRequest
    ready.leased.1.aligned).run stores.llm answers rfl
  have later : prepared.llmRequest.isFirstTurn = false := old
  rcases inferred : LlmModel.llmInference config.loaded prepared.llmRequest stores.llm answers
    with ⟨⟨outcome, llm⟩, rest⟩
  have output : prepared.outputRefused config stores answers =
      (decide (outcome.1 = 0) && !(rest 2).succeeded) := by
    unfold PreparedTurn.outputRefused
    rw [inferred]
  rw [inferred] at served
  dsimp only
  rw [serveTurn_run prepared request inferred, output]
  by_cases completed : outcome.1 = 0
  · have moved := (@LlmModel.llmInference_moves config.loaded _ _ later).run stores.llm answers rfl
    rw [inferred] at moved
    have kept : prepared.cleanupRefused config stores answers = false := by
      apply Bool.eq_false_of_not_eq_true
      intro refused
      have fails := (LlmModel.cleanupRefused_fails later answers refused).1
      rw [inferred] at fails
      exact fails completed
    obtain ⟨unfinished, held, parted⟩ := completeTurn_moves ready old present
      served.aligned (moved completed) outcome.2 (rest 0).now fun index => rest (index + 1)
    rw [if_neg (not_not.mpr completed), kept, decide_eq_true completed, unfinished]
    refine ⟨held, ?_⟩
    cases (rest 2).succeeded with
    | true => simp
    | false => simpa using parted
  · have state := LlmModel.llmInference_failed later ready.leased.1.aligned answers (by
      rw [inferred]
      exact completed)
    rw [inferred] at state
    have used (refused : prepared.cleanupRefused config stores answers = true) :
        (stores.llm.seqStates prepared.lease.sequenceId.toInt).inUse = true :=
      (LlmModel.cleanupRefused_fails later answers refused).2
    obtain ⟨unfinished, held, same⟩ := (failTurn_undoes ready old present
      served.aligned state used request outcome.2 (rest 0).now).run _
      (fun index => rest (index + 1)) rfl
    rw [if_pos completed, decide_eq_false completed, Bool.false_and, Bool.or_false, ← same]
    refine ⟨held, ?_⟩
    constructor
    · intro kept
      exact kept unfinished
    · intro kept failed
      exact kept

end LaterTurn

/-! ### The call -/

/-- A call of `generate` that is not cancelled at once. -/
theorem handle_generates {call : HandleCall} (generates : call.Generates config)
    (stores : RuntimeStores) (goesOn : (call.answers 0).cancelled = false) :
    handle config call stores call.answers =
      (prepareTurn config call.request call.payload call.order >>=
        finishTurn config call.request) stores fun index => call.answers (index + 1) := by
  have asked : cancelRequested stores call.answers =
      ((false, stores), fun index => call.answers (index + 1)) := by
    change (((call.answers 0).cancelled, stores), _) = _
    rw [goesOn]
  have known : ¬call.request.target ≠ config.val.modelAlias :=
    not_not.mpr generates.target
  have notRelease : text "generate" ≠ text "release_context" := by decide
  have notStats : text "generate" ≠ text "stats" := by decide
  have notWarmup : text "generate" ≠ text "warmup_prefix" := by decide
  unfold handle
  rw [Program.run_bind _ _ _ _ _ asked]
  dsimp only
  rw [if_neg Bool.false_ne_true, if_pos generates.kind]
  unfold handleModel
  rw [if_neg known, generates.operation, if_neg notRelease, if_neg notStats,
    if_neg notWarmup, if_pos rfl, generate_eq]

/-- A call that ends at once changes nothing. -/
theorem handle_cancelled (call : HandleCall) (stores : RuntimeStores)
    (now : (call.answers 0).cancelled = true) :
    (handle config call).after stores call.answers = stores := by
  have asked : cancelRequested stores call.answers =
      ((true, stores), fun index => call.answers (index + 1)) := by
    change (((call.answers 0).cancelled, stores), _) = _
    rw [now]
  unfold Program.after handle
  rw [Program.run_bind _ _ _ _ _ asked]
  rfl

theorem SameTurns.refl {contextId : ContextId} {entry : Entry}
    (present : stores.contexts.context? contextId = some entry) :
    SameTurns stores stores contextId entry :=
  ⟨rfl, entry, present, rfl⟩

/-- What a call that is ready does to its context. -/
private theorem finishTurn_keepsTogether {call : HandleCall} {outcome : Except HandlerResult
      PreparedTurn} (comes : ComesTo config start (call.context? start) outcome stores)
    (answers : Answers Answer) :
    let ended := finishTurn config call.request outcome stores answers
    (∀ contextId entry, call.context? start = some contextId →
      start.contexts.context? contextId = some entry → Unfinished ended.1.1 →
        SameTurns start ended.1.2 contextId entry ∨
          ended.1.2.contexts.context? contextId = none) ↔
      partsReady config stores answers outcome = false := by
  cases outcome with
  | error result =>
      constructor
      · intro keeps
        rfl
      · intro unparted contextId entry target present unfinished
        exact Or.inl (comes unfinished contextId entry target present)
  | ok prepared =>
      have ready : Ready config start (call.context? start) prepared stores := comes
      have parts : partsReady config stores answers (.ok prepared) =
          (!prepared.lease.created &&
            (prepared.cleanupRefused config stores answers ||
              prepared.outputRefused config stores answers)) := rfl
      dsimp only
      rw [parts]
      cases created : prepared.lease.created with
      | true =>
          have target := ready.created created
          constructor
          · intro keeps
            rfl
          · intro unparted contextId entry named
            rw [target] at named
            cases named
      | false =>
          have target := ready.named created
          obtain ⟨entry, present, same⟩ := ready.sequence created
          obtain ⟨held, keeps⟩ := finishTurn_keeps ready created present call.request answers
          rw [Bool.not_false, Bool.true_and, ← keeps]
          constructor
          · intro kept unfinished
            rcases kept prepared.lease.contextId entry target present unfinished with same | gone
            · exact same
            · obtain ⟨current, stored, _⟩ := held
              cases gone.symm.trans stored
          · intro kept contextId other named stored unfinished
            cases target.symm.trans named
            cases present.symm.trans stored
            exact Or.inl (kept unfinished)

/-- Whatever has happened before, a call parts history and sequence of its context in
these two ways only. -/
theorem failed_turn_keeps_iff (config : AcceptedServing) (calls : List HandleCall)
    (call : HandleCall) (generates : call.Generates config) :
    KeepsTogether config ((machine config).run calls) call ↔
      partsTurn config ((machine config).run calls) call = false := by
  have apart := run_apart config calls
  generalize (machine config).run calls = stores at apart ⊢
  cases asked : (call.answers 0).cancelled with
  | true =>
      have ends : partsTurn config stores call = false := by
        change (if (call.answers 0).cancelled then false else _) = false
        rw [asked]
        rfl
      refine ⟨fun _ => ends, ?_⟩
      intro unparted contextId entry target present unfinished
      rw [handle_cancelled call stores asked]
      exact Or.inl (SameTurns.refl present)
  | false =>
      have comes := (prepareTurn_comes apart call).run stores
        (fun index => call.answers (index + 1)) rfl
      have parts : partsTurn config stores call =
          let ready := prepareTurn config call.request call.payload call.order stores
            fun index => call.answers (index + 1)
          partsReady config ready.1.2 ready.2 ready.1.1 := by
        change (if (call.answers 0).cancelled then false else _) = _
        rw [asked]
        rfl
      rw [parts]
      unfold KeepsTogether Program.after
      rw [handle_generates generates stores asked]
      exact finishTurn_keepsTogether comes _

/-- One context, with a chat template. -/
def templated : AcceptedServing := ⟨{ maxContexts := 1 }, by decide⟩

/-- The turn is cancelled in its generation, after which one answer is a failure. -/
def cancelledTurn (refused : Nat) : HandleCall :=
  { turnOf 1 {} with
    answers := fun index =>
      { rendered := some [], cancelled := index == 16, succeeded := index != refused } }

/-- Nothing is cancelled, and one answer is a failure. -/
def unwrittenTurn (refused : Nat) : HandleCall :=
  { turnOf 1 {} with
    answers := fun index => { rendered := some [], succeeded := index != refused } }

theorem cancelledTurn_generates (refused : Nat) :
    (cancelledTurn refused).Generates templated :=
  ⟨rfl, rfl, rfl⟩

/-- Without a refusal a cancelled turn is undone. -/
theorem cancelledTurn_keeps :
    KeepsTogether templated ((machine templated).run [turnOf 1 { rendered := some [] }])
      (cancelledTurn 0) := by
  apply (failed_turn_keeps_iff templated [turnOf 1 { rendered := some [] }] (cancelledTurn 0)
    (cancelledTurn_generates 0)).mpr
  decide +kernel

def stateOf (stores : RuntimeStores) (contextId : ContextId) : Option LlmModel.SeqState :=
  (stores.contexts.context? contextId).map fun entry => (stores.sequenceOf contextId entry).1

private theorem not_keepsTogether {call : HandleCall} {contextId : ContextId}
    {state moved : LlmModel.SeqState} (asked : call.context? stores = some contextId)
    (unfinished : Unfinished (handle config call stores call.answers).1.1)
    (before : stores.stateOf contextId = some state)
    (after : ((handle config call).after stores call.answers).stateOf contextId = some moved)
    (different : moved ≠ state) : ¬KeepsTogether config stores call := by
  intro keeps
  obtain ⟨entry, present, was⟩ := Option.map_eq_some_iff.mp before
  rcases keeps contextId entry asked present unfinished with same | gone
  · obtain ⟨current, stored, unmoved⟩ := same.sequence
    unfold stateOf at after
    rw [stored, Option.map_some, unmoved, was] at after
    cases after
    exact different rfl
  · unfold stateOf at after
    rw [gone] at after
    cases after

/-- The second turn of a context is cancelled, and the partial removal is refused: the
history stays, the sequence does not.  Or its output cannot be created: both stay, and
the call has failed. -/
theorem history_and_sequence_part :
    ¬KeepsTogether templated ((machine templated).run [turnOf 1 { rendered := some [] }])
        (cancelledTurn 17) ∧
      ¬KeepsTogether templated ((machine templated).run [turnOf 1 { rendered := some [] }])
        (unwrittenTurn 21) := by
  have before : ((machine templated).run [turnOf 1 { rendered := some [] }]).stateOf 1 =
      some { currentPos := 3, inUse := true } := by decide +kernel
  constructor
  · have asked : (cancelledTurn 17).context?
        ((machine templated).run [turnOf 1 { rendered := some [] }]) = some 1 := by
      decide +kernel
    have status : (handle templated (cancelledTurn 17)
        ((machine templated).run [turnOf 1 { rendered := some [] }])
        (cancelledTurn 17).answers).1.1.status = .cancelled := by decide +kernel
    have emptied : ((handle templated (cancelledTurn 17)).after
        ((machine templated).run [turnOf 1 { rendered := some [] }])
        (cancelledTurn 17).answers).stateOf 1 = some {} := by decide +kernel
    exact not_keepsTogether asked (Or.inr status) before emptied (by decide)
  · have asked : (unwrittenTurn 21).context?
        ((machine templated).run [turnOf 1 { rendered := some [] }]) = some 1 := by
      decide +kernel
    have status : (handle templated (unwrittenTurn 21)
        ((machine templated).run [turnOf 1 { rendered := some [] }])
        (unwrittenTurn 21).answers).1.1.status = .failed := by decide +kernel
    have moved : ((handle templated (unwrittenTurn 21)).after
        ((machine templated).run [turnOf 1 { rendered := some [] }])
        (unwrittenTurn 21).answers).stateOf 1 =
          some { currentPos := 6, inUse := true } := by decide +kernel
    exact not_keepsTogether asked (Or.inl status) before moved (by decide)

end AgentNucleus.Top.RuntimeStores
