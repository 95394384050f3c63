/-
A turn with its texts and tokens, from the lease on.  If it succeeds, the history and the
sequence of its context have gained the same text; if it fails, a new context is taken back
and an existing one is left as it was.
-/

import AgentNucleus.Top.ChatRendering
import AgentNucleus.Top.KvRuns
import AgentNucleus.Top.StoreTurns

set_option autoImplicit false

namespace AgentNucleus.Top

open AgentNucleus.Library
open AgentNucleus.Library.Checked (Triple)
open AgentNucleus.Runtime (CString ContextId InvocationRequest StdString cStr cString text)
open AgentNucleus.Top.LlmModel (Aligned)
open RuntimeStores (GeneratePayload RenderedTurn)

namespace TokenStores

variable {config : AcceptedServing} {vocabulary : Vocabulary} {template : Template}
variable {opening : StdString → StdString}

/-- Positions and slots are as they should be. -/
structure Sound (config : AcceptedServing) (vocabulary : Vocabulary) (model : TokenModel) :
    Prop where
  aligned : Aligned config.loaded model.llm
  prefixes : TokenModel.PrefixesHeld config.loaded vocabulary model

theorem onStores_spec {α : Type} {program : Serve α} {start : TokenStores}
    {after : α → TokenStores → Prop}
    (proved : Program.Triple (fun stores => stores = start.stores) program
      fun value stores => after value { start with stores }) :
    Triple (fun whole => whole = start) (onStores program) after := by
  apply Triple.lift
  apply Program.Triple.on
  intro whole same
  rw [same]
  exact proved

/-- The model is not concerned, and the conversation of a context is this one. -/
structure Reached (model : TokenModel) (contextId : ContextId)
    (conversation : Option Conversation) (whole : TokenStores) : Prop where
  model : whole.model = model
  stored : whole.stores.conversations.lookup contextId = conversation

variable {model : TokenModel} {contextId : ContextId} {conversation : Conversation}
variable {present : Option Conversation}

/-- Whoever keeps the model and the conversations keeps a state. -/
theorem Reached.keeps {α : Type} {program : Serve α}
    (untouched : ∀ start, Program.Triple (fun stores => stores = start) program
      fun _ after => after.llm = start.llm ∧ after.conversations = start.conversations) :
    Triple (Reached model contextId present) (onStores program)
      fun _ => Reached model contextId present := by
  apply Triple.from_state
  intro start reached
  apply onStores_spec
  apply (untouched start.stores).weaken
  rintro _ stores ⟨llm, conversations⟩
  refine ⟨?_, ?_⟩
  · rw [← reached.model]
    exact congrArg (fun llm => ({ llm, cells := start.cells } : TokenModel)) llm
  · change stores.conversations.lookup contextId = _
    rw [conversations]
    exact reached.stored

theorem Reached.finish (finished : ContextId) :
    Triple (Reached model contextId present) (onStores (RuntimeStores.finish finished))
      fun _ => Reached model contextId present := by
  apply Reached.keeps
  intro start
  apply (RuntimeStores.finish_leaves finished start).weaken
  rintro _ after ⟨now, rfl⟩
  exact ⟨rfl, rfl⟩

theorem Reached.asks {α : Type} {program : Serve α}
    (keeps : ∀ before : RuntimeStores → Prop, Program.Triple before program fun _ => before) :
    Triple (Reached model contextId present) (onStores program)
      fun _ => Reached model contextId present := by
  apply Reached.keeps
  intro start
  apply (keeps _).weaken
  intro _ after same
  rw [same]
  exact ⟨rfl, rfl⟩

theorem Reached.store (next : Conversation) :
    Triple (Reached model contextId present)
      (onStores (Program.change (RuntimeStores.storeConversation contextId next)))
      fun _ => Reached model contextId (some next) := by
  apply Triple.from_state
  intro start reached
  apply onStores_spec
  apply Program.Triple.change
  intro stores same
  rw [same]
  refine ⟨reached.model, ?_⟩
  change (start.stores.conversations.insert contextId next).lookup contextId = _
  rw [UnorderedMap.lookup_insert_if, if_pos rfl]

/-- The stored conversation is rewritten, as after a turn. -/
theorem Reached.rewrite (change : Conversation → Conversation) :
    Triple (Reached model contextId (some conversation))
      (onStores (Program.change fun stores =>
        match stores.conversations.lookup contextId with
        | none => stores
        | some conversation =>
            RuntimeStores.storeConversation contextId (change conversation) stores))
      fun _ => Reached model contextId (some (change conversation)) := by
  apply Triple.from_state
  intro start reached
  apply onStores_spec
  apply Program.Triple.change
  intro stores same
  have found := reached.stored
  rw [same]
  simp only [found]
  refine ⟨reached.model, ?_⟩
  change (start.stores.conversations.insert contextId (change conversation)).lookup contextId = _
  rw [UnorderedMap.lookup_insert_if, if_pos rfl]

theorem Reached.recordAnswer (output : StdString) :
    Triple (Reached model contextId (some conversation))
      (onStores (RuntimeStores.recordAnswer contextId output true))
      fun _ => Reached model contextId (some { conversation with
        messages := conversation.messages ++ [(text "assistant", output)] }) :=
  Reached.rewrite fun conversation =>
    { conversation with messages := conversation.messages ++ [(text "assistant", output)] }

theorem completeTurn_reached (lease : ContextLease) (response : LlmResponse)
    (generated : List Token) :
    Triple (Reached model lease.contextId (some conversation))
      (completeTurn vocabulary lease true response generated)
      fun _ => Reached model lease.contextId (some { conversation with
        messages := conversation.messages ++
          [(text "assistant", cString (vocabulary.spell generated))] }) := by
  apply (Reached.asks fun _ => ⟨fun _ _ start => start⟩).bind
  intro answer
  apply Triple.require_then
  intro spelled
  rw [← spelled]
  apply (Reached.recordAnswer answer.output).bind
  intro recorded
  apply (Reached.asks fun before => RuntimeStores.makeTextResult_keeps _ _ before).bind
  intro result
  exact Triple.pure _ fun _ reached => reached

/-- How a turn that has failed is reported. -/
def Undone (result : HandlerResult) : Prop :=
  ∃ cancelled, result = RuntimeStores.stopped cancelled (text "model generation cancelled")
    (text "model generation failed")

private theorem dropMessages_llm (llm : LlmModel) (contextId : ContextId)
    (previousCount : Nat) (applied : Bool) :
    Program.Triple (fun stores => stores.llm = llm)
      (RuntimeStores.dropMessages contextId previousCount applied)
      fun _ stores => stores.llm = llm := by
  unfold RuntimeStores.dropMessages
  apply Program.Triple.ite
  · intro rendered
    apply Program.Triple.change
    intro stores same
    cases stores.conversations.lookup contextId with
    | none => exact same
    | some conversation => exact same
  · intro plain
    exact Program.Triple.pure _ fun _ same => same

/-- A sequence that is cleared has its positions removed, and no slot is concerned. -/
private theorem llmClearSeq_sound (loaded : LoadedConfig) (seqId : Int) (base : LlmModel)
    (aligned : Aligned loaded base) :
    Program.Triple (fun llm => llm = base) (LlmModel.llmClearSeq loaded seqId)
      fun _ llm => Aligned loaded llm ∧ llm.sharedSys = base.sharedSys := by
  have slots : Program.Triple (fun llm => llm = base) (LlmModel.llmClearSeq loaded seqId)
      fun _ llm => llm.sharedSys = base.sharedSys := by
    apply Program.Triple.ite
    · intro outside
      exact Program.Triple.pure _ fun _ same => by rw [same]
    · intro inside
      apply Program.Triple.change_then
      exact Program.Triple.change fun _ same => by
        rw [same]
        rfl
  exact ((LlmModel.llmClearSeq_spec seqId aligned).weaken fun _ _ spec => spec.1).both slots

private theorem clearOutcome_sound (outcome : ContextManager.Release) (base : LlmModel)
    (aligned : Aligned config.loaded base) :
    Program.Triple (fun stores => stores.llm = base)
      (RuntimeStores.clearOutcome config outcome)
      fun _ stores => Aligned config.loaded stores.llm ∧
        stores.llm.sharedSys = base.sharedSys := by
  have unchanged (stores : RuntimeStores) (same : stores.llm = base) :
      Aligned config.loaded stores.llm ∧ stores.llm.sharedSys = base.sharedSys := by
    rw [same]
    exact ⟨aligned, rfl⟩
  apply Program.Triple.ite
  · intro released
    apply Program.Triple.ite
    · intro real
      apply Program.Triple.on
      intro stores same
      rw [same]
      exact llmClearSeq_sound config.loaded _ base aligned
    · intro missing
      exact Program.Triple.pure _ unchanged
  · intro kept
    exact Program.Triple.pure _ unchanged

/-- The slots are as in `base`, and a context has no conversation any more. -/
structure Forgotten (config : AcceptedServing) (base : LlmModel) (contextId : ContextId)
    (stores : RuntimeStores) : Prop where
  aligned : Aligned config.loaded stores.llm
  slots : stores.llm.sharedSys = base.sharedSys
  erased : stores.conversations.lookup contextId = none

private theorem abandonContext_forgotten (request : InvocationRequest) (lease : ContextLease)
    (created : lease.created = true) (base : LlmModel)
    (aligned : Aligned config.loaded base) :
    Program.Triple (fun stores => stores.llm = base)
      (RuntimeStores.abandonContext config request lease)
      fun _ => Forgotten config base lease.contextId := by
  have releasing : Program.Triple (fun stores : RuntimeStores => stores.llm = base)
      (RuntimeStores.release request.agentId request.parentId lease.contextId)
      fun _ stores => stores.llm = base := by
    apply (RuntimeStores.clock_keeps _).bind
    intro now
    apply Program.Triple.from_state
    intro start same
    apply Program.Triple.inspect_then
    apply Program.Triple.change_then
    apply Program.Triple.pure
    intro stores released
    rw [released]
    exact same
  unfold RuntimeStores.abandonContext
  rw [if_pos created]
  apply releasing.bind
  intro outcome
  apply (clearOutcome_sound outcome base aligned).bind
  intro cleared
  apply Program.Triple.change
  intro stores kept
  refine ⟨kept.1, kept.2, ?_⟩
  change (stores.conversations.erase lease.contextId).lookup lease.contextId = none
  exact AList.lookup_erase ..

/-- A first turn that fails takes its conversation back. -/
theorem failTurn_first (request : InvocationRequest) (lease : ContextLease)
    (created : lease.created = true) (previousCount : Nat) (applied : Bool)
    (response : LlmResponse) :
    Triple (fun whole => Sound config vocabulary whole.model)
      (onStores (RuntimeStores.failTurn config request lease previousCount applied response))
      fun _ whole => Sound config vocabulary whole.model ∧
        whole.stores.conversations.lookup lease.contextId = none := by
  apply Triple.from_state
  intro start sound
  apply onStores_spec
  have dropped : Program.Triple (fun stores => stores = start.stores)
      (RuntimeStores.dropMessages lease.contextId previousCount applied)
      fun _ stores => stores.llm = start.stores.llm :=
    (dropMessages_llm ..).strengthen fun _ same => by rw [same]
  apply dropped.bind
  intro nothing
  apply (abandonContext_forgotten request lease created start.stores.llm sound.aligned).bind
  intro abandoned
  apply (RuntimeStores.cancelledDuring_keeps response _).bind
  intro cancelled
  apply Program.Triple.pure
  intro stores forgotten
  refine ⟨⟨forgotten.aligned, ?_⟩, forgotten.erased⟩
  exact sound.prefixes.congr (TokenModel.SameSlots.of_eq forgotten.slots) fun _ => rfl

/-- A later turn that fails takes its messages back. -/
theorem failTurn_later (request : InvocationRequest) (lease : ContextLease)
    (old : lease.created = false) (previousCount : Nat) (response : LlmResponse) :
    Triple (Reached model lease.contextId (some conversation))
      (onStores (RuntimeStores.failTurn config request lease previousCount true response))
      fun result whole => Undone result ∧ Reached model lease.contextId
        (some { conversation with messages := conversation.messages.take previousCount })
        whole := by
  have kept : RuntimeStores.abandonContext config request lease = pure () := by
    unfold RuntimeStores.abandonContext
    rw [old]
    rfl
  apply Triple.from_state
  intro start reached
  apply onStores_spec
  have found := reached.stored
  have dropped : Program.Triple (fun stores => stores = start.stores)
      (RuntimeStores.dropMessages lease.contextId previousCount true)
      fun _ stores => Reached model lease.contextId
        (some { conversation with messages := conversation.messages.take previousCount })
        { start with stores } := by
    apply Program.Triple.change
    intro stores same
    rw [same]
    simp only [found]
    refine ⟨reached.model, ?_⟩
    change (start.stores.conversations.insert lease.contextId _).lookup lease.contextId = _
    rw [UnorderedMap.lookup_insert_if, if_pos rfl]
  unfold RuntimeStores.failTurn
  rw [kept]
  apply dropped.bind
  intro nothing
  rw [pure_bind]
  apply (RuntimeStores.cancelledDuring_keeps response _).bind
  intro cancelled
  exact Program.Triple.pure _ fun _ holds => ⟨⟨cancelled, rfl⟩, holds⟩

/-! ### What the sequence tells -/

/-- The sequence of a context spells its history without the line feed behind the last
message. -/
structure Told (config : AcceptedServing) (vocabulary : Vocabulary)
    (opening : StdString → StdString) (contextId : ContextId) (sequenceId : Int32)
    (conversation : Conversation) (tokens : List Token) (whole : TokenStores) : Prop where
  sound : Sound config vocabulary whole.model
  stored : whole.stores.conversations.lookup contextId = some conversation
  active : conversation.templateActive = true
  nonempty : conversation.messages ≠ []
  spoken : TokenModel.Spoken config.loaded vocabulary sequenceId.toInt
    (TokenModel.counting tokens) tokens whole.model
  spelled : framing vocabulary opening conversation.messages =
    vocabulary.spell tokens ++ text "\n"

theorem onModel_spec {α : Type} {program : Spelling α} {start : TokenStores}
    {after : α → TokenStores → Prop}
    (proved : Triple (fun model => model = start.model) program
      fun value model => after value (start.withModel model)) :
    Triple (fun whole => whole = start) (onModel program) after := by
  apply Triple.on
  intro whole same
  rw [same]
  exact proved

theorem llmInference_aligned (request : LlmRequest) (prompt : CString) {base : TokenModel}
    (aligned : Aligned config.loaded base.llm) :
    Triple (fun model => model = base)
      (TokenModel.llmInference config.loaded vocabulary request prompt)
      fun _ model => Aligned config.loaded model.llm := by
  have erased := (@TokenModel.llmInference_erases config.loaded vocabulary request prompt).triple
    (LlmModel.llmInference_spec request aligned)
  apply (erased.strengthen fun _ same => congrArg TokenModel.llm same).weaken
  intro outcome model served
  exact served.aligned

/-- An answer completes the history that its prompt has begun. -/
theorem Reached.told {sequenceId : Int32} {start generated : List Token} {whole : TokenStores}
    (reached : Reached model contextId
      (some { conversation with messages := conversation.messages ++
        [(text "assistant", cString (vocabulary.spell generated))] }) whole)
    (sound : Sound config vocabulary model) (active : conversation.templateActive = true)
    (answered : TokenModel.Answered config.loaded vocabulary sequenceId.toInt true start
      generated model)
    (begun : vocabulary.spell start =
      framing vocabulary opening conversation.messages ++ opening (text "assistant")) :
    Told config vocabulary opening contextId sequenceId
      { conversation with messages := conversation.messages ++
        [(text "assistant", cString (vocabulary.spell generated))] }
      (start ++ generated ++ vocabulary.endOfTurn.toList) whole := by
  obtain ⟨boundary, ends, spoken⟩ := answered.spoken
  have same := ends rfl
  subst same
  refine ⟨?_, reached.stored, active, ?_, ?_, framing_answered answered.clean begun⟩
  · rw [reached.model]
    exact sound
  · exact List.append_ne_nil_of_right_ne_nil _ (List.cons_ne_nil _ _)
  · rw [reached.model]
    exact spoken

/-- The inference of a first turn. -/
theorem inference_first (payload : GeneratePayload) (lease : ContextLease)
    (created : lease.created = true) (turn : RenderedTurn) (applied : turn.applied = true) :
    Triple (fun whole => Sound config vocabulary whole.model ∧
        whole.stores.conversations.lookup lease.contextId = present)
      (onModel (TokenModel.llmInference config.loaded vocabulary
        (turnRequest payload lease turn) (cStr turn.prompt)))
      fun outcome whole => Sound config vocabulary whole.model ∧
        (outcome.1.1 = 0 → TokenModel.Answered config.loaded vocabulary
          lease.sequenceId.toInt true
          (TokenModel.firstTokens vocabulary (turnRequest payload lease turn) (cStr turn.prompt))
          outcome.2 whole.model) ∧
        whole.stores.conversations.lookup lease.contextId = present := by
  apply Triple.from_state
  intro start begun
  obtain ⟨sound, stored⟩ := begun
  have inferring := ((TokenModel.llmInference_first (turnRequest payload lease turn) created
    (cStr turn.prompt)).at_state sound.prefixes).both
      (llmInference_aligned (turnRequest payload lease turn) (cStr turn.prompt) sound.aligned)
  apply onModel_spec
  apply inferring.weaken
  intro outcome model spec
  refine ⟨⟨spec.2, spec.1.1⟩, ?_, stored⟩
  rw [← applied]
  exact spec.1.2

theorem serveTurn_first (framed : Framed vocabulary template opening)
    (lossless : vocabulary.Lossless) (request : InvocationRequest) (payload : GeneratePayload)
    (lease : ContextLease) (created : lease.created = true) (previousCount : Nat)
    (turn : RenderedTurn) (applied : turn.applied = true)
    (active : conversation.templateActive = true)
    (parts : turn.systemPrompt ++ turn.prompt =
      framing vocabulary opening conversation.messages ++ opening (text "assistant")) :
    Triple (fun whole => Sound config vocabulary whole.model ∧
        whole.stores.conversations.lookup lease.contextId = some conversation)
      (serveTurn config vocabulary request payload lease previousCount turn)
      fun _ whole => Sound config vocabulary whole.model ∧
        ∀ conversation, whole.stores.conversations.lookup lease.contextId = some conversation →
          ∃ tokens, Told config vocabulary opening lease.contextId lease.sequenceId conversation
            tokens whole := by
  have clean : 0 ∉ turn.systemPrompt ++ turn.prompt := by
    rw [parts, List.mem_append, not_or]
    exact ⟨framed.framing_clean, framed.opened _⟩
  rw [List.mem_append, not_or] at clean
  have begun := (spell_firstTokens lossless payload lease clean.1 clean.2).trans parts
  apply (inference_first payload lease created turn applied).bind
  intro outcome
  apply Triple.from_state
  intro middle spec
  obtain ⟨sound, answered, stored⟩ := spec
  have soundNow (whole : TokenStores) {conversation : Option Conversation}
      (reached : Reached middle.model lease.contextId conversation whole) :
      Sound config vocabulary whole.model := by
    rw [reached.model]
    exact sound
  have reached : Reached middle.model lease.contextId (some conversation) middle :=
    ⟨rfl, stored⟩
  apply ((Reached.finish lease.contextId).at_state reached).bind
  intro finished
  apply Triple.ite
  · intro failure
    have failing := @failTurn_first config vocabulary request lease created previousCount
      turn.applied outcome.1.2
    apply (failing.strengthen fun whole => soundNow whole).weaken
    intro result whole forgotten
    refine ⟨forgotten.1, ?_⟩
    intro other impossible
    rw [forgotten.2] at impossible
    cases impossible
  · intro success
    rw [applied]
    apply (completeTurn_reached lease outcome.1.2 outcome.2).weaken
    intro result whole here
    refine ⟨soundNow whole here, ?_⟩
    intro other same
    rw [here.stored] at same
    cases same
    exact ⟨_, here.told sound active (answered (not_not.mp success)) begun⟩

/-! ### A later turn -/

/-- The inference of a later turn. -/
theorem inference_later (payload : GeneratePayload) (lease : ContextLease)
    (old : lease.created = false) (turn : RenderedTurn) (applied : turn.applied = true)
    (tokens : List Token) :
    Triple (fun whole => Sound config vocabulary whole.model ∧
        TokenModel.Spoken config.loaded vocabulary lease.sequenceId.toInt
          (TokenModel.counting tokens) tokens whole.model ∧
        whole.stores.conversations.lookup lease.contextId = present)
      (onModel (TokenModel.llmInference config.loaded vocabulary
        (turnRequest payload lease turn) (cStr turn.prompt)))
      fun outcome whole => Sound config vocabulary whole.model ∧
        (outcome.1.1 = 0 → TokenModel.Answered config.loaded vocabulary
          lease.sequenceId.toInt true
          (tokens ++ vocabulary.tokenize (cStr turn.prompt).bytes false) outcome.2
          whole.model) ∧
        (outcome.1.1 ≠ 0 → TokenModel.Spoken config.loaded vocabulary lease.sequenceId.toInt
          (TokenModel.counting tokens) tokens whole.model) ∧
        whole.stores.conversations.lookup lease.contextId = present := by
  apply Triple.from_state
  intro start begun
  obtain ⟨sound, spoken, stored⟩ := begun
  have inferring := ((TokenModel.llmInference_later (turnRequest payload lease turn) old
    (cStr turn.prompt)).at_state spoken).both
      (llmInference_aligned (turnRequest payload lease turn) (cStr turn.prompt) sound.aligned)
  apply onModel_spec
  apply inferring.weaken
  intro outcome model spec
  obtain ⟨⟨prefixes, answered, undone⟩, aligned⟩ := spec
  refine ⟨⟨aligned, prefixes⟩, ?_, undone, stored⟩
  rw [← applied]
  exact answered

/-- A turn in an existing context is undone, or the history and the sequence have both gained
the prompt and an answer. -/
def Continued (config : AcceptedServing) (vocabulary : Vocabulary)
    (opening : StdString → StdString) (contextId : ContextId) (sequenceId : Int32)
    (conversation : Conversation) (tokens : List Token) (prompt : StdString)
    (result : HandlerResult) (whole : TokenStores) : Prop :=
  Undone result ∧
      Told config vocabulary opening contextId sequenceId conversation tokens whole ∨
    ∃ answer more, Told config vocabulary opening contextId sequenceId
      { conversation with messages := conversation.messages ++
        [(text "user", prompt), (text "assistant", answer)] } (tokens ++ more) whole

theorem serveTurn_later (framed : Framed vocabulary template opening)
    (lossless : vocabulary.Lossless) (request : InvocationRequest) (payload : GeneratePayload)
    (lease : ContextLease) (old : lease.created = false) (turn : RenderedTurn)
    (applied : turn.applied = true) (tokens : List Token)
    (active : conversation.templateActive = true) (nonempty : conversation.messages ≠ [])
    (spelled : framing vocabulary opening conversation.messages =
      vocabulary.spell tokens ++ text "\n")
    (prompted : turn.prompt = text "\n" ++ (frame vocabulary opening
      (text "user", payload.prompt) ++ opening (text "assistant"))) :
    Triple (fun whole => Sound config vocabulary whole.model ∧
        TokenModel.Spoken config.loaded vocabulary lease.sequenceId.toInt
          (TokenModel.counting tokens) tokens whole.model ∧
        whole.stores.conversations.lookup lease.contextId = some { conversation with
          messages := conversation.messages ++ [(text "user", payload.prompt)] })
      (serveTurn config vocabulary request payload lease conversation.messages.length turn)
      fun result whole => Continued config vocabulary opening lease.contextId lease.sequenceId
        conversation tokens payload.prompt result whole := by
  have feed : (0 : UInt8) ∉ text "\n" := by decide
  have clean : 0 ∉ turn.prompt := by
    rw [prompted, List.mem_append, List.mem_append, not_or, not_or]
    exact ⟨feed, framed.frame_clean _, framed.opened _⟩
  have begun : vocabulary.spell (tokens ++ vocabulary.tokenize (cStr turn.prompt).bytes false) =
      framing vocabulary opening (conversation.messages ++ [(text "user", payload.prompt)]) ++
        opening (text "assistant") := by
    rw [spell_append, spell_cStr lossless clean, prompted, framing_append, framing_singleton,
      spelled]
    simp only [List.append_assoc]
  apply (inference_later payload lease old turn applied tokens).bind
  intro outcome
  apply Triple.from_state
  intro middle spec
  obtain ⟨sound, answered, undone, stored⟩ := spec
  have reached : Reached middle.model lease.contextId (some { conversation with
      messages := conversation.messages ++ [(text "user", payload.prompt)] }) middle :=
    ⟨rfl, stored⟩
  apply ((Reached.finish lease.contextId).at_state reached).bind
  intro finished
  apply Triple.ite
  · intro failure
    rw [applied]
    apply (failTurn_later request lease old conversation.messages.length outcome.1.2).weaken
    intro result whole failed
    obtain ⟨reported, here⟩ := failed
    refine .inl ⟨reported, ?_, ?_, active, nonempty, ?_, spelled⟩
    · rw [here.model]
      exact sound
    · rw [here.stored, List.take_left]
    · rw [here.model]
      exact undone failure
  · intro success
    rw [applied]
    apply (completeTurn_reached lease outcome.1.2 outcome.2).weaken
    intro result whole here
    have told := here.told sound active (answered (not_not.mp success)) begun
    refine .inr ⟨cString (vocabulary.spell outcome.2),
      vocabulary.tokenize (cStr turn.prompt).bytes false ++
        (outcome.2 ++ vocabulary.endOfTurn.toList), ?_⟩
    simp only [List.append_assoc, List.cons_append, List.nil_append] at told
    exact told

/-! ### A whole turn -/

/-- A turn is rendered as the template does it, and nothing is changed by that. -/
theorem renderTurn_spec (conversation : Conversation) (created : Bool)
    (payload : GeneratePayload) (start : TokenStores) :
    Triple (fun whole => whole = start)
      (renderTurn template conversation created payload)
      fun rendered whole => whole = start ∧
        rendered.1 = (renderedWith template start.stores conversation created payload).1 ∧
        rendered.2.toOption =
          (renderedWith template start.stores conversation created payload).2.toOption := by
  have looked : Triple (fun whole => whole = start)
      (Checked.lift (Program.inspect TokenStores.stores) : Telling RuntimeStores)
      fun stores whole => stores = start.stores ∧ whole = start :=
    Triple.lift (Program.Triple.inspect fun whole same => ⟨congrArg _ same, same⟩)
  apply looked.bind
  intro stores
  apply Triple.from_state
  intro whole known
  obtain ⟨rfl, rfl⟩ := known
  have rendering : Triple (fun now => now = whole)
      (onStores (RuntimeStores.renderTurn conversation created payload))
      fun _ now => now = whole := by
    apply onStores_spec
    apply (RuntimeStores.renderTurn_spec conversation created payload _).weaken
    intro rendered stores spec
    rw [spec.1]
  apply rendering.bind
  intro rendered
  apply Triple.require_then
  intro same
  exact Triple.pure rendered fun _ here => ⟨here, same⟩

private theorem storeConversation_reached (contextId : ContextId) (start : TokenStores)
    (next : Conversation) :
    Triple (fun whole => whole = start)
      (onStores (Program.change (RuntimeStores.storeConversation contextId next)))
      fun _ => Reached start.model contextId (some next) := by
  have here : Reached start.model contextId (start.stores.conversations.lookup contextId) start :=
    ⟨rfl, rfl⟩
  exact (Reached.store next).at_state here

/-- The first turn of a context. -/
theorem serveLease_first (framed : Framed vocabulary template opening)
    (lossless : vocabulary.Lossless) (templates : config.val.useChatTemplate = true)
    (request : InvocationRequest) (payload : GeneratePayload) (lease : ContextLease)
    (created : lease.created = true) :
    Triple (fun whole => Sound config vocabulary whole.model)
      (serveLease config vocabulary template request payload lease)
      fun _ whole => Sound config vocabulary whole.model ∧
        ∀ conversation, whole.stores.conversations.lookup lease.contextId = some conversation →
          ∃ tokens, Told config vocabulary opening lease.contextId lease.sequenceId conversation
            tokens whole := by
  apply Triple.from_state
  intro start sound
  have looked : Triple (fun whole => whole = start)
      (onStores (Program.inspect (RuntimeStores.conversationOf config lease)))
      fun conversation whole => conversation = {} ∧ whole = start := by
    apply onStores_spec
    apply Program.Triple.inspect
    intro stores same
    rw [same]
    refine ⟨?_, rfl⟩
    unfold RuntimeStores.conversationOf
    rw [if_pos created, templates]
  apply looked.bind
  intro conversation
  apply Triple.from_state
  intro whole known
  obtain ⟨rfl, rfl⟩ := known
  obtain ⟨turn, rendered, applied, parts⟩ := framed.first whole.stores payload
  rw [created]
  apply (renderTurn_spec {} true payload whole).bind
  intro answer
  rw [rendered]
  apply Triple.from_state
  intro now known
  obtain ⟨same, history, result⟩ := known
  obtain ⟨conversation, outcome⟩ := answer
  cases outcome with
  | error message => cases result
  | ok given =>
      cases result
      cases history
      apply (storeConversation_reached lease.contextId now _).bind
      intro stored
      have serving := @serveTurn_first config vocabulary template opening
        { messages := historyWith {} true payload } framed lossless request payload lease created
        0 turn applied rfl parts
      apply serving.strengthen
      intro later reached
      rw [reached.model, same]
      exact ⟨sound, reached.stored⟩

/-- A turn in an existing context is rendered, and undone if it fails. -/
theorem serveLease_later (framed : Framed vocabulary template opening)
    (lossless : vocabulary.Lossless) (request : InvocationRequest) (payload : GeneratePayload)
    (lease : ContextLease) (old : lease.created = false) (tokens : List Token) :
    Triple (Told config vocabulary opening lease.contextId lease.sequenceId conversation tokens)
      (serveLease config vocabulary template request payload lease)
      fun result whole => Continued config vocabulary opening lease.contextId lease.sequenceId
        conversation tokens payload.prompt result whole := by
  apply Triple.from_state
  intro start told
  have looked : Triple (fun whole => whole = start)
      (onStores (Program.inspect (RuntimeStores.conversationOf config lease)))
      fun found whole => found = conversation ∧ whole = start := by
    apply onStores_spec
    apply Program.Triple.inspect
    intro stores same
    rw [same]
    refine ⟨?_, rfl⟩
    unfold RuntimeStores.conversationOf
    rw [old, told.stored]
    rfl
  apply looked.bind
  intro found
  apply Triple.from_state
  intro whole known
  obtain ⟨rfl, rfl⟩ := known
  have rendered := framed.later whole.stores found payload told.active told.nonempty
  rw [old]
  apply (renderTurn_spec found false payload whole).bind
  intro answer
  rw [rendered]
  apply Triple.from_state
  intro now known
  obtain ⟨same, history, result⟩ := known
  obtain ⟨conversation, outcome⟩ := answer
  cases outcome with
  | error message => cases result
  | ok given =>
      cases result
      cases history
      apply (storeConversation_reached lease.contextId now _).bind
      intro stored
      apply (serveTurn_later framed lossless request payload lease old _ rfl tokens told.active
        told.nonempty told.spelled rfl).strengthen
      intro later reached
      rw [reached.model, same]
      exact ⟨told.sound, told.spoken, reached.stored⟩

end TokenStores

end AgentNucleus.Top
