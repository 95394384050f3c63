/-
What the sequence of a context spells.  A later turn hands only the new part of the
rendered history to the model; what the sequence holds then is the whole history
nevertheless, as long as failed turns are rolled back.
-/

import AgentNucleus.Library.Machine
import AgentNucleus.Top.ChatTurns

set_option autoImplicit false

namespace AgentNucleus.Top

open AgentNucleus.Library
open AgentNucleus.Runtime (ContextId InvocationRequest StdString cString cString_clean text)
open RuntimeStores (GeneratePayload)

structure ChatTurn where
  request : InvocationRequest
  payload : GeneratePayload
  answers : Answers Answer

section Runs

variable (config : AcceptedServing) (vocabulary : Vocabulary) (template : Template)
variable (contextId : ContextId) (sequenceId : Int32)

/-- The context keeps its sequence, and is created if it has no conversation. -/
def chatLease (stores : RuntimeStores) : ContextLease where
  contextId := contextId
  sequenceId := sequenceId
  created := (stores.conversations.lookup contextId).isNone

/-- One turn; nothing if llama.cpp or the template has answered otherwise than the model. -/
def chatStep (whole : TokenStores) (turn : ChatTurn) : Option (HandlerResult × TokenStores) :=
  let ended := TokenStores.serveLease config vocabulary template turn.request turn.payload
    (chatLease contextId sequenceId whole.stores) whole turn.answers
  ended.1.1.map fun result => (result, ended.1.2)

def chatRun (whole : TokenStores) : List ChatTurn → Option TokenStores
  | [] => some whole
  | turn :: rest =>
      (chatStep config vocabulary template contextId sequenceId whole turn).bind fun ended =>
        chatRun ended.2 rest

end Runs

section Transcript

variable {config : AcceptedServing} {vocabulary : Vocabulary} {template : Template}
variable {contextId : ContextId} {sequenceId : Int32} {opening : StdString → StdString}
variable {conversation : Conversation} {tokens : List Token} {whole after : TokenStores}

/-- The positions that are stored are those of the tokens. -/
theorem TokenStores.Told.memory (leased : LlmModel.IsPrivate config.loaded sequenceId.toInt)
    (told : Told config vocabulary opening contextId sequenceId conversation tokens whole) :
    whole.stores.llm.memory sequenceId.toInt = Finset.range tokens.length := by
  have here := told.sound.aligned.sequences sequenceId.toInt leased
  unfold LlmModel.AlignedAt at here
  rw [told.spoken.state] at here
  exact here.1

theorem chatStep_serves {turn : ChatTurn} {result : HandlerResult}
    (step : chatStep config vocabulary template contextId sequenceId whole turn =
      some (result, after)) :
    (TokenStores.serveLease config vocabulary template turn.request turn.payload
        (chatLease contextId sequenceId whole.stores) whole turn.answers).1.1 = some result ∧
      (TokenStores.serveLease config vocabulary template turn.request turn.payload
        (chatLease contextId sequenceId whole.stores) whole turn.answers).1.2 = after := by
  obtain ⟨value, ended, same⟩ := Option.map_eq_some_iff.mp step
  cases same
  exact ⟨ended, rfl⟩

/-- The model is sound, and the sequence tells the conversation if there is one. -/
structure Transcribed (config : AcceptedServing) (vocabulary : Vocabulary)
    (opening : StdString → StdString) (contextId : ContextId) (sequenceId : Int32)
    (whole : TokenStores) : Prop where
  sound : TokenStores.Sound config vocabulary whole.model
  told : ∀ conversation, whole.stores.conversations.lookup contextId = some conversation →
    ∃ tokens, TokenStores.Told config vocabulary opening contextId sequenceId conversation tokens
      whole

theorem Transcribed.initial : Transcribed config vocabulary opening contextId sequenceId
    { stores := RuntimeStores.create config } := by
  refine ⟨⟨LlmModel.aligned_initial, ?_⟩, ?_⟩
  · intro index prompt impossible
    cases impossible
  · intro conversation impossible
    cases impossible

theorem TokenStores.Told.transcribed
    (told : Told config vocabulary opening contextId sequenceId conversation tokens whole) :
    Transcribed config vocabulary opening contextId sequenceId whole := by
  refine ⟨told.sound, ?_⟩
  intro other same
  rw [told.stored] at same
  cases same
  exact ⟨tokens, told⟩

/-- A turn in a context with a conversation. -/
theorem TokenStores.Told.step
    (framed : Framed vocabulary template opening) (lossless : vocabulary.Lossless)
    (told : Told config vocabulary opening contextId sequenceId conversation tokens whole)
    {turn : ChatTurn} {result : HandlerResult}
    (step : chatStep config vocabulary template contextId sequenceId whole turn =
      some (result, after)) :
    Continued config vocabulary opening contextId sequenceId conversation tokens
      turn.payload.prompt result after := by
  obtain ⟨ended, rfl⟩ := chatStep_serves step
  have old : (chatLease contextId sequenceId whole.stores).created = false := by
    unfold chatLease
    rw [told.stored]
    rfl
  exact (TokenStores.serveLease_later framed lossless turn.request turn.payload
    (chatLease contextId sequenceId whole.stores) old tokens).run whole turn.answers result told
    ended

theorem Transcribed.step (templates : config.val.useChatTemplate = true)
    (framed : Framed vocabulary template opening) (lossless : vocabulary.Lossless)
    (transcribed : Transcribed config vocabulary opening contextId sequenceId whole)
    {turn : ChatTurn} {result : HandlerResult}
    (step : chatStep config vocabulary template contextId sequenceId whole turn =
      some (result, after)) :
    Transcribed config vocabulary opening contextId sequenceId after := by
  cases present : whole.stores.conversations.lookup contextId with
  | none =>
      obtain ⟨ended, rfl⟩ := chatStep_serves step
      have created : (chatLease contextId sequenceId whole.stores).created = true := by
        unfold chatLease
        rw [present]
        rfl
      obtain ⟨sound, told⟩ := (TokenStores.serveLease_first framed lossless templates
        turn.request turn.payload (chatLease contextId sequenceId whole.stores) created).run whole
          turn.answers result transcribed.sound ended
      exact ⟨sound, told⟩
  | some conversation =>
      obtain ⟨tokens, told⟩ := transcribed.told conversation present
      rcases told.step framed lossless step with ⟨_, same⟩ | ⟨answer, more, grown⟩
      · exact same.transcribed
      · exact grown.transcribed

end Transcript

/-! ### A byte vocabulary -/

/-- Every byte is a token, 256 ends a turn and 257 begins a sequence. -/
def byteVocabulary : Vocabulary where
  tokenize content special :=
    (if special then [257] else []) ++ content.map fun byte => Int32.ofNat byte.toNat
  piece token :=
    if token = 256 then text ">"
    else if token = 257 then [] else [UInt8.ofNat token.toInt.toNat]
  endOfTurn := some 256

def byteOpening (role : StdString) : StdString :=
  text "<" ++ cString role ++ text "\n"

def byteTemplate : Template := fun messages addAssistantPrompt =>
  some (framing byteVocabulary byteOpening messages ++
    (if addAssistantPrompt then byteOpening (text "assistant") else []))

def oneContext : AcceptedServing := ⟨{ maxContexts := 1, contextTokens := 1024 }, by decide⟩

/-- What is asked for in this order, and then whatever succeeds. -/
def scripted (answers : List Answer) : Answers Answer :=
  fun index => answers.getD index {}

/-- A tokenized text of so many bytes. -/
def counted (content : Option StdString) (more : Nat) : Answer :=
  { tokens := (content.getD []).length + more }

def systemMessage : StdString × StdString := (text "system", text "be brief")

/-- The history of the first turn, with the answer that comes. -/
def firstHistory : List (StdString × StdString) :=
  [systemMessage, (text "user", text "hi"), (text "assistant", text "ok")]

/-- The prompt is rendered behind the system prompt, which is cached; the model answers `ok`
and ends the turn. -/
def answeredTurn : ChatTurn where
  request := {}
  payload := { prompt := text "hi", systemPrompt := text "be brief", maxTokens := 8 }
  answers := scripted
    [{ rendered := byteTemplate [systemMessage, (text "user", text "hi")] true },
     { rendered := byteTemplate [systemMessage] false }, {},
     counted (byteTemplate [systemMessage] false) 1, {}, {},
     counted (byteTemplate [(text "user", text "hi")] true) 0, {}, {}, {}, {},
     {}, { token := 111 }, {}, {}, {}, {}, { token := 107 }, {}, {}, {},
     {}, { token := 256, ends := true }, {}, {}, {}, {}, { output := text "ok" }]

/-- The generation is cancelled, and the turn is undone. -/
def undoneTurn : ChatTurn where
  request := {}
  payload := { prompt := text "more", maxTokens := 8 }
  answers := scripted
    [{ rendered := byteTemplate firstHistory false },
     { rendered := byteTemplate (firstHistory ++ [(text "user", text "more")]) true }, {},
     counted (byteTemplate [(text "user", text "more")] true) 1, {}, {}, {}, {},
     { cancelled := true }]

/-- The answer is cut off after two tokens, and the turn is ended for the model. -/
def closedTurn : ChatTurn where
  request := {}
  payload := { prompt := text "go on", maxTokens := 2 }
  answers := scripted
    [{ rendered := byteTemplate firstHistory false },
     { rendered := byteTemplate (firstHistory ++ [(text "user", text "go on")]) true }, {},
     counted (byteTemplate [(text "user", text "go on")] true) 1, {}, {}, {}, {},
     {}, { token := 111 }, {}, {}, {}, {}, { token := 104 }, {}, {}, {},
     {}, {}, {}, {}, {}, { output := text "oh" }]

abbrev threeTurns : Option TokenStores :=
  chatRun oneContext byteVocabulary byteTemplate 1 1
    { stores := RuntimeStores.create oneContext } [answeredTurn, undoneTurn, closedTurn]

end AgentNucleus.Top
