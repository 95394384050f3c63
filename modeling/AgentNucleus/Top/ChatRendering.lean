/-
How a conversation is rendered by a template that frames every message alike.  A first
turn is the whole history, in two parts when there is a system prompt; a later turn is what
the history has gained.  The vocabulary and the template are those of the loaded model, and
are parameters here.
-/

import AgentNucleus.Top.TokenStores
import AgentNucleus.Top.TokenTurns

set_option autoImplicit false

namespace AgentNucleus.Top

open AgentNucleus.Library
open AgentNucleus.Runtime (CString StdString cStr cString cString_clean cString_of_clean text)
open RuntimeStores (GeneratePayload RenderedTurn)

/-! ### What is assumed -/

/-- What the token that ends a turn spells. -/
def Vocabulary.closing (vocabulary : Vocabulary) : StdString :=
  vocabulary.spell vocabulary.endOfTurn.toList

/-- How one message is framed. -/
def frame (vocabulary : Vocabulary) (opening : StdString → StdString)
    (message : StdString × StdString) : StdString :=
  opening message.1 ++ cString message.2 ++ vocabulary.closing ++ text "\n"

def framing (vocabulary : Vocabulary) (opening : StdString → StdString)
    (messages : List (StdString × StdString)) : StdString :=
  messages.flatMap (frame vocabulary opening)

/-- The template frames every message alike and ends it with the token that ends a turn
and a line feed; the text of the frames has no terminator in it. -/
structure Framed (vocabulary : Vocabulary) (template : Template)
    (opening : StdString → StdString) : Prop where
  rendered : ∀ messages addAssistantPrompt, messages ≠ [] →
    template messages addAssistantPrompt =
      some (framing vocabulary opening messages ++
        (if addAssistantPrompt then opening (text "assistant") else []))
  opened : ∀ role, 0 ∉ opening role
  closed : 0 ∉ vocabulary.closing

/-- Tokenizing loses nothing, and a token that begins a sequence spells nothing. -/
def Vocabulary.Lossless (vocabulary : Vocabulary) : Prop :=
  ∀ content special, vocabulary.spell (vocabulary.tokenize content special) = content

section Framing

variable {vocabulary : Vocabulary} {template : Template} {opening : StdString → StdString}
variable {messages : List (StdString × StdString)}

theorem spell_append (first second : List Token) :
    vocabulary.spell (first ++ second) = vocabulary.spell first ++ vocabulary.spell second :=
  List.flatMap_append

theorem framing_append (first second : List (StdString × StdString)) :
    framing vocabulary opening (first ++ second) =
      framing vocabulary opening first ++ framing vocabulary opening second :=
  List.flatMap_append

theorem framing_singleton (message : StdString × StdString) :
    framing vocabulary opening [message] = frame vocabulary opening message :=
  List.flatMap_singleton ..

theorem Framed.frame_clean (framed : Framed vocabulary template opening)
    (message : StdString × StdString) : 0 ∉ frame vocabulary opening message := by
  have feed : (0 : UInt8) ∉ text "\n" := by decide
  unfold frame
  simp only [List.mem_append, not_or]
  exact ⟨⟨⟨framed.opened message.1, cString_clean message.2⟩, framed.closed⟩, feed⟩

theorem Framed.framing_clean (framed : Framed vocabulary template opening) :
    0 ∉ framing vocabulary opening messages := by
  intro member
  obtain ⟨message, _, inside⟩ := List.mem_flatMap.mp member
  exact framed.frame_clean message inside

/-- A history ends with the line feed of its last message. -/
theorem framing_last (nonempty : messages ≠ []) :
    (framing vocabulary opening messages).getLast? = some 10 := by
  have feed : text "\n" = [10] := by decide
  rw [← List.dropLast_append_getLast nonempty, framing_append, framing_singleton]
  unfold frame
  rw [feed, ← List.append_assoc]
  exact List.getLast?_concat

/-! ### The rendering of a turn -/

theorem run_formatChat (nonempty : messages ≠ []) (stores : RuntimeStores)
    (answers : Answers Answer) :
    RuntimeStores.formatChat messages stores answers =
      (((answers 0).rendered, stores), fun index => answers (index + 1)) := by
  have filled : ¬messages.isEmpty = true := by
    rw [List.isEmpty_iff]
    exact nonempty
  unfold RuntimeStores.formatChat
  rw [if_neg filled]
  rfl

theorem Framed.settled (framed : Framed vocabulary template opening) (nonempty : messages ≠ []) :
    template messages false = some (framing vocabulary opening messages) := by
  rw [framed.rendered messages false nonempty]
  simp only [Bool.false_eq_true, if_false, List.append_nil]

theorem Framed.prompted (framed : Framed vocabulary template opening) (nonempty : messages ≠ []) :
    template messages true =
      some (framing vocabulary opening messages ++ opening (text "assistant")) := by
  rw [framed.rendered messages true nonempty]
  simp only [if_true]

theorem historyWith_ne_nil (conversation : Conversation) (created : Bool)
    (payload : GeneratePayload) : historyWith conversation created payload ≠ [] :=
  List.append_ne_nil_of_right_ne_nil _ (List.cons_ne_nil _ _)

/-- The line feed that the last message has lost comes back. -/
theorem renderedTail_grown (nonempty : messages ≠ []) (added : StdString) :
    RuntimeStores.renderedTail (framing vocabulary opening messages)
        (framing vocabulary opening messages ++ added) = text "\n" ++ added := by
  unfold RuntimeStores.renderedTail
  rw [if_pos (framing_last nonempty), List.drop_left]
  rfl

/-- The rendered system prompt is cut off, and nothing else. -/
theorem Framed.cut (framed : Framed vocabulary template opening) (stores : RuntimeStores)
    (systemPrompt added : StdString) (answers : Answers Answer)
    (answered : (answers 0).rendered = template [(text "system", systemPrompt)] false)
    (starts : systemPrompt.isEmpty = false →
      ∃ rest, messages = (text "system", systemPrompt) :: rest) :
    ∃ turn later,
      RuntimeStores.renderFirst systemPrompt (framing vocabulary opening messages ++ added)
        stores answers = ((turn, stores), later) ∧
      turn.applied = true ∧
      turn.systemPrompt ++ turn.prompt = framing vocabulary opening messages ++ added := by
  unfold RuntimeStores.renderFirst
  cases empty : systemPrompt.isEmpty with
  | true => exact ⟨_, answers, rfl, rfl, rfl⟩
  | false =>
      obtain ⟨rest, rfl⟩ := starts empty
      have alone : [(text "system", systemPrompt)] ≠ [] := List.cons_ne_nil _ _
      have start : framing vocabulary opening ((text "system", systemPrompt) :: rest) =
          framing vocabulary opening [(text "system", systemPrompt)] ++
            framing vocabulary opening rest := framing_append [_] rest
      rw [framed.settled alone] at answered
      rw [start, List.append_assoc]
      have continued : (framing vocabulary opening [(text "system", systemPrompt)]).isPrefixOf
          (framing vocabulary opening [(text "system", systemPrompt)] ++
            (framing vocabulary opening rest ++ added)) = true :=
        List.isPrefixOf_iff_prefix.mpr (List.prefix_append _ _)
      simp only [Bool.false_eq_true, if_false]
      rw [Program.run_bind _ _ _ _ _ (run_formatChat alone _ _)]
      simp only [answered, continued, if_true, List.drop_left]
      exact ⟨_, _, rfl, rfl, rfl⟩

/-- A first turn is the whole history, in two parts if there is a system prompt. -/
theorem Framed.first (framed : Framed vocabulary template opening) (stores : RuntimeStores)
    (payload : GeneratePayload) :
    ∃ turn, renderedWith template stores {} true payload =
        ({ messages := historyWith {} true payload }, .ok turn) ∧
      turn.applied = true ∧
      turn.systemPrompt ++ turn.prompt =
        framing vocabulary opening (historyWith {} true payload) ++
          opening (text "assistant") := by
  have filled := historyWith_ne_nil {} true payload
  have whole := framed.prompted filled
  have history : ([] : List (StdString × StdString)) ++
      (if payload.systemPrompt.isEmpty then [] else [(text "system", payload.systemPrompt)]) ++
        [(text "user", payload.prompt)] = historyWith {} true payload := by
    unfold historyWith
    cases payload.systemPrompt.isEmpty <;> rfl
  have starts : payload.systemPrompt.isEmpty = false →
      ∃ rest, historyWith {} true payload = (text "system", payload.systemPrompt) :: rest := by
    intro nonempty
    unfold historyWith
    rw [nonempty]
    exact ⟨_, rfl⟩
  obtain ⟨turn, later, cut, applied, parts⟩ := framed.cut stores payload.systemPrompt
    (opening (text "assistant"))
    (fun index => templateAnswers template {} true payload (index + 1)) rfl starts
  unfold renderedWith RuntimeStores.renderTurn RuntimeStores.renderCreated
  simp only [Bool.not_true, Bool.false_eq_true, if_false, if_true, history]
  refine ⟨turn, ?_, applied, parts⟩
  have asked : (templateAnswers template {} true payload 0).rendered =
      template (historyWith {} true payload) true := rfl
  rw [bind_assoc, Program.run_bind _ _ _ _ _ (run_formatChat filled _ _)]
  simp only [asked, whole]
  rw [bind_assoc, Program.run_bind _ _ _ _ _ cut]
  rfl

/-- A later turn is what the history has gained, behind the line feed that the sequence
lacks. -/
theorem Framed.later (framed : Framed vocabulary template opening) (stores : RuntimeStores)
    (conversation : Conversation) (payload : GeneratePayload)
    (active : conversation.templateActive = true) (nonempty : conversation.messages ≠ []) :
    renderedWith template stores conversation false payload =
      ({ conversation with messages := conversation.messages ++ [(text "user", payload.prompt)] },
        .ok {
          prompt := text "\n" ++ (frame vocabulary opening (text "user", payload.prompt) ++
            opening (text "assistant"))
          systemPrompt := []
          applied := true }) := by
  have grown : conversation.messages ++ [(text "user", payload.prompt)] ≠ [] :=
    List.append_ne_nil_of_right_ne_nil _ (List.cons_ne_nil _ _)
  have before := framed.settled nonempty
  have after := framed.prompted grown
  have same : historyWith conversation false payload =
      conversation.messages ++ [(text "user", payload.prompt)] := by
    unfold historyWith
    simp
  rw [framing_append, framing_singleton, List.append_assoc] at after
  have continued : (framing vocabulary opening conversation.messages).isPrefixOf
      (framing vocabulary opening conversation.messages ++
        (frame vocabulary opening (text "user", payload.prompt) ++
          opening (text "assistant"))) = true :=
    List.isPrefixOf_iff_prefix.mpr (List.prefix_append _ _)
  unfold renderedWith RuntimeStores.renderTurn
  rw [active]
  simp only [Bool.not_true, Bool.false_eq_true, if_false]
  unfold RuntimeStores.renderLater
  rw [Program.run_bind _ _ _ _ _ (run_formatChat nonempty _ _)]
  simp only [templateAnswers, Bool.false_eq_true, if_false, before]
  rw [Program.run_bind _ _ _ _ _ (run_formatChat grown _ _)]
  simp only [same, after, continued, if_true, renderedTail_grown nonempty, active]
  rfl

/-! ### What a turn decodes -/

theorem spell_cStr (lossless : vocabulary.Lossless) {content : StdString} (clean : 0 ∉ content)
    (special : Bool) :
    vocabulary.spell (vocabulary.tokenize (cStr content).bytes special) = content := by
  rw [lossless]
  exact cString_of_clean clean

/-- The two prompts are in the sequence, however the first of them got there. -/
theorem spell_firstTokens (lossless : vocabulary.Lossless) (payload : GeneratePayload)
    (lease : ContextLease) {turn : RenderedTurn} (system : 0 ∉ turn.systemPrompt)
    (prompt : 0 ∉ turn.prompt) :
    vocabulary.spell (TokenModel.firstTokens vocabulary
      (TokenStores.turnRequest payload lease turn) (cStr turn.prompt)) =
        turn.systemPrompt ++ turn.prompt := by
  have same : (TokenStores.turnRequest payload lease turn).systemPrompt.getD .empty =
      cStr turn.systemPrompt := by
    unfold TokenStores.turnRequest
    cases turn.systemPrompt with
    | nil => rfl
    | cons byte rest => rfl
  have started : vocabulary.spell (TokenModel.systemTokens vocabulary (cStr turn.systemPrompt)) =
      turn.systemPrompt := by
    unfold TokenModel.systemTokens
    by_cases empty : cStr turn.systemPrompt = .empty
    · have nothing : cString turn.systemPrompt = [] := congrArg CString.bytes empty
      rw [cString_of_clean system] at nothing
      rw [if_pos empty, nothing]
      rfl
    · rw [if_neg empty]
      exact spell_cStr lossless system true
  unfold TokenModel.firstTokens
  rw [same, spell_append, started, spell_cStr lossless prompt]

/-- The answer completes the message that the prompt has begun. -/
theorem framing_answered {start generated : List Token}
    (clean : 0 ∉ vocabulary.spell generated)
    (begun : vocabulary.spell start =
      framing vocabulary opening messages ++ opening (text "assistant")) :
    framing vocabulary opening
        (messages ++ [(text "assistant", cString (vocabulary.spell generated))]) =
      vocabulary.spell (start ++ generated ++ vocabulary.endOfTurn.toList) ++ text "\n" := by
  rw [framing_append, framing_singleton, spell_append, spell_append, begun]
  unfold frame Vocabulary.closing
  rw [cString_of_clean (cString_clean _), cString_of_clean clean]
  simp only [List.append_assoc]

end Framing

end AgentNucleus.Top
