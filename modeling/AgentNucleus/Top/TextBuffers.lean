/-
The texts that llm_llamacpp.c builds in memory: a rendered conversation, whose size is
computed first, and a generated answer, whose buffer grows.  Every access is checked
here, and none is outside its block.
-/

import AgentNucleus.Library.Blocks
import AgentNucleus.Library.Machine
import AgentNucleus.Runtime.Types

set_option autoImplicit false

namespace AgentNucleus.Top

open AgentNucleus.Library
open AgentNucleus.Runtime (StdString cString text)

/-! ### The chat template

This is `llm_apply_chat_template` where the model library is not compiled in. -/

/-- `"<|%s|>\n%s\n"` -/
def messageText (message : StdString × StdString) : StdString :=
  text "<|" ++ cString message.1 ++ text "|>\n" ++ cString message.2 ++ text "\n"

def assistantPrompt : StdString := text "<|assistant|>\n"

/-- What a message adds to `required`. -/
def messageRoom (message : StdString × StdString) : Nat :=
  (cString message.1).length + (cString message.2).length + 8

def requiredRoom (messages : List (StdString × StdString)) (addAssistantPrompt : Bool) : Nat :=
  (if addAssistantPrompt then 16 else 0) + (messages.map messageRoom).sum

/-- `snprintf` at a position of a block, and what it returns: nothing for a negative value,
which stands for a length that an `int` does not hold. -/
def snprintf (block : List UInt8) (position limit : Nat) (formatted : StdString) :
    Option (List UInt8 × Option Nat) :=
  if formatted.length > 2147483647 then some (block, none)
  else if limit = 0 then some (block, some formatted.length)
  else
    (writeBlock block position (formatted.take (limit - 1) ++ [0])).map fun after =>
      (after, some formatted.length)

/-- The loop over the messages, with the buffer and the position in it. -/
def formatMessages (required : Nat) (output : List UInt8) (position : Nat) :
    List (StdString × StdString) → Option (Option (List UInt8 × Nat))
  | [] => some (some (output, position))
  | message :: rest =>
      match snprintf output position (required + 1 - position) (messageText message) with
      | none => none
      | some (_, none) => some none
      | some (output, some written) =>
          formatMessages required output (position + written) rest

/-- Without a result there is an access outside the buffer; the inner `none` is a
refusal. -/
def llmApplyChatTemplate (messages : List (StdString × StdString)) (addAssistantPrompt : Bool)
    (allocated : Bool) : Option (Option StdString) :=
  let required := requiredRoom messages addAssistantPrompt
  if messages.isEmpty then some none
  else if required > 4294967295 then some none
  else if !allocated then some none
  else
    match formatMessages required (List.replicate (required + 1) 0) 0 messages with
    | none => none
    | some none => some none
    | some (some (output, position)) =>
        if addAssistantPrompt then
          (writeBlock output position assistantPrompt).map fun output =>
            some (output.take (position + assistantPrompt.length))
        else some (some (output.take position))

/-- The text that is meant. -/
def rendering (messages : List (StdString × StdString)) (addAssistantPrompt : Bool) :
    StdString :=
  messages.flatMap messageText ++ (if addAssistantPrompt then assistantPrompt else [])

/-! ### The generated text -/

/-- `response->text` with `text_length` and `text_capacity`. -/
structure GrowingText where
  block : List UInt8
  length : Nat
  capacity : Nat

/-- `calloc(text_capacity, 1)` -/
def GrowingText.create : GrowingText where
  block := List.replicate 256 0
  length := 0
  capacity := 256

/-- The loop that doubles the capacity. -/
def doubleCapacity : Nat → Nat → Nat → Nat
  | 0, _, capacity => capacity
  | rounds + 1, required, capacity =>
      if capacity < required then doubleCapacity rounds required (capacity * 2) else capacity

/-- What the library and the allocator answer; `filling` is what new memory contains. -/
structure PieceAnswer where
  piece : Option StdString
  reallocated : Bool := true
  filling : UInt8 := 0

namespace GrowingText

variable (growing : GrowingText)

/-- The copy behind the text, with a terminator. -/
def writePiece (piece : StdString) : Option GrowingText := do
  let copied ← writeBlock growing.block growing.length piece
  let terminated ← writeBlock copied (growing.length + piece.length) [0]
  some { growing with block := terminated, length := growing.length + piece.length }

def reallocate (capacity : Nat) (filling : UInt8) : GrowingText :=
  { growing with
      block := growing.block ++ List.replicate (capacity - growing.capacity) filling
      capacity }

/-- Without a result there is an access outside the buffer; the truth value says whether
the call returns zero. -/
def appendTokenPiece (answer : PieceAnswer) : Option (GrowingText × Bool) :=
  match answer.piece with
  | none => some (growing, false)
  | some piece =>
      let required := growing.length + piece.length + 1
      if required > growing.capacity then
        if !answer.reallocated then some (growing, false)
        else
          ((growing.reallocate (doubleCapacity required required growing.capacity)
            answer.filling).writePiece piece).map fun after => (after, true)
      else (growing.writePiece piece).map fun after => (after, true)

/-- The loop of the generation: it ends with the first failure. -/
def appendAll : GrowingText → List PieceAnswer → Option (GrowingText × Bool)
  | growing, [] => some (growing, true)
  | growing, answer :: rest =>
      match growing.appendTokenPiece answer with
      | none => none
      | some (after, true) => appendAll after rest
      | some (after, false) => some (after, false)

end GrowingText

/-! ### The rendered conversation -/

theorem length_messageText (message : StdString × StdString) :
    (messageText message).length + 2 = messageRoom message := by
  have open_ : (text "<|").length = 2 := by decide
  have middle : (text "|>\n").length = 3 := by decide
  have close_ : (text "\n").length = 1 := by decide
  unfold messageText messageRoom
  simp only [List.length_append, open_, middle, close_]
  omega

theorem length_messageTexts (messages : List (StdString × StdString)) :
    (messages.flatMap messageText).length ≤ (messages.map messageRoom).sum := by
  induction messages with
  | nil => exact Nat.le_refl 0
  | cons message rest ih =>
      have length := length_messageText message
      rw [List.flatMap_cons, List.length_append, List.map_cons, List.sum_cons]
      omega

/-- A message is printed whole, and the terminator behind it is inside. -/
theorem snprintf_continues {required : Nat} {output written : List UInt8}
    (message : StdString × StdString) (size : output.length = required + 1)
    (starts : written <+: output) (room : written.length + messageRoom message ≤ required)
    (short : ¬(messageText message).length > 2147483647) :
    ∃ after,
      snprintf output written.length (required + 1 - written.length) (messageText message) =
        some (after, some (messageText message).length) ∧
      after.length = required + 1 ∧ written ++ messageText message <+: after := by
  have length := length_messageText message
  have whole : (messageText message).take (required + 1 - written.length - 1) =
      messageText message := List.take_of_length_le (by omega)
  have inside : written.length + (messageText message ++ [0]).length ≤ output.length := by
    rw [List.length_append, List.length_singleton]
    omega
  obtain ⟨after, wrote, same, continued⟩ := writeBlock_continues _ starts inside
  refine ⟨after, ?_, same.trans size, ?_⟩
  · have some_ : ¬required + 1 - written.length = 0 := by omega
    unfold snprintf
    rw [if_neg short, if_neg some_, whole, wrote]
    rfl
  · rw [← List.append_assoc] at continued
    exact prefix_of_append continued

/-- A message that no `int` measures. -/
def oversized (message : StdString × StdString) : Bool :=
  decide ((messageText message).length > 2147483647)

/-- The loop over the messages. -/
theorem formatMessages_continues {required : Nat} (messages : List (StdString × StdString))
    {output written : List UInt8} (size : output.length = required + 1)
    (starts : written <+: output)
    (room : written.length + (messages.map messageRoom).sum ≤ required) :
    (messages.any oversized = true ∧
      formatMessages required output written.length messages = some none) ∨
    ∃ after, messages.any oversized = false ∧
      formatMessages required output written.length messages =
        some (some (after, (written ++ messages.flatMap messageText).length)) ∧
      after.length = required + 1 ∧ written ++ messages.flatMap messageText <+: after := by
  induction messages generalizing output written with
  | nil =>
      rw [List.flatMap_nil, List.append_nil]
      exact .inr ⟨output, rfl, rfl, size, starts⟩
  | cons message rest ih =>
      rw [List.map_cons, List.sum_cons] at room
      rw [List.any_cons]
      unfold formatMessages
      by_cases long : (messageText message).length > 2147483647
      · have over_ : oversized message = true := decide_eq_true long
        unfold snprintf
        rw [over_, if_pos long]
        exact .inl ⟨rfl, rfl⟩
      · have fits : oversized message = false := decide_eq_false long
        have length := length_messageText message
        obtain ⟨after, printed, same, continued⟩ :=
          snprintf_continues message size starts (by omega) long
        have later := ih same continued (by
          rw [List.length_append]
          omega)
        rw [printed, fits, Bool.false_or, List.flatMap_cons, ← List.append_assoc]
        rw [List.length_append] at later
        exact later

/-- The buffer is large enough for every conversation: nothing is cut off, and nothing is
written outside. -/
theorem chat_template_exact (messages : List (StdString × StdString))
    (addAssistantPrompt allocated : Bool) :
    llmApplyChatTemplate messages addAssistantPrompt allocated =
      some (if messages.isEmpty ∨ requiredRoom messages addAssistantPrompt > 4294967295 ∨
          allocated = false ∨ messages.any oversized = true then none
        else some (rendering messages addAssistantPrompt)) := by
  unfold llmApplyChatTemplate
  by_cases empty : messages.isEmpty = true
  · rw [if_pos empty, if_pos (.inl empty)]
  · rw [if_neg empty]
    by_cases large : requiredRoom messages addAssistantPrompt > 4294967295
    · rw [if_pos large, if_pos (.inr (.inl large))]
    · rw [if_neg large]
      cases allocated with
      | false => simp
      | true =>
          have room : ([] : List UInt8).length + (messages.map messageRoom).sum ≤
              requiredRoom messages addAssistantPrompt := by
            unfold requiredRoom
            simp only [List.length_nil]
            omega
          rcases formatMessages_continues messages List.length_replicate
              (List.nil_prefix (l := List.replicate _ (0 : UInt8))) room with
            ⟨long, refused⟩ | ⟨output, fits, printed, size, starts⟩
          · rw [List.length_nil] at refused
            rw [refused, long]
            simp
          · rw [List.length_nil, List.nil_append] at printed
            rw [List.nil_append] at starts
            have fine : ¬(messages.isEmpty = true ∨
                requiredRoom messages addAssistantPrompt > 4294967295 ∨
                true = false ∨ messages.any oversized = true) := by
              rw [fits]
              simp only [reduceCtorEq, Bool.false_eq_true, or_false, not_or]
              exact ⟨empty, large⟩
            rw [printed, if_neg fine]
            unfold rendering
            cases addAssistantPrompt with
            | false =>
                have front := List.prefix_iff_eq_take.mp starts
                simp only [Bool.not_true, Bool.false_eq_true, if_false, List.append_nil]
                rw [← front]
            | true =>
                have inside : (messages.flatMap messageText).length + assistantPrompt.length ≤
                    output.length := by
                  have texts := length_messageTexts messages
                  have prompt : assistantPrompt.length = 14 := by decide
                  rw [size, prompt]
                  unfold requiredRoom
                  simp only [if_true]
                  omega
                obtain ⟨after, wrote, _, continued⟩ := writeBlock_continues _ starts inside
                have front := List.prefix_iff_eq_take.mp continued
                rw [List.length_append] at front
                simp only [Bool.not_true, Bool.false_eq_true, if_false, if_true, wrote,
                  Option.map_some]
                rw [← front]

/-! ### The generated text -/

/-- The loop doubles until the text fits. -/
theorem doubleCapacity_spec (rounds required capacity : Nat) (positive : 0 < capacity)
    (enough : required ≤ capacity + rounds) :
    required ≤ doubleCapacity rounds required capacity ∧
      ∃ doublings, doubleCapacity rounds required capacity = capacity * 2 ^ doublings := by
  induction rounds generalizing capacity with
  | zero => exact ⟨enough, 0, (Nat.mul_one capacity).symm⟩
  | succ rounds ih =>
      unfold doubleCapacity
      split
      · obtain ⟨fits, doublings, same⟩ := ih (capacity * 2) (by omega) (by omega)
        refine ⟨fits, doublings + 1, ?_⟩
        rw [same, Nat.pow_succ, Nat.mul_assoc, Nat.mul_comm 2]
      · next fits => exact ⟨by omega, 0, (Nat.mul_one capacity).symm⟩

namespace GrowingText

/-- The block holds the text and a terminator, and its size is the capacity. -/
structure Spells (growing : GrowingText) (spelled : StdString) : Prop where
  length : growing.length = spelled.length
  size : growing.block.length = growing.capacity
  terminated : spelled ++ [0] <+: growing.block
  doubled : ∃ doublings, growing.capacity = 256 * 2 ^ doublings

variable {growing : GrowingText} {spelled : StdString}

theorem create_spells : create.Spells [] where
  length := rfl
  size := List.length_replicate
  terminated := ⟨List.replicate 255 0, rfl⟩
  doubled := ⟨0, rfl⟩

theorem Spells.writePiece (spells : growing.Spells spelled) (piece : StdString)
    (room : spelled.length + piece.length + 1 ≤ growing.capacity) :
    ∃ after, growing.writePiece piece = some after ∧ after.Spells (spelled ++ piece) := by
  have starts := prefix_of_append spells.terminated
  have size := spells.size
  obtain ⟨copied, wrote, same, continued⟩ :=
    writeBlock_continues piece starts (by omega)
  obtain ⟨terminated, closed, same', continued'⟩ :=
    writeBlock_continues [0] continued (by
      rw [List.length_append, List.length_singleton]
      omega)
  rw [List.length_append] at closed
  refine ⟨{ growing with block := terminated, length := growing.length + piece.length },
    ?_, ?_, ?_, continued', spells.doubled⟩
  · unfold GrowingText.writePiece
    rw [spells.length, wrote]
    simp only [Option.bind_eq_bind, Option.bind_some, closed]
  · rw [List.length_append, ← spells.length]
  · exact same'.trans (same.trans size)

theorem Spells.reallocate (spells : growing.Spells spelled) (doublings : Nat) (filling : UInt8) :
    (growing.reallocate (growing.capacity * 2 ^ doublings) filling).Spells spelled where
  length := spells.length
  size := by
    have grows : growing.capacity ≤ growing.capacity * 2 ^ doublings :=
      Nat.le_mul_of_pos_right _ (Nat.two_pow_pos doublings)
    change (growing.block ++ List.replicate _ filling).length = _
    rw [List.length_append, List.length_replicate, spells.size]
    exact Nat.add_sub_cancel' grows
  terminated := spells.terminated.trans (List.prefix_append _ _)
  doubled := by
    obtain ⟨before, same⟩ := spells.doubled
    exact ⟨before + doublings, by
      change growing.capacity * 2 ^ doublings = _
      rw [same, Nat.pow_add, Nat.mul_assoc]⟩

/-- The token cannot be converted, or the memory that its piece needs is refused. -/
def Fails (growing : GrowingText) (answer : PieceAnswer) : Prop :=
  answer.piece = none ∨
    ∃ piece, answer.piece = some piece ∧ answer.reallocated = false ∧
      growing.capacity < growing.length + piece.length + 1

/-- A piece is appended whole, or nothing changes. -/
theorem Spells.append (spells : growing.Spells spelled) (answer : PieceAnswer) :
    (growing.appendTokenPiece answer = some (growing, false) ∧ growing.Fails answer) ∨
    ∃ piece after, answer.piece = some piece ∧
      growing.appendTokenPiece answer = some (after, true) ∧ after.Spells (spelled ++ piece) := by
  unfold appendTokenPiece
  cases answered : answer.piece with
  | none => exact .inl ⟨rfl, .inl answered⟩
  | some piece =>
      have length := spells.length
      dsimp only
      by_cases full : growing.length + piece.length + 1 > growing.capacity
      · rw [if_pos full]
        cases refused : answer.reallocated with
        | false => exact .inl ⟨rfl, .inr ⟨piece, answered, refused, full⟩⟩
        | true =>
            have positive : 0 < growing.capacity := by
              obtain ⟨doublings, same⟩ := spells.doubled
              rw [same]
              exact Nat.mul_pos (by decide) (Nat.two_pow_pos doublings)
            obtain ⟨fits, doublings, same⟩ := doubleCapacity_spec
              (growing.length + piece.length + 1) (growing.length + piece.length + 1)
              growing.capacity positive (Nat.le_add_left _ _)
            rw [same] at fits ⊢
            obtain ⟨after, wrote, spelt⟩ :=
              (spells.reallocate doublings answer.filling).writePiece piece (by
                change _ ≤ growing.capacity * 2 ^ doublings
                omega)
            refine .inr ⟨piece, after, rfl, ?_, spelt⟩
            simp only [Bool.not_true, Bool.false_eq_true, if_false, wrote, Option.map_some]
      · rw [if_neg full]
        obtain ⟨after, wrote, spelt⟩ := spells.writePiece piece (by omega)
        refine .inr ⟨piece, after, rfl, ?_, spelt⟩
        rw [wrote, Option.map_some]

/-- What the loop has spelled when it ends. -/
theorem Spells.appendAll (spells : growing.Spells spelled) (answers : List PieceAnswer) :
    ∃ after succeeded count, growing.appendAll answers = some (after, succeeded) ∧
      count ≤ answers.length ∧ (succeeded = true → count = answers.length) ∧
      (succeeded = false → ∃ answer, answers[count]? = some answer ∧ after.Fails answer) ∧
      (∀ answer ∈ answers.take count, answer.piece ≠ none) ∧
      after.Spells
        (spelled ++ (answers.take count).flatMap fun answer => answer.piece.getD []) := by
  induction answers generalizing growing spelled with
  | nil =>
      refine ⟨growing, true, 0, rfl, Nat.le_refl 0, fun _ => rfl, nofun, nofun, ?_⟩
      rw [List.take_nil, List.flatMap_nil, List.append_nil]
      exact spells
  | cons answer rest ih =>
      unfold GrowingText.appendAll
      rcases spells.append answer with ⟨same, fails⟩ | ⟨piece, next, answered, appended, spelt⟩
      · rw [same]
        refine ⟨growing, false, 0, rfl, Nat.zero_le _, nofun, fun _ => ⟨answer, rfl, fails⟩, nofun,
          ?_⟩
        rw [List.take_zero, List.flatMap_nil, List.append_nil]
        exact spells
      · obtain ⟨after, succeeded, count, done, few, all, failed, present, final⟩ := ih spelt
        rw [appended]
        refine ⟨after, succeeded, count + 1, done, Nat.succ_le_succ few,
          fun success => congrArg Nat.succ (all success), ?_, ?_, ?_⟩
        · intro failure
          rw [List.getElem?_cons_succ]
          exact failed failure
        · intro other member
          rw [List.take_succ_cons] at member
          rcases List.mem_cons.mp member with rfl | later
          · rw [answered]
            nofun
          · exact present other later
        · rw [List.take_succ_cons, List.flatMap_cons, answered, Option.getD_some,
            ← List.append_assoc]
          exact final

/-- Every generation spells the pieces it was given up to the first failure, with a
terminator behind them; it fails only at a token that cannot be converted, or whose piece needs
memory that is refused.  No access is outside the buffer, whose size is 256 doubled a number of
times and is what the capacity says. -/
theorem generated_text_exact (answers : List PieceAnswer) :
    ∃ after succeeded count, create.appendAll answers = some (after, succeeded) ∧
      count ≤ answers.length ∧ (succeeded = true → count = answers.length) ∧
      (succeeded = false → ∃ answer, answers[count]? = some answer ∧ after.Fails answer) ∧
      (∀ answer ∈ answers.take count, answer.piece ≠ none) ∧
      after.Spells ((answers.take count).flatMap fun answer => answer.piece.getD []) :=
  create_spells.appendAll answers

end GrowingText

end AgentNucleus.Top
