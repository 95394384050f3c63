/-
What the sequences hold after an inference.  The slots of the shared prefixes hold the
tokens of their prompts, so that a first turn starts with its system prompt whether it was
cached or not; each call of `decode_tokens` continues where the one before it ended.
-/

import AgentNucleus.Top.KvTurns
import AgentNucleus.Top.TokenModel

set_option autoImplicit false

namespace AgentNucleus.Top.TokenModel

open AgentNucleus.Library
open AgentNucleus.Library.Checked (Triple)
open AgentNucleus.Runtime (CString StdString)
open AgentNucleus.Top.LlmModel (IsPrivate sharedSeqId)

variable (config : LoadedConfig) (vocabulary : Vocabulary)

/-- The positions of a sequence begin with these tokens. -/
def Holds (model : TokenModel) (seqId : Int) (tokens : List Token) : Prop :=
  ∀ position token, tokens[position]? = some token → model.cells seqId position = token

/-- The sequence of a slot holds the tokens of its prompt. -/
structure SlotHolds (model : TokenModel) (index : Fin kMaxSharedSys) (prompt : CString) :
    Prop where
  place : (model.llm.sharedSys index).seqId = sharedSeqId config index
  count : (model.llm.sharedSys index).tokenCount =
    (vocabulary.tokenize prompt.bytes true).length
  tokens : Holds model (sharedSeqId config index) (vocabulary.tokenize prompt.bytes true)

def PrefixesHeld (model : TokenModel) : Prop :=
  ∀ index prompt, (model.llm.sharedSys index).promptText = some prompt →
    SlotHolds config vocabulary model index prompt

/-- The state and the tokens of a private sequence. -/
structure Spoken (seqId : Int) (state : LlmModel.SeqState) (tokens : List Token)
    (model : TokenModel) : Prop where
  prefixes : PrefixesHeld config vocabulary model
  state : model.llm.seqStates seqId = state
  held : Holds model seqId tokens

/-- A state that counts these tokens. -/
def counting (tokens : List Token) : LlmModel.SeqState where
  currentPos := tokens.length
  inUse := true

variable {config vocabulary}

/-! ### Cells -/

theorem Holds.nothing (model : TokenModel) (seqId : Int) : Holds model seqId [] :=
  fun _ _ impossible => nomatch impossible

theorem Holds.start {model : TokenModel} {seqId : Int} {first second : List Token}
    (holds : Holds model seqId (first ++ second)) : Holds model seqId first := by
  intro position token here
  apply holds position token
  have below : position < first.length := (List.getElem?_eq_some_iff.mp here).1
  rw [List.getElem?_append_left below]
  exact here

theorem Holds.congr {model after : TokenModel} {seqId : Int} {tokens : List Token}
    (holds : Holds model seqId tokens) (same : after.cells seqId = model.cells seqId) :
    Holds after seqId tokens := by
  intro position token here
  rw [same]
  exact holds position token here

theorem cells_written (seqId : Int) (start : Nat) (tokens : List Token) (model : TokenModel)
    (position : Nat) :
    (written seqId start tokens model).cells seqId position =
      if start ≤ position then (tokens[position - start]?).getD (model.cells seqId position)
      else model.cells seqId position := by
  change Function.update model.cells seqId _ seqId position = _
  rw [Function.update_self]

theorem cells_written_other {seqId other : Int} (different : other ≠ seqId) (start : Nat)
    (tokens : List Token) (model : TokenModel) :
    (written seqId start tokens model).cells other = model.cells other :=
  Function.update_of_ne different ..

/-- What is decoded behind the tokens of a sequence continues them. -/
theorem Holds.written {model : TokenModel} {seqId : Int} {held : List Token}
    (holds : Holds model seqId held) (tokens : List Token) :
    Holds (TokenModel.written seqId held.length tokens model) seqId (held ++ tokens) := by
  intro position token here
  rw [cells_written]
  by_cases behind : held.length ≤ position
  · rw [List.getElem?_append_right behind] at here
    rw [if_pos behind, here]
    rfl
  · rw [List.getElem?_append_left (by omega)] at here
    rw [if_neg behind]
    exact holds position token here

theorem cells_copied_other {source target other : Int} (different : other ≠ target)
    (count : Nat) (model : TokenModel) :
    (copied source target count model).cells other = model.cells other :=
  Function.update_of_ne different ..

theorem Holds.copied {model : TokenModel} {source : Int} {tokens : List Token}
    (holds : Holds model source tokens) (target : Int) :
    Holds (TokenModel.copied source target tokens.length model) target tokens := by
  intro position token here
  have below : position < tokens.length := (List.getElem?_eq_some_iff.mp here).1
  have cell : (TokenModel.copied source target tokens.length model).cells target position =
      if position < tokens.length then model.cells source position
      else model.cells target position := by
    change Function.update model.cells target _ target position = _
    rw [Function.update_self]
  rw [cell, if_pos below]
  exact holds position token here

/-! ### Slots -/

/-- The slots name the same prompts, sequences and sizes. -/
structure SameSlots (before after : LlmModel) : Prop where
  text : ∀ index, (after.sharedSys index).promptText = (before.sharedSys index).promptText
  place : ∀ index, (after.sharedSys index).seqId = (before.sharedSys index).seqId
  count : ∀ index, (after.sharedSys index).tokenCount = (before.sharedSys index).tokenCount

theorem SameSlots.of_eq {before after : LlmModel} (same : after.sharedSys = before.sharedSys) :
    SameSlots before after := by
  constructor
  · intro index
    rw [same]
  · intro index
    rw [same]
  · intro index
    rw [same]

theorem SameSlots.trans {first second third : LlmModel} (left : SameSlots first second)
    (right : SameSlots second third) : SameSlots first third :=
  ⟨fun index => (right.text index).trans (left.text index),
    fun index => (right.place index).trans (left.place index),
    fun index => (right.count index).trans (left.count index)⟩

/-- Only the statistics of a slot are rewritten. -/
theorem SameSlots.stored (model : LlmModel) (index : Fin kMaxSharedSys)
    (entry : LlmModel.SharedSysEntry)
    (text : entry.promptText = (model.sharedSys index).promptText)
    (place : entry.seqId = (model.sharedSys index).seqId)
    (count : entry.tokenCount = (model.sharedSys index).tokenCount) :
    SameSlots model (LlmModel.storeSharedSys index entry model) := by
  have entries (other : Fin kMaxSharedSys) :
      (LlmModel.storeSharedSys index entry model).sharedSys other =
        if other = index then entry else model.sharedSys other :=
    Function.update_apply ..
  constructor
  · intro other
    rw [entries]
    split
    · next same => rw [same, text]
    · rfl
  · intro other
    rw [entries]
    split
    · next same => rw [same, place]
    · rfl
  · intro other
    rw [entries]
    split
    · next same => rw [same, count]
    · rfl

theorem SameSlots.touched (model : LlmModel) (index : Fin kMaxSharedSys) :
    SameSlots model (LlmModel.touched index model) := by
  have ticked : SameSlots model { model with prefixClock := model.prefixClock + 1 } :=
    SameSlots.of_eq rfl
  exact ticked.trans (SameSlots.stored _ index _ rfl rfl rfl)

theorem PrefixesHeld.congr {model after : TokenModel}
    (prefixes : PrefixesHeld config vocabulary model) (slots : SameSlots model.llm after.llm)
    (cells : ∀ index, after.cells (sharedSeqId config index) =
      model.cells (sharedSeqId config index)) : PrefixesHeld config vocabulary after := by
  intro index prompt present
  rw [slots.text] at present
  have held := prefixes index prompt present
  exact ⟨(slots.place index).trans held.place, (slots.count index).trans held.count,
    held.tokens.congr (cells index)⟩

/-! ### Sequences -/

variable {seqId : Int} {state : LlmModel.SeqState} {tokens : List Token} {model : TokenModel}

theorem Spoken.start {more : List Token}
    (spoken : Spoken config vocabulary seqId state (tokens ++ more) model) :
    Spoken config vocabulary seqId state tokens model :=
  ⟨spoken.prefixes, spoken.state, spoken.held.start⟩

/-- What happens to the positions alone. -/
theorem Spoken.llm (spoken : Spoken config vocabulary seqId state tokens model)
    {after : LlmModel} {next : LlmModel.SeqState} (slots : SameSlots model.llm after)
    (states : after.seqStates seqId = next) :
    Spoken config vocabulary seqId next tokens { model with llm := after } :=
  ⟨spoken.prefixes.congr slots fun _ => rfl, states, spoken.held.congr rfl⟩

theorem Spoken.written (spoken : Spoken config vocabulary seqId state tokens model)
    (found : IsPrivate config seqId) (more : List Token) :
    Spoken config vocabulary seqId state (tokens ++ more)
      (TokenModel.written seqId tokens.length more model) := by
  have slots : SameSlots model.llm (TokenModel.written seqId tokens.length more model).llm :=
    SameSlots.of_eq rfl
  refine ⟨spoken.prefixes.congr slots ?_, spoken.state, spoken.held.written more⟩
  intro index
  exact cells_written_other (found.ne_shared index) ..

theorem onLlm_spec {α : Type} {program : Llm α} {before : TokenModel → Prop}
    {after : α → TokenModel → Prop}
    (each : ∀ model, before model → Program.Triple (fun llm => llm = model.llm) program
      fun value llm => after value { model with llm }) :
    Triple before (onLlm program) after :=
  Triple.lift (Program.Triple.on each)

/-- A program that leaves every state alone. -/
theorem onLlm_keeps {α : Type} {program : Llm α}
    (keeps : ∀ before : LlmModel → Prop, Program.Triple before program fun _ => before)
    (before : TokenModel → Prop) : Triple before (onLlm program) fun _ => before := by
  apply onLlm_spec
  intro model start
  apply (keeps _).weaken
  intro value llm same
  rw [same]
  exact start

theorem requestCancelled_keeps (before : TokenModel → Prop) (cancellable : Bool) :
    Triple before (onLlm (LlmModel.requestCancelled cancellable)) fun _ => before :=
  onLlm_keeps (fun before => LlmModel.requestCancelled_keeps before cancellable) before

theorem available_keeps (before : TokenModel → Prop) :
    Triple before (onLlm LlmModel.available) fun _ => before :=
  onLlm_keeps LlmModel.available_keeps before

theorem ask_keeps (before : TokenModel → Prop) :
    Triple before (onLlm Program.ask) fun _ => before :=
  onLlm_keeps (fun _ => ⟨fun _ _ start => start⟩) before

theorem cancelledAfter_keeps (before : TokenModel → Prop) (request : LlmRequest)
    (result : Int) :
    Triple before (onLlm (LlmModel.cancelledAfter request result)) fun _ => before :=
  onLlm_keeps (fun before => LlmModel.cancelledAfter_keeps before request result) before

theorem setSeqState_spoken (next : LlmModel.SeqState) :
    Triple (Spoken config vocabulary seqId state tokens)
      (onLlm (LlmModel.setSeqState seqId next))
      fun _ => Spoken config vocabulary seqId next tokens := by
  apply onLlm_spec
  intro model spoken
  apply Program.Triple.change
  intro llm same
  rw [same]
  exact spoken.llm (SameSlots.of_eq rfl) (LlmModel.seqStates_storeSeqState ..)

theorem memoryClear_spoken (cleared : Int) :
    Triple (Spoken config vocabulary seqId state tokens)
      (onLlm (LlmModel.memoryClear cleared))
      fun _ => Spoken config vocabulary seqId state tokens := by
  apply onLlm_spec
  intro model spoken
  apply Program.Triple.change
  intro llm same
  rw [same]
  exact spoken.llm (SameSlots.of_eq rfl) spoken.state

theorem decodeTokens_spoken (found : IsPrivate config seqId) (cancellable : Bool)
    (more : List Token) :
    Triple (Spoken config vocabulary seqId state tokens)
      (decodeTokens config cancellable more seqId tokens.length)
      fun _ => Spoken config vocabulary seqId state (tokens ++ more) := by
  have noted : Triple (Spoken config vocabulary seqId state tokens)
      (Checked.lift (Program.change (written seqId tokens.length more)) : Spelling Unit)
      fun _ => Spoken config vocabulary seqId state (tokens ++ more) :=
    Triple.lift (Program.Triple.change fun _ spoken => spoken.written found more)
  apply noted.bind
  intro nothing
  apply onLlm_spec
  intro model spoken
  apply (LlmModel.decodeTokens_spec _ _ _ _ model.llm).weaken
  intro result llm decoded
  apply spoken.llm (SameSlots.of_eq decoded.only.sharedSys)
  rw [decoded.only.seqStates, spoken.state]

/-! ### The system prompt -/

/-- The sequence stays as it is, and one slot is empty. -/
structure Opened (config : LoadedConfig) (vocabulary : Vocabulary) (seqId : Int)
    (state : LlmModel.SeqState) (tokens : List Token) (index : Fin kMaxSharedSys)
    (model : TokenModel) : Prop extends Spoken config vocabulary seqId state tokens model where
  empty : (model.llm.sharedSys index).promptText = none

private theorem evictSharedSys_empties (index : Fin kMaxSharedSys) (start : LlmModel) :
    Program.Triple (fun llm => llm = start) (LlmModel.evictSharedSys index) fun _ after =>
      after.seqStates = start.seqStates ∧ (after.sharedSys index).promptText = none ∧
        ∀ other, other ≠ index → after.sharedSys other = start.sharedSys other := by
  apply Program.Triple.inspect_then
  apply Program.Triple.ite
  · intro empty
    apply Program.Triple.pure
    intro llm same
    rw [same]
    exact ⟨rfl, empty, fun _ _ => rfl⟩
  · intro filled
    apply Program.Triple.change_then
    apply Program.Triple.change_then
    apply Program.Triple.change
    intro llm same
    rw [same]
    refine ⟨rfl, ?_, ?_⟩
    · exact congrArg LlmModel.SharedSysEntry.promptText
        (LlmModel.sharedSys_storeSharedSys _ index {})
    · intro other different
      exact LlmModel.sharedSys_storeSharedSys_other _ {} different

theorem evictSharedSys_opened (index : Fin kMaxSharedSys) :
    Triple (Spoken config vocabulary seqId state tokens)
      (onLlm (LlmModel.evictSharedSys index))
      fun _ => Opened config vocabulary seqId state tokens index := by
  apply onLlm_spec
  intro model spoken
  apply (evictSharedSys_empties index model.llm).weaken
  rintro _ llm ⟨states, empty, others⟩
  refine ⟨⟨?_, (congrFun states seqId).trans spoken.state, spoken.held.congr rfl⟩, empty⟩
  intro other prompt present
  have different : other ≠ index := by
    intro same
    rw [same, empty] at present
    cases present
  rw [others other different] at present
  have held := spoken.prefixes other prompt present
  refine ⟨?_, ?_, held.tokens.congr rfl⟩
  · rw [others other different]
    exact held.place
  · rw [others other different]
    exact held.count

theorem memoryClear_opened (index : Fin kMaxSharedSys) (cleared : Int) :
    Triple (Opened config vocabulary seqId state tokens index)
      (onLlm (LlmModel.memoryClear cleared))
      fun _ => Opened config vocabulary seqId state tokens index := by
  apply onLlm_spec
  intro model opened
  apply Program.Triple.change
  intro llm same
  rw [same]
  exact ⟨opened.llm (SameSlots.of_eq rfl) opened.state, opened.empty⟩

/-- A slot is being filled: its sequence holds the tokens of its prompt. -/
structure Filling (config : LoadedConfig) (vocabulary : Vocabulary) (seqId : Int)
    (state : LlmModel.SeqState) (tokens : List Token) (index : Fin kMaxSharedSys)
    (prefixTokens : List Token) (model : TokenModel) : Prop
    extends Opened config vocabulary seqId state tokens index model where
  filled : Holds model (sharedSeqId config index) prefixTokens

theorem Opened.filling (found : IsPrivate config seqId) {index : Fin kMaxSharedSys}
    (opened : Opened config vocabulary seqId state tokens index model)
    (prefixTokens : List Token) :
    Filling config vocabulary seqId state tokens index prefixTokens
      (TokenModel.written (sharedSeqId config index) 0 prefixTokens model) := by
  have different : seqId ≠ sharedSeqId config index := (found.ne_shared index).symm
  refine ⟨⟨⟨?_, opened.state, ?_⟩, opened.empty⟩, ?_⟩
  · intro other prompt present
    have elsewhere : other ≠ index := by
      intro same
      rw [same] at present
      exact absurd (opened.empty.symm.trans present) (Option.some_ne_none prompt).symm
    have held := opened.prefixes other prompt present
    refine ⟨held.place, held.count, held.tokens.congr ?_⟩
    exact cells_written_other (LlmModel.sharedSeqId_ne elsewhere) ..
  · exact opened.held.congr (cells_written_other different ..)
  · exact (Holds.nothing model _).written prefixTokens

theorem decodeTokens_filling (found : IsPrivate config seqId) (index : Fin kMaxSharedSys)
    (prefixTokens : List Token) :
    Triple (Opened config vocabulary seqId state tokens index)
      (decodeTokens config false prefixTokens (sharedSeqId config index) 0)
      fun _ => Filling config vocabulary seqId state tokens index prefixTokens := by
  have noted : Triple (Opened config vocabulary seqId state tokens index)
      (Checked.lift (Program.change (written (sharedSeqId config index) 0 prefixTokens)) :
        Spelling Unit)
      fun _ => Filling config vocabulary seqId state tokens index prefixTokens :=
    Triple.lift (Program.Triple.change fun _ opened => opened.filling found prefixTokens)
  apply noted.bind
  intro nothing
  apply onLlm_spec
  intro model filling
  apply (LlmModel.decodeTokens_spec _ _ _ _ model.llm).weaken
  intro result llm decoded
  have slots := decoded.only.sharedSys
  have spoken := filling.llm (SameSlots.of_eq slots)
    ((congrFun decoded.only.seqStates seqId).trans filling.state)
  refine ⟨⟨spoken, ?_⟩, filling.filled.congr rfl⟩
  change (llm.sharedSys index).promptText = none
  rw [slots]
  exact filling.empty

/-- The slot gets its prompt. -/
theorem Filling.fill {index : Fin kMaxSharedSys} {prompt : CString}
    (filling : Filling config vocabulary seqId state tokens index
      (vocabulary.tokenize prompt.bytes true) model) :
    Spoken config vocabulary seqId state tokens
      { model with
        llm := LlmModel.storeSharedSys index
          { seqId := sharedSeqId config index
            tokenCount := (vocabulary.tokenize prompt.bytes true).length
            promptText := some prompt } model.llm } := by
  refine ⟨?_, filling.state, filling.held.congr rfl⟩
  intro other text present
  by_cases same : other = index
  · rw [same] at present ⊢
    change ((LlmModel.storeSharedSys index _ model.llm).sharedSys index).promptText = _ at present
    rw [LlmModel.sharedSys_storeSharedSys] at present
    cases present
    have entry := LlmModel.sharedSys_storeSharedSys model.llm index
      { seqId := sharedSeqId config index
        tokenCount := (vocabulary.tokenize prompt.bytes true).length
        promptText := some prompt }
    exact ⟨congrArg LlmModel.SharedSysEntry.seqId entry,
      congrArg LlmModel.SharedSysEntry.tokenCount entry, filling.filled.congr rfl⟩
  · have entry : (LlmModel.storeSharedSys index
        { seqId := sharedSeqId config index
          tokenCount := (vocabulary.tokenize prompt.bytes true).length
          promptText := some prompt } model.llm).sharedSys other = model.llm.sharedSys other :=
      LlmModel.sharedSys_storeSharedSys_other _ _ same
    have held := filling.prefixes other text (by
      rw [← entry]
      exact present)
    exact ⟨(congrArg LlmModel.SharedSysEntry.seqId entry).trans held.place,
      (congrArg LlmModel.SharedSysEntry.tokenCount entry).trans held.count,
      held.tokens.congr rfl⟩

/-- The slot that is found or filled belongs to the prompt. -/
structure Found (config : LoadedConfig) (vocabulary : Vocabulary) (seqId : Int)
    (state : LlmModel.SeqState) (tokens : List Token) (systemPrompt : CString)
    (slot : Option (Fin kMaxSharedSys)) (model : TokenModel) : Prop
    extends Spoken config vocabulary seqId state tokens model where
  named : ∀ index, slot = some index →
    (model.llm.sharedSys index).promptText = some systemPrompt

theorem Spoken.missed (spoken : Spoken config vocabulary seqId state tokens model)
    (systemPrompt : CString) :
    Found config vocabulary seqId state tokens systemPrompt none model :=
  ⟨spoken, fun _ impossible => nomatch impossible⟩

/-- A change that names the same slots. -/
theorem change_found {update : LlmModel → LlmModel} {systemPrompt : CString}
    (slots : ∀ llm, SameSlots llm (update llm))
    (states : ∀ llm, (update llm).seqStates = llm.seqStates)
    (slot : Option (Fin kMaxSharedSys)) :
    Triple (Found config vocabulary seqId state tokens systemPrompt slot)
      (onLlm (Program.change update))
      fun _ => Found config vocabulary seqId state tokens systemPrompt slot := by
  apply onLlm_spec
  intro model reached
  apply Program.Triple.change
  intro llm same
  rw [same]
  refine ⟨reached.llm (slots _) ?_, ?_⟩
  · rw [states]
    exact reached.state
  · intro index named
    exact ((slots _).text index).trans (reached.named index named)

theorem setSharedSys_found (index : Fin kMaxSharedSys) (systemPrompt : CString) :
    Triple
      (Filling config vocabulary seqId state tokens index
        (vocabulary.tokenize systemPrompt.bytes true))
      (onLlm (LlmModel.setSharedSys index
        { seqId := sharedSeqId config index
          tokenCount := (vocabulary.tokenize systemPrompt.bytes true).length
          promptText := some systemPrompt }))
      fun _ => Found config vocabulary seqId state tokens systemPrompt (some index) := by
  apply onLlm_spec
  intro model filling
  apply Program.Triple.change
  intro llm same
  rw [same]
  refine ⟨filling.fill, ?_⟩
  intro other named
  cases named
  exact congrArg LlmModel.SharedSysEntry.promptText (LlmModel.sharedSys_storeSharedSys ..)

theorem cacheSystemPrefix_found (found : IsPrivate config seqId) (systemPrompt : CString) :
    Triple (Spoken config vocabulary seqId state tokens)
      (cacheSystemPrefix config vocabulary systemPrompt)
      (Found config vocabulary seqId state tokens systemPrompt) := by
  apply (tokenizeAlloc_spec _ _).bind
  intro count
  apply Triple.ite
  · intro refused
    exact Triple.pure none fun _ start => start.1.missed systemPrompt
  · intro accepted
    have selected : Triple
        (fun model => Spoken config vocabulary seqId state tokens model ∧
          (count ≤ 0 ∨ count = (vocabulary.tokenize systemPrompt.bytes true).length))
        (onLlm (Program.inspect LlmModel.selectSharedSysSlot))
        fun _ => Spoken config vocabulary seqId state tokens :=
      (onLlm_keeps (fun _ => Program.Triple.inspects _) _).strengthen fun _ start => start.1
    apply selected.bind
    intro index
    apply (evictSharedSys_opened index).bind
    intro evicted
    apply (memoryClear_opened index _).bind
    intro cleared
    apply (decodeTokens_filling found index _).bind
    intro decoded
    have givingUp : Triple
        (Filling config vocabulary seqId state tokens index
          (vocabulary.tokenize systemPrompt.bytes true))
        (do
          onLlm (LlmModel.memoryClear (sharedSeqId config index))
          pure none)
        (Found config vocabulary seqId state tokens systemPrompt) := by
      apply ((memoryClear_spoken _).strengthen fun _ filling => filling.toSpoken).bind
      intro nothing
      exact Triple.pure none fun _ spoken => spoken.missed systemPrompt
    apply Triple.ite
    · intro failure
      exact givingUp
    · intro success
      apply (available_keeps _).bind
      intro copied
      apply Triple.ite
      · intro missing
        exact givingUp
      · intro present
        apply (setSharedSys_found index systemPrompt).bind
        intro stored
        apply (change_found (fun llm => SameSlots.touched llm index) (fun _ => rfl) _).bind
        intro touched
        have counts (llm : LlmModel) :
            SameSlots llm { llm with sharedSysCount := llm.sharedSysCount + 1 } :=
          SameSlots.of_eq rfl
        apply (change_found counts (fun _ => rfl) _).bind
        intro counted
        exact Triple.pure (some index) fun _ reached => reached

theorem findOrCache_found (found : IsPrivate config seqId) (systemPrompt : CString) :
    Triple (Spoken config vocabulary seqId state tokens)
      (findOrCache config vocabulary systemPrompt)
      fun shared => Found config vocabulary seqId state tokens systemPrompt shared.1 := by
  have looked : Triple (Spoken config vocabulary seqId state tokens)
      (onLlm (Program.inspect fun llm => LlmModel.findSharedSys llm systemPrompt))
      (Found config vocabulary seqId state tokens systemPrompt) := by
    apply onLlm_spec
    intro model spoken
    apply Program.Triple.inspect
    intro llm same
    rw [same]
    refine ⟨spoken, ?_⟩
    intro index search
    have matched := List.find?_some search
    exact of_decide_eq_true matched
  apply looked.bind
  intro slot
  cases slot with
  | some index => exact Triple.pure (some index, true) fun _ reached => reached
  | none =>
      apply ((cacheSystemPrefix_found found systemPrompt).strengthen
        fun _ missed => missed.toSpoken).bind
      intro cached
      exact Triple.pure (cached, false) fun _ reached => reached

private theorem memoryCopy_only (source target : Int) (first last : Nat) (start : LlmModel) :
    Program.Triple (fun llm => llm = start) (LlmModel.memoryCopy source target first last)
      fun _ after => after.sharedSys = start.sharedSys := by
  apply Program.Triple.inspect_then
  apply Program.Triple.inspect_then
  apply Program.Triple.change
  intro llm same
  rw [same]
  rfl

/-- The copy counts the tokens of the slot, and names the slots as before. -/
private theorem useSharedPrefix_counts (request : LlmRequest) (index : Fin kMaxSharedSys)
    (reused : Bool) (response : LlmResponse) (start : LlmModel) :
    Program.Triple (fun llm => llm = start)
      (LlmModel.useSharedPrefix request index reused response) fun _ after =>
        SameSlots start after ∧ after.seqStates request.seqId =
          { currentPos := (start.sharedSys index).tokenCount, inUse := true } := by
  have marked := SameSlots.touched start index
  apply Program.Triple.change_then
  apply Program.Triple.inspect_then
  apply (memoryCopy_only ..).bind
  intro copied
  apply Program.Triple.from_state
  intro middle slots
  have reached := marked.trans (SameSlots.of_eq slots)
  apply Program.Triple.change_then
  apply Program.Triple.ite
  · intro shared
    apply Program.Triple.change_then
    apply Program.Triple.pure
    intro llm same
    rw [same, ← slots]
    constructor
    · have recorded : SameSlots middle (LlmModel.storeSeqState request.seqId
          { currentPos := (middle.sharedSys index).tokenCount, inUse := true } middle) :=
        SameSlots.of_eq rfl
      apply (reached.trans recorded).trans
      exact SameSlots.stored _ index _ rfl rfl rfl
    · change (LlmModel.storeSeqState request.seqId _ middle).seqStates request.seqId = _
      rw [LlmModel.seqStates_storeSeqState, reached.count]
  · intro fresh
    apply Program.Triple.pure
    intro llm same
    rw [same, ← slots]
    constructor
    · exact reached.trans (SameSlots.of_eq rfl)
    · rw [LlmModel.seqStates_storeSeqState, reached.count]

/-- The tokens that a slot holds are copied into an empty sequence. -/
theorem useSharedPrefix_spoken (found : IsPrivate config seqId) (request : LlmRequest)
    (sameSeq : request.seqId = seqId) (systemPrompt : CString) (index : Fin kMaxSharedSys)
    (reused : Bool) (response : LlmResponse) :
    Triple (Found config vocabulary seqId state [] systemPrompt (some index))
      (useSharedPrefix request index reused response)
      fun _ => Spoken config vocabulary seqId
        (counting (vocabulary.tokenize systemPrompt.bytes true))
        (vocabulary.tokenize systemPrompt.bytes true) := by
  have noted : Triple (Found config vocabulary seqId state [] systemPrompt (some index))
      (Checked.lift (Program.change (copyPrefix request.seqId index)) : Spelling Unit)
      fun _ model => Spoken config vocabulary seqId state
          (vocabulary.tokenize systemPrompt.bytes true) model ∧
        (model.llm.sharedSys index).tokenCount =
          (vocabulary.tokenize systemPrompt.bytes true).length := by
    apply Triple.lift
    apply Program.Triple.change
    intro model slot
    have held := slot.prefixes index systemPrompt (slot.named index rfl)
    have copies : copyPrefix request.seqId index model =
        TokenModel.copied (sharedSeqId config index) seqId
          (vocabulary.tokenize systemPrompt.bytes true).length model := by
      unfold copyPrefix
      rw [held.place, held.count, sameSeq]
    have slots : SameSlots model.llm (TokenModel.copied (sharedSeqId config index) seqId
        (vocabulary.tokenize systemPrompt.bytes true).length model).llm := SameSlots.of_eq rfl
    rw [copies]
    refine ⟨⟨slot.prefixes.congr slots ?_, slot.state, held.tokens.copied seqId⟩, held.count⟩
    intro other
    exact cells_copied_other (found.ne_shared other) ..
  apply noted.bind
  intro nothing
  apply onLlm_spec
  intro model start
  obtain ⟨spoken, count⟩ := start
  apply (useSharedPrefix_counts request index reused response model.llm).weaken
  rintro _ llm ⟨slots, states⟩
  rw [sameSeq, count] at states
  exact spoken.llm slots states

/-- A prefix that was decoded is all that the sequence holds. -/
structure Prefixed (config : LoadedConfig) (vocabulary : Vocabulary) (seqId : Int)
    (systemPrompt : CString) (goesOn : Bool) (model : TokenModel) : Prop where
  prefixes : PrefixesHeld config vocabulary model
  begun : goesOn = true → Spoken config vocabulary seqId
    (counting (vocabulary.tokenize systemPrompt.bytes true))
    (vocabulary.tokenize systemPrompt.bytes true) model

theorem decodeSystemPrompt_prefixed (found : IsPrivate config seqId) (request : LlmRequest)
    (sameSeq : request.seqId = seqId) (systemPrompt : CString) (response : LlmResponse) :
    Triple (Spoken config vocabulary seqId state [])
      (decodeSystemPrompt config vocabulary request systemPrompt response)
      fun outcome => Prefixed config vocabulary seqId systemPrompt outcome.1 := by
  unfold decodeSystemPrompt
  rw [sameSeq]
  have refusing (held : List Token) : Triple (Spoken config vocabulary seqId state held)
      (do
        let cancelled ← onLlm (LlmModel.requestCancelled request.cancellable)
        pure (false, { response with cancelled }))
      fun outcome => Prefixed config vocabulary seqId systemPrompt outcome.1 := by
    apply (requestCancelled_keeps _ _).bind
    intro cancelled
    apply Triple.pure
    intro model spoken
    exact ⟨spoken.prefixes, fun impossible => absurd impossible Bool.false_ne_true⟩
  apply (tokenizeAlloc_spec _ _).bind
  intro systemCount
  apply Triple.ite
  · intro refused
    exact (refusing []).strengthen fun _ start => start.1
  · intro accepted
    have decoding : Triple (Spoken config vocabulary seqId state [])
        (decodeTokens config request.cancellable
          (vocabulary.tokenize systemPrompt.bytes true) seqId 0)
        fun _ => Spoken config vocabulary seqId state
          (vocabulary.tokenize systemPrompt.bytes true) :=
      decodeTokens_spoken found request.cancellable _
    apply (decoding.strengthen fun _ start => start.1).bind
    intro decoded
    apply Triple.ite
    · intro failure
      exact refusing _
    · intro success
      apply (setSeqState_spoken _).bind
      intro stored
      apply Triple.pure
      intro model spoken
      exact ⟨spoken.prefixes, fun _ => spoken⟩

/-- It makes no difference whether the prefix was cached. -/
theorem prefixPhase_prefixed (found : IsPrivate config seqId) (request : LlmRequest)
    (sameSeq : request.seqId = seqId) (systemPrompt : CString) (response : LlmResponse) :
    Triple (Spoken config vocabulary seqId state [])
      (prefixPhase config vocabulary request systemPrompt response)
      fun outcome => Prefixed config vocabulary seqId systemPrompt outcome.1 := by
  apply (findOrCache_found found systemPrompt).bind
  intro shared
  obtain ⟨_ | index, reused⟩ := shared
  · apply (decodeSystemPrompt_prefixed found request sameSeq systemPrompt response).strengthen
    intro model missed
    exact missed.toSpoken
  · apply (useSharedPrefix_spoken found request sameSeq systemPrompt index reused response).bind
    intro used
    apply Triple.pure
    intro model spoken
    exact ⟨spoken.prefixes, fun _ => spoken⟩

/-! ### The generation -/

/-- The tokens that were there stay, and after a success the new ones are behind them. -/
structure Generated (config : LoadedConfig) (vocabulary : Vocabulary) (seqId : Int)
    (state : LlmModel.SeqState) (start : List Token) (generation : Generation)
    (model : TokenModel) : Prop where
  kept : Spoken config vocabulary seqId state start model
  said : generation.result = 0 → Spoken config vocabulary seqId state
    (start ++ generation.generated ++ generation.boundary) model
  clean : 0 ∉ vocabulary.spell generation.generated
  ended : generation.boundary = [] ∨ generation.boundary = vocabulary.endOfTurn.toList

theorem failedGeneration_generated (request : LlmRequest) {start generated : List Token}
    (clean : 0 ∉ vocabulary.spell generated) (result : Int) :
    Triple (Spoken config vocabulary seqId state start)
      (failedGeneration request generated result)
      fun generation model => Generated config vocabulary seqId state start generation model ∧
        generation.result ≠ 0 := by
  apply (cancelledAfter_keeps _ request result).bind
  intro cancelled
  have failed : (if cancelled = true then (-2 : Int) else -1) ≠ 0 := by
    split <;> decide
  apply Triple.pure
  intro model spoken
  exact ⟨⟨spoken, fun success => absurd success failed, clean, .inl rfl⟩, failed⟩

theorem decodeNext_spoken (found : IsPrivate config seqId) (request : LlmRequest)
    (sameSeq : request.seqId = seqId) (start generated more : List Token) :
    Triple (Spoken config vocabulary seqId state (start ++ generated))
      (decodeNext config request start.length generated more)
      fun _ => Spoken config vocabulary seqId state (start ++ generated ++ more) := by
  unfold decodeNext
  rw [sameSeq, ← List.length_append]
  exact decodeTokens_spoken found request.cancellable more

theorem spell_concat_clean {generated : List Token} {token : Token}
    (clean : 0 ∉ vocabulary.spell generated) (more : 0 ∉ vocabulary.piece token) :
    0 ∉ vocabulary.spell (generated ++ [token]) := by
  unfold Vocabulary.spell
  rw [List.flatMap_append, List.flatMap_singleton, List.mem_append, not_or]
  exact ⟨clean, more⟩

theorem generateTokens_generated (found : IsPrivate config seqId) (request : LlmRequest)
    (sameSeq : request.seqId = seqId) (start : List Token) (remaining : Nat) :
    ∀ generated : List Token, 0 ∉ vocabulary.spell generated →
      Triple (Spoken config vocabulary seqId state (start ++ generated))
        (generateTokens config vocabulary request start.length remaining generated)
        (Generated config vocabulary seqId state start) := by
  induction remaining with
  | zero =>
      intro generated clean
      apply Triple.pure
      intro model spoken
      refine ⟨spoken.start, fun _ => ?_, clean, .inl rfl⟩
      rw [List.append_nil]
      exact spoken
  | succ remaining ih =>
      intro generated clean
      have failing (more : List Token) (result : Int) :
          Triple (Spoken config vocabulary seqId state (start ++ generated ++ more))
            (failedGeneration request generated result)
            (Generated config vocabulary seqId state start) :=
        ((failedGeneration_generated request clean result).strengthen
          fun _ spoken => spoken.start.start).weaken fun _ _ failed => failed.1
      unfold generateTokens
      apply (requestCancelled_keeps _ request.cancellable).bind
      intro cancelled
      apply Triple.ite
      · intro now
        apply Triple.pure
        intro model spoken
        have failed : (-2 : Int) ≠ 0 := by decide
        exact ⟨spoken.start, fun success => absurd success failed, clean, .inl rfl⟩
      · intro goesOn
        apply (ask_keeps _).bind
        intro sampled
        apply Triple.require_then
        intro regular
        apply Triple.ite
        · intro ends
          apply (decodeNext_spoken found request sameSeq start generated [sampled.token]).bind
          intro tokenResult
          apply Triple.ite
          · intro failure
            exact failing [sampled.token] tokenResult
          · intro success
            apply Triple.pure
            intro model spoken
            refine ⟨spoken.start.start, fun _ => spoken, clean, .inr ?_⟩
            rw [regular.1 ends]
            rfl
        · intro continues
          apply (available_keeps _).bind
          intro appended
          apply Triple.ite
          · intro missing
            apply Triple.pure
            intro model spoken
            have failed : (-1 : Int) ≠ 0 := by decide
            exact ⟨spoken.start, fun success => absurd success failed, clean, .inl rfl⟩
          · intro present
            apply (decodeNext_spoken found request sameSeq start generated [sampled.token]).bind
            intro tokenResult
            apply Triple.ite
            · intro failure
              exact failing [sampled.token] tokenResult
            · intro success
              have piece := regular.2 (Bool.eq_false_iff.mpr continues)
              have next := ih (generated ++ [sampled.token]) (spell_concat_clean clean piece)
              rw [← List.append_assoc] at next
              exact next

/-- After a forced end the boundary is the token that ends a turn, if there is one. -/
theorem closeTurn_generated (found : IsPrivate config seqId) (request : LlmRequest)
    (sameSeq : request.seqId = seqId) (start : List Token) (generation : Generation) :
    Triple (Generated config vocabulary seqId state start generation)
      (closeTurn config vocabulary request start.length generation)
      fun closed model => Generated config vocabulary seqId state start closed model ∧
        (request.closeTurn = true → closed.result = 0 →
          closed.boundary = vocabulary.endOfTurn.toList) := by
  apply Triple.ite
  · intro open_
    obtain ⟨noFailure, closes, unbounded⟩ := open_
    apply (available_keeps _).bind
    intro present
    apply Triple.require_then
    intro known
    apply Triple.ite
    · intro missing
      apply Triple.pure
      intro model generated
      refine ⟨generated, fun _ _ => ?_⟩
      have none_ : vocabulary.endOfTurn = none := by
        apply Option.not_isSome_iff_eq_none.mp
        rw [← known]
        simpa using missing
      rw [unbounded, none_]
      rfl
    · intro there
      apply Triple.from_state
      intro begun generated
      have spoken := generated.said noFailure
      rw [unbounded, List.append_nil] at spoken
      have decoding := @decodeNext_spoken config vocabulary seqId state found request sameSeq
        start generation.generated vocabulary.endOfTurn.toList
      have here (model : TokenModel) (same : model = begun) :
          Spoken config vocabulary seqId state (start ++ generation.generated) model := by
        rw [same]
        exact spoken
      apply (decoding.strengthen here).bind
      intro boundaryResult
      apply Triple.ite
      · intro failure
        apply ((failedGeneration_generated request generated.clean boundaryResult).strengthen
          fun _ spoken => spoken.start.start).weaken
        intro closed model failed
        exact ⟨failed.1, fun _ success => absurd success failed.2⟩
      · intro success
        apply Triple.pure
        intro model closed
        exact ⟨⟨closed.start.start, fun _ => closed, generated.clean, .inr rfl⟩,
          fun _ _ => rfl⟩
  · intro otherwise
    apply Triple.pure
    intro model generated
    refine ⟨generated, fun closes success => ?_⟩
    have bounded : generation.boundary ≠ [] := fun empty => otherwise ⟨success, closes, empty⟩
    exact generated.ended.resolve_left bounded

/-! ### The inference -/

/-- The sequence holds what it has begun with, the answer and the end of the turn. -/
structure Answered (config : LoadedConfig) (vocabulary : Vocabulary) (seqId : Int)
    (closes : Bool) (start : List Token) (generated : List Token) (model : TokenModel) :
    Prop where
  spoken : ∃ boundary, (closes = true → boundary = vocabulary.endOfTurn.toList) ∧
    Spoken config vocabulary seqId (counting (start ++ generated ++ boundary))
      (start ++ generated ++ boundary) model
  clean : 0 ∉ vocabulary.spell generated

/-- How a turn comes to its end, before it is undone if it has failed. -/
structure Ended (config : LoadedConfig) (vocabulary : Vocabulary) (seqId : Int)
    (closes : Bool) (kept start : List Token) (outcome : Inferred) (model : TokenModel) :
    Prop where
  prefixes : PrefixesHeld config vocabulary model
  held : Holds model seqId kept
  answered : outcome.1.1 = 0 →
    Answered config vocabulary seqId closes start outcome.2 model

theorem Spoken.failed {closes : Bool} {start : List Token} {outcome : Inferred}
    (spoken : Spoken config vocabulary seqId state tokens model) (failure : outcome.1.1 ≠ 0) :
    Ended config vocabulary seqId closes tokens start outcome model :=
  ⟨spoken.prefixes, spoken.held, fun success => absurd success failure⟩

theorem Ended.shorten {closes : Bool} {kept more start : List Token} {outcome : Inferred}
    (ended : Ended config vocabulary seqId closes (kept ++ more) start outcome model) :
    Ended config vocabulary seqId closes kept start outcome model :=
  ⟨ended.prefixes, ended.held.start, ended.answered⟩

theorem generationPhase_ended (found : IsPrivate config seqId) (request : LlmRequest)
    (sameSeq : request.seqId = seqId) (maxTokens promptCount : Nat) (start : List Token)
    (response : LlmResponse) :
    Triple (Spoken config vocabulary seqId state start)
      (generationPhase config vocabulary request maxTokens promptCount start.length response)
      (Ended config vocabulary seqId request.closeTurn start start) := by
  have failed : (-1 : Int) ≠ 0 := by decide
  apply (available_keeps _).bind
  intro allocated
  apply Triple.ite
  · intro missing
    exact Triple.pure ((-1, response), []) fun _ spoken => spoken.failed failed
  · intro present
    apply (available_keeps _).bind
    intro sampler
    apply Triple.ite
    · intro missing
      exact Triple.pure ((-1, response), []) fun _ spoken => spoken.failed failed
    · intro sampling
      have nothing : 0 ∉ vocabulary.spell [] := List.not_mem_nil
      have generating := @generateTokens_generated config vocabulary seqId state found request
        sameSeq start maxTokens [] nothing
      rw [List.append_nil] at generating
      apply generating.bind
      intro loop
      apply (closeTurn_generated found request sameSeq start loop).bind
      intro generation
      apply Triple.ite
      · intro failure
        exact Triple.pure _ fun _ closed => closed.1.kept.failed failure
      · intro success
        have done : generation.result = 0 := not_not.mp success
        rw [sameSeq, ← List.length_append, ← List.length_append]
        apply Triple.from_state
        intro closing closed
        have stored : Triple (fun model => model = closing)
            (onLlm (LlmModel.setSeqState seqId
              { currentPos := (start ++ generation.generated ++ generation.boundary).length
                inUse := true }))
            fun _ => Spoken config vocabulary seqId
              (counting (start ++ generation.generated ++ generation.boundary))
              (start ++ generation.generated ++ generation.boundary) :=
          (setSeqState_spoken _).strengthen fun _ same => by
            rw [same]
            exact closed.1.said done
        apply stored.bind
        intro recorded
        apply (ask_keeps _).bind
        intro size
        apply Triple.pure
        intro model spoken
        refine ⟨spoken.prefixes, spoken.held.start.start, fun _ => ⟨⟨_, ?_, spoken⟩, ?_⟩⟩
        · exact fun closes => closed.2 closes done
        · exact closed.1.clean

theorem promptPhase_ended (found : IsPrivate config seqId) (request : LlmRequest)
    (sameSeq : request.seqId = seqId) (prompt : CString) (maxTokens : Nat)
    (response : LlmResponse) (counted : state.currentPos = tokens.length) :
    Triple (Spoken config vocabulary seqId state tokens)
      (promptPhase config vocabulary request prompt maxTokens response)
      (Ended config vocabulary seqId request.closeTurn tokens
        (tokens ++ vocabulary.tokenize prompt.bytes (!state.inUse))) := by
  have failed : (-1 : Int) ≠ 0 := by decide
  have looked : Triple (Spoken config vocabulary seqId state tokens)
      (onLlm (LlmModel.seqState request.seqId))
      fun here model => here = state ∧ Spoken config vocabulary seqId state tokens model := by
    apply onLlm_spec
    intro model spoken
    apply Program.Triple.inspect
    intro llm same
    rw [same, sameSeq]
    exact ⟨spoken.state, spoken⟩
  apply looked.bind
  intro here
  apply Triple.from_state
  intro begun start
  obtain ⟨rfl, spoken⟩ := start
  apply (tokenizeAlloc_spec _ _).bind
  intro promptCount
  apply Triple.ite
  · intro refused
    apply Triple.pure
    intro model start
    rw [start.1]
    exact spoken.failed failed
  · intro accepted
    have decoding := @decodeTokens_spoken config vocabulary seqId here tokens found
      request.cancellable (vocabulary.tokenize prompt.bytes (!here.inUse))
    rw [sameSeq, counted]
    apply (decoding.strengthen fun _ start => by rw [start.1]; exact spoken).bind
    intro decodeResult
    apply Triple.ite
    · intro failure
      apply (cancelledAfter_keeps _ request decodeResult).bind
      intro cancelled
      apply Triple.pure
      intro model spoken
      exact spoken.start.failed failed
    · intro success
      rw [← List.length_append]
      exact (generationPhase_ended found request sameSeq maxTokens _ _ response).weaken
        fun _ _ ended => ended.shorten

private theorem memoryRemoveFrom_only (seqId : Int) (first : Nat) (start : LlmModel) :
    Program.Triple (fun llm => llm = start) (LlmModel.memoryRemoveFrom seqId first)
      fun _ after => after.sharedSys = start.sharedSys ∧ after.seqStates = start.seqStates := by
  apply Program.Triple.ask_then
  intro answer
  apply Program.Triple.ite
  · intro accepted
    apply Program.Triple.inspect_then
    apply Program.Triple.change_then
    apply Program.Triple.pure
    intro llm same
    rw [same]
    exact ⟨rfl, rfl⟩
  · intro refused
    apply Program.Triple.pure
    intro llm same
    rw [same]
    exact ⟨rfl, rfl⟩

/-- A turn that is undone leaves what was there before it. -/
theorem rollBack_spoken (original : LlmModel.SeqState) :
    Triple (Spoken config vocabulary seqId state tokens) (rollBack seqId original)
      fun _ => Spoken config vocabulary seqId
        (if original.inUse then { currentPos := original.currentPos, inUse := true } else {})
        tokens := by
  have removing : Triple (Spoken config vocabulary seqId state tokens)
      (onLlm (LlmModel.memoryRemoveFrom seqId original.currentPos))
      fun _ => Spoken config vocabulary seqId state tokens := by
    apply onLlm_spec
    intro model spoken
    apply (memoryRemoveFrom_only _ _ model.llm).weaken
    rintro _ llm ⟨slots, states⟩
    exact spoken.llm (SameSlots.of_eq slots) ((congrFun states seqId).trans spoken.state)
  apply removing.bind
  intro rolledBack
  apply Triple.require_then
  intro accepted
  rw [accepted]
  cases original.inUse with
  | true => exact setSeqState_spoken _
  | false =>
      apply (memoryClear_spoken seqId).bind
      intro cleared
      exact setSeqState_spoken {}

theorem startTurn_first (request : LlmRequest)
    (sameSeq : request.seqId = seqId) (first : request.isFirstTurn = true) :
    Triple (PrefixesHeld config vocabulary) (onLlm (LlmModel.startTurn request))
      fun original model => original = {} ∧ Spoken config vocabulary seqId {} [] model := by
  apply onLlm_spec
  intro model prefixes
  unfold LlmModel.startTurn
  rw [if_pos first, sameSeq]
  apply Program.Triple.change_then
  apply Program.Triple.change_then
  apply Program.Triple.pure
  intro llm same
  rw [same]
  refine ⟨rfl, ?_, LlmModel.seqStates_storeSeqState .., Holds.nothing _ _⟩
  exact prefixes.congr (SameSlots.of_eq rfl) fun _ => rfl

theorem startTurn_later (request : LlmRequest) (sameSeq : request.seqId = seqId)
    (later : request.isFirstTurn = false) :
    Triple (Spoken config vocabulary seqId state tokens) (onLlm (LlmModel.startTurn request))
      fun original model => original = state ∧
        Spoken config vocabulary seqId state tokens model := by
  apply onLlm_spec
  intro model spoken
  unfold LlmModel.startTurn
  rw [later, sameSeq]
  apply Program.Triple.inspect
  intro llm same
  rw [same]
  exact ⟨spoken.state, spoken⟩

/-- What the system prompt of a first turn puts at the start of a sequence. -/
def systemTokens (vocabulary : Vocabulary) (systemPrompt : CString) : List Token :=
  if systemPrompt = .empty then [] else vocabulary.tokenize systemPrompt.bytes true

/-- What a first turn decodes before its answer. -/
def firstTokens (vocabulary : Vocabulary) (request : LlmRequest) (prompt : CString) :
    List Token :=
  systemTokens vocabulary (request.systemPrompt.getD .empty) ++
    vocabulary.tokenize prompt.bytes (decide (request.systemPrompt.getD .empty = .empty))

theorem turn_first (found : IsPrivate config seqId) (request : LlmRequest)
    (sameSeq : request.seqId = seqId) (first : request.isFirstTurn = true) (prompt : CString)
    (maxTokens : Nat) (response : LlmResponse) :
    Triple (Spoken config vocabulary seqId {} [])
      (turn config vocabulary request prompt maxTokens response)
      (Ended config vocabulary seqId request.closeTurn []
        (firstTokens vocabulary request prompt)) := by
  have failed : (-1 : Int) ≠ 0 := by decide
  unfold turn firstTokens systemTokens
  by_cases unprompted : request.systemPrompt.getD .empty = .empty
  · rw [if_neg fun both => both.2 unprompted, if_pos unprompted, decide_eq_true unprompted]
    exact promptPhase_ended found request sameSeq prompt maxTokens response rfl
  · rw [if_pos ⟨first, unprompted⟩, if_neg unprompted, decide_eq_false unprompted]
    apply (prefixPhase_prefixed found request sameSeq _ response).bind
    intro goesOn
    apply Triple.ite
    · intro success
      have prompting := @promptPhase_ended config vocabulary seqId
        (counting (vocabulary.tokenize (request.systemPrompt.getD .empty).bytes true))
        (vocabulary.tokenize (request.systemPrompt.getD .empty).bytes true) found request sameSeq
        prompt maxTokens goesOn.2 rfl
      apply (prompting.strengthen fun _ prefixed => prefixed.begun success).weaken
      intro outcome model ended
      exact ⟨ended.prefixes, Holds.nothing _ _, ended.answered⟩
    · intro failure
      apply Triple.pure
      intro model prefixed
      exact ⟨prefixed.prefixes, Holds.nothing _ _, fun success => absurd success failed⟩

theorem turn_later (found : IsPrivate config seqId) (request : LlmRequest)
    (sameSeq : request.seqId = seqId) (later : request.isFirstTurn = false) (prompt : CString)
    (maxTokens : Nat) (response : LlmResponse) :
    Triple (Spoken config vocabulary seqId (counting tokens) tokens)
      (turn config vocabulary request prompt maxTokens response)
      (Ended config vocabulary seqId request.closeTurn tokens
        (tokens ++ vocabulary.tokenize prompt.bytes false)) := by
  have notFirst : ¬request.isFirstTurn = true := by
    rw [later]
    exact Bool.false_ne_true
  unfold turn
  rw [if_neg fun both => notFirst both.1]
  exact promptPhase_ended found request sameSeq prompt maxTokens response rfl

private theorem isPrivate_of_inside {request : LlmRequest}
    (inside : ¬(request.seqId ≤ 0 ∨ LlmModel.privateSeqLimit config ≤ request.seqId)) :
    IsPrivate config request.seqId := by
  unfold IsPrivate
  omega

/-- A first turn, from whatever the sequence holds. -/
theorem llmInference_first (request : LlmRequest) (first : request.isFirstTurn = true)
    (prompt : CString) :
    Triple (PrefixesHeld config vocabulary) (llmInference config vocabulary request prompt)
      fun outcome model => PrefixesHeld config vocabulary model ∧
        (outcome.1.1 = 0 → Answered config vocabulary request.seqId request.closeTurn
          (firstTokens vocabulary request prompt) outcome.2 model) := by
  have refused : (-1 : Int) ≠ 0 := by decide
  have aborted : (-2 : Int) ≠ 0 := by decide
  apply Triple.ite
  · intro outside
    exact Triple.pure _ fun _ prefixes => ⟨prefixes, fun success => absurd success refused⟩
  · intro inside
    have found := isPrivate_of_inside inside
    apply (requestCancelled_keeps _ _).bind
    intro cancelled
    apply Triple.ite
    · intro now
      exact Triple.pure _ fun _ prefixes => ⟨prefixes, fun success => absurd success aborted⟩
    · intro goesOn
      apply (startTurn_first request rfl first).bind
      intro original
      apply ((turn_first found request rfl first prompt _ _).strengthen
        fun _ start => start.2).bind
      intro outcome
      apply Triple.ite
      · intro failure
        apply Triple.from_state
        intro middle ended
        have undoing := @rollBack_spoken config vocabulary request.seqId
          (middle.llm.seqStates request.seqId) [] original
        have here : Spoken config vocabulary request.seqId
            (middle.llm.seqStates request.seqId) [] middle := ⟨ended.prefixes, rfl, ended.held⟩
        apply (undoing.at_state here).bind
        intro undone
        exact Triple.pure _ fun _ spoken =>
          ⟨spoken.prefixes, fun success => absurd success failure⟩
      · intro success
        exact Triple.pure _ fun _ ended => ⟨ended.prefixes, ended.answered⟩

/-- A later turn goes on behind what the sequence holds; one that fails leaves it. -/
theorem llmInference_later (request : LlmRequest) (later : request.isFirstTurn = false)
    (prompt : CString) :
    Triple (Spoken config vocabulary request.seqId (counting tokens) tokens)
      (llmInference config vocabulary request prompt)
      fun outcome model => PrefixesHeld config vocabulary model ∧
        (outcome.1.1 = 0 → Answered config vocabulary request.seqId request.closeTurn
          (tokens ++ vocabulary.tokenize prompt.bytes false) outcome.2 model) ∧
        (outcome.1.1 ≠ 0 →
          Spoken config vocabulary request.seqId (counting tokens) tokens model) := by
  have refused : (-1 : Int) ≠ 0 := by decide
  have aborted : (-2 : Int) ≠ 0 := by decide
  apply Triple.ite
  · intro outside
    exact Triple.pure _ fun _ spoken =>
      ⟨spoken.prefixes, fun success => absurd success refused, fun _ => spoken⟩
  · intro inside
    have found := isPrivate_of_inside inside
    apply (requestCancelled_keeps _ _).bind
    intro cancelled
    apply Triple.ite
    · intro now
      exact Triple.pure _ fun _ spoken =>
        ⟨spoken.prefixes, fun success => absurd success aborted, fun _ => spoken⟩
    · intro goesOn
      apply (startTurn_later request rfl later).bind
      intro original
      apply Triple.from_state
      intro begun start
      obtain ⟨rfl, spoken⟩ := start
      apply ((turn_later found request rfl later prompt _ _).at_state spoken).bind
      intro outcome
      apply Triple.ite
      · intro failure
        apply Triple.from_state
        intro middle ended
        have undoing := @rollBack_spoken config vocabulary request.seqId
          (middle.llm.seqStates request.seqId) tokens (counting tokens)
        have here : Spoken config vocabulary request.seqId
            (middle.llm.seqStates request.seqId) tokens middle :=
          ⟨ended.prefixes, rfl, ended.held⟩
        apply (undoing.at_state here).bind
        intro undone
        exact Triple.pure _ fun _ spoken =>
          ⟨spoken.prefixes, fun success => absurd success failure, fun _ => spoken⟩
      · intro success
        exact Triple.pure _ fun _ ended =>
          ⟨ended.prefixes, ended.answered, fun failure => absurd failure success⟩

end AgentNucleus.Top.TokenModel
