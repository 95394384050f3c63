/-
The layout of the sequences: contexts have those up to `max_contexts`, shared
prefixes the eight above.  `TopRuntime`, `ContextManager` and the adapter of
llama.cpp compute it separately and agree, so that a call on one private sequence
touches no other sequence but the slot that its own prefix takes.
-/

import AgentNucleus.Top.RuntimeStores
import AgentNucleus.Top.SequenceFrames
import AgentNucleus.Top.SequenceOwnership

set_option autoImplicit false

namespace AgentNucleus.Top

open AgentNucleus.Library
open AgentNucleus.Runtime (AgentId ContextId CString TimePoint cStr text)
open AgentNucleus.Library.Program (Triple)

namespace LlmModel

/-! ### The slots -/

/-- Every slot with a prompt names the sequence that belongs to it, and nothing is
stored for one without. -/
structure Placed (config : LoadedConfig) (model : LlmModel) : Prop where
  named : ∀ index prompt, (model.sharedSys index).promptText = some prompt →
    (model.sharedSys index).seqId = sharedSeqId config index
  vacant : ∀ index, (model.sharedSys index).promptText = none →
    model.memory (sharedSeqId config index) = ∅

/-- Position, use and contents of a sequence are the same. -/
def Untouched (before after : LlmModel) (seqId : Int) : Prop :=
  after.memory seqId = before.memory seqId ∧ after.seqStates seqId = before.seqStates seqId

/-- Only the given sequences have been written, and that of a prefix only if its
slot has another prompt now. -/
structure Framed (config : LoadedConfig) (written : Int → Prop) (before after : LlmModel) :
    Prop where
  others : ∀ other, ¬written other → Untouched before after other
  placed : Placed config after
  states : ∀ index, after.seqStates (sharedSeqId config index) =
    before.seqStates (sharedSeqId config index)
  kept : ∀ index, (after.sharedSys index).promptText = (before.sharedSys index).promptText →
    after.memory (sharedSeqId config index) = before.memory (sharedSeqId config index)

/-- The same while a slot is worked on: it has no prompt yet. -/
structure Opened (config : LoadedConfig) (written : Int → Prop) (index : Fin kMaxSharedSys)
    (before after : LlmModel) : Prop where
  others : ∀ other, ¬written other → Untouched before after other
  empty : (after.sharedSys index).promptText = none
  named : ∀ other prompt, (after.sharedSys other).promptText = some prompt →
    (after.sharedSys other).seqId = sharedSeqId config other
  vacant : ∀ other, other ≠ index → (after.sharedSys other).promptText = none →
    after.memory (sharedSeqId config other) = ∅
  states : ∀ other, after.seqStates (sharedSeqId config other) =
    before.seqStates (sharedSeqId config other)
  kept : ∀ other, other ≠ index →
    (after.sharedSys other).promptText = (before.sharedSys other).promptText →
    after.memory (sharedSeqId config other) = before.memory (sharedSeqId config other)

theorem selectSharedSysSlot_congr {left right : LlmModel}
    (same : left.sharedSys = right.sharedSys) :
    selectSharedSysSlot left = selectSharedSysSlot right := by
  have among : ∀ indices lruIndex,
      selectAmong left indices lruIndex = selectAmong right indices lruIndex := by
    intro indices
    induction indices with
    | nil =>
        intro lruIndex
        rfl
    | cons index rest ih =>
        intro lruIndex
        unfold selectAmong
        rw [same, ih, ih]
  exact among _ _

section Frames

variable {config : LoadedConfig} {written : Int → Prop} {before after : LlmModel}

theorem Framed.start (written : Int → Prop) (placed : Placed config before) :
    Framed config written before before :=
  ⟨fun _ _ => ⟨rfl, rfl⟩, placed, fun _ => rfl, fun _ _ => rfl⟩

theorem Framed.unchanged (written : Int → Prop) (placed : Placed config before)
    (model : LlmModel) (same : model = before) : Framed config written before model := by
  rw [same]
  exact Framed.start written placed

/-- Writes to a private sequence that may be written. -/
theorem Framed.stable {seqId : Int} (allowed : written seqId) (found : IsPrivate config seqId) :
    Stable seqId (Framed config written before) where
  memory := by
    intro model positions framed
    have shared (index : Fin kMaxSharedSys) :
        (storeMemory seqId positions model).memory (sharedSeqId config index) =
          model.memory (sharedSeqId config index) :=
      memory_storeMemory_other model positions (found.ne_shared index)
    constructor
    · intro other free
      have different : other ≠ seqId := fun same => free (same ▸ allowed)
      obtain ⟨memory, state⟩ := framed.others other free
      exact ⟨(memory_storeMemory_other model positions different).trans memory, state⟩
    · constructor
      · exact framed.placed.named
      · intro index empty
        rw [shared]
        exact framed.placed.vacant index empty
    · exact framed.states
    · intro index same
      rw [shared]
      exact framed.kept index same
  state := by
    intro model state framed
    constructor
    · intro other free
      have different : other ≠ seqId := fun same => free (same ▸ allowed)
      obtain ⟨memory, state'⟩ := framed.others other free
      exact ⟨memory, (seqStates_storeSeqState_other model state different).trans state'⟩
    · exact ⟨framed.placed.named, framed.placed.vacant⟩
    · intro index
      rw [seqStates_storeSeqState_other model state (found.ne_shared index)]
      exact framed.states index
    · exact framed.kept

theorem Framed.entry (framed : Framed config written before after)
    (index : Fin kMaxSharedSys) (prompted : (after.sharedSys index).promptText ≠ none) :
    (after.sharedSys index).seqId = sharedSeqId config index := by
  obtain ⟨prompt, present⟩ := Option.ne_none_iff_exists'.mp prompted
  exact framed.placed.named index prompt present

/-- A slot is written that keeps its prompt and its sequence. -/
theorem Framed.slot (framed : Framed config written before after) (index : Fin kMaxSharedSys)
    (entry : SharedSysEntry) (text : entry.promptText = (after.sharedSys index).promptText)
    (place : entry.seqId = (after.sharedSys index).seqId) :
    Framed config written before (storeSharedSys index entry after) := by
  have texts (other : Fin kMaxSharedSys) :
      ((storeSharedSys index entry after).sharedSys other).promptText =
        (after.sharedSys other).promptText := by
    by_cases same : other = index
    · rw [same, sharedSys_storeSharedSys]
      exact text
    · rw [sharedSys_storeSharedSys_other after entry same]
  have places (other : Fin kMaxSharedSys) :
      ((storeSharedSys index entry after).sharedSys other).seqId =
        (after.sharedSys other).seqId := by
    by_cases same : other = index
    · rw [same, sharedSys_storeSharedSys]
      exact place
    · rw [sharedSys_storeSharedSys_other after entry same]
  constructor
  · exact framed.others
  · constructor
    · intro other prompt present
      rw [texts] at present
      rw [places]
      exact framed.placed.named other prompt present
    · intro other empty
      rw [texts] at empty
      exact framed.placed.vacant other empty
  · exact framed.states
  · intro other same
    rw [texts] at same
    exact framed.kept other same

theorem Framed.touched (framed : Framed config written before after)
    (index : Fin kMaxSharedSys) : Framed config written before (touched index after) := by
  have clocked : Framed config written before
      { after with prefixClock := after.prefixClock + 1 } :=
    ⟨framed.others, ⟨framed.placed.named, framed.placed.vacant⟩, framed.states, framed.kept⟩
  exact clocked.slot index _ rfl rfl

theorem touchSharedSys_framed (index : Fin kMaxSharedSys) :
    Triple (Framed config written before) (touchSharedSys index)
      fun _ => Framed config written before :=
  Triple.change fun _ framed => framed.touched index

/-! ### A miss -/

section Miss

variable {index : Fin kMaxSharedSys}

/-- An empty slot is opened as it is. -/
theorem Framed.opened (framed : Framed config written before after)
    (empty : (after.sharedSys index).promptText = none) :
    Opened config written index before after :=
  ⟨framed.others, empty, framed.placed.named, fun other _ => framed.placed.vacant other,
    framed.states, fun other _ => framed.kept other⟩

theorem Opened.onlyMemory {model : LlmModel} (opened : Opened config written index before after)
    (allowed : written (sharedSeqId config index))
    (only : OnlyMemory (sharedSeqId config index) after model) :
    Opened config written index before model := by
  have elsewhere (other : Fin kMaxSharedSys) (different : other ≠ index) :
      model.memory (sharedSeqId config other) = after.memory (sharedSeqId config other) :=
    only.memory _ (sharedSeqId_ne different)
  constructor
  · intro other free
    have different : other ≠ sharedSeqId config index := fun same => free (same ▸ allowed)
    obtain ⟨memory, state⟩ := opened.others other free
    exact ⟨(only.memory other different).trans memory,
      (congrFun only.seqStates other).trans state⟩
  · rw [only.sharedSys]
    exact opened.empty
  · rw [only.sharedSys]
    exact opened.named
  · intro other different empty
    rw [only.sharedSys] at empty
    rw [elsewhere other different]
    exact opened.vacant other different empty
  · rw [only.seqStates]
    exact opened.states
  · intro other different same
    rw [only.sharedSys] at same
    rw [elsewhere other different]
    exact opened.kept other different same

/-- Nothing has come of it: the sequence is cleared. -/
theorem Opened.closed (opened : Opened config written index before after)
    (allowed : written (sharedSeqId config index)) (placed : Placed config before) :
    Framed config written before (storeMemory (sharedSeqId config index) ∅ after) := by
  have cleared := opened.onlyMemory allowed (onlyMemory_store after _ ∅)
  constructor
  · exact cleared.others
  · constructor
    · exact cleared.named
    · intro other empty
      by_cases same : other = index
      · rw [same]
        exact memory_storeMemory ..
      · exact cleared.vacant other same empty
  · exact cleared.states
  · intro other unchanged
    by_cases same : other = index
    · subst same
      rw [memory_storeMemory]
      exact (placed.vacant other (unchanged.symm.trans cleared.empty)).symm
    · exact cleared.kept other same unchanged

/-- The slot has received a prompt that it did not have before. -/
theorem Opened.filled (opened : Opened config written index before after)
    (entry : SharedSysEntry) {prompt : CString} (text : entry.promptText = some prompt)
    (place : entry.seqId = sharedSeqId config index)
    (missing : (before.sharedSys index).promptText ≠ some prompt) :
    Framed config written before (storeSharedSys index entry after) := by
  have here := sharedSys_storeSharedSys after index entry
  constructor
  · exact opened.others
  · constructor
    · intro other present stored
      by_cases same : other = index
      · rw [same, here]
        exact place
      · rw [sharedSys_storeSharedSys_other after entry same] at stored ⊢
        exact opened.named other present stored
    · intro other empty
      by_cases same : other = index
      · rw [same, here, text] at empty
        cases empty
      · rw [sharedSys_storeSharedSys_other after entry same] at empty
        exact opened.vacant other same empty
  · exact opened.states
  · intro other unchanged
    by_cases same : other = index
    · rw [same, here, text] at unchanged
      exact absurd unchanged.symm missing
    · rw [sharedSys_storeSharedSys_other after entry same] at unchanged
      exact opened.kept other same unchanged

/-- The slot gives its prompt up, with what was stored for it. -/
theorem Framed.evicted (framed : Framed config written before after)
    (allowed : written (sharedSeqId config index)) :
    Opened config written index before
      (storeSharedSys index {} (storeMemory (sharedSeqId config index) ∅ after)) := by
  have slot (other : Fin kMaxSharedSys) (different : other ≠ index) :
      (storeSharedSys index {} (storeMemory (sharedSeqId config index) ∅ after)).sharedSys other =
        after.sharedSys other :=
    sharedSys_storeSharedSys_other _ _ different
  have elsewhere (other : Fin kMaxSharedSys) (different : other ≠ index) :
      (storeMemory (sharedSeqId config index) ∅ after).memory (sharedSeqId config other) =
        after.memory (sharedSeqId config other) :=
    memory_storeMemory_other after ∅ (sharedSeqId_ne different)
  have empty : ((storeSharedSys index {} (storeMemory (sharedSeqId config index) ∅
      after)).sharedSys index).promptText = none := by
    rw [sharedSys_storeSharedSys]
  constructor
  · intro other free
    have different : other ≠ sharedSeqId config index := fun same => free (same ▸ allowed)
    obtain ⟨memory, state⟩ := framed.others other free
    exact ⟨(memory_storeMemory_other after ∅ different).trans memory, state⟩
  · exact empty
  · intro other prompt present
    by_cases same : other = index
    · rw [same, empty] at present
      cases present
    · rw [slot other same] at present ⊢
      exact framed.placed.named other prompt present
  · intro other different nothing
    rw [slot other different] at nothing
    exact (elsewhere other different).trans (framed.placed.vacant other nothing)
  · exact framed.states
  · intro other different same
    rw [slot other different] at same
    exact (elsewhere other different).trans (framed.kept other same)

/-- An eviction clears the sequence of its slot. -/
theorem evictSharedSys_framed (index : Fin kMaxSharedSys)
    (allowed : written (sharedSeqId config index)) (start : LlmModel)
    (framed : Framed config written before start) :
    Triple (fun model => model = start) (evictSharedSys index)
      fun _ => Opened config written index before := by
  apply Triple.inspect_then
  apply Triple.ite
  · intro empty
    apply Triple.pure
    intro model same
    rw [same]
    exact framed.opened empty
  · intro filled
    rw [framed.entry index filled]
    apply Triple.change_then
    apply Triple.change_then
    apply Triple.change
    intro model same
    have emptied : Opened config written index before
        (storeSharedSys index {} (storeMemory (sharedSeqId config index) ∅ start)) :=
      framed.evicted allowed
    rw [same]
    exact ⟨emptied.others, emptied.empty, emptied.named, emptied.vacant, emptied.states,
      emptied.kept⟩

/-- A miss works on the sequence of the slot that it selects. -/
theorem cacheSystemPrefix_framed (systemPrompt : CString) (start : LlmModel)
    (framed : Framed config written before start)
    (allowed : written (sharedSeqId config (selectSharedSysSlot start)))
    (placed : Placed config before)
    (missing : ∀ index, (before.sharedSys index).promptText ≠ some systemPrompt) :
    Triple (fun model => model = start) (cacheSystemPrefix config systemPrompt)
      fun _ => Framed config written before := by
  apply Triple.bind (tokenizeAlloc_keeps _)
  intro count
  apply Triple.ite
  · intro refused
    apply Triple.pure
    intro model same
    rw [same]
    exact framed
  · intro accepted
    apply Triple.inspect_then
    apply Triple.bind (evictSharedSys_framed _ allowed start framed)
    intro evicted
    apply Triple.from_state
    intro emptied opened
    apply Triple.change_then
    have cleared := opened.onlyMemory allowed (onlyMemory_store emptied _ ∅)
    apply Triple.bind (decodeTokens_spec false count.toNat _ 0 _)
    intro decoded
    apply Triple.from_state
    intro stored decoding
    have filling := cleared.onlyMemory allowed decoding.only
    apply Triple.ite
    · intro failure
      apply Triple.change_then
      apply Triple.pure
      intro model same
      rw [same]
      exact filling.closed allowed placed
    · intro success
      apply Triple.bind (available_keeps _)
      intro copied
      apply Triple.ite
      · intro failure
        apply Triple.change_then
        apply Triple.pure
        intro model same
        rw [same]
        exact filling.closed allowed placed
      · intro done
        apply Triple.change_then
        apply Triple.change_then
        apply Triple.change_then
        apply Triple.pure
        intro model same
        rw [same]
        have filled := (filling.filled
          { seqId := sharedSeqId config (selectSharedSysSlot start)
            tokenCount := count.toNat
            promptText := some systemPrompt } rfl rfl (missing _)).touched
            (selectSharedSysSlot start)
        exact ⟨filled.others, ⟨filled.placed.named, filled.placed.vacant⟩, filled.states,
          filled.kept⟩

theorem findOrCache_framed (systemPrompt : CString) (start : LlmModel)
    (framed : Framed config written before start) (same : start.sharedSys = before.sharedSys)
    (placed : Placed config before)
    (allowed : findSharedSys start systemPrompt = none →
      written (sharedSeqId config (selectSharedSysSlot start))) :
    Triple (fun model => model = start) (findOrCache config systemPrompt)
      fun _ => Framed config written before := by
  unfold findOrCache
  apply Triple.inspect_then
  cases search : findSharedSys start systemPrompt with
  | none =>
      have missing (index : Fin kMaxSharedSys) :
          (before.sharedSys index).promptText ≠ some systemPrompt := by
        rw [← same]
        exact findSharedSys_eq_none.mp search index
      apply Triple.bind (cacheSystemPrefix_framed systemPrompt start framed (allowed search)
        placed missing)
      intro cached
      exact Triple.pure _ fun _ holds => holds
  | some index =>
      apply Triple.pure
      intro model here
      rw [here]
      exact framed

end Miss

/-- The copy of a prefix reads its sequence and writes that of the request. -/
theorem useSharedPrefix_framed (request : LlmRequest) (allowed : written request.seqId)
    (found : IsPrivate config request.seqId) (index : Fin kMaxSharedSys) (reused : Bool)
    (response : LlmResponse) :
    Triple (Framed config written before) (useSharedPrefix request index reused response)
      fun _ => Framed config written before := by
  have stable : Stable request.seqId (Framed config written before) :=
    Framed.stable allowed found
  apply Triple.bind (touchSharedSys_framed index)
  intro touched
  apply Triple.from_state
  intro start framed
  apply Triple.inspect_then
  have kept (model : LlmModel) (same : model = start) : Framed config written before model := by
    rw [same]
    exact framed
  have noted := stable.keepsSlots start.sharedSys
  apply Triple.bind ((noted.memoryCopy _ _ _).strengthen fun model same =>
    ⟨kept model same, by rw [same]⟩)
  intro copied
  apply Triple.bind (noted.setSeqState _)
  intro recorded
  apply Triple.ite
  · intro hit
    apply Triple.from_state
    intro middle both
    apply Triple.change_then
    apply Triple.pure
    intro model same
    rw [same]
    refine both.1.slot index _ ?_ ?_
    · rw [both.2]
    · rw [both.2]
  · intro fresh
    exact Triple.pure _ fun _ both => both.1

end Frames

/-! ### The operations -/

/-- The slot that a prefix miss of the request fills, if it gets so far. -/
def missedSlot (model : LlmModel) (request : LlmRequest) : Option (Fin kMaxSharedSys) :=
  if request.isFirstTurn = true ∧ request.systemPrompt.getD .empty ≠ .empty ∧
      findSharedSys model (request.systemPrompt.getD .empty) = none then
    some (selectSharedSysSlot model)
  else none

/-- The sequences that a request may write. -/
def writtenBy (config : LoadedConfig) (model : LlmModel) (request : LlmRequest)
    (seqId : Int) : Prop :=
  seqId = request.seqId ∨
    ∃ index, missedSlot model request = some index ∧ seqId = sharedSeqId config index

section Operations

variable {config : LoadedConfig} {base : LlmModel}

private theorem prefixPhase_framed (request : LlmRequest) (start : LlmModel)
    (framed : Framed config (writtenBy config base request) base start)
    (same : start.sharedSys = base.sharedSys) (placed : Placed config base)
    (found : IsPrivate config request.seqId) (first : request.isFirstTurn = true)
    (prompted : request.systemPrompt.getD .empty ≠ .empty) (response : LlmResponse) :
    Triple (fun model => model = start)
      (prefixPhase config request (request.systemPrompt.getD .empty) response)
      fun _ => Framed config (writtenBy config base request) base := by
  have allowed : findSharedSys start (request.systemPrompt.getD .empty) = none →
      writtenBy config base request (sharedSeqId config (selectSharedSysSlot start)) := by
    intro missing
    have texts (index : Fin kMaxSharedSys) :
        (start.sharedSys index).promptText = (base.sharedSys index).promptText := by
      rw [same]
    rw [findSharedSys_congr texts] at missing
    rw [selectSharedSysSlot_congr same]
    apply Or.inr
    refine ⟨selectSharedSysSlot base, ?_, rfl⟩
    unfold missedSlot
    rw [if_pos ⟨first, prompted, missing⟩]
  have own : writtenBy config base request request.seqId := Or.inl rfl
  have stable : Stable request.seqId (Framed config (writtenBy config base request) base) :=
    Framed.stable own found
  apply Triple.bind (findOrCache_framed _ start framed same placed allowed)
  intro shared
  obtain ⟨_ | index, reused⟩ := shared
  · exact stable.decodeSystemPrompt response
  · apply Triple.bind (useSharedPrefix_framed request own found index reused response)
    intro used
    exact Triple.pure _ fun _ holds => holds

theorem llmInference_framed (request : LlmRequest) (placed : Placed config base) :
    Triple (fun model => model = base) (llmInference config request)
      fun _ => Framed config (writtenBy config base request) base := by
  have unchanged := Framed.unchanged (writtenBy config base request) placed
  apply Triple.ite
  · intro refused
    exact Triple.pure _ unchanged
  · intro accepted
    have found : IsPrivate config request.seqId := by
      unfold IsPrivate
      omega
    have stable : Stable request.seqId (Framed config (writtenBy config base request) base) :=
      Framed.stable (Or.inl rfl) found
    have slots := stable.keepsSlots base.sharedSys
    apply Triple.bind (requestCancelled_keeps _ _)
    intro cancelled
    apply Triple.ite
    · intro now
      exact Triple.pure _ unchanged
    · intro goesOn
      apply Triple.bind (slots.startTurn.strengthen fun model same =>
        ⟨unchanged model same, by rw [same]⟩)
      intro original
      apply Triple.from_state
      intro start both
      have here (model : LlmModel) (same : model = start) :
          Framed config (writtenBy config base request) base model := by
        rw [same]
        exact both.1
      apply Triple.bind (stable.turn (fun _ => here) (fun first prompted =>
        prefixPhase_framed request start both.1 both.2 placed found first prompted) _ _)
      intro outcome
      apply Triple.ite
      · intro failure
        apply Triple.bind (stable.rollBack original)
        intro rolledBack
        exact Triple.pure _ fun _ holds => holds
      · intro success
        exact Triple.pure _ fun _ holds => holds

theorem llmClearSeq_framed (seqId : Int) (placed : Placed config base) :
    Triple (fun model => model = base) (llmClearSeq config seqId)
      fun _ => Framed config (fun other => other = seqId) base := by
  have unchanged := Framed.unchanged (fun other => other = seqId) placed
  apply Triple.ite
  · intro refused
    exact Triple.pure _ unchanged
  · intro accepted
    have found : IsPrivate config seqId := by
      unfold IsPrivate
      omega
    have stable : Stable seqId (Framed config (fun other => other = seqId) base) :=
      Framed.stable rfl found
    apply Triple.bind ((stable.setMemory ∅).strengthen unchanged)
    intro cleared
    exact stable.setSeqState {}

theorem llmCheckpointSeq_framed (seqId : Int) (placed : Placed config base) :
    Triple (fun model => model = base) (llmCheckpointSeq config seqId)
      fun _ => Framed config (fun other => other = seqId) base := by
  have unchanged := Framed.unchanged (fun other => other = seqId) placed
  apply Triple.ite
  · intro refused
    exact Triple.pure _ unchanged
  · intro accepted
    apply Triple.inspect_then
    apply Triple.ite
    · intro unused
      exact Triple.pure _ unchanged
    · intro used
      apply Triple.ask_then
      intro answer
      apply Triple.ite
      · intro failed
        exact Triple.pure _ unchanged
      · intro written
        apply Triple.inspect_then
        exact Triple.pure _ unchanged

theorem llmRestoreSeq_framed (seqId : Int) (file : Option (Finset Nat)) (position : Nat)
    (placed : Placed config base) :
    Triple (fun model => model = base) (llmRestoreSeq config seqId file position)
      fun _ => Framed config (fun other => other = seqId) base := by
  have unchanged := Framed.unchanged (fun other => other = seqId) placed
  apply Triple.ite
  · intro refused
    exact Triple.pure _ unchanged
  · intro accepted
    have found : IsPrivate config seqId := by
      unfold IsPrivate
      omega
    have stable : Stable seqId (Framed config (fun other => other = seqId) base) :=
      Framed.stable rfl found
    apply Triple.bind ((stable.setMemory ∅).strengthen unchanged)
    intro cleared
    apply Triple.ask_then
    intro answer
    cases file with
    | none =>
        apply Triple.bind (stable.setMemory ∅)
        intro again
        exact Triple.pure _ fun _ holds => holds
    | some positions =>
        apply Triple.ite
        · intro loaded
          apply Triple.bind (stable.setMemory positions)
          intro stored
          apply Triple.bind (stable.setSeqState _)
          intro recorded
          exact Triple.pure _ fun _ holds => holds
        · intro failed
          apply Triple.bind (stable.setMemory _)
          intro partly
          apply Triple.bind (stable.setMemory ∅)
          intro again
          exact Triple.pure _ fun _ holds => holds

/-- A warm-up may write any sequence of a prefix. -/
theorem llmWarmupSharedKv_framed (systemPrompt : Option CString) (cancellable : Bool)
    (placed : Placed config base) :
    Triple (fun model => model = base) (llmWarmupSharedKv config systemPrompt cancellable)
      fun _ => Framed config (fun other => ∃ index, other = sharedSeqId config index) base := by
  have started := Framed.start (fun other => ∃ index, other = sharedSeqId config index) placed
  have unchanged :=
    Framed.unchanged (fun other => ∃ index, other = sharedSeqId config index) placed
  apply Triple.ite
  · intro missing
    exact Triple.pure _ unchanged
  · intro present
    apply Triple.bind (requestCancelled_keeps _ _)
    intro cancelled
    apply Triple.ite
    · intro now
      exact Triple.pure _ unchanged
    · intro goesOn
      apply Triple.bind (findOrCache_framed _ base started rfl placed fun _ => ⟨_, rfl⟩)
      intro shared
      obtain ⟨_ | index, reused⟩ := shared
      · apply Triple.bind (requestCancelled_keeps _ _)
        intro cancelledNow
        exact Triple.pure _ fun _ holds => holds
      · apply Triple.bind (requestCancelled_keeps _ _)
        intro cancelledNow
        apply Triple.ite
        · intro late
          exact Triple.pure _ fun _ holds => holds
        · intro inTime
          apply Triple.bind (touchSharedSys_framed index)
          intro touched
          exact Triple.inspect fun _ holds => holds

end Operations

/-! ### Calls -/

/-- The private sequence on which a call works. -/
def KvCall.sequence : KvCall → Option Int
  | .inference request => some request.seqId
  | .warmup _ _ => none
  | .clear seqId => some seqId
  | .checkpoint seqId => some seqId
  | .restore seqId _ _ => some seqId

/-- The slot that a call fills or evicts, if it gets so far. -/
def KvCall.missedSlot (model : LlmModel) : KvCall → Option (Fin kMaxSharedSys)
  | .inference request => LlmModel.missedSlot model request
  | _ => none

/-- The sequences that a call may write. -/
def KvCall.written (config : LoadedConfig) (model : LlmModel) (call : KvCall)
    (other : Int) : Prop :=
  match call with
  | .inference request => writtenBy config model request other
  | .warmup _ _ => ∃ index, other = sharedSeqId config index
  | .clear seqId => other = seqId
  | .checkpoint seqId => other = seqId
  | .restore seqId _ _ => other = seqId

section Calls

variable {config : LoadedConfig}

theorem step_framed (state : KvState) (call : KvCall) (answers : Answers Answer)
    (placed : Placed config state.model) :
    Framed config (call.written config state.model) state.model
      (state.step config (call, answers)).model := by
  cases call with
  | inference request => exact (llmInference_framed request placed).run _ answers rfl
  | warmup systemPrompt cancellable =>
      exact (llmWarmupSharedKv_framed systemPrompt cancellable placed).run _ answers rfl
  | clear seqId => exact (llmClearSeq_framed seqId placed).run _ answers rfl
  | checkpoint seqId => exact (llmCheckpointSeq_framed seqId placed).run _ answers rfl
  | restore seqId checkpoint readable =>
      exact (llmRestoreSeq_framed seqId _ checkpoint.position placed).run _ answers rfl

theorem placed_run (config : LoadedConfig) (calls : List (KvCall × Answers Answer)) :
    Placed config ((kvMachine config).run calls).model := by
  apply (kvMachine config).runFrom_invariant fun state => Placed config state.model
  · intro state call placed
    exact (step_framed state call.1 call.2 placed).placed
  · constructor
    · intro index prompt present
      cases present
    · intro index empty
      rfl

/-- A slot has been filled or has lost its prompt. -/
def Replaced (before after : LlmModel) (index : Fin kMaxSharedSys) : Prop :=
  (after.sharedSys index).promptText ≠ (before.sharedSys index).promptText

/-- A call on a private sequence leaves every other sequence alone, unless it is
that of the slot in which its own prefix was missed. -/
theorem step_untouched (state : KvState) (call : KvCall) (answers : Answers Answer)
    (placed : Placed config state.model) {seqId : Int} (own : call.sequence = some seqId)
    (found : IsPrivate config seqId) :
    (∀ other, IsPrivate config other → other ≠ seqId →
      Untouched state.model (state.step config (call, answers)).model other) ∧
    ∀ index, ¬(call.missedSlot state.model = some index ∧
        Replaced state.model (state.step config (call, answers)).model index) →
      Untouched state.model (state.step config (call, answers)).model
        (sharedSeqId config index) := by
  have framed := step_framed state call answers placed
  have writes (other : Int) (written : call.written config state.model other) :
      other = seqId ∨ ∃ index, call.missedSlot state.model = some index ∧
        other = sharedSeqId config index := by
    cases call with
    | inference request =>
        cases own
        exact written
    | warmup systemPrompt cancellable => cases own
    | clear key =>
        cases own
        exact Or.inl written
    | checkpoint key =>
        cases own
        exact Or.inl written
    | restore key checkpoint readable =>
        cases own
        exact Or.inl written
  constructor
  · intro other private_ different
    apply framed.others
    intro written
    rcases writes other written with same | ⟨index, _, same⟩
    · exact different same
    · exact private_.ne_shared index same.symm
  · intro index spared
    by_cases replaced : Replaced state.model (state.step config (call, answers)).model index
    · apply framed.others
      intro written
      rcases writes _ written with same | ⟨missed, chosen, same⟩
      · exact found.ne_shared index same
      · have equal : index = missed := by
          by_contra different
          exact sharedSeqId_ne different same
        exact spared ⟨equal ▸ chosen, replaced⟩
    · exact ⟨framed.kept index (not_not.mp replaced), framed.states index⟩

end Calls

end LlmModel

/-! ### The leases -/

namespace ContextManager

variable {manager : ContextManager}

/-- No number beyond the limit occurs. -/
def Within (limit : Nat) (manager : ContextManager) : Prop :=
  ∀ id : Int, ¬(1 ≤ id ∧ id ≤ limit) → manager.occurrences id = 0

theorem Within.step {limit : Nat} (within : Within limit manager) (operation : Operation) :
    Within limit (manager.step operation) := by
  intro id outside
  obtain ⟨lost, balance, _⟩ := step_occurrences manager id operation
  have nothing := within id outside
  omega

theorem Within.occurring {limit : Nat} (within : Within limit manager) {id : Int}
    (occurs : 0 < manager.occurrences id) : 1 ≤ id ∧ id ≤ limit := by
  by_contra outside
  have nothing := within id outside
  omega

theorem Within.taken {limit : Nat} (within : Within limit manager) {excluded : ContextId}
    {obtained : ContextManager} {sequence : Int32}
    (taken : manager.Obtained excluded obtained sequence) :
    1 ≤ sequence.toInt ∧ sequence.toInt ≤ limit := by
  apply within.occurring
  have counted := taken.occurrences sequence.toInt
  have one : tally sequence.toInt sequence = 1 := if_pos rfl
  omega

theorem Within.lease {limit : Nat} (within : Within limit manager) {agentId parentId : AgentId}
    {requestedContext : ContextId} {now : TimePoint} {after : ContextManager}
    {lease : ContextLease}
    (acquired : manager.Acquired agentId parentId requestedContext now after (some lease)) :
    1 ≤ lease.sequenceId.toInt ∧ lease.sequenceId.toInt ≤ limit := by
  cases acquired with
  | created obtained sequence default stranger room taken => exact within.taken taken
  | leased key entry granted home =>
      apply within.occurring
      have held : holds entry.sequenceId.toInt entry ≤
          manager.heldOccurrences entry.sequenceId.toInt :=
        UnorderedMap.weight_le_total (fun _ other => holds entry.sequenceId.toInt other)
          manager.contexts key entry granted.1
      have one : tally entry.sequenceId.toInt entry.sequenceId = 1 := if_pos rfl
      rw [holds_resident _ entry home, one] at held
      change 0 < manager.occurrences entry.sequenceId.toInt
      unfold occurrences
      omega
  | restored key entry obtained sequence granted away taken => exact within.taken taken

theorem within_run (maxResidentContexts maxLogicalContexts : UInt64)
    (operations : List Operation) (fits : maxResidentContexts.toNat < 2 ^ 31) :
    Within (max 1 maxResidentContexts).toNat
      ((machine maxResidentContexts maxLogicalContexts).run operations) := by
  apply (machine maxResidentContexts maxLogicalContexts).runFrom_invariant
  · intro manager operation within
    exact within.step operation
  · exact (create_partitioned maxResidentContexts maxLogicalContexts
      (max_one_fits maxResidentContexts fits)).nothingElse

end ContextManager

/-! ### The agreement -/

theorem AcceptedServing.contexts (config : AcceptedServing) :
    0 < config.val.maxContexts.toNat ∧ config.val.maxContexts.toNat ≤ 55 := by
  have accepted := config.property
  unfold ServingConfig.accepted at accepted
  simp only [Bool.and_eq_true] at accepted
  exact accepted_maxContexts accepted.1.1.1.1.1.1.1

theorem AcceptedServing.nSeqMax (config : AcceptedServing) :
    config.loaded.nSeqMax = config.val.maxContexts.toNat + 9 := by
  obtain ⟨positive, few⟩ := config.contexts
  have slots : kSharedPrefixSlots.toNat = 8 := rfl
  have given : config.val.modelConfig.nSeqMax =
      config.val.maxContexts.toNat + kSharedPrefixSlots.toNat + 1 := rfl
  have sequences : sequencesOr config.val.modelConfig.nSeqMax =
      config.val.maxContexts.toNat + 9 := by
    unfold sequencesOr kMaxSharedSys
    rw [if_neg (by omega)]
    omega
  have loaded : config.val.modelConfig.load = some config.loaded :=
    (Option.some_get config.loads).symm
  unfold LlmModelConfig.load at loaded
  rw [if_neg (by unfold kMaxSeqPerModel; omega)] at loaded
  rw [← Option.some.inj loaded]
  exact sequences

theorem AcceptedServing.privateSeqLimit (config : AcceptedServing) :
    LlmModel.privateSeqLimit config.loaded = config.val.maxContexts.toNat + 1 := by
  have sequences := config.nSeqMax
  unfold LlmModel.privateSeqLimit kMaxSharedSys
  omega

theorem AcceptedServing.sharedSeqId (config : AcceptedServing) (index : Fin kMaxSharedSys) :
    LlmModel.sharedSeqId config.loaded index = config.val.maxContexts.toNat + 8 - index.val := by
  have sequences := config.nSeqMax
  unfold LlmModel.sharedSeqId
  omega

/-- The range check of the adapter admits the sequences of contexts. -/
theorem AcceptedServing.isPrivate (config : AcceptedServing) (seqId : Int) :
    LlmModel.IsPrivate config.loaded seqId ↔ 1 ≤ seqId ∧ seqId ≤ config.val.maxContexts.toNat := by
  have limit := config.privateSeqLimit
  unfold LlmModel.IsPrivate
  omega

/-- A call of `acquire` is answered with the lease. -/
def ContextManager.Issues (manager : ContextManager) (lease : ContextLease) : Prop :=
  ∃ agentId parentId requestedContext swap now order,
    (manager.acquire agentId parentId requestedContext swap now order).2.2 = some lease

/-- What holds of a state of the model, with `max_contexts` from the configuration. -/
structure LlmModel.Separated (config : AcceptedServing) (state : LlmModel.KvState) : Prop where
  slots : ∀ index, (state.model.sharedSys index).promptText ≠ none →
    config.val.maxContexts.toNat + 1 ≤ (state.model.sharedSys index).seqId ∧
      (state.model.sharedSys index).seqId ≤ config.val.maxContexts.toNat + 8
  frames : ∀ (call : LlmModel.KvCall) (answers : Answers Answer) (seqId : Int),
    call.sequence = some seqId → LlmModel.IsPrivate config.loaded seqId →
    (∀ other, LlmModel.IsPrivate config.loaded other → other ≠ seqId →
      LlmModel.Untouched state.model (state.step config.loaded (call, answers)).model other) ∧
    ∀ index, ¬(call.missedSlot state.model = some index ∧
        LlmModel.Replaced state.model (state.step config.loaded (call, answers)).model index) →
      LlmModel.Untouched state.model (state.step config.loaded (call, answers)).model
        (LlmModel.sharedSeqId config.loaded index)

/-- Leases are private sequences, slots have the eight above, and a call on a private
sequence touches no other one but that of the slot it fills or evicts. -/
theorem sequences_never_collide (config : AcceptedServing) :
    (∀ operations lease,
      ((ContextManager.machine config.val.maxContexts config.val.logicalContextLimit).run
        operations).Issues lease →
      1 ≤ lease.sequenceId.toInt ∧ lease.sequenceId.toInt ≤ config.val.maxContexts.toNat ∧
        LlmModel.IsPrivate config.loaded lease.sequenceId.toInt) ∧
    ∀ calls, LlmModel.Separated config ((LlmModel.kvMachine config.loaded).run calls) := by
  obtain ⟨positive, few⟩ := config.contexts
  constructor
  · intro operations lease granted
    obtain ⟨agentId, parentId, requestedContext, swap, now, order, granted⟩ := granted
    have within := ContextManager.within_run config.val.maxContexts
      config.val.logicalContextLimit operations (by omega)
    have acquired := ContextManager.acquire_spec
      ((ContextManager.machine config.val.maxContexts config.val.logicalContextLimit).run
        operations) agentId parentId requestedContext swap now order
    rw [granted] at acquired
    have bounds := within.lease acquired
    have one : (1 : UInt64) ≤ config.val.maxContexts := UInt64.le_iff_toNat_le.mpr positive
    have limit : (max 1 config.val.maxContexts).toNat = config.val.maxContexts.toNat :=
      congrArg UInt64.toNat (if_pos one)
    rw [limit] at bounds
    exact ⟨bounds.1, bounds.2, (config.isPrivate _).mpr bounds⟩
  · intro calls
    have placed := LlmModel.placed_run config.loaded calls
    constructor
    · intro index used
      obtain ⟨prompt, present⟩ := Option.ne_none_iff_exists'.mp used
      rw [placed.named index prompt present, config.sharedSeqId]
      have bound : index.val < 8 := index.isLt
      omega
    · intro call answers seqId own found
      exact LlmModel.step_untouched _ call answers placed own found

/-- One context beside another, the slots above. -/
def twoContexts : AcceptedServing :=
  ⟨{ maxContexts := 2, maxSwappedContexts := 1 }, by decide⟩

/-- A warm-up has filled a slot. -/
def warmedUp : LlmModel.KvState :=
  (LlmModel.kvMachine twoContexts.loaded).run
    [(.warmup (some (cStr (text "a"))) false, fun _ => {})]

/-- A first turn with another prompt. -/
def otherTurn : LlmModel.KvCall :=
  .inference { seqId := 1, isFirstTurn := true, systemPrompt := some (cStr (text "b")) }

theorem twoContexts_never_collide :
    (1 ≤ (1 : Int32).toInt ∧ (1 : Int32).toInt ≤ 2 ∧
      LlmModel.IsPrivate twoContexts.loaded (1 : Int32).toInt) ∧
    (3 ≤ (warmedUp.model.sharedSys ⟨0, by decide⟩).seqId ∧
      (warmedUp.model.sharedSys ⟨0, by decide⟩).seqId ≤ 10) ∧
    LlmModel.Untouched warmedUp.model
      (warmedUp.step twoContexts.loaded (otherTurn, fun _ => {})).model 2 := by
  have apart := sequences_never_collide twoContexts
  have separated := apart.2 [(.warmup (some (cStr (text "a"))) false, fun _ => {})]
  have leased := apart.1 [] { contextId := 1, sequenceId := 1, created := true }
    ⟨1, 0, 0, none, 0, IterationOrder.asStored, rfl⟩
  have first : LlmModel.IsPrivate twoContexts.loaded 1 := (twoContexts.isPrivate 1).mpr (by decide)
  have second : LlmModel.IsPrivate twoContexts.loaded 2 := (twoContexts.isPrivate 2).mpr (by decide)
  refine ⟨leased, separated.slots ⟨0, by decide⟩ (by decide), ?_⟩
  exact (separated.frames otherTurn (fun _ => {}) 1 rfl first).1 2 second (by decide)

end AgentNucleus.Top
