/-
What a call does to the shared prefixes.  It looks its prompt up, which may empty a
slot and fill it, and marks the slot as used; everything else that it writes leaves
the slots alone.
-/

import AgentNucleus.Top.SequenceFrames
import AgentNucleus.Top.SimulatedModel

set_option autoImplicit false

namespace AgentNucleus.Top.LlmModel

open AgentNucleus.Library
open AgentNucleus.Runtime (CString)
open AgentNucleus.Library.Program (Triple)

/-- The same prompts in the same slots, with the same marks. -/
structure SameCache (before after : LlmModel) : Prop where
  text : ∀ index, (after.sharedSys index).promptText = (before.sharedSys index).promptText
  entry : ∀ index, (before.sharedSys index).promptText ≠ none →
    (after.sharedSys index).seqId = (before.sharedSys index).seqId ∧
      (after.sharedSys index).lastAccess = (before.sharedSys index).lastAccess
  count : after.sharedSysCount = before.sharedSysCount
  clock : after.prefixClock = before.prefixClock
  evictions : after.prefixEvictions = before.prefixEvictions

theorem SameCache.refl (model : LlmModel) : SameCache model model :=
  ⟨fun _ => rfl, fun _ _ => ⟨rfl, rfl⟩, rfl, rfl, rfl⟩

theorem SameCache.trans {first second third : LlmModel} (left : SameCache first second)
    (right : SameCache second third) : SameCache first third := by
  constructor
  · intro index
    exact (right.text index).trans (left.text index)
  · intro index used
    have usedNow : (second.sharedSys index).promptText ≠ none := by
      rw [left.text index]
      exact used
    obtain ⟨seqId, access⟩ := left.entry index used
    obtain ⟨seqId', access'⟩ := right.entry index usedNow
    exact ⟨seqId'.trans seqId, access'.trans access⟩
  · exact right.count.trans left.count
  · exact right.clock.trans left.clock
  · exact right.evictions.trans left.evictions

/-- A slot is rewritten with the same prompt and the same marks. -/
theorem SameCache.slot {before after : LlmModel} (same : SameCache before after)
    (index : Fin kMaxSharedSys) (entry : SharedSysEntry)
    (text : entry.promptText = (after.sharedSys index).promptText)
    (marks : entry.promptText ≠ none → entry.seqId = (after.sharedSys index).seqId ∧
      entry.lastAccess = (after.sharedSys index).lastAccess) :
    SameCache before (storeSharedSys index entry after) := by
  apply same.trans
  constructor
  · intro other
    by_cases here : other = index
    · rw [here, sharedSys_storeSharedSys]
      exact text
    · rw [sharedSys_storeSharedSys_other after entry here]
  · intro other used
    by_cases here : other = index
    · rw [here] at used ⊢
      rw [sharedSys_storeSharedSys]
      exact marks (text ▸ used)
    · rw [sharedSys_storeSharedSys_other after entry here]
      exact ⟨rfl, rfl⟩
  · rfl
  · rfl
  · rfl

/-- Writes to sequences do not concern the slots. -/
theorem Stable.ofSame {property : LlmModel → Prop} (seqId : Int)
    (closed : ∀ before after, property before → SameCache before after → property after) :
    Stable seqId property where
  memory := by
    intro model positions holds
    exact closed model _ holds ⟨fun _ => rfl, fun _ _ => ⟨rfl, rfl⟩, rfl, rfl, rfl⟩
  state := by
    intro model state holds
    exact closed model _ holds ⟨fun _ => rfl, fun _ _ => ⟨rfl, rfl⟩, rfl, rfl, rfl⟩

theorem SameCache.stable (before : LlmModel) (seqId : Int) :
    Stable seqId (SameCache before) :=
  Stable.ofSame seqId fun _ _ first second => first.trans second

/-! ### The steps -/

def evicted (index : Fin kMaxSharedSys) (model : LlmModel) : LlmModel :=
  if (model.sharedSys index).promptText = none then model
  else
    { storeSharedSys index {} model with
      sharedSysCount := model.sharedSysCount - 1
      prefixEvictions := model.prefixEvictions + 1 }

def filled (config : LoadedConfig) (index : Fin kMaxSharedSys) (prompt : CString)
    (model : LlmModel) : LlmModel :=
  touched index
    { storeSharedSys index { seqId := sharedSeqId config index, promptText := some prompt } model
      with sharedSysCount := model.sharedSysCount + 1 }

/-- A slot gets a prompt and its sequence, whatever else it holds. -/
theorem SameCache.described {config : LoadedConfig} {before after : LlmModel}
    (same : SameCache before after) (index : Fin kMaxSharedSys) (prompt : CString)
    (entry : SharedSysEntry) (text : entry.promptText = some prompt)
    (place : entry.seqId = sharedSeqId config index) :
    SameCache (filled config index prompt before)
      { LlmModel.touched index (storeSharedSys index entry after) with
        sharedSysCount := after.sharedSysCount + 1 } := by
  have elsewhere (model : LlmModel) (stored : SharedSysEntry) (other : Fin kMaxSharedSys)
      (different : other ≠ index) :
      (LlmModel.touched index (storeSharedSys index stored model)).sharedSys other =
        model.sharedSys other :=
    (sharedSys_storeSharedSys_other _ _ different).trans
      (sharedSys_storeSharedSys_other _ _ different)
  have here (model : LlmModel) (stored : SharedSysEntry) :
      (LlmModel.touched index (storeSharedSys index stored model)).sharedSys index =
        { stored with lastAccess := model.prefixClock + 1 } := by
    rw [sharedSys_touched, sharedSys_storeSharedSys]
    rfl
  have inFilled (other : Fin kMaxSharedSys) :
      (filled config index prompt before).sharedSys other =
        (LlmModel.touched index (storeSharedSys index
          { seqId := sharedSeqId config index, promptText := some prompt } before)).sharedSys
          other := rfl
  constructor
  · intro other
    rw [inFilled]
    change ((LlmModel.touched index (storeSharedSys index entry after)).sharedSys
      other).promptText = _
    by_cases equal : other = index
    · rw [equal, here, here]
      exact text
    · rw [elsewhere _ _ other equal, elsewhere _ _ other equal]
      exact same.text other
  · intro other used
    rw [inFilled] at used ⊢
    change ((LlmModel.touched index (storeSharedSys index entry after)).sharedSys
      other).seqId = _ ∧ ((LlmModel.touched index (storeSharedSys index entry after)).sharedSys
      other).lastAccess = _
    by_cases equal : other = index
    · rw [equal, here, here]
      refine ⟨place, ?_⟩
      change after.prefixClock + 1 = before.prefixClock + 1
      rw [same.clock]
    · rw [elsewhere _ _ other equal] at used
      rw [elsewhere _ _ other equal, elsewhere _ _ other equal]
      exact same.entry other used
  · change after.sharedSysCount + 1 = before.sharedSysCount + 1
    rw [same.count]
  · change after.prefixClock + 1 = before.prefixClock + 1
    rw [same.clock]
  · exact same.evictions

/-- Looking a prompt up: it is found, or a slot is chosen for it, emptied and filled,
unless something fails on the way. -/
inductive Looked (config : LoadedConfig) (start : LlmModel) (prompt : CString) :
    Option (Fin kMaxSharedSys) → LlmModel → Prop
  | hit {index : Fin kMaxSharedSys} {after : LlmModel}
      (found : findSharedSys start prompt = some index) (same : SameCache start after) :
      Looked config start prompt (some index) after
  | refused {after : LlmModel} (missing : findSharedSys start prompt = none)
      (same : SameCache start after) : Looked config start prompt none after
  | emptied {after : LlmModel} (missing : findSharedSys start prompt = none)
      (same : SameCache (evicted (selectSharedSysSlot start) start) after) :
      Looked config start prompt none after
  | filled {after : LlmModel} (missing : findSharedSys start prompt = none)
      (same : SameCache (filled config (selectSharedSysSlot start) prompt
        (evicted (selectSharedSysSlot start) start)) after) :
      Looked config start prompt (some (selectSharedSysSlot start)) after

theorem Looked.same {config : LoadedConfig} {start : LlmModel} {prompt : CString}
    {slot : Option (Fin kMaxSharedSys)} {before after : LlmModel}
    (looked : Looked config start prompt slot before) (same : SameCache before after) :
    Looked config start prompt slot after := by
  cases looked with
  | hit found earlier => exact Looked.hit found (earlier.trans same)
  | refused missing earlier => exact Looked.refused missing (earlier.trans same)
  | emptied missing earlier => exact Looked.emptied missing (earlier.trans same)
  | filled missing earlier => exact Looked.filled missing (earlier.trans same)

/-! ### Looking a prompt up -/

section Lookup

variable {config : LoadedConfig} {start : LlmModel} {systemPrompt : CString}

theorem sameCache_of_eq {model : LlmModel} (same : model = start) : SameCache start model := by
  rw [same]
  exact SameCache.refl start

/-- Emptying a slot, whatever happens to the memory. -/
private theorem SameCache.emptied {index : Fin kMaxSharedSys} {model : LlmModel}
    (used : (start.sharedSys index).promptText ≠ none)
    (slots : model.sharedSys = (storeSharedSys index {} start).sharedSys)
    (count : model.sharedSysCount = start.sharedSysCount - 1)
    (clock : model.prefixClock = start.prefixClock)
    (evictions : model.prefixEvictions = start.prefixEvictions + 1) :
    SameCache (evicted index start) model := by
  unfold evicted
  rw [if_neg used]
  constructor
  · intro other
    rw [slots]
  · intro other _
    rw [slots]
    exact ⟨rfl, rfl⟩
  · exact count
  · exact clock
  · exact evictions

private theorem SameCache.left_empty {index : Fin kMaxSharedSys} {model : LlmModel}
    (empty : (start.sharedSys index).promptText = none) (same : model = start) :
    SameCache (evicted index start) model := by
  unfold evicted
  rw [if_pos empty]
  exact sameCache_of_eq same

theorem evictSharedSys_same (index : Fin kMaxSharedSys) :
    Triple (fun model => model = start) (evictSharedSys index)
      fun _ => SameCache (evicted index start) := by
  apply Triple.inspect_then
  apply Triple.ite
  · intro empty
    exact Triple.pure _ fun _ same => SameCache.left_empty empty same
  · intro used
    apply Triple.change_then
    apply Triple.change_then
    apply Triple.change
    intro model same
    rw [same]
    exact SameCache.emptied used rfl rfl rfl rfl

theorem dropSharedSys_same (index : Fin kMaxSharedSys) :
    Triple (fun model => model = start) (dropSharedSys index)
      fun _ => SameCache (evicted index start) := by
  apply Triple.inspect_then
  apply Triple.ite
  · intro empty
    exact Triple.pure _ fun _ same => SameCache.left_empty empty same
  · intro used
    apply Triple.change_then
    apply Triple.change_then
    apply Triple.change
    intro model same
    rw [same]
    exact SameCache.emptied used rfl rfl rfl rfl

theorem cacheSystemPrefix_looked (missing : findSharedSys start systemPrompt = none) :
    Triple (fun model => model = start) (cacheSystemPrefix config systemPrompt)
      (Looked config start systemPrompt) := by
  apply Triple.bind (tokenizeAlloc_keeps _)
  intro count
  apply Triple.ite
  · intro refused
    exact Triple.pure _ fun _ same => Looked.refused missing (sameCache_of_eq same)
  · intro accepted
    apply Triple.inspect_then
    have stable := SameCache.stable (evicted (selectSharedSysSlot start) start)
      (sharedSeqId config (selectSharedSysSlot start))
    apply Triple.bind (evictSharedSys_same (selectSharedSysSlot start))
    intro evicted
    apply Triple.bind (stable.setMemory ∅)
    intro cleared
    apply Triple.bind (stable.decodeTokens _ _ _)
    intro decoded
    apply Triple.ite
    · intro failure
      apply Triple.bind (stable.setMemory ∅)
      intro again
      exact Triple.pure _ fun _ same => Looked.emptied missing same
    · intro success
      apply Triple.bind (available_keeps _)
      intro copied
      apply Triple.ite
      · intro failure
        apply Triple.bind (stable.setMemory ∅)
        intro again
        exact Triple.pure _ fun _ same => Looked.emptied missing same
      · intro done
        apply Triple.from_state
        intro middle same
        apply Triple.change_then
        apply Triple.change_then
        apply Triple.change_then
        apply Triple.pure
        intro model equal
        rw [equal]
        exact Looked.filled missing (same.described _ systemPrompt
          { seqId := sharedSeqId config (selectSharedSysSlot start)
            tokenCount := count.toNat
            promptText := some systemPrompt } rfl rfl)

theorem findOrCache_looked :
    Triple (fun model => model = start) (findOrCache config systemPrompt)
      fun shared => Looked config start systemPrompt shared.1 := by
  unfold findOrCache
  apply Triple.inspect_then
  cases search : findSharedSys start systemPrompt with
  | none =>
      apply Triple.bind (cacheSystemPrefix_looked search)
      intro cached
      exact Triple.pure _ fun _ looked => looked
  | some index => exact Triple.pure _ fun _ same => Looked.hit search (sameCache_of_eq same)

/-- What a slot is described as. -/
private def described (config : LoadedConfig) (index : Fin kMaxSharedSys)
    (systemPrompt : CString) (copy : Option CString) (model : LlmModel) : SharedSysEntry :=
  { model.sharedSys index with
    seqId := sharedSeqId config index
    tokenCount := simulatedTokens systemPrompt
    promptText := copy }

private theorem describeSharedSys_spec (index : Fin kMaxSharedSys) (copy : Option CString) :
    Triple (fun model => model = start) (describeSharedSys config index systemPrompt copy)
      fun _ after =>
        after = storeSharedSys index (described config index systemPrompt copy start) start := by
  apply Triple.inspect_then
  apply Triple.change
  intro model same
  rw [same]
  rfl

/-- A slot that is described with the prompt is marked and counted. -/
private theorem fill_looked {α : Type} {middle : LlmModel} {value : α}
    {final : α → LlmModel → Prop} (missing : findSharedSys start systemPrompt = none)
    (same : SameCache (evicted (selectSharedSysSlot start) start) middle)
    (shown : ∀ after, Looked config start systemPrompt (some (selectSharedSysSlot start)) after →
      final value after) :
    Triple (fun model => model = storeSharedSys (selectSharedSysSlot start)
        (described config (selectSharedSysSlot start) systemPrompt (some systemPrompt) middle)
        middle)
      (do
        touchSharedSys (selectSharedSysSlot start)
        countSharedSys 1
        pure value)
      final := by
  apply Triple.change_then
  apply Triple.change_then
  apply Triple.pure
  intro model equal
  apply shown
  rw [equal]
  exact Looked.filled missing (same.described _ systemPrompt _ rfl rfl)

theorem inferencePrefix_looked :
    Triple (fun model => model = start) (inferencePrefix config systemPrompt)
      fun shared => Looked config start systemPrompt shared.1 := by
  unfold inferencePrefix
  apply Triple.inspect_then
  cases search : findSharedSys start systemPrompt with
  | none =>
      apply Triple.bind (available_keeps _)
      intro copied
      apply Triple.ite
      · intro failed
        exact Triple.pure _ fun _ same => Looked.refused search (sameCache_of_eq same)
      · intro available
        apply Triple.inspect_then
        apply Triple.bind (dropSharedSys_same _)
        intro dropped
        apply Triple.from_state
        intro middle same
        apply Triple.bind (describeSharedSys_spec _ _)
        intro described
        exact fill_looked search same fun _ looked => looked
  | some index => exact Triple.pure _ fun _ same => Looked.hit search (sameCache_of_eq same)

/-- A slot that is described without a prompt stays empty. -/
private theorem SameCache.undescribed {before middle : LlmModel} (same : SameCache before middle)
    (index : Fin kMaxSharedSys) (empty : (before.sharedSys index).promptText = none) :
    SameCache before
      (storeSharedSys index (LlmModel.described config index systemPrompt none middle) middle) := by
  apply same.slot index
  · exact ((same.text index).trans empty).symm
  · exact absurd rfl

theorem evicted_empty (index : Fin kMaxSharedSys) (model : LlmModel) :
    ((evicted index model).sharedSys index).promptText = none := by
  unfold evicted
  by_cases empty : (model.sharedSys index).promptText = none
  · rw [if_pos empty]
    exact empty
  · rw [if_neg empty]
    change ((storeSharedSys index {} model).sharedSys index).promptText = none
    rw [sharedSys_storeSharedSys]

theorem evicted_elsewhere (model : LlmModel) {index other : Fin kMaxSharedSys}
    (different : other ≠ index) :
    (evicted index model).sharedSys other = model.sharedSys other := by
  unfold evicted
  by_cases empty : (model.sharedSys index).promptText = none
  · rw [if_pos empty]
  · rw [if_neg empty]
    exact sharedSys_storeSharedSys_other model {} different

theorem warmupPrefix_looked :
    Triple (fun model => model = start) (warmupPrefix config systemPrompt)
      fun slot => Looked config start systemPrompt slot := by
  unfold warmupPrefix
  apply Triple.inspect_then
  cases search : findSharedSys start systemPrompt with
  | none =>
      apply Triple.inspect_then
      apply Triple.bind (dropSharedSys_same _)
      intro dropped
      apply Triple.bind (available_keeps _)
      intro copied
      apply Triple.from_state
      intro middle same
      apply Triple.bind (describeSharedSys_spec _ _)
      intro described
      cases copied with
      | false =>
          apply Triple.pure
          intro model equal
          rw [equal]
          exact Looked.emptied search (same.undescribed _ (evicted_empty _ start))
      | true => exact fill_looked search same fun _ looked => looked
  | some index => exact Triple.pure _ fun _ same => Looked.hit search (sameCache_of_eq same)

end Lookup

/-! ### Calls -/

section Calls

variable {config : LoadedConfig} {base : LlmModel} {prompt : CString}

/-- The prompt has no slot: something failed. -/
def Failed (config : LoadedConfig) (base : LlmModel) (prompt : CString)
    (after : LlmModel) : Prop :=
  ∃ start, SameCache base start ∧ Looked config start prompt none after

/-- The prompt has a slot, which is not marked as used. -/
def Stopped (config : LoadedConfig) (base : LlmModel) (prompt : CString)
    (after : LlmModel) : Prop :=
  ∃ start index, SameCache base start ∧ Looked config start prompt (some index) after

/-- The slot of the prompt is marked as used. -/
def Used (config : LoadedConfig) (base : LlmModel) (prompt : CString)
    (after : LlmModel) : Prop :=
  ∃ start index middle, SameCache base start ∧ Looked config start prompt (some index) middle ∧
    SameCache (touched index middle) after

/-- Everything that a call may do to the slots. -/
inductive PrefixEffect (config : LoadedConfig) (base : LlmModel) (prompt : CString)
    (after : LlmModel) : Prop
  | untouched (same : SameCache base after)
  | failed (failed : Failed config base prompt after)
  | stopped (stopped : Stopped config base prompt after)
  | used (used : Used config base prompt after)

theorem Failed.same {before after : LlmModel} (failed : Failed config base prompt before)
    (same : SameCache before after) : Failed config base prompt after := by
  obtain ⟨start, from_, looked⟩ := failed
  exact ⟨start, from_, looked.same same⟩

theorem Used.same {before after : LlmModel} (used : Used config base prompt before)
    (same : SameCache before after) : Used config base prompt after := by
  obtain ⟨start, index, middle, from_, looked, marked⟩ := used
  exact ⟨start, index, middle, from_, looked, marked.trans same⟩

/-- The request is one whose system prompt is looked up. -/
def Prompted (request : LlmRequest) : Prop :=
  request.isFirstTurn = true ∧ request.systemPrompt.getD .empty ≠ .empty

/-- What an inference does to the slots.  It leaves them alone if the request is refused
or has no system prompt; otherwise only if it is cancelled. -/
inductive Inferred (config : LoadedConfig) (base : LlmModel) (request : LlmRequest)
    (response : LlmResponse) (after : LlmModel) : Prop
  | untouched (same : SameCache base after)
      (idle : IsPrivate config request.seqId → Prompted request → response.cancelled = true)
  | failed (found : IsPrivate config request.seqId) (prompted : Prompted request)
      (failed : Failed config base (request.systemPrompt.getD .empty) after)
  | used (found : IsPrivate config request.seqId) (prompted : Prompted request)
      (used : Used config base (request.systemPrompt.getD .empty) after)

/-- A turn that is not cancelled at its start. -/
private def Turned (config : LoadedConfig) (base : LlmModel) (request : LlmRequest)
    (after : LlmModel) : Prop :=
  (¬Prompted request ∧ SameCache base after) ∨
    Prompted request ∧ (Failed config base (request.systemPrompt.getD .empty) after ∨
      Used config base (request.systemPrompt.getD .empty) after)

private theorem Turned.stable (request : LlmRequest) :
    Stable request.seqId (Turned config base request) := by
  apply Stable.ofSame
  intro before after turned same
  rcases turned with ⟨unprompted, earlier⟩ | ⟨prompted, failed | used⟩
  · exact Or.inl ⟨unprompted, earlier.trans same⟩
  · exact Or.inr ⟨prompted, Or.inl (failed.same same)⟩
  · exact Or.inr ⟨prompted, Or.inr (used.same same)⟩

private theorem Turned.inferred {request : LlmRequest} {after : LlmModel}
    (turned : Turned config base request after) (found : IsPrivate config request.seqId)
    (response : LlmResponse) : Inferred config base request response after := by
  rcases turned with ⟨unprompted, same⟩ | ⟨prompted, failed | used⟩
  · exact Inferred.untouched same fun _ prompted => absurd prompted unprompted
  · exact Inferred.failed found prompted failed
  · exact Inferred.used found prompted used

/-- The marks of sharing are no part of the cache. -/
private theorem shared_same {before middle : LlmModel} (same : SameCache before middle)
    (index : Fin kMaxSharedSys) (shares saved : Nat) :
    SameCache before (storeSharedSys index
      { middle.sharedSys index with shareCount := shares, savedTokens := saved } middle) :=
  same.slot index _ rfl fun _ => ⟨rfl, rfl⟩

/-- A hit is noted in the slot that has been marked. -/
private theorem share_used {start middle : LlmModel} {index : Fin kMaxSharedSys} (reused : Bool)
    (hit miss : LlmResponse) (from_ : SameCache base start)
    (looked : Looked config start prompt (some index) middle) :
    Triple (fun model => SameCache (touched index middle) model ∧
        model.sharedSys = (touched index middle).sharedSys)
      (if reused then do
        setSharedSys index
          { (touched index middle).sharedSys index with
            shareCount := ((touched index middle).sharedSys index).shareCount + 1
            savedTokens := ((touched index middle).sharedSys index).savedTokens +
              ((touched index middle).sharedSys index).tokenCount }
        pure hit
      else pure miss)
      fun _ => Used config base prompt := by
  apply Triple.ite
  · intro hit
    apply Triple.from_state
    intro last both
    apply Triple.change_then
    apply Triple.pure
    intro model same
    rw [same, ← both.2]
    exact ⟨start, index, middle, from_, looked, shared_same both.1 index _ _⟩
  · intro fresh
    exact Triple.pure _ fun _ both => ⟨start, index, middle, from_, looked, both.1⟩

theorem useSharedPrefix_used (request : LlmRequest) (index : Fin kMaxSharedSys) (reused : Bool)
    (response : LlmResponse) {start middle : LlmModel} (from_ : SameCache base start)
    (looked : Looked config start prompt (some index) middle) :
    Triple (fun model => model = middle) (useSharedPrefix request index reused response)
      fun _ => Used config base prompt := by
  apply Triple.change_then
  apply Triple.inspect_then
  have slots := (SameCache.stable (touched index middle) request.seqId).keepsSlots
    (touched index middle).sharedSys
  apply Triple.bind ((slots.memoryCopy _ _ _).strengthen fun model same =>
    ⟨sameCache_of_eq same, by rw [same]⟩)
  intro copied
  apply Triple.bind (slots.setSeqState _)
  intro recorded
  exact share_used reused _ _ from_ looked

private theorem prefixPhase_turned (request : LlmRequest) (prompted : Prompted request)
    {start : LlmModel} (from_ : SameCache base start) (response : LlmResponse) :
    Triple (fun model => model = start)
      (prefixPhase config request (request.systemPrompt.getD .empty) response)
      fun _ => Turned config base request := by
  have stable : Stable request.seqId (Turned config base request) := Turned.stable request
  apply Triple.bind findOrCache_looked
  intro shared
  obtain ⟨_ | index, reused⟩ := shared
  · apply (stable.decodeSystemPrompt response).strengthen
    intro model looked
    exact Or.inr ⟨prompted, Or.inl ⟨start, from_, looked⟩⟩
  · apply Triple.from_state
    intro middle looked
    apply Triple.bind (useSharedPrefix_used request index reused response from_ looked)
    intro answered
    exact Triple.pure _ fun _ used => Or.inr ⟨prompted, Or.inr used⟩

/-- Both builds refuse a sequence that is not private and a request that is cancelled. -/
private theorem admission_inferred (request : LlmRequest) (rest : Llm (Int × LlmResponse))
    (served : IsPrivate config request.seqId → Triple (fun model => model = base) rest
      fun outcome => Inferred config base request outcome.2) :
    Triple (fun model => model = base)
      (if request.seqId ≤ 0 ∨ privateSeqLimit config ≤ request.seqId then pure (-1, {})
      else do
        let cancelled ← requestCancelled request.cancellable
        if cancelled then pure (-2, { seqId := request.seqId, cancelled := true })
        else rest)
      fun outcome => Inferred config base request outcome.2 := by
  apply Triple.ite
  · intro refused
    apply Triple.pure
    intro model same
    apply Inferred.untouched (sameCache_of_eq same)
    intro found
    unfold IsPrivate at found
    omega
  · intro accepted
    apply Triple.bind (requestCancelled_keeps _ _)
    intro cancelled
    apply Triple.ite
    · intro now
      exact Triple.pure _ fun _ same => Inferred.untouched (sameCache_of_eq same) fun _ _ => rfl
    · intro goesOn
      apply served
      unfold IsPrivate
      omega

theorem llmInference_inferred (request : LlmRequest) :
    Triple (fun model => model = base) (llmInference config request)
      fun outcome => Inferred config base request outcome.2 := by
  have stable : Stable request.seqId (Turned config base request) := Turned.stable request
  apply admission_inferred
  intro found
  apply Triple.bind (((SameCache.stable base request.seqId).startTurn).strengthen
    fun _ same => sameCache_of_eq same)
  intro original
  apply Triple.from_state
  intro start from_
  apply Triple.bind (stable.turn
    (fun unprompted model same => Or.inl ⟨unprompted, from_.trans (sameCache_of_eq same)⟩)
    (fun first prompted => prefixPhase_turned request ⟨first, prompted⟩ from_) _ _)
  intro outcome
  apply Triple.ite
  · intro failure
    apply Triple.bind (stable.rollBack original)
    intro rolledBack
    exact Triple.pure _ fun _ turned => turned.inferred found outcome.2
  · intro success
    exact Triple.pure _ fun _ turned => turned.inferred found outcome.2

/-- What a warm-up does to the slots.  A result that is not negative means success. -/
structure Warmed (config : LoadedConfig) (base : LlmModel) (prompt : CString) (result : Int)
    (after : LlmModel) : Prop where
  effect : PrefixEffect config base prompt after
  success : 0 ≤ result → Used config base prompt after
  idle : prompt = .empty → SameCache base after

private theorem Warmed.nothing {model : LlmModel} (same : model = base) (prompt : CString)
    {result : Int} (negative : result < 0) : Warmed config base prompt result model :=
  ⟨PrefixEffect.untouched (sameCache_of_eq same), fun success => absurd success (by omega),
    fun _ => sameCache_of_eq same⟩

private theorem Looked.warmed {model : LlmModel} (looked : Looked config base prompt none model)
    (asked : prompt ≠ .empty) {result : Int} (negative : result < 0) :
    Warmed config base prompt result model :=
  ⟨PrefixEffect.failed ⟨base, SameCache.refl base, looked⟩,
    fun success => absurd success (by omega), fun missing => absurd missing asked⟩

/-- Both builds mark the slot, unless the warm-up is cancelled by then. -/
private theorem mark_warmed (asked : prompt ≠ .empty) (index : Fin kMaxSharedSys)
    (cancellable : Bool) :
    Triple (Looked config base prompt (some index))
      (do
        let cancelled ← requestCancelled cancellable
        if cancelled then pure (-2)
        else
          touchSharedSys index
          Program.inspect fun model => (model.sharedSys index).seqId)
      (Warmed config base prompt) := by
  apply Triple.bind (requestCancelled_keeps _ _)
  intro cancelled
  apply Triple.ite
  · intro late
    apply Triple.pure
    intro model looked
    exact ⟨PrefixEffect.stopped ⟨base, index, SameCache.refl base, looked⟩,
      fun success => absurd success (by decide), fun missing => absurd missing asked⟩
  · intro inTime
    apply Triple.from_state
    intro middle looked
    apply Triple.change_then
    apply Triple.inspect
    intro model same
    have used : Used config base prompt model :=
      ⟨base, index, middle, SameCache.refl base, looked, sameCache_of_eq same⟩
    exact ⟨PrefixEffect.used used, fun _ => used, fun missing => absurd missing asked⟩

/-- Both builds want a prompt and give up when they are cancelled at the start. -/
private theorem admission_warmed (systemPrompt : Option CString) (cancellable : Bool)
    (rest : Llm Int) (served : systemPrompt.getD .empty ≠ .empty →
      Triple (fun model => model = base) rest (Warmed config base (systemPrompt.getD .empty))) :
    Triple (fun model => model = base)
      (if systemPrompt.getD .empty = .empty then pure (-1)
      else do
        let cancelled ← requestCancelled cancellable
        if cancelled then pure (-2) else rest)
      (Warmed config base (systemPrompt.getD .empty)) := by
  apply Triple.ite
  · intro missing
    exact Triple.pure _ fun _ same => Warmed.nothing same _ (by decide)
  · intro present
    apply Triple.bind (requestCancelled_keeps _ _)
    intro cancelled
    apply Triple.ite
    · intro now
      exact Triple.pure _ fun _ same => Warmed.nothing same _ (by decide)
    · intro goesOn
      exact served present

theorem llmWarmupSharedKv_warmed (systemPrompt : Option CString) (cancellable : Bool) :
    Triple (fun model => model = base) (llmWarmupSharedKv config systemPrompt cancellable)
      (Warmed config base (systemPrompt.getD .empty)) := by
  apply admission_warmed
  intro asked
  apply Triple.bind findOrCache_looked
  intro shared
  obtain ⟨_ | index, reused⟩ := shared
  · apply Triple.bind (requestCancelled_keeps _ _)
    intro cancelledNow
    have negative : (if cancelledNow = true then -2 else -1 : Int) < 0 := by
      split
      · decide
      · decide
    exact Triple.pure _ fun _ looked => looked.warmed asked negative
  · exact mark_warmed asked index cancellable

theorem simulatedWarmupSharedKv_warmed (systemPrompt : Option CString) (cancellable : Bool) :
    Triple (fun model => model = base) (simulatedWarmupSharedKv config systemPrompt cancellable)
      (Warmed config base (systemPrompt.getD .empty)) := by
  apply admission_warmed
  intro asked
  apply Triple.bind warmupPrefix_looked
  intro shared
  cases shared with
  | none => exact Triple.pure _ fun _ looked => looked.warmed asked (by decide)
  | some index => exact mark_warmed asked index cancellable

/-! ### The simulated inference -/

theorem useSimulatedPrefix_used (request : LlmRequest) (index : Fin kMaxSharedSys)
    (reused : Bool) (response : LlmResponse) {start middle : LlmModel}
    (from_ : SameCache base start) (looked : Looked config start prompt (some index) middle) :
    Triple (fun model => model = middle) (useSimulatedPrefix request index reused response)
      fun _ => Used config base prompt := by
  apply Triple.change_then
  apply Triple.inspect_then
  have slots := (SameCache.stable (touched index middle) request.seqId).keepsSlots
    (touched index middle).sharedSys
  have read : Triple (fun model => model = touched index middle) (seqState request.seqId)
      fun _ model => SameCache (touched index middle) model ∧
        model.sharedSys = (touched index middle).sharedSys :=
    (seqState_keeps _ _).strengthen fun model same => ⟨sameCache_of_eq same, by rw [same]⟩
  apply Triple.bind read
  intro state
  apply Triple.bind (slots.setSeqState _)
  intro recorded
  exact share_used reused _ _ from_ looked

private theorem simulatedResponse_turned (request : LlmRequest) (text : CString)
    (response : LlmResponse) :
    Triple (Turned config base request) (simulatedResponse request text response)
      fun _ => Turned config base request := by
  have stable : Stable request.seqId (Turned config base request) := Turned.stable request
  apply Triple.bind (available_keeps _)
  intro allocated
  apply Triple.ite
  · intro missing
    exact Triple.pure _ fun _ turned => turned
  · intro present
    apply Triple.bind (seqState_keeps _ _)
    intro state
    apply Triple.bind (stable.setSeqState _)
    intro recorded
    exact Triple.pure _ fun _ turned => turned

private theorem simulatedTurn_turned (request : LlmRequest) (text : CString)
    (original : SeqState) (response : LlmResponse) {start : LlmModel}
    (from_ : SameCache base start) :
    Triple (fun model => model = start) (simulatedTurn config request text original response)
      fun _ => Turned config base request := by
  have stable : Stable request.seqId (Turned config base request) := Turned.stable request
  apply Triple.ite
  · intro prompted
    apply Triple.bind inferencePrefix_looked
    intro shared
    obtain ⟨_ | index, reused⟩ := shared
    · have restored : Triple (Looked config start (request.systemPrompt.getD .empty) none)
          (setSeqState request.seqId original) fun _ => Turned config base request :=
        (stable.setSeqState original).strengthen fun model looked =>
          Or.inr ⟨prompted, Or.inl ⟨start, from_, looked⟩⟩
      apply Triple.bind restored
      intro done
      exact Triple.pure _ fun _ turned => turned
    · apply Triple.from_state
      intro middle looked
      apply Triple.bind (useSimulatedPrefix_used request index reused response from_ looked)
      intro answered
      exact (simulatedResponse_turned request text answered).strengthen fun _ used =>
        Or.inr ⟨prompted, Or.inr used⟩
  · intro unprompted
    exact (simulatedResponse_turned request text response).strengthen fun _ same =>
      Or.inl ⟨unprompted, from_.trans (sameCache_of_eq same)⟩

theorem simulatedInference_inferred (request : LlmRequest) (text : CString) :
    Triple (fun model => model = base) (simulatedInference config request text)
      fun outcome => Inferred config base request outcome.2 := by
  apply admission_inferred
  intro found
  apply Triple.inspect_then
  have reset : Triple (fun model => model = base) (resetTurn request)
      fun _ => SameCache base := by
    apply Triple.ite
    · intro first
      exact ((SameCache.stable base request.seqId).setSeqState {}).strengthen fun _ same =>
        sameCache_of_eq same
    · intro later
      exact Triple.pure _ fun _ same => sameCache_of_eq same
  apply Triple.bind reset
  intro done
  apply Triple.from_state
  intro start from_
  apply (simulatedTurn_turned request text _ _ from_).weaken
  intro outcome model turned
  exact turned.inferred found outcome.2

end Calls

end AgentNucleus.Top.LlmModel
