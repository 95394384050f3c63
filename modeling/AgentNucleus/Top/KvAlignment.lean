/-
The positions that llama.cpp stores for a private sequence are those that its
state records, and a slot with a shared prefix holds it.  Decoding only adds
positions at the end, and caching a prefix touches no private sequence.
-/

import AgentNucleus.Top.LlamaModel

set_option autoImplicit false

namespace AgentNucleus.Top.LlmModel

open AgentNucleus.Library
open AgentNucleus.Runtime (CString)
open AgentNucleus.Library.Program (Triple)

variable (config : LoadedConfig)

def IsPrivate (seqId : Int) : Prop :=
  0 < seqId ∧ seqId < privateSeqLimit config

/-- A state in use records exactly the stored positions; another one records
nothing, and nothing is stored. -/
def AlignedAt (state : SeqState) (stored : Finset Nat) : Prop :=
  if state.inUse then
    stored = Finset.range state.currentPos ∧ 0 < state.currentPos ∧
      state.currentPos ≤ config.nCtx
  else state.currentPos = 0 ∧ stored = ∅

/-- A slot with a prompt holds its prefix in its own sequence. -/
def PrefixesStored (model : LlmModel) : Prop :=
  ∀ index prompt, (model.sharedSys index).promptText = some prompt →
    (model.sharedSys index).seqId = sharedSeqId config index ∧
      model.memory (sharedSeqId config index) =
        Finset.range (model.sharedSys index).tokenCount

structure Aligned (model : LlmModel) : Prop where
  sequences : ∀ seqId, IsPrivate config seqId →
    AlignedAt config (model.seqStates seqId) (model.memory seqId)
  prefixes : PrefixesStored config model

variable {config}

theorem sharedSeqId_not_private (index : Fin kMaxSharedSys) :
    ¬IsPrivate config (sharedSeqId config index) := by
  intro found
  have bound := index.isLt
  have below := found.2
  unfold privateSeqLimit sharedSeqId kMaxSharedSys at *
  omega

theorem sharedSeqId_ne {first second : Fin kMaxSharedSys} (different : first ≠ second) :
    sharedSeqId config first ≠ sharedSeqId config second := by
  intro same
  apply different
  apply Fin.ext
  unfold sharedSeqId at same
  omega

theorem IsPrivate.ne_shared {seqId : Int} (found : IsPrivate config seqId)
    (index : Fin kMaxSharedSys) : sharedSeqId config index ≠ seqId := by
  intro same
  exact sharedSeqId_not_private index (same ▸ found)

/-! ### Calls that change no state -/

theorem requestCancelled_keeps (before : LlmModel → Prop) (cancellable : Bool) :
    Triple before (requestCancelled cancellable) fun _ => before := by
  unfold requestCancelled
  apply Triple.ite
  · intro callback
    apply Triple.ask_then
    intro answer
    exact Triple.pure _ fun _ holds => holds
  · intro missing
    exact Triple.pure _ fun _ holds => holds

theorem tokenizeAlloc_keeps (before : LlmModel → Prop) :
    Triple before tokenizeAlloc fun _ => before := by
  apply Triple.ask_then
  intro answer
  exact Triple.pure _ fun _ holds => holds

theorem available_keeps (before : LlmModel → Prop) :
    Triple before available fun _ => before := by
  apply Triple.ask_then
  intro answer
  exact Triple.pure _ fun _ holds => holds

theorem cancelledAfter_keeps (before : LlmModel → Prop) (request : LlmRequest) (result : Int) :
    Triple before (cancelledAfter request result) fun _ => before := by
  unfold cancelledAfter
  apply Triple.ite
  · intro cancelled
    exact Triple.pure _ fun _ holds => holds
  · intro other
    exact requestCancelled_keeps before request.cancellable

/-! ### Decoding -/

/-- Nothing but the memory of one sequence may differ. -/
structure OnlyMemory (seqId : Int) (before after : LlmModel) : Prop where
  memory : ∀ other, other ≠ seqId → after.memory other = before.memory other
  seqStates : after.seqStates = before.seqStates
  sharedSys : after.sharedSys = before.sharedSys

theorem OnlyMemory.refl (seqId : Int) (model : LlmModel) : OnlyMemory seqId model model :=
  ⟨fun _ _ => rfl, rfl, rfl⟩

theorem OnlyMemory.trans {seqId : Int} {first second third : LlmModel}
    (left : OnlyMemory seqId first second) (right : OnlyMemory seqId second third) :
    OnlyMemory seqId first third :=
  ⟨fun other different => (right.memory other different).trans (left.memory other different),
    right.seqStates.trans left.seqStates, right.sharedSys.trans left.sharedSys⟩

theorem onlyMemory_store (model : LlmModel) (seqId : Int) (positions : Finset Nat) :
    OnlyMemory seqId model (storeMemory seqId positions model) :=
  ⟨fun _ different => memory_storeMemory_other model positions different, rfl, rfl⟩

/-- A decoding from `start`: what lies below stays, and after a success exactly
the new positions have been added. -/
structure Decoded (seqId : Int) (start count : Nat) (before : LlmModel) (success : Prop)
    (after : LlmModel) : Prop where
  only : OnlyMemory seqId before after
  below : ∀ position, position < start →
    (position ∈ after.memory seqId ↔ position ∈ before.memory seqId)
  stored : success →
    after.memory seqId = before.memory seqId ∪ Finset.Ico start (start + count)

theorem llamaDecode_spec (before : LlmModel) (seqId : Int) (start count : Nat) :
    Triple (fun model => model = before) (llamaDecode seqId (Finset.Ico start (start + count)))
      fun decoded after => Decoded seqId start count before (decoded = true) after := by
  have outside (batch : Finset Nat) (small : batch ⊆ Finset.Ico start (start + count))
      (position : Nat) (low : position < start) :
      position ∈ before.memory seqId ∪ batch ↔ position ∈ before.memory seqId := by
    rw [Finset.mem_union]
    constructor
    · intro either
      rcases either with old | new
      · exact old
      · have inside := Finset.mem_Ico.mp (small new)
        omega
    · exact Or.inl
  apply Triple.ask_then
  intro answer
  apply Triple.inspect_then
  apply Triple.ite
  · intro succeeded
    apply Triple.change_then
    apply Triple.pure
    intro model same
    subst same
    refine ⟨onlyMemory_store before seqId _, ?_, ?_⟩
    · intro position low
      rw [memory_storeMemory]
      exact outside _ (Finset.Subset.refl _) position low
    · intro _
      exact memory_storeMemory ..
  · intro failed
    apply Triple.change_then
    apply Triple.pure
    intro model same
    subst same
    refine ⟨onlyMemory_store before seqId _, ?_, nofun⟩
    intro position low
    rw [memory_storeMemory]
    exact outside _ (Finset.filter_subset _ _) position low

theorem Decoded.nothing (seqId : Int) (start : Nat) (before : LlmModel) (success : Prop) :
    Decoded seqId start 0 before success before := by
  refine ⟨OnlyMemory.refl seqId before, fun _ _ => Iff.rfl, fun _ => ?_⟩
  rw [Nat.add_zero, Finset.Ico_self, Finset.union_empty]

/-- A chunk, and then the rest. -/
theorem Decoded.andThen {seqId : Int} {start chunk rest : Nat} {before middle after : LlmModel}
    {success : Prop} (first : Decoded seqId start chunk before True middle)
    (second : Decoded seqId (start + chunk) rest middle success after) :
    Decoded seqId start (chunk + rest) before success after := by
  refine ⟨first.only.trans second.only, ?_, ?_⟩
  · intro position low
    rw [second.below position (by omega), first.below position low]
  · intro done
    rw [second.stored done, first.stored trivial, Finset.union_assoc,
      Finset.Ico_union_Ico_eq_Ico (by omega) (by omega), Nat.add_assoc]

/-- What an aborted decoding leaves. -/
theorem Decoded.aborted {seqId : Int} {start count more : Nat} {before after : LlmModel}
    {success failure : Prop} (decoded : Decoded seqId start count before success after)
    (never : ¬failure) : Decoded seqId start more before failure after :=
  ⟨decoded.only, decoded.below, fun now => absurd now never⟩

theorem decodeChunks_spec (cancellable : Bool) (seqId : Int) (rounds : Nat) :
    ∀ (start remaining : Nat) (before : LlmModel), remaining ≤ rounds →
      Triple (fun model => model = before)
        (decodeChunks config cancellable seqId rounds start remaining)
        fun result after => Decoded seqId start remaining before (result = 0) after := by
  induction rounds with
  | zero =>
      intro start remaining before enough
      have done : remaining = 0 := Nat.le_zero.mp enough
      subst done
      apply Triple.pure
      intro model same
      subst same
      exact Decoded.nothing seqId start model _
  | succ rounds ih =>
      intro start remaining before enough
      apply Triple.ite
      · intro done
        subst done
        apply Triple.pure
        intro model same
        subst same
        exact Decoded.nothing seqId start model _
      · intro more
        apply Triple.bind (requestCancelled_keeps _ cancellable)
        intro cancelled
        apply Triple.ite
        · intro now
          apply Triple.pure
          intro model same
          subst same
          exact (Decoded.nothing seqId start model True).aborted (by decide)
        · intro goesOn
          have positive := config.batchPositive
          have taken : min remaining config.nBatch + (remaining - min remaining config.nBatch) =
              remaining := by omega
          apply Triple.bind (llamaDecode_spec before seqId start (min remaining config.nBatch))
          intro decoded
          apply Triple.ite
          · intro success
            apply Triple.from_state
            intro middle first
            apply (ih _ _ middle (by omega)).weaken
            intro result after rest
            rw [← taken]
            exact Decoded.andThen ⟨first.only, first.below, fun _ => first.stored success⟩ rest
          · intro failure
            apply Triple.bind (requestCancelled_keeps _ cancellable)
            intro cancelledNow
            apply Triple.pure
            intro after partly
            apply partly.aborted
            split <;> decide

theorem decodeTokens_spec (cancellable : Bool) (tokenCount : Nat) (seqId : Int)
    (startPos : Nat) (before : LlmModel) :
    Triple (fun model => model = before)
      (decodeTokens config cancellable tokenCount seqId startPos)
      fun result after => Decoded seqId startPos tokenCount before (result = 0) after :=
  decodeChunks_spec cancellable seqId tokenCount startPos tokenCount before (Nat.le_refl _)

/-! ### Shared prefixes -/

/-- The slots may differ, but the private sequences do not. -/
structure PrivateKept (config : LoadedConfig) (before after : LlmModel) : Prop where
  memory : ∀ seqId, IsPrivate config seqId → after.memory seqId = before.memory seqId
  seqStates : after.seqStates = before.seqStates

theorem PrivateKept.refl (model : LlmModel) : PrivateKept config model model :=
  ⟨fun _ _ => rfl, rfl⟩

/-- One slot is being filled: it is marked empty, and its sequence may hold
anything. -/
structure SlotOpen (config : LoadedConfig) (index : Fin kMaxSharedSys)
    (before after : LlmModel) : Prop where
  kept : PrivateKept config before after
  empty : (after.sharedSys index).promptText = none
  others : ∀ other prompt, other ≠ index →
    (after.sharedSys other).promptText = some prompt →
      (after.sharedSys other).seqId = sharedSeqId config other ∧
        after.memory (sharedSeqId config other) =
          Finset.range (after.sharedSys other).tokenCount

theorem SlotOpen.prefixes {index : Fin kMaxSharedSys} {before after : LlmModel}
    (slot : SlotOpen config index before after) : PrefixesStored config after := by
  intro other prompt stored
  by_cases same : other = index
  · subst same
    rw [slot.empty] at stored
    cases stored
  · exact slot.others other prompt same stored

theorem SlotOpen.onlyMemory {index : Fin kMaxSharedSys} {before middle after : LlmModel}
    (slot : SlotOpen config index before middle)
    (only : OnlyMemory (sharedSeqId config index) middle after) :
    SlotOpen config index before after := by
  refine ⟨⟨?_, only.seqStates.trans slot.kept.seqStates⟩, ?_, ?_⟩
  · intro seqId found
    rw [only.memory seqId (found.ne_shared index).symm, slot.kept.memory seqId found]
  · rw [only.sharedSys]
    exact slot.empty
  · intro other prompt different stored
    rw [only.sharedSys] at stored ⊢
    rw [only.memory _ (sharedSeqId_ne different)]
    exact slot.others other prompt different stored

private theorem evictSharedSys_spec (index : Fin kMaxSharedSys) (start : LlmModel)
    (prefixes : PrefixesStored config start) :
    Triple (fun model => model = start) (evictSharedSys index)
      fun _ after => SlotOpen config index start after := by
  apply Triple.inspect_then
  apply Triple.ite
  · intro empty
    apply Triple.pure
    intro model same
    subst same
    exact ⟨PrivateKept.refl model, empty, fun other prompt _ => prefixes other prompt⟩
  · intro filled
    obtain ⟨prompt, stored⟩ := Option.ne_none_iff_exists'.mp filled
    have place := (prefixes index prompt stored).1
    apply Triple.change_then
    apply Triple.change_then
    apply Triple.change
    intro model same
    subst same
    rw [place]
    refine ⟨⟨?_, rfl⟩, ?_, ?_⟩
    · intro seqId found
      exact memory_storeMemory_other start ∅ (found.ne_shared index).symm
    · exact congrArg SharedSysEntry.promptText (sharedSys_storeSharedSys _ index {})
    · intro other prompt different present
      have unchanged := sharedSys_storeSharedSys_other
        (storeMemory (sharedSeqId config index) ∅ start) {} different
      change ((storeSharedSys index {} _).sharedSys other).promptText = _ at present
      change ((storeSharedSys index {} _).sharedSys other).seqId = _ ∧
        (storeMemory (sharedSeqId config index) ∅ start).memory _ =
          Finset.range ((storeSharedSys index {} _).sharedSys other).tokenCount
      rw [unchanged] at present ⊢
      rw [memory_storeMemory_other start ∅ (sharedSeqId_ne different)]
      exact prefixes other prompt present

/-- A change of the bookkeeping of a slot moves no prefix. -/
theorem PrefixesStored.rewrite {model after : LlmModel}
    (prefixes : PrefixesStored config model) (index : Fin kMaxSharedSys)
    (memory : after.memory = model.memory)
    (others : ∀ other, other ≠ index → after.sharedSys other = model.sharedSys other)
    (promptText : (after.sharedSys index).promptText = (model.sharedSys index).promptText)
    (seqId : (after.sharedSys index).seqId = (model.sharedSys index).seqId)
    (tokenCount : (after.sharedSys index).tokenCount = (model.sharedSys index).tokenCount) :
    PrefixesStored config after := by
  intro other prompt stored
  rw [memory]
  by_cases same : other = index
  · subst same
    rw [promptText] at stored
    rw [seqId, tokenCount]
    exact prefixes other prompt stored
  · rw [others other same] at stored ⊢
    exact prefixes other prompt stored

theorem sharedSys_touched (model : LlmModel) (index : Fin kMaxSharedSys) :
    (touched index model).sharedSys index =
      { model.sharedSys index with lastAccess := model.prefixClock + 1 } :=
  sharedSys_storeSharedSys ..

theorem PrefixesStored.touched {model : LlmModel} (prefixes : PrefixesStored config model)
    (index : Fin kMaxSharedSys) : PrefixesStored config (touched index model) := by
  have here := sharedSys_touched model index
  refine prefixes.rewrite index rfl ?_ ?_ ?_ ?_
  · intro other different
    exact sharedSys_storeSharedSys_other _ _ different
  · rw [here]
  · rw [here]
  · rw [here]

/-- What caching a prefix does: it fails, or the slot it names is filled. -/
structure Cached (config : LoadedConfig) (before : LlmModel)
    (slot : Option (Fin kMaxSharedSys)) (after : LlmModel) : Prop where
  kept : PrivateKept config before after
  prefixes : PrefixesStored config after
  filled : ∀ index, slot = some index → (after.sharedSys index).promptText ≠ none

theorem SlotOpen.failed {index : Fin kMaxSharedSys} {before after : LlmModel}
    (slot : SlotOpen config index before after) : Cached config before none after :=
  ⟨slot.kept, slot.prefixes, nofun⟩

theorem SlotOpen.cleared {index : Fin kMaxSharedSys} {before after : LlmModel}
    (slot : SlotOpen config index before after) (positions : Finset Nat) :
    SlotOpen config index before (storeMemory (sharedSeqId config index) positions after) :=
  slot.onlyMemory (onlyMemory_store after _ positions)

/-- The slot is filled with the prefix that its sequence holds. -/
theorem SlotOpen.fill {index : Fin kMaxSharedSys} {before after : LlmModel}
    (slot : SlotOpen config index before after) (tokenCount : Nat) (prompt : CString)
    (stored : after.memory (sharedSeqId config index) = Finset.range tokenCount) :
    Cached config before (some index)
      (storeSharedSys index
        { seqId := sharedSeqId config index, tokenCount, promptText := some prompt } after) := by
  have here := sharedSys_storeSharedSys after index
    { seqId := sharedSeqId config index, tokenCount, promptText := some prompt }
  refine ⟨⟨slot.kept.memory, slot.kept.seqStates⟩, ?_, ?_⟩
  · intro other text present
    by_cases same : other = index
    · subst same
      rw [here]
      exact ⟨rfl, stored⟩
    · rw [sharedSys_storeSharedSys_other after _ same] at present ⊢
      exact slot.others other text same present
  · intro other same
    cases same
    rw [here]
    exact nofun

theorem Cached.touched {before after : LlmModel} {slot : Option (Fin kMaxSharedSys)}
    (cached : Cached config before slot after) (index : Fin kMaxSharedSys) :
    Cached config before slot (touched index after) := by
  refine ⟨⟨cached.kept.memory, cached.kept.seqStates⟩, cached.prefixes.touched index, ?_⟩
  intro other named
  by_cases same : other = index
  · subst same
    rw [sharedSys_touched]
    exact cached.filled other named
  · have unchanged : (LlmModel.touched index after).sharedSys other = after.sharedSys other :=
      sharedSys_storeSharedSys_other _ _ same
    rw [unchanged]
    exact cached.filled other named

theorem cacheSystemPrefix_spec (systemPrompt : CString) (start : LlmModel)
    (prefixes : PrefixesStored config start) :
    Triple (fun model => model = start) (cacheSystemPrefix config systemPrompt)
      fun slot after => Cached config start slot after := by
  apply Triple.bind (tokenizeAlloc_keeps _)
  intro count
  apply Triple.ite
  · intro refused
    apply Triple.pure
    intro model same
    subst same
    exact ⟨PrivateKept.refl model, prefixes, nofun⟩
  · intro accepted
    apply Triple.inspect_then
    apply Triple.bind (evictSharedSys_spec (selectSharedSysSlot start) start prefixes)
    intro evicted
    apply Triple.from_state
    intro emptied slot
    apply Triple.change_then
    have cleared := slot.cleared ∅
    apply Triple.bind (decodeTokens_spec false count.toNat _ 0 _)
    intro decoded
    apply Triple.from_state
    intro stored decoding
    have filling := cleared.onlyMemory decoding.only
    apply Triple.ite
    · intro failure
      apply Triple.change_then
      apply Triple.pure
      intro model same
      subst same
      exact (filling.cleared ∅).failed
    · intro success
      have positions := decoding.stored (not_not.mp success)
      rw [memory_storeMemory, Finset.empty_union, Nat.zero_add,
        ← Finset.range_eq_Ico] at positions
      apply Triple.bind (available_keeps _)
      intro copied
      apply Triple.ite
      · intro failure
        apply Triple.change_then
        apply Triple.pure
        intro model same
        subst same
        exact (filling.cleared ∅).failed
      · intro done
        apply Triple.change_then
        apply Triple.change_then
        apply Triple.change_then
        apply Triple.pure
        intro model same
        subst same
        have filled := (filling.fill count.toNat systemPrompt positions).touched
          (selectSharedSysSlot start)
        exact ⟨⟨filled.kept.memory, filled.kept.seqStates⟩, filled.prefixes, filled.filled⟩

theorem findOrCache_spec (systemPrompt : CString) (start : LlmModel)
    (prefixes : PrefixesStored config start) :
    Triple (fun model => model = start) (findOrCache config systemPrompt)
      fun slot after => Cached config start slot.1 after := by
  unfold findOrCache
  apply Triple.inspect_then
  cases search : findSharedSys start systemPrompt with
  | none =>
      apply Triple.bind (cacheSystemPrefix_spec systemPrompt start prefixes)
      intro slot
      exact Triple.pure _ fun _ cached => cached
  | some index =>
      apply Triple.pure
      intro model same
      subst same
      refine ⟨PrivateKept.refl model, prefixes, ?_⟩
      intro other same
      cases same
      have matched := List.find?_some search
      rw [of_decide_eq_true matched]
      exact nofun

end AgentNucleus.Top.LlmModel
