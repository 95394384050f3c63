/-
One inference.  A turn may fail or be cancelled at any call; what was stored
before it is kept until the end, where the rollback restores it or gives the
sequence up.
-/

import AgentNucleus.Top.KvAlignment

set_option autoImplicit false

namespace AgentNucleus.Top.LlmModel

open AgentNucleus.Library
open AgentNucleus.Runtime (CString)
open AgentNucleus.Library.Program (Triple)

variable {config : LoadedConfig} {seqId : Int} {base : LlmModel}

/-- During a turn of one sequence the others stay as they were. -/
structure Turning (config : LoadedConfig) (seqId : Int) (base model : LlmModel) : Prop where
  prefixes : PrefixesStored config model
  memory : ∀ other, IsPrivate config other → other ≠ seqId →
    model.memory other = base.memory other
  seqStates : ∀ other, other ≠ seqId → model.seqStates other = base.seqStates other

/-- The sequence holds exactly the positions that its state records. -/
structure Standing (config : LoadedConfig) (seqId : Int) (base : LlmModel) (state : SeqState)
    (model : LlmModel) : Prop extends Turning config seqId base model where
  recorded : model.seqStates seqId = state
  stored : model.memory seqId = Finset.range state.currentPos

theorem Turning.onlyMemory {middle after : LlmModel} (turning : Turning config seqId base middle)
    (found : IsPrivate config seqId) (only : OnlyMemory seqId middle after) :
    Turning config seqId base after := by
  refine ⟨?_, ?_, ?_⟩
  · intro index prompt stored
    rw [only.sharedSys] at stored ⊢
    rw [only.memory _ (found.ne_shared index)]
    exact turning.prefixes index prompt stored
  · intro other isPrivate different
    rw [only.memory other different, turning.memory other isPrivate different]
  · intro other different
    rw [only.seqStates, turning.seqStates other different]

theorem Turning.record {model : LlmModel} (turning : Turning config seqId base model)
    (state : SeqState) : Turning config seqId base (storeSeqState seqId state model) := by
  refine ⟨turning.prefixes, turning.memory, ?_⟩
  intro other different
  rw [seqStates_storeSeqState_other model state different, turning.seqStates other different]

theorem Turning.cached {middle after : LlmModel} {slot : Option (Fin kMaxSharedSys)}
    (turning : Turning config seqId base middle) (cached : Cached config middle slot after) :
    Turning config seqId base after := by
  refine ⟨cached.prefixes, ?_, ?_⟩
  · intro other isPrivate different
    rw [cached.kept.memory other isPrivate, turning.memory other isPrivate different]
  · intro other different
    rw [cached.kept.seqStates, turning.seqStates other different]

theorem Turning.touched {model : LlmModel} (turning : Turning config seqId base model)
    (index : Fin kMaxSharedSys) : Turning config seqId base (touched index model) :=
  ⟨turning.prefixes.touched index, turning.memory, turning.seqStates⟩

/-- The bookkeeping of a reused prefix. -/
theorem Turning.shared {model : LlmModel} (turning : Turning config seqId base model)
    (index : Fin kMaxSharedSys) (shareCount savedTokens : Nat) :
    Turning config seqId base
      (storeSharedSys index { model.sharedSys index with shareCount, savedTokens } model) := by
  have here := sharedSys_storeSharedSys model index
    { model.sharedSys index with shareCount, savedTokens }
  refine ⟨?_, turning.memory, turning.seqStates⟩
  refine turning.prefixes.rewrite index rfl ?_ ?_ ?_ ?_
  · intro other different
    exact sharedSys_storeSharedSys_other _ _ different
  · rw [here]
  · rw [here]
  · rw [here]

/-- The tail of a decoding inside a turn. -/
theorem decodeTokens_turn (found : IsPrivate config seqId) (cancellable : Bool)
    (tokenCount startPos : Nat) :
    Triple (fun model => Turning config seqId base model ∧
        model.memory seqId = Finset.range startPos)
      (decodeTokens config cancellable tokenCount seqId startPos)
      fun result model => Turning config seqId base model ∧
        Finset.range startPos ⊆ model.memory seqId ∧
        (result = 0 → model.memory seqId = Finset.range (startPos + tokenCount)) := by
  apply Triple.from_state
  intro start held
  obtain ⟨turning, stored⟩ := held
  apply (decodeTokens_spec cancellable tokenCount seqId startPos start).weaken
  intro result model decoded
  refine ⟨turning.onlyMemory found decoded.only, ?_, ?_⟩
  · intro position low
    rw [decoded.below position (Finset.mem_range.mp low), stored]
    exact low
  · intro success
    rw [decoded.stored success, stored, Finset.range_eq_Ico, Finset.range_eq_Ico,
      Finset.Ico_union_Ico_eq_Ico (Nat.zero_le _) (Nat.le_add_right ..)]

/-- The memory of a sequence with a range of another one copied into it. -/
def withCopy (source target : Int) (first last : Nat) (model : LlmModel) : LlmModel :=
  storeMemory target
    (model.memory target ∪
      (model.memory source).filter fun position => first ≤ position ∧ position < last) model

private theorem memoryCopy_eq (source target : Int) (first last : Nat) :
    memoryCopy source target first last = Program.change (withCopy source target first last) :=
  rfl

/-- A prefix copied into an empty sequence. -/
private theorem Turning.copied {model : LlmModel} (turning : Turning config seqId base model)
    (found : IsPrivate config seqId) (index : Fin kMaxSharedSys) (prompt : CString)
    (named : (model.sharedSys index).promptText = some prompt)
    (empty : model.memory seqId = ∅) :
    Standing config seqId base
      { currentPos := (model.sharedSys index).tokenCount, inUse := true }
      (storeSeqState seqId { currentPos := (model.sharedSys index).tokenCount, inUse := true }
        (withCopy (model.sharedSys index).seqId seqId 0 (model.sharedSys index).tokenCount
          model)) := by
  obtain ⟨place, held⟩ := turning.prefixes index prompt named
  have copied := (turning.onlyMemory found (onlyMemory_store model seqId
    (model.memory seqId ∪ (model.memory (model.sharedSys index).seqId).filter
      fun position => 0 ≤ position ∧ position < (model.sharedSys index).tokenCount)))
  refine ⟨copied.record _, seqStates_storeSeqState .., ?_⟩
  unfold withCopy
  change (storeMemory seqId _ model).memory seqId = _
  rw [memory_storeMemory, empty, Finset.empty_union, place, held]
  apply Finset.filter_true_of_mem
  intro position inside
  exact ⟨Nat.zero_le _, Finset.mem_range.mp inside⟩

private theorem useSharedPrefix_spec (found : IsPrivate config seqId) (request : LlmRequest)
    (sameSeq : request.seqId = seqId) (index : Fin kMaxSharedSys) (reused : Bool)
    (response : LlmResponse) :
    Triple (fun model => Turning config seqId base model ∧ model.memory seqId = ∅ ∧
        (model.sharedSys index).promptText ≠ none)
      (useSharedPrefix request index reused response)
      fun _ model => ∃ tokenCount,
        Standing config seqId base { currentPos := tokenCount, inUse := true } model := by
  apply Triple.from_state
  intro start held
  obtain ⟨turning, empty, filled⟩ := held
  obtain ⟨prompt, named⟩ := Option.ne_none_iff_exists'.mp filled
  have standing := (turning.touched index).copied found index prompt
    (by rw [sharedSys_touched]; exact named) empty
  unfold useSharedPrefix
  simp only [sameSeq, memoryCopy_eq]
  apply Triple.change_then
  apply Triple.inspect_then
  apply Triple.change_then
  apply Triple.change_then
  apply Triple.ite
  · intro shared
    apply Triple.change_then
    apply Triple.pure
    intro model same
    subst same
    exact ⟨_, standing.toTurning.shared index _ _, standing.recorded, standing.stored⟩
  · intro fresh
    apply Triple.pure
    intro model same
    subst same
    exact ⟨_, standing⟩

/-- The prefix of a turn failed, or the sequence holds it. -/
structure Prefixed (config : LoadedConfig) (seqId : Int) (base : LlmModel) (goesOn : Bool)
    (model : LlmModel) : Prop where
  turning : Turning config seqId base model
  standing : goesOn = true → ∃ tokenCount,
    Standing config seqId base { currentPos := tokenCount, inUse := true } model

private theorem decodeSystemPrompt_spec (found : IsPrivate config seqId) (request : LlmRequest)
    (sameSeq : request.seqId = seqId) (response : LlmResponse) :
    Triple (fun model => Turning config seqId base model ∧ model.memory seqId = ∅)
      (decodeSystemPrompt config request response)
      fun outcome model => Prefixed config seqId base outcome.1 model := by
  unfold decodeSystemPrompt
  simp only [sameSeq]
  apply Triple.bind (tokenizeAlloc_keeps _)
  intro systemCount
  apply Triple.ite
  · intro refused
    apply Triple.bind (requestCancelled_keeps _ _)
    intro cancelled
    apply Triple.pure
    intro model start
    exact ⟨start.1, nofun⟩
  · intro accepted
    apply Triple.bind ((decodeTokens_turn found request.cancellable systemCount.toNat 0).strengthen
      fun model start => ⟨start.1, start.2⟩)
    intro decoded
    apply Triple.ite
    · intro failure
      apply Triple.bind (requestCancelled_keeps _ _)
      intro cancelled
      apply Triple.pure
      intro model partly
      exact ⟨partly.1, nofun⟩
    · intro success
      apply Triple.from_state
      intro middle held
      obtain ⟨turning, _, stored⟩ := held
      apply Triple.change_then
      apply Triple.pure
      intro model same
      subst same
      refine ⟨turning.record _, fun _ => ⟨systemCount.toNat, turning.record _,
        seqStates_storeSeqState .., ?_⟩⟩
      change middle.memory seqId = _
      rw [stored (not_not.mp success), Nat.zero_add]

private theorem prefixPhase_spec (found : IsPrivate config seqId) (request : LlmRequest)
    (sameSeq : request.seqId = seqId) (systemPrompt : CString) (response : LlmResponse) :
    Triple (fun model => Turning config seqId base model ∧ model.memory seqId = ∅)
      (prefixPhase config request systemPrompt response)
      fun outcome model => Prefixed config seqId base outcome.1 model := by
  apply Triple.from_state
  intro start held
  obtain ⟨turning, empty⟩ := held
  unfold prefixPhase
  apply Triple.bind (findOrCache_spec systemPrompt start turning.prefixes)
  intro slot
  apply Triple.from_state
  intro middle cached
  have goesOn := turning.cached cached
  have stillEmpty : middle.memory seqId = ∅ := (cached.kept.memory seqId found).trans empty
  obtain ⟨_ | index, reused⟩ := slot
  · apply (decodeSystemPrompt_spec found request sameSeq response).strengthen
    intro model same
    subst same
    exact ⟨goesOn, stillEmpty⟩
  · apply Triple.bind ((useSharedPrefix_spec found request sameSeq index _ response).strengthen
        (by rintro model rfl; exact ⟨goesOn, stillEmpty, cached.filled index rfl⟩))
    intro used
    apply Triple.pure
    intro model held
    obtain ⟨tokenCount, standing⟩ := held
    exact ⟨standing.toTurning, fun _ => ⟨tokenCount, standing⟩⟩

/-- What a generation leaves: the positions before it in any case, and after a
success exactly the new ones, at most `limit` of them. -/
structure Generated (config : LoadedConfig) (seqId : Int) (base : LlmModel)
    (generationPos limit : Nat) (generation : Generation) (model : LlmModel) : Prop where
  turning : Turning config seqId base model
  kept : Finset.range generationPos ⊆ model.memory seqId
  stored : generation.result = 0 → model.memory seqId =
    Finset.range (generationPos + generation.generated + generation.boundaryTokens)
  bounded : generation.generated + generation.boundaryTokens ≤ limit

/-- A generation that has failed. -/
private theorem failedGeneration_spec (request : LlmRequest)
    {generationPos limit generated : Nat} (bounded : generated ≤ limit) (result : Int) :
    Triple (fun model => Turning config seqId base model ∧
        Finset.range generationPos ⊆ model.memory seqId)
      (failedGeneration request generated result)
      fun generation model => Generated config seqId base generationPos limit generation model := by
  apply Triple.bind (cancelledAfter_keeps _ request result)
  intro cancelled
  apply Triple.pure
  intro model held
  obtain ⟨turning, kept⟩ := held
  refine ⟨turning, kept, ?_, bounded⟩
  intro success
  change (if cancelled = true then (-2 : Int) else -1) = 0 at success
  split at success <;> cases success

private theorem range_subset_of {low high : Nat} {stored : Finset Nat} (below : low ≤ high)
    (inside : Finset.range high ⊆ stored) : Finset.range low ⊆ stored :=
  (Finset.range_subset_range.mpr below).trans inside

private theorem generateTokens_spec (found : IsPrivate config seqId) (request : LlmRequest)
    (sameSeq : request.seqId = seqId) (generationPos remaining : Nat) :
    ∀ generated : Nat,
      Triple (fun model => Turning config seqId base model ∧
          model.memory seqId = Finset.range (generationPos + generated))
        (generateTokens config request generationPos remaining generated)
        fun generation model =>
          Generated config seqId base generationPos (generated + remaining) generation model := by
  induction remaining with
  | zero =>
      intro generated
      apply Triple.pure
      intro model held
      obtain ⟨turning, stored⟩ := held
      refine ⟨turning, ?_, fun _ => stored, Nat.le_refl _⟩
      exact range_subset_of (Nat.le_add_right ..) stored.symm.subset
  | succ remaining ih =>
      intro generated
      have standing (model : LlmModel) (start : Turning config seqId base model ∧
          model.memory seqId = Finset.range (generationPos + generated)) :
          Turning config seqId base model ∧
            Finset.range generationPos ⊆ model.memory seqId :=
        ⟨start.1, range_subset_of (Nat.le_add_right ..) start.2.symm.subset⟩
      have decoding := @decodeTokens_turn config seqId base found request.cancellable 1
        (generationPos + generated)
      unfold generateTokens
      simp only [sameSeq]
      apply Triple.bind (requestCancelled_keeps _ request.cancellable)
      intro cancelled
      apply Triple.ite
      · intro now
        apply Triple.pure
        intro model start
        exact ⟨start.1, (standing model start).2, nofun, Nat.le_add_right ..⟩
      · intro goesOn
        apply Triple.ask_then
        intro sampled
        apply Triple.ite
        · intro ends
          apply Triple.bind decoding
          intro tokenResult
          apply Triple.ite
          · intro failure
            apply (failedGeneration_spec request (Nat.le_add_right ..) tokenResult).strengthen
            intro model held
            obtain ⟨turning, kept, _⟩ := held
            exact ⟨turning, range_subset_of (Nat.le_add_right ..) kept⟩
          · intro success
            apply Triple.pure
            intro model held
            obtain ⟨turning, kept, stored⟩ := held
            refine ⟨turning, range_subset_of (Nat.le_add_right ..) kept, ?_, ?_⟩
            · exact fun _ => stored (not_not.mp success)
            · change generated + 1 ≤ generated + (remaining + 1)
              omega
        · intro continues
          apply Triple.bind (available_keeps _)
          intro appended
          apply Triple.ite
          · intro missing
            apply Triple.pure
            intro model start
            exact ⟨start.1, (standing model start).2, nofun, Nat.le_add_right ..⟩
          · intro present
            apply Triple.bind decoding
            intro tokenResult
            apply Triple.ite
            · intro failure
              apply (failedGeneration_spec request (Nat.le_add_right ..) tokenResult).strengthen
              intro model held
              obtain ⟨turning, kept, _⟩ := held
              exact ⟨turning, range_subset_of (Nat.le_add_right ..) kept⟩
            · intro success
              have next := ih (generated + 1)
              rw [Nat.add_right_comm generated 1 remaining] at next
              apply next.strengthen
              intro model held
              obtain ⟨turning, _, stored⟩ := held
              exact ⟨turning, stored (not_not.mp success)⟩

private theorem closeTurn_spec (found : IsPrivate config seqId) (request : LlmRequest)
    (sameSeq : request.seqId = seqId) (generationPos limit : Nat) (generation : Generation) :
    Triple (Generated config seqId base generationPos limit generation)
      (closeTurn config request generationPos generation)
      fun closed model => Generated config seqId base generationPos
        (limit + if request.closeTurn then 1 else 0) closed model := by
  have unchanged (model : LlmModel)
      (same : Generated config seqId base generationPos limit generation model) :
      Generated config seqId base generationPos (limit + if request.closeTurn then 1 else 0)
        generation model :=
    ⟨same.turning, same.kept, same.stored, same.bounded.trans (Nat.le_add_right ..)⟩
  unfold closeTurn
  simp only [sameSeq]
  apply Triple.ite
  · intro held
    obtain ⟨noFailure, closes, open_⟩ := held
    rw [if_pos closes]
    apply Triple.bind (available_keeps _)
    intro boundary
    apply Triple.ite
    · intro missing
      apply Triple.pure
      intro model same
      have result := unchanged model same
      rw [if_pos closes] at result
      exact result
    · intro present
      apply Triple.from_state
      intro start generated
      have stored := generated.stored noFailure
      rw [open_, Nat.add_zero] at stored
      have bounded := generated.bounded
      rw [open_, Nat.add_zero] at bounded
      apply Triple.bind ((decodeTokens_turn found request.cancellable 1
        (generationPos + generation.generated)).strengthen
          (by rintro model rfl; exact ⟨generated.turning, stored⟩))
      intro boundaryResult
      apply Triple.ite
      · intro failure
        apply (failedGeneration_spec request (bounded.trans (Nat.le_add_right ..))
          boundaryResult).strengthen
        intro model held
        obtain ⟨turning, kept, _⟩ := held
        exact ⟨turning, range_subset_of (Nat.le_add_right ..) kept⟩
      · intro success
        apply Triple.pure
        intro model held
        obtain ⟨turning, kept, last⟩ := held
        refine ⟨turning, range_subset_of (Nat.le_add_right ..) kept, ?_, ?_⟩
        · exact fun _ => last (not_not.mp success)
        · exact Nat.succ_le_succ bounded
  · intro otherwise
    exact Triple.pure _ unchanged

/-- The end of a turn before the cleanup. -/
structure Ended (config : LoadedConfig) (seqId : Int) (base : LlmModel) (kept : Nat)
    (result : Int) (model : LlmModel) : Prop where
  turning : Turning config seqId base model
  kept : Finset.range kept ⊆ model.memory seqId
  finished : result = 0 → (model.seqStates seqId).inUse = true ∧
    AlignedAt config (model.seqStates seqId) (model.memory seqId)

theorem alignedAt_inUse {state : SeqState} {stored : Finset Nat}
    (used : state.inUse = true) (exact : stored = Finset.range state.currentPos)
    (positive : 0 < state.currentPos) (fits : state.currentPos ≤ config.nCtx) :
    AlignedAt config state stored := by
  unfold AlignedAt
  rw [if_pos used]
  exact ⟨exact, positive, fits⟩

theorem alignedAt_empty : AlignedAt config {} ∅ := by
  unfold AlignedAt
  exact ⟨rfl, rfl⟩

private theorem generationPhase_spec (found : IsPrivate config seqId) (request : LlmRequest)
    (sameSeq : request.seqId = seqId) (maxTokens promptCount generationPos : Nat)
    (positive : 0 < generationPos)
    (fits : generationPos + (maxTokens + if request.closeTurn then 1 else 0) ≤ config.nCtx)
    (response : LlmResponse) :
    Triple (fun model => Turning config seqId base model ∧
        model.memory seqId = Finset.range generationPos)
      (generationPhase config request maxTokens promptCount generationPos response)
      fun outcome model => Ended config seqId base generationPos outcome.1 model := by
  unfold generationPhase
  simp only [sameSeq]
  apply Triple.bind (available_keeps _)
  intro allocated
  apply Triple.ite
  · intro missing
    apply Triple.pure
    intro model start
    exact ⟨start.1, start.2.symm.subset, nofun⟩
  · intro present
    apply Triple.bind (available_keeps _)
    intro sampler
    apply Triple.ite
    · intro missing
      apply Triple.pure
      intro model start
      exact ⟨start.1, start.2.symm.subset, nofun⟩
    · intro sampling
      apply Triple.bind (generateTokens_spec found request sameSeq generationPos maxTokens 0)
      intro loop
      rw [Nat.zero_add]
      apply Triple.bind (closeTurn_spec found request sameSeq generationPos maxTokens loop)
      intro generation
      apply Triple.ite
      · intro failure
        apply Triple.pure
        intro model generated
        exact ⟨generated.turning, generated.kept, fun now => absurd now failure⟩
      · intro success
        apply Triple.from_state
        intro middle generated
        have bounded := generated.bounded
        have stored := generated.stored (not_not.mp success)
        apply Triple.change_then
        apply Triple.ask_then
        intro size
        apply Triple.pure
        intro model same
        subst same
        refine ⟨generated.turning.record _, generated.kept, fun _ => ?_⟩
        rw [seqStates_storeSeqState]
        refine ⟨rfl, alignedAt_inUse rfl stored ?_ ?_⟩
        · exact positive.trans_le (Nat.le_add_right_of_le (Nat.le_add_right ..))
        · change generationPos + generation.generated + generation.boundaryTokens ≤ _
          omega

/-- The capacity test covers the boundary token. -/
private theorem capacity_of_room {config : LoadedConfig} {currentPos maxTokens : Nat}
    {promptCount : Int} {closes : Bool}
    (room : ¬(config.nCtx : Int) < currentPos + promptCount + maxTokens +
      (if closes then 1 else 0)) (positive : ¬promptCount ≤ 0) :
    currentPos + promptCount.toNat + (maxTokens + if closes then 1 else 0) ≤ config.nCtx := by
  cases closes with
  | false =>
      rw [if_neg Bool.false_ne_true] at room ⊢
      omega
  | true =>
      rw [if_pos rfl] at room ⊢
      omega

private theorem promptPhase_spec (found : IsPrivate config seqId) (request : LlmRequest)
    (sameSeq : request.seqId = seqId) (maxTokens : Nat) (response : LlmResponse)
    (state : SeqState) :
    Triple (Standing config seqId base state) (promptPhase config request maxTokens response)
      fun outcome model => Ended config seqId base state.currentPos outcome.1 model := by
  apply Triple.from_state
  intro start standing
  unfold promptPhase
  simp only [sameSeq]
  apply Triple.inspect_then
  rw [standing.recorded]
  apply Triple.bind (tokenizeAlloc_keeps _)
  intro promptCount
  apply Triple.ite
  · intro refused
    apply Triple.pure
    intro model same
    subst same
    exact ⟨standing.toTurning, standing.stored.symm.subset, nofun⟩
  · intro accepted
    apply Triple.bind ((decodeTokens_turn found request.cancellable promptCount.toNat
      state.currentPos).strengthen
        (by rintro model rfl; exact ⟨standing.toTurning, standing.stored⟩))
    intro decodeResult
    apply Triple.ite
    · intro failure
      apply Triple.bind (cancelledAfter_keeps _ request decodeResult)
      intro cancelled
      apply Triple.pure
      intro model held
      obtain ⟨turning, kept, _⟩ := held
      exact ⟨turning, kept, nofun⟩
    · intro success
      have room : ¬(config.nCtx : Int) < state.currentPos + promptCount + maxTokens +
          (if request.closeTurn then 1 else 0) := fun exceeded => accepted (Or.inr exceeded)
      have some_ : ¬promptCount ≤ 0 := fun none_ => accepted (Or.inl none_)
      have generating := @generationPhase_spec config seqId base found request sameSeq maxTokens
        promptCount.toNat (state.currentPos + promptCount.toNat) (by omega)
        (capacity_of_room room some_) response
      apply (generating.strengthen _).weaken
      · intro outcome model ended
        exact ⟨ended.turning, range_subset_of (Nat.le_add_right ..) ended.kept, ended.finished⟩
      · intro model held
        obtain ⟨turning, _, stored⟩ := held
        exact ⟨turning, stored (not_not.mp success)⟩

private theorem turn_spec (found : IsPrivate config seqId) (request : LlmRequest)
    (sameSeq : request.seqId = seqId) (maxTokens : Nat) (response : LlmResponse)
    (original : SeqState) (first : request.isFirstTurn = true → original = {}) :
    Triple (Standing config seqId base original) (turn config request maxTokens response)
      fun outcome model => Ended config seqId base original.currentPos outcome.1 model := by
  unfold turn
  apply Triple.ite
  · intro held
    obtain ⟨firstTurn, _⟩ := held
    have nothing := first firstTurn
    subst nothing
    apply Triple.bind ((prefixPhase_spec found request sameSeq _ response).strengthen
      fun model standing => ⟨standing.toTurning, standing.stored⟩)
    intro goesOn
    apply Triple.ite
    · intro success
      apply Triple.from_state
      intro start prefixed
      obtain ⟨tokenCount, standing⟩ := prefixed.standing success
      apply ((promptPhase_spec found request sameSeq maxTokens goesOn.2 _).strengthen
        (by rintro model rfl; exact standing)).weaken
      intro outcome model ended
      exact ⟨ended.turning, Finset.empty_subset _, ended.finished⟩
    · intro failure
      apply Triple.pure
      intro model prefixed
      exact ⟨prefixed.turning, Finset.empty_subset _, nofun⟩
  · intro later
    exact promptPhase_spec found request sameSeq maxTokens response original

/-! ### The cleanup -/

theorem Turning.start (seqId : Int) {model : LlmModel} (prefixes : PrefixesStored config model) :
    Turning config seqId model model :=
  ⟨prefixes, fun _ _ _ => rfl, fun _ _ => rfl⟩

/-- The sequence of a turn is aligned again. -/
theorem Turning.aligned {model : LlmModel} (turning : Turning config seqId base model)
    (before : Aligned config base)
    (here : AlignedAt config (model.seqStates seqId) (model.memory seqId)) :
    Aligned config model := by
  constructor
  · intro other found
    by_cases same : other = seqId
    · rw [same]
      exact here
    · rw [turning.memory other found same, turning.seqStates other same]
      exact before.sequences other found
  · exact turning.prefixes

/-- What the cleanup leaves of the sequence. -/
structure RolledBack (config : LoadedConfig) (seqId : Int) (base : LlmModel)
    (original : SeqState) (model : LlmModel) : Prop where
  turning : Turning config seqId base model
  aligned : AlignedAt config (model.seqStates seqId) (model.memory seqId)
  restored : model.seqStates seqId = original ∨ model.seqStates seqId = {}

theorem RolledBack.given_up (found : IsPrivate config seqId) (original : SeqState)
    {model : LlmModel} (turning : Turning config seqId base model) :
    RolledBack config seqId base original (storeSeqState seqId {} (storeMemory seqId ∅ model)) := by
  have cleared := turning.onlyMemory found (onlyMemory_store model seqId ∅)
  have recorded := seqStates_storeSeqState (storeMemory seqId ∅ model) seqId {}
  refine ⟨cleared.record {}, ?_, Or.inr recorded⟩
  rw [recorded]
  change AlignedAt config {} ((storeMemory seqId ∅ model).memory seqId)
  rw [memory_storeMemory]
  exact alignedAt_empty

private theorem memoryRemoveFrom_spec (first : Nat) (start : LlmModel) :
    Triple (fun model => model = start) (memoryRemoveFrom seqId first)
      fun removed model => if removed then
          model = storeMemory seqId
            ((start.memory seqId).filter fun position => position < first) start
        else model = start := by
  apply Triple.ask_then
  intro answer
  apply Triple.ite
  · intro succeeded
    apply Triple.inspect_then
    apply Triple.change_then
    exact Triple.pure _ fun _ same => same
  · intro failed
    exact Triple.pure _ fun _ same => same

private theorem rollBack_spec (found : IsPrivate config seqId) (original : SeqState)
    (stored : Finset Nat) (recorded : AlignedAt config original stored) :
    Triple (fun model => Turning config seqId base model ∧
        Finset.range original.currentPos ⊆ model.memory seqId)
      (rollBack seqId original)
      fun _ model => RolledBack config seqId base original model := by
  apply Triple.from_state
  intro start ending
  obtain ⟨turning, kept⟩ := ending
  apply Triple.bind (memoryRemoveFrom_spec original.currentPos start)
  intro rolledBack
  cases rolledBack with
  | false =>
      apply Triple.change_then
      apply Triple.change
      intro model same
      cases same
      exact RolledBack.given_up found original turning
  | true =>
      have removed := turning.onlyMemory found (onlyMemory_store start seqId
        ((start.memory seqId).filter fun position => position < original.currentPos))
      apply Triple.ite
      · intro unused
        apply Triple.change_then
        apply Triple.change
        intro model same
        cases same
        exact RolledBack.given_up found original removed
      · intro used
        have inUse : original.inUse = true := by
          cases flag : original.inUse with
          | false => exact absurd (by rw [flag]; rfl) used
          | true => rfl
        obtain ⟨currentPos, flag⟩ := original
        cases inUse
        unfold AlignedAt at recorded
        rw [if_pos rfl] at recorded
        apply Triple.change
        intro model same
        rw [if_pos rfl] at same
        cases same
        have now := seqStates_storeSeqState (storeMemory seqId
          ((start.memory seqId).filter fun position => position < currentPos) start) seqId
          { currentPos, inUse := true }
        refine ⟨removed.record _, ?_, Or.inl now⟩
        rw [now]
        apply alignedAt_inUse rfl _ recorded.2.1 recorded.2.2
        change (storeMemory seqId _ start).memory seqId = _
        rw [memory_storeMemory]
        apply Finset.ext
        intro position
        rw [Finset.mem_filter, Finset.mem_range]
        constructor
        · exact And.right
        · intro low
          exact ⟨kept (Finset.mem_range.mpr low), low⟩

private theorem alignedAt_range {state : SeqState} {stored : Finset Nat}
    (aligned : AlignedAt config state stored) : stored = Finset.range state.currentPos := by
  unfold AlignedAt at aligned
  split at aligned
  · exact aligned.1
  · rw [aligned.1, aligned.2, Finset.range_zero]

theorem AlignedAt.idle {state : SeqState} {stored : Finset Nat}
    (aligned : AlignedAt config state stored) (unused : state.inUse = false) :
    state = {} ∧ stored = ∅ := by
  unfold AlignedAt at aligned
  rw [unused, if_neg Bool.false_ne_true] at aligned
  obtain ⟨currentPos, inUse⟩ := state
  cases unused
  cases aligned.1
  exact ⟨rfl, aligned.2⟩

/-- A turn returns to a state that was aligned. -/
structure Started (config : LoadedConfig) (seqId : Int) (base : LlmModel)
    (request : LlmRequest) (original : SeqState) (model : LlmModel) : Prop where
  standing : Standing config seqId base original model
  recorded : ∃ stored, AlignedAt config original stored
  first : request.isFirstTurn = true → original = {}
  unused : base.seqStates seqId = {} → original = {}

private theorem startTurn_spec (found : IsPrivate config seqId) (request : LlmRequest)
    (sameSeq : request.seqId = seqId) (aligned : Aligned config base) :
    Triple (fun model => model = base) (startTurn request)
      (Started config seqId base request) := by
  have turning := Turning.start seqId aligned.prefixes
  unfold startTurn
  rw [sameSeq]
  apply Triple.ite
  · intro firstTurn
    apply Triple.change_then
    apply Triple.change_then
    apply Triple.pure
    intro model same
    cases same
    have cleared := turning.onlyMemory found (onlyMemory_store base seqId ∅)
    refine ⟨⟨cleared.record {}, seqStates_storeSeqState .., ?_⟩, ⟨∅, alignedAt_empty⟩,
      fun _ => rfl, fun _ => rfl⟩
    exact memory_storeMemory ..
  · intro later
    apply Triple.inspect
    intro model same
    cases same
    have here := aligned.sequences seqId found
    exact ⟨⟨turning, rfl, alignedAt_range here⟩, ⟨_, here⟩, fun now => absurd now later, id⟩

/-- What an inference leaves, whatever happened in it. -/
structure Served (config : LoadedConfig) (seqId : Int) (base : LlmModel) (result : Int)
    (model : LlmModel) : Prop where
  aligned : Aligned config model
  others : ∀ other, other ≠ seqId → model.seqStates other = base.seqStates other
  finished : result = 0 → (model.seqStates seqId).inUse = true
  failed : result ≠ 0 → base.seqStates seqId = {} → model.seqStates seqId = {}

theorem Served.untouched (aligned : Aligned config base) {result : Int} (failure : result ≠ 0) :
    Served config seqId base result base :=
  ⟨aligned, fun _ _ => rfl, fun success => absurd success failure, fun _ unused => unused⟩

theorem llmInference_spec (request : LlmRequest) (aligned : Aligned config base) :
    Triple (fun model => model = base) (llmInference config request)
      fun outcome model => Served config request.seqId base outcome.1 model := by
  unfold llmInference
  apply Triple.ite
  · intro outside
    apply Triple.pure
    intro model same
    cases same
    exact Served.untouched aligned (by decide)
  · intro inside
    have found : IsPrivate config request.seqId := by
      unfold IsPrivate
      omega
    apply Triple.bind (requestCancelled_keeps _ _)
    intro cancelled
    apply Triple.ite
    · intro now
      apply Triple.pure
      intro model same
      cases same
      have failure : (-2 : Int) ≠ 0 := by decide
      exact Served.untouched aligned failure
    · intro goesOn
      apply Triple.bind (startTurn_spec found request rfl aligned)
      intro original
      apply Triple.from_state
      intro start started
      obtain ⟨stored, recorded⟩ := started.recorded
      have running := @turn_spec config request.seqId base found request rfl
        (effectiveMaxTokens config request) { seqId := request.seqId } original started.first
      apply Triple.bind (running.strengthen (by
        intro model same
        rw [same]
        exact started.standing))
      intro outcome
      apply Triple.ite
      · intro failure
        apply Triple.bind ((rollBack_spec found original stored recorded).strengthen
          fun model ended => ⟨ended.turning, ended.kept⟩)
        intro nothing
        apply Triple.pure
        intro model back
        refine ⟨back.turning.aligned aligned back.aligned, back.turning.seqStates, ?_, ?_⟩
        · intro success
          exact absurd success failure
        · intro _ unused
          rcases back.restored with same | emptied
          · rw [same, started.unused unused]
          · exact emptied
      · intro success
        have done := not_not.mp success
        apply Triple.pure
        intro model ended
        obtain ⟨used, here⟩ := ended.finished done
        refine ⟨ended.turning.aligned aligned here, ended.turning.seqStates, fun _ => used, ?_⟩
        intro failure
        exact absurd done failure

end AgentNucleus.Top.LlmModel
