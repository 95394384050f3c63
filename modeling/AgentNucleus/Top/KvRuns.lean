/-
Every operation keeps the stored positions and the recorded ones aligned, and so
does every run in which a restore only brings back what a checkpoint produced.
-/

import AgentNucleus.Library.Machine
import AgentNucleus.Top.KvTurns

set_option autoImplicit false

namespace AgentNucleus.Top.LlmModel

open AgentNucleus.Library
open AgentNucleus.Runtime (CString)
open AgentNucleus.Library.Program (Triple)

variable {config : LoadedConfig} {seqId : Int} {base : LlmModel}

/-- A change that leaves every private sequence and every prefix. -/
theorem PrivateKept.aligned {model : LlmModel} (kept : PrivateKept config base model)
    (aligned : Aligned config base) (prefixes : PrefixesStored config model) :
    Aligned config model := by
  constructor
  · intro seqId found
    rw [kept.memory seqId found, kept.seqStates]
    exact aligned.sequences seqId found
  · exact prefixes

theorem llmWarmupSharedKv_spec (systemPrompt : Option CString) (cancellable : Bool)
    (aligned : Aligned config base) :
    Triple (fun model => model = base) (llmWarmupSharedKv config systemPrompt cancellable)
      fun _ model => Aligned config model ∧ model.seqStates = base.seqStates := by
  have unchanged (model : LlmModel) (same : model = base) :
      Aligned config model ∧ model.seqStates = base.seqStates := by
    cases same
    exact ⟨aligned, rfl⟩
  apply Triple.ite
  · intro missing
    exact Triple.pure _ unchanged
  · intro present
    apply Triple.bind (requestCancelled_keeps _ _)
    intro cancelled
    apply Triple.ite
    · intro now
      exact Triple.pure _ unchanged
    · intro goesOn
      apply Triple.bind (findOrCache_spec _ base aligned.prefixes)
      intro shared
      have kept (model : LlmModel) (cached : Cached config base shared.1 model) :
          Aligned config model ∧ model.seqStates = base.seqStates :=
        ⟨cached.kept.aligned aligned cached.prefixes, cached.kept.seqStates⟩
      obtain ⟨_ | index, reused⟩ := shared
      · apply Triple.bind (requestCancelled_keeps _ _)
        intro cancelledNow
        exact Triple.pure _ kept
      · apply Triple.bind (requestCancelled_keeps _ _)
        intro cancelledNow
        apply Triple.ite
        · intro late
          exact Triple.pure _ kept
        · intro inTime
          apply Triple.from_state
          intro middle cached
          apply Triple.change_then
          apply Triple.inspect
          intro model same
          cases same
          exact kept _ (cached.touched index)

/-- A sequence that is empty and unused. -/
private theorem cleared_spec (found : IsPrivate config seqId) (aligned : Aligned config base) :
    Aligned config (storeSeqState seqId {} (storeMemory seqId ∅ base)) := by
  have given := RolledBack.given_up found {} (Turning.start seqId aligned.prefixes)
  exact given.turning.aligned aligned given.aligned

theorem llmClearSeq_spec (seqId : Int) (aligned : Aligned config base) :
    Triple (fun model => model = base) (llmClearSeq config seqId)
      fun _ model => Aligned config model ∧
        (∀ other, other ≠ seqId → model.seqStates other = base.seqStates other) ∧
        (IsPrivate config seqId → model.seqStates seqId = {}) := by
  apply Triple.ite
  · intro outside
    apply Triple.pure
    intro model same
    cases same
    refine ⟨aligned, fun _ _ => rfl, ?_⟩
    intro found
    unfold IsPrivate at found
    omega
  · intro inside
    have found : IsPrivate config seqId := by
      unfold IsPrivate
      omega
    apply Triple.change_then
    apply Triple.change
    intro model same
    cases same
    refine ⟨cleared_spec found aligned, ?_, fun _ => seqStates_storeSeqState ..⟩
    intro other different
    exact seqStates_storeSeqState_other _ _ different

/-- What a file of a checkpoint holds. -/
structure Checkpoint.Sound (config : LoadedConfig) (checkpoint : Checkpoint) : Prop where
  positions : checkpoint.positions = Finset.range checkpoint.position
  positive : 0 < checkpoint.position
  fits : checkpoint.position ≤ config.nCtx

theorem llmCheckpointSeq_spec (seqId : Int) (aligned : Aligned config base) :
    Triple (fun model => model = base) (llmCheckpointSeq config seqId)
      fun saved model => model = base ∧ ∀ checkpoint bytes,
        saved = some (checkpoint, bytes) → checkpoint.Sound config ∧
          (base.seqStates seqId).inUse = true ∧
          checkpoint.position = (base.seqStates seqId).currentPos := by
  have nothing (model : LlmModel) (same : model = base) :
      model = base ∧ ∀ checkpoint bytes, (none : Option (Checkpoint × UInt64)) =
        some (checkpoint, bytes) → checkpoint.Sound config ∧
          (base.seqStates seqId).inUse = true ∧
          checkpoint.position = (base.seqStates seqId).currentPos :=
    ⟨same, nofun⟩
  apply Triple.ite
  · intro outside
    exact Triple.pure _ nothing
  · intro inside
    have found : IsPrivate config seqId := by
      unfold IsPrivate
      omega
    apply Triple.inspect_then
    apply Triple.ite
    · intro unused
      exact Triple.pure _ nothing
    · intro used
      apply Triple.ask_then
      intro answer
      apply Triple.ite
      · intro failed
        exact Triple.pure _ nothing
      · intro written
        apply Triple.inspect_then
        apply Triple.pure
        intro model same
        refine ⟨same, ?_⟩
        intro checkpoint bytes produced
        cases produced
        have here := aligned.sequences seqId found
        have inUse : (base.seqStates seqId).inUse = true := by
          by_contra idle
          exact used (by rw [Bool.eq_false_of_not_eq_true idle]; rfl)
        unfold AlignedAt at here
        rw [if_pos inUse] at here
        exact ⟨⟨here.1, here.2.1, here.2.2⟩, inUse, rfl⟩

/-- A restore of what a checkpoint produced, into a sequence that is not in use. -/
theorem llmRestoreSeq_spec (seqId : Int) (aligned : Aligned config base)
    (unused : (base.seqStates seqId).inUse = false) (file : Option (Finset Nat))
    (position : Nat)
    (sound : ∀ positions, file = some positions →
      Checkpoint.Sound config { positions, position }) :
    Triple (fun model => model = base) (llmRestoreSeq config seqId file position)
      fun restored model => Aligned config model ∧
        (∀ other, other ≠ seqId → model.seqStates other = base.seqStates other) ∧
        model.seqStates seqId = (if restored then { currentPos := position, inUse := true }
          else base.seqStates seqId) ∧
        (restored = true → ∃ positions, file = some positions) := by
  apply Triple.ite
  · intro refused
    apply Triple.pure
    intro model same
    cases same
    exact ⟨aligned, fun _ _ => rfl, rfl, nofun⟩
  · intro accepted
    have found : IsPrivate config seqId := by
      unfold IsPrivate
      omega
    have idle := (aligned.sequences seqId found).idle unused
    have turning := Turning.start seqId aligned.prefixes
    have emptied {model : LlmModel} (only : OnlyMemory seqId base model) :
        Aligned config (storeMemory seqId ∅ model) ∧
          (∀ other, other ≠ seqId →
            (storeMemory seqId ∅ model).seqStates other = base.seqStates other) ∧
          (storeMemory seqId ∅ model).seqStates seqId = base.seqStates seqId := by
      have after := turning.onlyMemory found (only.trans (onlyMemory_store model seqId ∅))
      have states : (storeMemory seqId ∅ model).seqStates = base.seqStates := only.seqStates
      refine ⟨after.aligned aligned ?_, after.seqStates, by rw [states]⟩
      rw [states, memory_storeMemory, idle.1]
      exact alignedAt_empty
    apply Triple.change_then
    apply Triple.ask_then
    intro answer
    cases file with
    | none =>
        apply Triple.change_then
        apply Triple.pure
        intro model same
        cases same
        obtain ⟨here, others, state⟩ := emptied (onlyMemory_store base seqId ∅)
        exact ⟨here, others, state, nofun⟩
    | some positions =>
        have cleared := onlyMemory_store base seqId ∅
        apply Triple.ite
        · intro loaded
          apply Triple.change_then
          apply Triple.change_then
          apply Triple.pure
          intro model same
          cases same
          have stored := turning.onlyMemory found (cleared.trans (onlyMemory_store
            (storeMemory seqId ∅ base) seqId positions))
          have recorded := seqStates_storeSeqState
            (storeMemory seqId positions (storeMemory seqId ∅ base)) seqId
            { currentPos := position, inUse := true }
          have held := sound positions rfl
          refine ⟨(stored.record _).aligned aligned ?_, (stored.record _).seqStates, recorded,
            fun _ => ⟨positions, rfl⟩⟩
          rw [recorded]
          apply alignedAt_inUse rfl _ held.positive held.fits
          change (storeMemory seqId positions _).memory seqId = _
          rw [memory_storeMemory]
          exact held.positions
        · intro failed
          apply Triple.change_then
          apply Triple.change_then
          apply Triple.pure
          intro model same
          cases same
          obtain ⟨here, others, state⟩ :=
            emptied (cleared.trans (onlyMemory_store (storeMemory seqId ∅ base) seqId _))
          exact ⟨here, others, state, nofun⟩

/-! ### Runs -/

/-- A call, and with it what everything outside answers during the call. -/
inductive KvCall
  | inference (request : LlmRequest)
  | warmup (systemPrompt : Option CString) (cancellable : Bool)
  | clear (seqId : Int)
  | checkpoint (seqId : Int)
  /-- The file may be missing. -/
  | restore (seqId : Int) (checkpoint : Checkpoint) (readable : Bool)

structure KvState where
  model : LlmModel := {}
  /-- Everything that a checkpoint has written. -/
  produced : List Checkpoint := []

variable (config)

def KvState.step (state : KvState) (operation : KvCall × Answers Answer) : KvState :=
  match operation.1 with
  | .inference request =>
      { state with model := (llmInference config request).after state.model operation.2 }
  | .warmup systemPrompt cancellable =>
      let warmup := llmWarmupSharedKv config systemPrompt cancellable
      { state with model := warmup.after state.model operation.2 }
  | .clear seqId =>
      { state with model := (llmClearSeq config seqId).after state.model operation.2 }
  | .checkpoint seqId =>
      let saved := (llmCheckpointSeq config seqId state.model operation.2).1
      { model := saved.2
        produced := (saved.1.map Prod.fst).toList ++ state.produced }
  | .restore seqId checkpoint readable =>
      let file := if readable then some checkpoint.positions else none
      let restore := llmRestoreSeq config seqId file checkpoint.position
      { state with model := restore.after state.model operation.2 }

def kvMachine : Machine KvState (KvCall × Answers Answer) where
  initial := {}
  step := KvState.step config

/-- A restore goes into a sequence that is not in use, and brings back what a
checkpoint produced. -/
def RestoresProduced (state : KvState) (operation : KvCall × Answers Answer) : Prop :=
  match operation.1 with
  | .restore seqId checkpoint _ =>
      (state.model.seqStates seqId).inUse = false ∧ checkpoint ∈ state.produced
  | _ => True

structure KvState.Sound (state : KvState) : Prop where
  aligned : Aligned config state.model
  produced : ∀ checkpoint ∈ state.produced, checkpoint.Sound config

variable {config}

theorem aligned_initial : Aligned config {} :=
  ⟨fun _ _ => alignedAt_empty, nofun⟩

private theorem KvState.Sound.step {state : KvState} (sound : state.Sound config)
    (operation : KvCall × Answers Answer) (guarded : RestoresProduced state operation) :
    (state.step config operation).Sound config := by
  obtain ⟨call, answers⟩ := operation
  have aligned := sound.aligned
  cases call with
  | inference request =>
      have served := (llmInference_spec request aligned).run _ answers rfl
      exact ⟨served.aligned, sound.produced⟩
  | warmup systemPrompt cancellable =>
      have warmed := (llmWarmupSharedKv_spec systemPrompt cancellable aligned).run _ answers rfl
      exact ⟨warmed.1, sound.produced⟩
  | clear seqId =>
      have cleared := (llmClearSeq_spec seqId aligned).run _ answers rfl
      exact ⟨cleared.1, sound.produced⟩
  | checkpoint seqId =>
      have saved := (llmCheckpointSeq_spec seqId aligned).run _ answers rfl
      constructor
      · change Aligned config (llmCheckpointSeq config seqId state.model answers).1.2
        rw [saved.1]
        exact aligned
      · intro checkpoint member
        rcases List.mem_append.mp member with new | old
        · obtain ⟨pair, written, same⟩ := Option.map_eq_some_iff.mp (Option.mem_toList.mp new)
          cases same
          exact (saved.2 pair.1 pair.2 written).1
        · exact sound.produced checkpoint old
  | restore seqId checkpoint readable =>
      obtain ⟨unused, member⟩ := guarded
      have restored := (llmRestoreSeq_spec seqId aligned unused
        (if readable then some checkpoint.positions else none) checkpoint.position (by
          intro positions present
          split at present
          · cases present
            exact sound.produced checkpoint member
          · cases present)).run _ answers rfl
      exact ⟨restored.1, sound.produced⟩

/-- Stored and recorded positions agree in every state of a run, for every private
sequence, whatever fails or is cancelled in between. -/
theorem positions_aligned (config : LoadedConfig) (operations : List (KvCall × Answers Answer))
    (restores : (kvMachine config).Along RestoresProduced (kvMachine config).initial operations) :
    (kvMachine config).Throughout (fun state => ∀ seqId, IsPrivate config seqId →
      AlignedAt config (state.model.seqStates seqId) (state.model.memory seqId))
      (kvMachine config).initial operations := by
  have start : (kvMachine config).initial.Sound config := ⟨aligned_initial, nofun⟩
  have sound := (kvMachine config).throughout_of_along (KvState.Sound config) RestoresProduced
    (fun _ operation sound guarded => sound.step operation guarded) _ operations start restores
  exact sound.mono fun state holds => holds.aligned.sequences

/-- A turn is saved, given up and brought back. -/
def savedTurn : List (KvCall × Answers Answer) :=
  [(.inference { seqId := 1, isFirstTurn := true }, fun _ => {}),
    (.checkpoint 1, fun _ => { bytes := 16 }),
    (.clear 1, fun _ => {}),
    (.restore 2 { positions := Finset.range 2, position := 2 } true, fun _ => {})]

def smallConfig : LoadedConfig :=
  { nCtx := 8, nBatch := 4, nSeqMax := 12, maxTokens := 1
    contextPositive := by decide
    batchPositive := by decide
    sequencesEnough := by decide
    tokensPositive := by decide }

theorem savedTurn_aligned : (kvMachine smallConfig).Throughout (fun state =>
    ∀ seqId, IsPrivate smallConfig seqId →
      AlignedAt smallConfig (state.model.seqStates seqId) (state.model.memory seqId))
    (kvMachine smallConfig).initial savedTurn := by
  apply positions_aligned
  refine ⟨trivial, trivial, trivial, ⟨?_, ?_⟩, trivial⟩
  · decide
  · decide

end AgentNucleus.Top.LlmModel
