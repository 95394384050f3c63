/-
The sequences of a model under other names.  A renaming keeps the sequences of the shared
prefixes and those out of range, and no operation of the model library can tell the
difference: it meets the same answers and comes to the same results.
-/

import AgentNucleus.Library.CoupledPrograms
import AgentNucleus.Top.LlamaModel
import Mathlib.Logic.Equiv.Basic

set_option autoImplicit false

namespace AgentNucleus.Top.LlmModel

open AgentNucleus.Library
open AgentNucleus.Library.Program (Coupled)
open AgentNucleus.Runtime (CString)

/-- Private sequences among themselves. -/
structure Renaming (config : LoadedConfig) where
  rename : Equiv.Perm Int
  fixed : ∀ seqId, seqId ≤ 0 ∨ privateSeqLimit config ≤ seqId → rename seqId = seqId

namespace Renaming

variable {config : LoadedConfig} (names : Renaming config)

def identity (config : LoadedConfig) : Renaming config where
  rename := Equiv.refl Int
  fixed := fun _ _ => rfl

theorem outside_iff (seqId : Int) :
    (seqId ≤ 0 ∨ privateSeqLimit config ≤ seqId) ↔
      (names.rename seqId ≤ 0 ∨ privateSeqLimit config ≤ names.rename seqId) := by
  constructor
  · intro outside
    rw [names.fixed seqId outside]
    exact outside
  · intro outside
    have same := names.rename.injective (names.fixed (names.rename seqId) outside)
    rw [same] at outside
    exact outside

theorem sharedSeqId_fixed (index : Fin kMaxSharedSys) :
    names.rename (sharedSeqId config index) = sharedSeqId config index := by
  apply names.fixed
  right
  unfold sharedSeqId privateSeqLimit
  have below := index.isLt
  omega

end Renaming

/-- The same model with other names for its private sequences. -/
structure Renamed {config : LoadedConfig} (names : Renaming config)
    (first second : LlmModel) : Prop where
  memory : ∀ seqId, second.memory (names.rename seqId) = first.memory seqId
  seqStates : ∀ seqId, second.seqStates (names.rename seqId) = first.seqStates seqId
  sharedSys : second.sharedSys = first.sharedSys
  shared : ∀ index,
    names.rename (first.sharedSys index).seqId = (first.sharedSys index).seqId
  sharedSysCount : second.sharedSysCount = first.sharedSysCount
  prefixClock : second.prefixClock = first.prefixClock
  prefixEvictions : second.prefixEvictions = first.prefixEvictions

namespace Renamed

variable {config : LoadedConfig} {names : Renaming config} {first second : LlmModel}

theorem empty (names : Renaming config) : Renamed names {} {} :=
  ⟨fun _ => rfl, fun _ => rfl, rfl, fun _ => names.fixed 0 (.inl (le_refl 0)), rfl, rfl, rfl⟩

theorem identity (model : LlmModel) : Renamed (Renaming.identity config) model model :=
  ⟨fun _ => rfl, fun _ => rfl, rfl, fun _ => rfl, rfl, rfl, rfl⟩

theorem storeMemory (renamed : Renamed names first second) (seqId : Int)
    (positions : Finset Nat) :
    Renamed names (storeMemory seqId positions first)
      (LlmModel.storeMemory (names.rename seqId) positions second) := by
  refine ⟨?_, renamed.seqStates, renamed.sharedSys, renamed.shared, renamed.sharedSysCount,
    renamed.prefixClock, renamed.prefixEvictions⟩
  intro other
  by_cases same : other = seqId
  · rw [same, memory_storeMemory, memory_storeMemory]
  · rw [memory_storeMemory_other first positions same,
      memory_storeMemory_other second positions fun equal =>
        same (names.rename.injective equal)]
    exact renamed.memory other

theorem storeSeqState (renamed : Renamed names first second) (seqId : Int)
    (state : SeqState) :
    Renamed names (storeSeqState seqId state first)
      (LlmModel.storeSeqState (names.rename seqId) state second) := by
  refine ⟨renamed.memory, ?_, renamed.sharedSys, renamed.shared, renamed.sharedSysCount,
    renamed.prefixClock, renamed.prefixEvictions⟩
  intro other
  by_cases same : other = seqId
  · rw [same, seqStates_storeSeqState, seqStates_storeSeqState]
  · rw [seqStates_storeSeqState_other first state same,
      seqStates_storeSeqState_other second state fun equal =>
        same (names.rename.injective equal)]
    exact renamed.seqStates other

theorem storeSharedSys (renamed : Renamed names first second) (index : Fin kMaxSharedSys)
    (entry : SharedSysEntry) (kept : names.rename entry.seqId = entry.seqId) :
    Renamed names (storeSharedSys index entry first)
      (LlmModel.storeSharedSys index entry second) := by
  refine ⟨renamed.memory, renamed.seqStates, ?_, ?_, renamed.sharedSysCount,
    renamed.prefixClock, renamed.prefixEvictions⟩
  · change Function.update second.sharedSys index entry = Function.update first.sharedSys _ _
    rw [renamed.sharedSys]
  · intro other
    by_cases same : other = index
    · rw [same, sharedSys_storeSharedSys]
      exact kept
    · rw [sharedSys_storeSharedSys_other first entry same]
      exact renamed.shared other

theorem counted (renamed : Renamed names first second) (count : Int) (evictions : UInt64) :
    Renamed names { first with sharedSysCount := count, prefixEvictions := evictions }
      { second with sharedSysCount := count, prefixEvictions := evictions } :=
  ⟨renamed.memory, renamed.seqStates, renamed.sharedSys, renamed.shared, rfl,
    renamed.prefixClock, rfl⟩

theorem ticked (renamed : Renamed names first second) (clock : UInt64) :
    Renamed names { first with prefixClock := clock } { second with prefixClock := clock } :=
  ⟨renamed.memory, renamed.seqStates, renamed.sharedSys, renamed.shared, renamed.sharedSysCount,
    rfl, renamed.prefixEvictions⟩

theorem touched (renamed : Renamed names first second) (index : Fin kMaxSharedSys) :
    Renamed names (touched index first) (LlmModel.touched index second) := by
  unfold LlmModel.touched
  rw [show second.sharedSys index = first.sharedSys index from congrFun renamed.sharedSys index,
    renamed.prefixClock]
  exact (renamed.ticked (first.prefixClock + 1)).storeSharedSys index
    { first.sharedSys index with lastAccess := first.prefixClock + 1 } (renamed.shared index)

end Renamed

/-! ### The operations -/

section Operations

variable {config : LoadedConfig} {allowed : Answer → Prop} (names : Renaming config)

theorem setMemory_coupled (seqId : Int) (positions : Finset Nat) :
    Coupled allowed (Renamed names) (setMemory seqId positions)
      (setMemory (names.rename seqId) positions) Eq := by
  unfold setMemory
  exact Coupled.change fun _ _ renamed => renamed.storeMemory seqId positions

theorem setSeqState_coupled (seqId : Int) (state : SeqState) :
    Coupled allowed (Renamed names) (setSeqState seqId state)
      (setSeqState (names.rename seqId) state) Eq := by
  unfold setSeqState
  exact Coupled.change fun _ _ renamed => renamed.storeSeqState seqId state

theorem seqState_coupled (seqId : Int) :
    Coupled allowed (Renamed names) (seqState seqId) (seqState (names.rename seqId)) Eq := by
  unfold seqState
  exact Coupled.inspect fun _ _ renamed => (renamed.seqStates seqId).symm

theorem readMemory_coupled (seqId : Int) :
    Coupled allowed (Renamed names) (Program.inspect fun model => model.memory seqId)
      (Program.inspect fun model => model.memory (names.rename seqId)) Eq :=
  Coupled.inspect fun _ _ renamed => (renamed.memory seqId).symm

theorem readSharedSys_coupled (index : Fin kMaxSharedSys) :
    Coupled allowed (Renamed names) (Program.inspect fun model => model.sharedSys index)
      (Program.inspect fun model => model.sharedSys index)
      fun entry other => entry = other ∧ names.rename entry.seqId = entry.seqId := by
  apply Coupled.inspect
  intro first second renamed
  rw [renamed.sharedSys]
  exact ⟨rfl, renamed.shared index⟩

theorem setSharedSys_coupled (index : Fin kMaxSharedSys) (entry : SharedSysEntry)
    (kept : names.rename entry.seqId = entry.seqId) :
    Coupled allowed (Renamed names) (setSharedSys index entry) (setSharedSys index entry) Eq := by
  unfold setSharedSys
  exact Coupled.change fun _ _ renamed => renamed.storeSharedSys index entry kept

theorem touchSharedSys_coupled (index : Fin kMaxSharedSys) :
    Coupled allowed (Renamed names) (touchSharedSys index) (touchSharedSys index) Eq := by
  unfold touchSharedSys
  exact Coupled.change fun _ _ renamed => renamed.touched index

theorem memoryClear_coupled (seqId : Int) :
    Coupled allowed (Renamed names) (memoryClear seqId) (memoryClear (names.rename seqId)) Eq :=
  setMemory_coupled names seqId ∅

theorem memoryClear_shared (seqId : Int) (kept : names.rename seqId = seqId) :
    Coupled allowed (Renamed names) (memoryClear seqId) (memoryClear seqId) Eq := by
  have cleared : Coupled allowed (Renamed names) (memoryClear seqId)
      (memoryClear (names.rename seqId)) Eq := memoryClear_coupled names seqId
  rw [kept] at cleared
  exact cleared

theorem asks_coupled {α : Type} (view : Answer → α) :
    Coupled allowed (Renamed names)
      (Program.ask >>= fun answer => (pure (view answer) : Llm α))
      (Program.ask >>= fun answer => (pure (view answer) : Llm α)) Eq :=
  Coupled.ask_then fun _ _ => Coupled.pure rfl

theorem requestCancelled_coupled (cancellable : Bool) :
    Coupled allowed (Renamed names) (requestCancelled cancellable)
      (requestCancelled cancellable) Eq := by
  unfold requestCancelled
  apply Coupled.ite Iff.rfl
  · intro _
    exact asks_coupled names Answer.cancelled
  · intro _
    exact Coupled.pure rfl

theorem memoryRemoveFrom_coupled (seqId : Int) (start : Nat) :
    Coupled allowed (Renamed names) (memoryRemoveFrom seqId start)
      (memoryRemoveFrom (names.rename seqId) start) Eq := by
  unfold memoryRemoveFrom
  apply Coupled.ask_then
  intro answer _
  apply Coupled.ite Iff.rfl
  · intro _
    refine (readMemory_coupled names seqId).bind ?_
    rintro positions _ rfl
    refine (setMemory_coupled names seqId _).bind ?_
    intro _ _ _
    exact Coupled.pure rfl
  · intro _
    exact Coupled.pure rfl

theorem llamaDecode_coupled (seqId : Int) (batch : Finset Nat) :
    Coupled allowed (Renamed names) (llamaDecode seqId batch)
      (llamaDecode (names.rename seqId) batch) Eq := by
  unfold llamaDecode
  apply Coupled.ask_then
  intro answer _
  refine (readMemory_coupled names seqId).bind ?_
  rintro present _ rfl
  apply Coupled.ite Iff.rfl
  · intro _
    refine (setMemory_coupled names seqId _).bind ?_
    intro _ _ _
    exact Coupled.pure rfl
  · intro _
    refine (setMemory_coupled names seqId _).bind ?_
    intro _ _ _
    exact Coupled.pure rfl

theorem decodeChunks_coupled (cancellable : Bool) (seqId : Int) (rounds start remaining : Nat) :
    Coupled allowed (Renamed names) (decodeChunks config cancellable seqId rounds start remaining)
      (decodeChunks config cancellable (names.rename seqId) rounds start remaining) Eq := by
  induction rounds generalizing start remaining with
  | zero => exact Coupled.pure rfl
  | succ rounds ih =>
      unfold decodeChunks
      apply Coupled.ite Iff.rfl
      · intro _
        exact Coupled.pure rfl
      · intro _
        refine (requestCancelled_coupled names cancellable).bind ?_
        rintro cancelled _ rfl
        apply Coupled.ite Iff.rfl
        · intro _
          exact Coupled.pure rfl
        · intro _
          refine (llamaDecode_coupled names seqId _).bind ?_
          rintro decoded _ rfl
          apply Coupled.ite Iff.rfl
          · intro _
            exact ih _ _
          · intro _
            refine (requestCancelled_coupled names cancellable).bind ?_
            rintro cancelled _ rfl
            exact Coupled.pure rfl

theorem decodeTokens_coupled (cancellable : Bool) (tokenCount : Nat) (seqId : Int)
    (startPos : Nat) :
    Coupled allowed (Renamed names) (decodeTokens config cancellable tokenCount seqId startPos)
      (decodeTokens config cancellable tokenCount (names.rename seqId) startPos) Eq := by
  unfold decodeTokens
  exact decodeChunks_coupled names cancellable seqId tokenCount startPos tokenCount

/-! ### Shared prefixes -/

theorem evictSharedSys_coupled (index : Fin kMaxSharedSys) :
    Coupled allowed (Renamed names) (evictSharedSys index) (evictSharedSys index) Eq := by
  unfold evictSharedSys
  refine (readSharedSys_coupled names index).bind ?_
  rintro entry _ ⟨rfl, kept⟩
  apply Coupled.ite Iff.rfl
  · intro _
    exact Coupled.pure rfl
  · intro _
    refine (memoryClear_shared names entry.seqId kept).bind ?_
    intro _ _ _
    refine (setSharedSys_coupled names index {} (names.fixed 0 (.inl (le_refl 0)))).bind ?_
    intro _ _ _
    apply Coupled.change
    intro first second renamed
    rw [renamed.sharedSysCount, renamed.prefixEvictions]
    exact renamed.counted _ _

theorem selectSharedSysSlot_coupled :
    Coupled allowed (Renamed names) (Program.inspect selectSharedSysSlot)
      (Program.inspect selectSharedSysSlot) Eq := by
  apply Coupled.inspect
  intro first second renamed
  have same (slots : List (Fin kMaxSharedSys)) (lruIndex : Fin kMaxSharedSys) :
      selectAmong first slots lruIndex = selectAmong second slots lruIndex := by
    induction slots generalizing lruIndex with
    | nil => rfl
    | cons index rest ih =>
        unfold selectAmong
        rw [renamed.sharedSys, ih, ih]
  exact same _ _

theorem findSharedSys_coupled (prompt : CString) :
    Coupled allowed (Renamed names) (Program.inspect fun model => findSharedSys model prompt)
      (Program.inspect fun model => findSharedSys model prompt) Eq := by
  apply Coupled.inspect
  intro first second renamed
  unfold findSharedSys
  rw [renamed.sharedSys]

theorem cacheSystemPrefix_coupled (systemPrompt : CString) :
    Coupled allowed (Renamed names) (cacheSystemPrefix config systemPrompt)
      (cacheSystemPrefix config systemPrompt) Eq := by
  unfold cacheSystemPrefix
  refine (asks_coupled names Answer.tokens).bind ?_
  rintro count _ rfl
  apply Coupled.ite Iff.rfl
  · intro _
    exact Coupled.pure rfl
  · intro _
    refine (selectSharedSysSlot_coupled names).bind ?_
    rintro index _ rfl
    have kept := names.sharedSeqId_fixed index
    have cleared : Coupled allowed (Renamed names) (memoryClear (sharedSeqId config index))
        (memoryClear (sharedSeqId config index)) Eq :=
      memoryClear_shared names (sharedSeqId config index) kept
    refine (evictSharedSys_coupled names index).bind ?_
    intro _ _ _
    refine cleared.bind ?_
    intro _ _ _
    have decodes : Coupled allowed (Renamed names) _ _ Eq :=
      decodeTokens_coupled names false count.toNat (sharedSeqId config index) 0
    rw [kept] at decodes
    refine decodes.bind ?_
    rintro decoded _ rfl
    apply Coupled.ite Iff.rfl
    · intro _
      refine cleared.bind ?_
      intro _ _ _
      exact Coupled.pure rfl
    · intro _
      refine (asks_coupled names Answer.succeeded).bind ?_
      rintro copied _ rfl
      apply Coupled.ite Iff.rfl
      · intro _
        refine cleared.bind ?_
        intro _ _ _
        exact Coupled.pure rfl
      · intro _
        refine (setSharedSys_coupled names index _ kept).bind ?_
        intro _ _ _
        refine (touchSharedSys_coupled names index).bind ?_
        intro _ _ _
        refine (Coupled.change ?_).bind ?_
        · intro first second renamed
          rw [renamed.sharedSysCount]
          exact ⟨renamed.memory, renamed.seqStates, renamed.sharedSys, renamed.shared, rfl,
            renamed.prefixClock, renamed.prefixEvictions⟩
        · intro _ _ _
          exact Coupled.pure rfl

theorem findOrCache_coupled (systemPrompt : CString) :
    Coupled allowed (Renamed names) (findOrCache config systemPrompt)
      (findOrCache config systemPrompt) Eq := by
  unfold findOrCache
  refine (findSharedSys_coupled names systemPrompt).bind ?_
  rintro found _ rfl
  cases found with
  | some index => exact Coupled.pure rfl
  | none =>
      refine (cacheSystemPrefix_coupled names systemPrompt).bind ?_
      rintro cached _ rfl
      exact Coupled.pure rfl

/-! ### Inference -/

/-- The request for the sequence under its other name. -/
def Renaming.request (request : LlmRequest) : LlmRequest :=
  { request with seqId := names.rename request.seqId }

def Renaming.response (response : LlmResponse) : LlmResponse :=
  { response with seqId := names.rename response.seqId }

/-- Results that differ in the name of the sequence of the response. -/
def Renaming.Responses {α : Type} (result other : α × LlmResponse) : Prop :=
  other = (result.1, names.response result.2)

/-- A copy out of a sequence that keeps its name. -/
theorem memoryCopy_coupled (source target : Int) (start last : Nat)
    (kept : names.rename source = source) :
    Coupled allowed (Renamed names) (memoryCopy source target start last)
      (memoryCopy source (names.rename target) start last) Eq := by
  unfold memoryCopy
  have reads : Coupled allowed (Renamed names) _ _ Eq := readMemory_coupled names source
  rw [kept] at reads
  refine reads.bind ?_
  rintro copied _ rfl
  refine (readMemory_coupled names target).bind ?_
  rintro present _ rfl
  exact setMemory_coupled names target _

theorem useSharedPrefix_coupled (request : LlmRequest) (index : Fin kMaxSharedSys)
    (reused : Bool) (response : LlmResponse) :
    Coupled allowed (Renamed names) (useSharedPrefix request index reused response)
      (useSharedPrefix (names.request request) index reused (names.response response))
      fun result other => other = names.response result := by
  unfold useSharedPrefix
  refine (touchSharedSys_coupled names index).bind ?_
  intro _ _ _
  refine (readSharedSys_coupled names index).bind ?_
  rintro entry _ ⟨rfl, kept⟩
  refine (memoryCopy_coupled names entry.seqId request.seqId 0 entry.tokenCount kept).bind ?_
  intro _ _ _
  refine (setSeqState_coupled names request.seqId _).bind ?_
  intro _ _ _
  apply Coupled.ite Iff.rfl
  · intro _
    refine Coupled.bind (setSharedSys_coupled names index _ ?_) ?_
    · exact kept
    · intro _ _ _
      exact Coupled.pure rfl
  · intro _
    exact Coupled.pure rfl

theorem decodeSystemPrompt_coupled (request : LlmRequest) (response : LlmResponse) :
    Coupled allowed (Renamed names) (decodeSystemPrompt config request response)
      (decodeSystemPrompt config (names.request request) (names.response response))
      names.Responses := by
  unfold decodeSystemPrompt
  refine (asks_coupled names Answer.tokens).bind ?_
  rintro systemCount _ rfl
  apply Coupled.ite Iff.rfl
  · intro _
    refine (requestCancelled_coupled names request.cancellable).bind ?_
    rintro cancelled _ rfl
    exact Coupled.pure rfl
  · intro _
    refine (decodeTokens_coupled names request.cancellable systemCount.toNat request.seqId
      0).bind ?_
    rintro decoded _ rfl
    apply Coupled.ite Iff.rfl
    · intro _
      refine (requestCancelled_coupled names request.cancellable).bind ?_
      rintro cancelled _ rfl
      exact Coupled.pure rfl
    · intro _
      refine (setSeqState_coupled names request.seqId _).bind ?_
      intro _ _ _
      exact Coupled.pure rfl

theorem prefixPhase_coupled (request : LlmRequest) (systemPrompt : CString)
    (response : LlmResponse) :
    Coupled allowed (Renamed names) (prefixPhase config request systemPrompt response)
      (prefixPhase config (names.request request) systemPrompt (names.response response))
      names.Responses := by
  unfold prefixPhase
  refine (findOrCache_coupled names systemPrompt).bind ?_
  rintro ⟨found, reused⟩ _ rfl
  cases found with
  | some index =>
      refine (useSharedPrefix_coupled names request index reused response).bind ?_
      rintro used _ rfl
      exact Coupled.pure rfl
  | none => exact decodeSystemPrompt_coupled names request response

theorem cancelledAfter_coupled (request : LlmRequest) (result : Int) :
    Coupled allowed (Renamed names) (cancelledAfter request result)
      (cancelledAfter (names.request request) result) Eq := by
  unfold cancelledAfter
  apply Coupled.ite Iff.rfl
  · intro _
    exact Coupled.pure rfl
  · intro _
    exact requestCancelled_coupled names request.cancellable

theorem failedGeneration_coupled (request : LlmRequest) (generated : Nat) (result : Int) :
    Coupled allowed (Renamed names) (failedGeneration request generated result)
      (failedGeneration (names.request request) generated result) Eq := by
  unfold failedGeneration
  refine (cancelledAfter_coupled names request result).bind ?_
  rintro cancelled _ rfl
  exact Coupled.pure rfl

theorem generateTokens_coupled (request : LlmRequest) (generationPos remaining : Nat)
    (generated : Nat) :
    Coupled allowed (Renamed names)
      (generateTokens config request generationPos remaining generated)
      (generateTokens config (names.request request) generationPos remaining generated) Eq := by
  induction remaining generalizing generated with
  | zero => exact Coupled.pure rfl
  | succ remaining ih =>
      unfold generateTokens
      refine (requestCancelled_coupled names request.cancellable).bind ?_
      rintro cancelled _ rfl
      apply Coupled.ite Iff.rfl
      · intro _
        exact Coupled.pure rfl
      · intro _
        apply Coupled.ask_then
        intro sampled _
        apply Coupled.ite Iff.rfl
        · intro _
          refine (decodeTokens_coupled names request.cancellable 1 request.seqId
            (generationPos + generated)).bind ?_
          rintro tokenResult _ rfl
          apply Coupled.ite Iff.rfl
          · intro _
            exact failedGeneration_coupled names request generated tokenResult
          · intro _
            exact Coupled.pure rfl
        · intro _
          refine (asks_coupled names Answer.succeeded).bind ?_
          rintro appended _ rfl
          apply Coupled.ite Iff.rfl
          · intro _
            exact Coupled.pure rfl
          · intro _
            refine (decodeTokens_coupled names request.cancellable 1 request.seqId
              (generationPos + generated)).bind ?_
            rintro tokenResult _ rfl
            apply Coupled.ite Iff.rfl
            · intro _
              exact failedGeneration_coupled names request generated tokenResult
            · intro _
              exact ih (generated + 1)

theorem closeTurn_coupled (request : LlmRequest) (generationPos : Nat)
    (generation : Generation) :
    Coupled allowed (Renamed names) (closeTurn config request generationPos generation)
      (closeTurn config (names.request request) generationPos generation) Eq := by
  unfold closeTurn
  apply Coupled.ite Iff.rfl
  · intro _
    refine (asks_coupled names Answer.succeeded).bind ?_
    rintro boundary _ rfl
    apply Coupled.ite Iff.rfl
    · intro _
      exact Coupled.pure rfl
    · intro _
      refine (decodeTokens_coupled names request.cancellable 1 request.seqId
        (generationPos + generation.generated)).bind ?_
      rintro boundaryResult _ rfl
      apply Coupled.ite Iff.rfl
      · intro _
        exact failedGeneration_coupled names request generation.generated boundaryResult
      · intro _
        exact Coupled.pure rfl
  · intro _
    exact Coupled.pure rfl

theorem generationPhase_coupled (request : LlmRequest)
    (maxTokens promptCount generationPos : Nat) (response : LlmResponse) :
    Coupled allowed (Renamed names)
      (generationPhase config request maxTokens promptCount generationPos response)
      (generationPhase config (names.request request) maxTokens promptCount generationPos
        (names.response response))
      names.Responses := by
  unfold generationPhase
  refine (asks_coupled names Answer.succeeded).bind ?_
  rintro allocated _ rfl
  apply Coupled.ite Iff.rfl
  · intro _
    exact Coupled.pure rfl
  · intro _
    refine (asks_coupled names Answer.succeeded).bind ?_
    rintro sampler _ rfl
    apply Coupled.ite Iff.rfl
    · intro _
      exact Coupled.pure rfl
    · intro _
      refine (generateTokens_coupled names request generationPos maxTokens 0).bind ?_
      rintro loop _ rfl
      refine (closeTurn_coupled names request generationPos loop).bind ?_
      rintro generation _ rfl
      apply Coupled.ite Iff.rfl
      · intro _
        exact Coupled.pure rfl
      · intro _
        refine (setSeqState_coupled names request.seqId _).bind ?_
        intro _ _ _
        apply Coupled.ask_then
        intro size _
        exact Coupled.pure rfl

theorem promptPhase_coupled (request : LlmRequest) (maxTokens : Nat) (response : LlmResponse) :
    Coupled allowed (Renamed names) (promptPhase config request maxTokens response)
      (promptPhase config (names.request request) maxTokens (names.response response))
      names.Responses := by
  unfold promptPhase
  refine (seqState_coupled names request.seqId).bind ?_
  rintro state _ rfl
  refine (asks_coupled names Answer.tokens).bind ?_
  rintro promptCount _ rfl
  apply Coupled.ite Iff.rfl
  · intro _
    exact Coupled.pure rfl
  · intro _
    refine (decodeTokens_coupled names request.cancellable promptCount.toNat request.seqId
      state.currentPos).bind ?_
    rintro decodeResult _ rfl
    apply Coupled.ite Iff.rfl
    · intro _
      refine (cancelledAfter_coupled names request decodeResult).bind ?_
      rintro cancelled _ rfl
      exact Coupled.pure rfl
    · intro _
      exact generationPhase_coupled names request maxTokens promptCount.toNat _ response

theorem rollBack_coupled (seqId : Int) (original : SeqState) :
    Coupled allowed (Renamed names) (rollBack seqId original)
      (rollBack (names.rename seqId) original) Eq := by
  unfold rollBack
  refine (memoryRemoveFrom_coupled names seqId original.currentPos).bind ?_
  rintro rolledBack _ rfl
  apply Coupled.ite Iff.rfl
  · intro _
    refine (memoryClear_coupled names seqId).bind ?_
    intro _ _ _
    exact setSeqState_coupled names seqId {}
  · intro _
    exact setSeqState_coupled names seqId _

theorem turn_coupled (request : LlmRequest) (maxTokens : Nat) (response : LlmResponse) :
    Coupled allowed (Renamed names) (turn config request maxTokens response)
      (turn config (names.request request) maxTokens (names.response response))
      names.Responses := by
  unfold turn
  apply Coupled.ite Iff.rfl
  · intro _
    refine (prefixPhase_coupled names request _ response).bind ?_
    rintro goesOn _ rfl
    apply Coupled.ite Iff.rfl
    · intro _
      exact promptPhase_coupled names request maxTokens goesOn.2
    · intro _
      exact Coupled.pure rfl
  · intro _
    exact promptPhase_coupled names request maxTokens response

theorem startTurn_coupled (request : LlmRequest) :
    Coupled allowed (Renamed names) (startTurn request) (startTurn (names.request request))
      Eq := by
  unfold startTurn
  apply Coupled.ite Iff.rfl
  · intro _
    refine (memoryClear_coupled names request.seqId).bind ?_
    intro _ _ _
    refine (setSeqState_coupled names request.seqId {}).bind ?_
    intro _ _ _
    exact Coupled.pure rfl
  · intro _
    exact seqState_coupled names request.seqId

theorem llmInference_coupled (request : LlmRequest) :
    Coupled allowed (Renamed names) (llmInference config request)
      (llmInference config (names.request request)) names.Responses := by
  unfold llmInference
  apply Coupled.ite (names.outside_iff request.seqId)
  · intro _
    apply Coupled.pure
    have kept : names.rename 0 = 0 := names.fixed 0 (.inl (le_refl 0))
    unfold Renaming.Responses Renaming.response
    change _ = ((-1 : Int), ({ seqId := names.rename 0 } : LlmResponse))
    rw [kept]
  · intro _
    refine (requestCancelled_coupled names request.cancellable).bind ?_
    rintro cancelled _ rfl
    apply Coupled.ite Iff.rfl
    · intro _
      exact Coupled.pure rfl
    · intro _
      refine (startTurn_coupled names request).bind ?_
      rintro original _ rfl
      refine (turn_coupled names request _ { seqId := request.seqId }).bind ?_
      rintro outcome _ rfl
      apply Coupled.ite Iff.rfl
      · intro _
        refine (rollBack_coupled names request.seqId original).bind ?_
        intro _ _ _
        exact Coupled.pure rfl
      · intro _
        exact Coupled.pure rfl

/-! ### The other operations -/

theorem llmWarmupSharedKv_coupled (systemPrompt : Option CString) (cancellable : Bool) :
    Coupled allowed (Renamed names) (llmWarmupSharedKv config systemPrompt cancellable)
      (llmWarmupSharedKv config systemPrompt cancellable) Eq := by
  unfold llmWarmupSharedKv
  apply Coupled.ite Iff.rfl
  · intro _
    exact Coupled.pure rfl
  · intro _
    refine (requestCancelled_coupled names cancellable).bind ?_
    rintro cancelled _ rfl
    apply Coupled.ite Iff.rfl
    · intro _
      exact Coupled.pure rfl
    · intro _
      refine (findOrCache_coupled names _).bind ?_
      rintro ⟨found, reused⟩ _ rfl
      cases found with
      | none =>
          refine (requestCancelled_coupled names cancellable).bind ?_
          rintro cancelled _ rfl
          exact Coupled.pure rfl
      | some index =>
          refine (requestCancelled_coupled names cancellable).bind ?_
          rintro cancelled _ rfl
          apply Coupled.ite Iff.rfl
          · intro _
            exact Coupled.pure rfl
          · intro _
            refine (touchSharedSys_coupled names index).bind ?_
            intro _ _ _
            apply Coupled.inspect
            intro first second renamed
            rw [renamed.sharedSys]

theorem llmClearSeq_coupled (seqId : Int) :
    Coupled allowed (Renamed names) (llmClearSeq config seqId)
      (llmClearSeq config (names.rename seqId)) Eq := by
  unfold llmClearSeq
  apply Coupled.ite (names.outside_iff seqId)
  · intro _
    exact Coupled.pure rfl
  · intro _
    refine (memoryClear_coupled names seqId).bind ?_
    intro _ _ _
    exact setSeqState_coupled names seqId {}

theorem llmCheckpointSeq_coupled (seqId : Int) :
    Coupled allowed (Renamed names) (llmCheckpointSeq config seqId)
      (llmCheckpointSeq config (names.rename seqId)) Eq := by
  unfold llmCheckpointSeq
  apply Coupled.ite (names.outside_iff seqId)
  · intro _
    exact Coupled.pure rfl
  · intro _
    refine (seqState_coupled names seqId).bind ?_
    rintro state _ rfl
    apply Coupled.ite Iff.rfl
    · intro _
      exact Coupled.pure rfl
    · intro _
      apply Coupled.ask_then
      intro answer _
      apply Coupled.ite Iff.rfl
      · intro _
        exact Coupled.pure rfl
      · intro _
        refine (readMemory_coupled names seqId).bind ?_
        rintro positions _ rfl
        exact Coupled.pure rfl

theorem llmRestoreSeq_coupled (seqId : Int) (file : Option (Finset Nat)) (position : Nat) :
    Coupled allowed (Renamed names) (llmRestoreSeq config seqId file position)
      (llmRestoreSeq config (names.rename seqId) file position) Eq := by
  unfold llmRestoreSeq
  apply Coupled.ite (or_congr Iff.rfl (names.outside_iff seqId))
  · intro _
    exact Coupled.pure rfl
  · intro _
    refine (memoryClear_coupled names seqId).bind ?_
    intro _ _ _
    apply Coupled.ask_then
    intro answer _
    cases file with
    | none =>
        refine (memoryClear_coupled names seqId).bind ?_
        intro _ _ _
        exact Coupled.pure rfl
    | some positions =>
        apply Coupled.ite Iff.rfl
        · intro _
          refine (setMemory_coupled names seqId positions).bind ?_
          intro _ _ _
          refine (setSeqState_coupled names seqId _).bind ?_
          intro _ _ _
          exact Coupled.pure rfl
        · intro _
          refine (setMemory_coupled names seqId _).bind ?_
          intro _ _ _
          refine (memoryClear_coupled names seqId).bind ?_
          intro _ _ _
          exact Coupled.pure rfl

end Operations

end AgentNucleus.Top.LlmModel
