/-
The size of the batches cannot be told from outside.  While no call fails and nothing is
cancelled, a decoding stores its positions whatever `n_batch` is, so a turn comes to the
same outcomes with every batch size.
-/

import AgentNucleus.Library.ReplayedPrograms
import AgentNucleus.Top.TokenBatches

set_option autoImplicit false

namespace AgentNucleus.Top

open AgentNucleus.Library
open AgentNucleus.Library.Program (Coupled Replays Settles)
open AgentNucleus.Runtime (CString)

/-- The configuration with the batch size of another one. -/
def LoadedConfig.batchedAs (config other : LoadedConfig) : LoadedConfig :=
  { config with nBatch := other.nBatch, batchPositive := other.batchPositive }

/-- Nothing fails, and nothing is cancelled. -/
structure Answer.Quiet (answer : Answer) : Prop where
  goesOn : answer.cancelled = false
  succeeds : answer.succeeded = true

abbrev QuietAnswer := { answer : Answer // answer.Quiet }

namespace LlmModel

/-! ### A decoding that meets no failure -/

def decodedInto (seqId : Int) (start count : Nat) (model : LlmModel) : LlmModel :=
  storeMemory seqId (model.memory seqId ∪ Finset.Ico start (start + count)) model

theorem decodedInto_zero (seqId : Int) (start : Nat) (model : LlmModel) :
    decodedInto seqId start 0 model = model := by
  unfold decodedInto storeMemory
  rw [Nat.add_zero, Finset.Ico_self, Finset.union_empty, Function.update_eq_self]

theorem decodedInto_add (seqId : Int) (start chunk rest : Nat) (model : LlmModel) :
    decodedInto seqId (start + chunk) rest (decodedInto seqId start chunk model) =
      decodedInto seqId start (chunk + rest) model := by
  unfold decodedInto
  rw [memory_storeMemory, Finset.union_assoc,
    Finset.Ico_union_Ico_eq_Ico (by omega) (by omega), Nat.add_assoc]
  unfold storeMemory
  rw [Function.update_idem]

section Settled

variable {config : LoadedConfig} (model : LlmModel)

theorem requestCancelled_settles (cancellable : Bool) :
    Settles Answer.Quiet cancellable.toNat (requestCancelled cancellable) model
      (false, model) := by
  unfold requestCancelled
  cases cancellable with
  | true =>
      rw [if_pos rfl]
      apply Settles.ask_then
      intro answer quiet
      rw [quiet.goesOn]
      exact Settles.pure false
  | false => exact Settles.pure false

theorem llamaDecode_settles (seqId : Int) (start count : Nat) :
    Settles Answer.Quiet 1 (llamaDecode seqId (Finset.Ico start (start + count))) model
      (true, decodedInto seqId start count model) := by
  unfold llamaDecode
  apply Settles.ask_then
  intro answer quiet
  apply Settles.inspect_then
  rw [if_pos quiet.succeeds]
  apply Settles.change_then
  exact Settles.pure true

theorem decodeChunks_settles (cancellable : Bool) (seqId : Int) (rounds : Nat) :
    ∀ (start remaining : Nat) (model : LlmModel), remaining ≤ rounds →
      ∃ count, Settles Answer.Quiet count
        (decodeChunks config cancellable seqId rounds start remaining) model
        (0, decodedInto seqId start remaining model) := by
  induction rounds with
  | zero =>
      intro start remaining model enough
      rw [Nat.le_zero.mp enough, decodedInto_zero]
      exact ⟨0, Settles.pure 0⟩
  | succ rounds ih =>
      intro start remaining model enough
      unfold decodeChunks
      by_cases done : remaining = 0
      · rw [if_pos done, done, decodedInto_zero]
        exact ⟨0, Settles.pure 0⟩
      · rw [if_neg done]
        have positive := config.batchPositive
        have taken : min remaining config.nBatch + (remaining - min remaining config.nBatch) =
            remaining := by omega
        obtain ⟨count, later⟩ := ih (start + min remaining config.nBatch)
          (remaining - min remaining config.nBatch)
          (decodedInto seqId start (min remaining config.nBatch) model) (by omega)
        rw [decodedInto_add, taken] at later
        have decodes := llamaDecode_settles model seqId start (min remaining config.nBatch)
        exact ⟨_, (requestCancelled_settles model cancellable).bind (decodes.bind later)⟩

theorem decodeTokens_settles (cancellable : Bool) (tokenCount : Nat) (seqId : Int)
    (startPos : Nat) :
    ∃ count, Settles Answer.Quiet count
      (decodeTokens config cancellable tokenCount seqId startPos) model
      (0, decodedInto seqId startPos tokenCount model) :=
  decodeChunks_settles cancellable seqId tokenCount startPos tokenCount model (Nat.le_refl _)

end Settled

/-! ### A turn with another batch size -/

section Turns

variable {allowed : Answer → Prop} {spare : Answer} {filler : QuietAnswer}
  (config other : LoadedConfig)

theorem setMemory_replays (seqId : Int) (positions : Finset Nat) :
    Replays allowed spare (setMemory seqId positions) (setMemory seqId positions) :=
  Replays.change _

theorem setSeqState_replays (seqId : Int) (state : SeqState) :
    Replays allowed spare (setSeqState seqId state) (setSeqState seqId state) :=
  Replays.change _

theorem requestCancelled_replays (cancellable : Bool) :
    Replays allowed spare (requestCancelled cancellable) (requestCancelled cancellable) := by
  unfold requestCancelled
  apply Replays.ite
  · exact Replays.asks Answer.cancelled
  · exact Replays.pure false

theorem memoryRemoveFrom_replays (seqId : Int) (start : Nat) :
    Replays allowed spare (memoryRemoveFrom seqId start) (memoryRemoveFrom seqId start) := by
  unfold memoryRemoveFrom
  apply Replays.ask_then
  intro answer
  apply Replays.ite
  · apply (Replays.inspect _).bind
    intro positions
    apply (setMemory_replays seqId _).bind
    intro _
    exact Replays.pure true
  · exact Replays.pure false

/-- The two loops pass other batches and store the same positions. -/
theorem decodeTokens_replays (cancellable : Bool) (tokenCount : Nat) (seqId : Int)
    (startPos : Nat) :
    Replays Answer.Quiet filler.val (decodeTokens config cancellable tokenCount seqId startPos)
      (decodeTokens (config.batchedAs other) cancellable tokenCount seqId startPos) := by
  have settled (either : LoadedConfig) (model : LlmModel) :
      ∃ count, Settles Answer.Quiet count
        (decodeTokens either cancellable tokenCount seqId startPos) model
        (0, decodedInto seqId startPos tokenCount model) :=
    decodeTokens_settles model cancellable tokenCount seqId startPos
  exact Replays.of_settles filler.property (settled config) (settled (config.batchedAs other))

theorem evictSharedSys_replays (index : Fin kMaxSharedSys) :
    Replays allowed spare (evictSharedSys index) (evictSharedSys index) := by
  unfold evictSharedSys
  apply (Replays.inspect _).bind
  intro entry
  apply Replays.ite
  · exact Replays.pure ()
  · apply (setMemory_replays entry.seqId ∅).bind
    intro _
    apply (Replays.change _).bind
    intro _
    exact Replays.change _

theorem cacheSystemPrefix_replays (systemPrompt : CString) :
    Replays Answer.Quiet filler.val (cacheSystemPrefix config systemPrompt)
      (cacheSystemPrefix (config.batchedAs other) systemPrompt) := by
  unfold cacheSystemPrefix
  apply (Replays.asks Answer.tokens).bind
  intro count
  apply Replays.ite
  · exact Replays.pure none
  · apply (Replays.inspect _).bind
    intro index
    apply (evictSharedSys_replays index).bind
    intro _
    apply (setMemory_replays _ ∅).bind
    intro _
    apply (decodeTokens_replays config other false count.toNat _ 0).bind
    intro decoded
    apply Replays.ite
    · apply (setMemory_replays _ ∅).bind
      intro _
      exact Replays.pure none
    · apply (Replays.asks Answer.succeeded).bind
      intro copied
      apply Replays.ite
      · apply (setMemory_replays _ ∅).bind
        intro _
        exact Replays.pure none
      · apply (Replays.change _).bind
        intro _
        apply (Replays.change _).bind
        intro _
        apply (Replays.change _).bind
        intro _
        exact Replays.pure (some index)

theorem findOrCache_replays (systemPrompt : CString) :
    Replays Answer.Quiet filler.val (findOrCache config systemPrompt)
      (findOrCache (config.batchedAs other) systemPrompt) := by
  unfold findOrCache
  apply (Replays.inspect _).bind
  intro found
  cases found with
  | some index => exact Replays.pure _
  | none =>
      apply (cacheSystemPrefix_replays config other systemPrompt).bind
      intro cached
      exact Replays.pure _

theorem useSharedPrefix_replays (request : LlmRequest) (index : Fin kMaxSharedSys)
    (reused : Bool) (response : LlmResponse) :
    Replays allowed spare (useSharedPrefix request index reused response)
      (useSharedPrefix request index reused response) := by
  unfold useSharedPrefix memoryCopy
  apply (Replays.change _).bind
  intro _
  apply (Replays.inspect _).bind
  intro entry
  refine Replays.bind ?_ ?_
  · apply (Replays.inspect _).bind
    intro copied
    apply (Replays.inspect _).bind
    intro present
    exact setMemory_replays _ _
  · intro _
    apply (setSeqState_replays request.seqId _).bind
    intro _
    apply Replays.ite
    · apply (Replays.change _).bind
      intro _
      exact Replays.pure _
    · exact Replays.pure response

theorem decodeSystemPrompt_replays (request : LlmRequest) (response : LlmResponse) :
    Replays Answer.Quiet filler.val (decodeSystemPrompt config request response)
      (decodeSystemPrompt (config.batchedAs other) request response) := by
  have stops : Replays Answer.Quiet filler.val
      (do
        let cancelled ← requestCancelled request.cancellable
        pure (false, { response with cancelled }) : Llm (Bool × LlmResponse))
      (do
        let cancelled ← requestCancelled request.cancellable
        pure (false, { response with cancelled })) := by
    apply (requestCancelled_replays request.cancellable).bind
    intro cancelled
    exact Replays.pure _
  unfold decodeSystemPrompt
  apply (Replays.asks Answer.tokens).bind
  intro systemCount
  apply Replays.ite
  · exact stops
  · apply (decodeTokens_replays config other request.cancellable systemCount.toNat
      request.seqId 0).bind
    intro decoded
    apply Replays.ite
    · exact stops
    · apply (setSeqState_replays request.seqId _).bind
      intro _
      exact Replays.pure (true, response)

theorem prefixPhase_replays (request : LlmRequest) (systemPrompt : CString)
    (response : LlmResponse) :
    Replays Answer.Quiet filler.val (prefixPhase config request systemPrompt response)
      (prefixPhase (config.batchedAs other) request systemPrompt response) := by
  unfold prefixPhase
  apply (findOrCache_replays config other systemPrompt).bind
  intro shared
  obtain ⟨slot, reused⟩ := shared
  cases slot with
  | some index =>
      apply (useSharedPrefix_replays request index reused response).bind
      intro response
      exact Replays.pure (true, response)
  | none => exact decodeSystemPrompt_replays config other request response

theorem cancelledAfter_replays (request : LlmRequest) (result : Int) :
    Replays allowed spare (cancelledAfter request result) (cancelledAfter request result) := by
  unfold cancelledAfter
  apply Replays.ite
  · exact Replays.pure true
  · exact requestCancelled_replays request.cancellable

theorem failedGeneration_replays (request : LlmRequest) (generated : Nat) (result : Int) :
    Replays allowed spare (failedGeneration request generated result)
      (failedGeneration request generated result) := by
  unfold failedGeneration
  apply (cancelledAfter_replays request result).bind
  intro cancelled
  exact Replays.pure _

theorem generateTokens_replays (request : LlmRequest) (generationPos remaining : Nat)
    (generated : Nat) :
    Replays Answer.Quiet filler.val
      (generateTokens config request generationPos remaining generated)
      (generateTokens (config.batchedAs other) request generationPos remaining generated) := by
  induction remaining generalizing generated with
  | zero => exact Replays.pure _
  | succ remaining ih =>
      have decodes : Replays Answer.Quiet filler.val
          (decodeTokens config request.cancellable 1 request.seqId (generationPos + generated))
          (decodeTokens (config.batchedAs other) request.cancellable 1 request.seqId
            (generationPos + generated)) :=
        decodeTokens_replays config other request.cancellable 1 request.seqId
          (generationPos + generated)
      unfold generateTokens
      apply (requestCancelled_replays request.cancellable).bind
      intro cancelled
      apply Replays.ite
      · exact Replays.pure _
      · apply Replays.ask_then
        intro sampled
        apply Replays.ite
        · apply decodes.bind
          intro tokenResult
          apply Replays.ite
          · exact failedGeneration_replays request generated tokenResult
          · exact Replays.pure _
        · apply (Replays.asks Answer.succeeded).bind
          intro appended
          apply Replays.ite
          · exact Replays.pure _
          · apply decodes.bind
            intro tokenResult
            apply Replays.ite
            · exact failedGeneration_replays request generated tokenResult
            · exact ih (generated + 1)

theorem closeTurn_replays (request : LlmRequest) (generationPos : Nat)
    (generation : Generation) :
    Replays Answer.Quiet filler.val (closeTurn config request generationPos generation)
      (closeTurn (config.batchedAs other) request generationPos generation) := by
  unfold closeTurn
  apply Replays.ite
  · apply (Replays.asks Answer.succeeded).bind
    intro boundary
    apply Replays.ite
    · exact Replays.pure generation
    · apply (decodeTokens_replays config other request.cancellable 1 request.seqId
        (generationPos + generation.generated)).bind
      intro boundaryResult
      apply Replays.ite
      · exact failedGeneration_replays request generation.generated boundaryResult
      · exact Replays.pure _
  · exact Replays.pure generation

theorem generationPhase_replays (request : LlmRequest)
    (maxTokens promptCount generationPos : Nat) (response : LlmResponse) :
    Replays Answer.Quiet filler.val
      (generationPhase config request maxTokens promptCount generationPos response)
      (generationPhase (config.batchedAs other) request maxTokens promptCount generationPos
        response) := by
  unfold generationPhase
  apply (Replays.asks Answer.succeeded).bind
  intro allocated
  apply Replays.ite
  · exact Replays.pure (-1, response)
  · apply (Replays.asks Answer.succeeded).bind
    intro sampler
    apply Replays.ite
    · exact Replays.pure (-1, response)
    · apply (generateTokens_replays config other request generationPos maxTokens 0).bind
      intro loop
      apply (closeTurn_replays config other request generationPos loop).bind
      intro generation
      apply Replays.ite
      · exact Replays.pure _
      · apply (setSeqState_replays request.seqId _).bind
        intro _
        apply Replays.ask_then
        intro size
        exact Replays.pure _

theorem promptPhase_replays (request : LlmRequest) (maxTokens : Nat) (response : LlmResponse) :
    Replays Answer.Quiet filler.val (promptPhase config request maxTokens response)
      (promptPhase (config.batchedAs other) request maxTokens response) := by
  unfold promptPhase
  apply (Replays.inspect _).bind
  intro state
  apply (Replays.asks Answer.tokens).bind
  intro promptCount
  apply Replays.ite
  · exact Replays.pure (-1, response)
  · apply (decodeTokens_replays config other request.cancellable promptCount.toNat
      request.seqId state.currentPos).bind
    intro decodeResult
    apply Replays.ite
    · apply (cancelledAfter_replays request decodeResult).bind
      intro cancelled
      exact Replays.pure _
    · exact generationPhase_replays config other request maxTokens promptCount.toNat _ response

theorem rollBack_replays (seqId : Int) (original : SeqState) :
    Replays allowed spare (rollBack seqId original) (rollBack seqId original) := by
  unfold rollBack
  apply (memoryRemoveFrom_replays seqId original.currentPos).bind
  intro rolledBack
  apply Replays.ite
  · apply (setMemory_replays seqId ∅).bind
    intro _
    exact setSeqState_replays seqId _
  · exact setSeqState_replays seqId _

theorem turn_replays (request : LlmRequest) (maxTokens : Nat) (response : LlmResponse) :
    Replays Answer.Quiet filler.val (turn config request maxTokens response)
      (turn (config.batchedAs other) request maxTokens response) := by
  unfold turn
  apply Replays.ite
  · apply (prefixPhase_replays config other request _ response).bind
    intro goesOn
    apply Replays.ite
    · exact promptPhase_replays config other request maxTokens goesOn.2
    · exact Replays.pure _
  · exact promptPhase_replays config other request maxTokens response

theorem startTurn_replays (request : LlmRequest) :
    Replays allowed spare (startTurn request) (startTurn request) := by
  unfold startTurn
  apply Replays.ite
  · apply (setMemory_replays request.seqId ∅).bind
    intro _
    apply (setSeqState_replays request.seqId _).bind
    intro _
    exact Replays.pure _
  · exact Replays.inspect _

theorem llmInference_replays (request : LlmRequest) :
    Replays Answer.Quiet filler.val (llmInference config request)
      (llmInference (config.batchedAs other) request) := by
  unfold llmInference
  apply Replays.ite
  · exact Replays.pure _
  · apply (requestCancelled_replays request.cancellable).bind
    intro cancelled
    apply Replays.ite
    · exact Replays.pure _
    · apply (startTurn_replays request).bind
      intro original
      apply (turn_replays config other request _ _).bind
      intro outcome
      apply Replays.ite
      · apply (rollBack_replays request.seqId original).bind
        intro _
        exact Replays.pure outcome
      · exact Replays.pure outcome

end Turns

/-! ### Chunked and unchunked -/

namespace DecodeCall

variable (config : LoadedConfig) (call : DecodeCall)

theorem decodeBatches_ends (answers : Answers Answer) :
    Finished config call (call.decodeBatches config [] answers).1.1
      (call.decodeBatches config [] answers).1.2 :=
  decodeBatches_spec.run [] answers rfl

/-- The result is that of a decoding into an empty model. -/
theorem decodeBatches_quiet {answers : Answers Answer}
    (quiet : ∀ index, (answers index).Quiet) :
    (call.decodeBatches config [] answers).1.1 = some 0 := by
  have covered : Covers call.seqId (call.startPos - (0 : Nat)) ∅ [] ({} : LlmModel) := by
    intro position stored
    exact .inl stored
  have coupled : Coupled Answer.Quiet (Covers call.seqId (call.startPos - (0 : Nat)) ∅)
      (call.decodeBatches config)
      (decodeTokens config call.cancellable call.tokens.length call.seqId 0)
      fun result code => result = some code :=
    decodeBatches_coupled 0
  have agrees := (coupled.run [] {} answers quiet covered).1
  obtain ⟨count, settled⟩ := decodeTokens_settles {} call.cancellable call.tokens.length
    call.seqId 0
  rw [agrees, settled.run answers quiet]

end DecodeCall

/-- Every call of `decode_tokens` comes to an end, and its batches are cut from the rows of
the tokens, in their order.  While nothing fails, a turn is the same with every batch size:
its decodings may ask more or less often, and whatever is answered to that, the other
questions are answered as before. -/
theorem chunked_decoding (config : LoadedConfig) :
    (∀ (call : DecodeCall) (answers : Answers Answer), ∃ code passed,
      (call.decodeBatches config [] answers).1 = (some code, passed) ∧
        (∀ batch ∈ passed, 1 ≤ batch.length ∧ batch.length ≤ config.nBatch) ∧
        (code = 0 → passed.flatten = call.rows) ∧
        (code ≠ 0 → passed.flatten <+: call.rows) ∧
        ((∀ index, (answers index).Quiet) → code = 0)) ∧
    ∀ (other : LoadedConfig) (request : LlmRequest) (model : LlmModel)
      (answers : Answers Answer) (filler : QuietAnswer), (∀ index, (answers index).Quiet) →
        ∃ consumed refilled rest, Refilled filler.val consumed refilled ∧
          answers = prependAnswers consumed rest ∧
          llmInference (config.batchedAs other) request model (prependAnswers refilled rest) =
            llmInference config request model answers := by
  constructor
  · intro call answers
    obtain ⟨code, code_eq, reached, passed, complete⟩ :=
      (call.decodeBatches_ends config answers).ends
    refine ⟨code, _, Prod.ext code_eq rfl, passed.sized, ?_, ?_, ?_⟩
    · intro success
      rw [passed.rows, complete success, ← DecodeCall.length_rows, List.take_length]
    · intro failure
      rw [passed.rows]
      exact List.take_prefix reached call.rows
    · intro quiet
      rw [call.decodeBatches_quiet config quiet] at code_eq
      exact (Option.some.inj code_eq).symm
  · intro other request model answers filler quiet
    have replays : Replays Answer.Quiet filler.val (llmInference config request)
        (llmInference (config.batchedAs other) request) :=
      llmInference_replays config other request
    exact replays.same model answers quiet

/-- A model with batches of this size. -/
def batchesOf (nBatch : Int) : LlmModelConfig :=
  { nCtx := 8, nBatch, nSeqMax := 12, maxTokens := 1 }

def pairedBatches : LoadedConfig := (batchesOf 2).load.get rfl

def singleBatches : LoadedConfig := (batchesOf 1).load.get rfl

/-- A prompt of three tokens, and a token that ends the turn. -/
def threeTokens : Answer where
  tokens := 3
  ends := true

/-- The turn of three tokens succeeds, and so it does with batches of one. -/
theorem threeTokens_unbatched :
    (llmInference pairedBatches { seqId := 1 } {} fun _ => threeTokens).1.1.1 = 0 ∧
      ∃ consumed refilled rest, Refilled threeTokens consumed refilled ∧
        (fun _ => threeTokens) = prependAnswers consumed rest ∧
        llmInference (pairedBatches.batchedAs singleBatches) { seqId := 1 } {}
            (prependAnswers refilled rest) =
          llmInference pairedBatches { seqId := 1 } {} fun _ => threeTokens :=
  ⟨by decide +kernel,
    (chunked_decoding pairedBatches).2 singleBatches { seqId := 1 } {} (fun _ => threeTokens)
      ⟨threeTokens, rfl, rfl⟩ fun _ => ⟨rfl, rfl⟩⟩

end LlmModel

end AgentNucleus.Top
