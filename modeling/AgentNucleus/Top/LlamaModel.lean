/-
One loaded model of `llm_llamacpp.c`, built with llama.cpp.  llama.cpp is an
abstract store of positions for each sequence.  What the caller, llama.cpp and
the allocator answer is asked for call by call: a cancellation request, the
success of a call, the length of a tokenized text.  Texts, tokens and timings
are left out here, since no position depends on them.  Token counts are natural
numbers, so no sum of them overflows.
-/

import AgentNucleus.Library.Programs
import AgentNucleus.Runtime.Types
import Mathlib.Data.Fintype.Basic
import Mathlib.Logic.Function.Basic
import Mathlib.Order.Interval.Finset.Nat

set_option autoImplicit false

namespace AgentNucleus.Top

open AgentNucleus.Library
open AgentNucleus.Runtime (CString StdString TimePoint)

def kMaxSharedSys : Nat := 8
def kMaxSeqPerModel : Int := 64

/-- What a caller configures. -/
structure LlmModelConfig where
  nCtx : Int
  nBatch : Int
  nSeqMax : Int
  maxTokens : Int

/-- A configuration as `llm_load_model` leaves it. -/
structure LoadedConfig where
  nCtx : Nat
  nBatch : Nat
  nSeqMax : Int
  maxTokens : Nat
  contextPositive : 0 < nCtx
  batchPositive : 0 < nBatch
  sequencesEnough : (kMaxSharedSys : Int) + 1 < nSeqMax
  tokensPositive : 0 < maxTokens

/-- The defaults of `llm_load_model`: a value that is not positive is replaced. -/
def positiveOr (value : Int) (otherwise : Nat) : Nat :=
  if value ≤ 0 then otherwise else value.toNat

theorem positiveOr_pos (value : Int) {otherwise : Nat} (positive : 0 < otherwise) :
    0 < positiveOr value otherwise := by
  unfold positiveOr
  split <;> omega

def sequencesOr (value : Int) : Int :=
  if value ≤ (kMaxSharedSys : Int) + 1 then 32 else value

theorem sequencesOr_enough (value : Int) : (kMaxSharedSys : Int) + 1 < sequencesOr value := by
  unfold sequencesOr
  split
  · decide
  · omega

/-- `llm_load_model` refuses too many sequences. -/
def LlmModelConfig.load (config : LlmModelConfig) : Option LoadedConfig :=
  if kMaxSeqPerModel < sequencesOr config.nSeqMax then none
  else
    some {
      nCtx := positiveOr config.nCtx 4096
      nBatch := positiveOr config.nBatch 512
      nSeqMax := sequencesOr config.nSeqMax
      maxTokens := positiveOr config.maxTokens 256
      contextPositive := positiveOr_pos _ (by decide)
      batchPositive := positiveOr_pos _ (by decide)
      sequencesEnough := sequencesOr_enough _
      tokensPositive := positiveOr_pos _ (by decide) }

/-- What one call into the outside answers; each call reads the part it needs. -/
structure Answer where
  /-- The cancellation callback. -/
  cancelled : Bool := false
  /-- The call succeeds. -/
  succeeded : Bool := true
  /-- Which positions a failing call has stored nevertheless. -/
  kept : Nat → Bool := fun _ => false
  /-- The length of a tokenized text; it is not positive after a failure. -/
  tokens : Int := 1
  /-- The sampled token ends the generation. -/
  ends : Bool := false
  /-- The sampled token. -/
  token : Int32 := 0
  /-- The size of a file or of a cached sequence. -/
  bytes : UInt64 := 0
  /-- The clock. -/
  now : TimePoint := 0
  /-- A rendered chat, unless the template fails. -/
  rendered : Option StdString := none
  /-- A text that is passed on: what was generated, or an error. -/
  output : StdString := []

namespace LlmModel

/-- `seq_state_t`. -/
structure SeqState where
  currentPos : Nat := 0
  inUse : Bool := false
deriving DecidableEq, Repr

/-- `shared_sys_entry_t`. -/
structure SharedSysEntry where
  seqId : Int := 0
  tokenCount : Nat := 0
  promptText : Option CString := none
  shareCount : Nat := 0
  savedTokens : Nat := 0
  lastAccess : UInt64 := 0

end LlmModel

/-- The model with its row of sequence states and the memory of llama.cpp. -/
structure LlmModel where
  memory : Int → Finset Nat := fun _ => ∅
  seqStates : Int → LlmModel.SeqState := fun _ => {}
  sharedSys : Fin kMaxSharedSys → LlmModel.SharedSysEntry := fun _ => {}
  sharedSysCount : Int := 0
  prefixClock : UInt64 := 0
  prefixEvictions : UInt64 := 0

abbrev Llm := Program Answer LlmModel

structure LlmRequest where
  seqId : Int
  isFirstTurn : Bool := false
  closeTurn : Bool := false
  /-- A null pointer is `none`. -/
  systemPrompt : Option CString := none
  maxTokens : Int := 0
  /-- A cancellation callback is set. -/
  cancellable : Bool := false

structure LlmResponse where
  seqId : Int := 0
  tokensGenerated : Nat := 0
  promptTokens : Nat := 0
  totalTokens : Nat := 0
  stopped : Bool := false
  cancelled : Bool := false
  cacheHit : Bool := false
  reusedTokens : Nat := 0
  cacheBytes : UInt64 := 0
deriving DecidableEq, Repr

namespace LlmModel

variable (config : LoadedConfig)

def privateSeqLimit : Int := config.nSeqMax - kMaxSharedSys

/-- The sequence that holds the prefix of a slot. -/
def sharedSeqId (index : Fin kMaxSharedSys) : Int := config.nSeqMax - 1 - index.val

/-! ### llama.cpp -/

def storeMemory (seqId : Int) (positions : Finset Nat) (model : LlmModel) : LlmModel :=
  { model with memory := Function.update model.memory seqId positions }

def setMemory (seqId : Int) (positions : Finset Nat) : Llm Unit :=
  Program.change (storeMemory seqId positions)

/-- `llama_memory_seq_rm(memory, seq_id, -1, -1)`, which always clears. -/
def memoryClear (seqId : Int) : Llm Unit :=
  setMemory seqId ∅

/-- `llama_memory_seq_rm(memory, seq_id, p0, -1)`; a failure changes nothing. -/
def memoryRemoveFrom (seqId : Int) (first : Nat) : Llm Bool := do
  let answer ← Program.ask
  if answer.succeeded then
    let positions ← Program.inspect fun model => model.memory seqId
    setMemory seqId (positions.filter fun position => position < first)
    pure true
  else
    pure false

/-- `llama_memory_seq_cp`. -/
def memoryCopy (source target : Int) (first last : Nat) : Llm Unit := do
  let copied ← Program.inspect fun model => model.memory source
  let present ← Program.inspect fun model => model.memory target
  setMemory target
    (present ∪ copied.filter fun position => first ≤ position ∧ position < last)

/-- `llama_decode`: the batch is stored, or the call fails with any part of it
stored. -/
def llamaDecode (seqId : Int) (batch : Finset Nat) : Llm Bool := do
  let answer ← Program.ask
  let present ← Program.inspect fun model => model.memory seqId
  if answer.succeeded then
    setMemory seqId (present ∪ batch)
    pure true
  else
    setMemory seqId (present ∪ batch.filter fun position => answer.kept position = true)
    pure false

@[simp] theorem memory_storeMemory (model : LlmModel) (seqId : Int)
    (positions : Finset Nat) : (storeMemory seqId positions model).memory seqId = positions :=
  Function.update_self ..

theorem memory_storeMemory_other (model : LlmModel) {seqId other : Int}
    (positions : Finset Nat) (different : other ≠ seqId) :
    (storeMemory seqId positions model).memory other = model.memory other :=
  Function.update_of_ne different ..

/-! ### Helpers -/

/-- `request` may be null, and its callback may be missing. -/
def requestCancelled (cancellable : Bool) : Llm Bool :=
  if cancellable then do
    let answer ← Program.ask
    pure answer.cancelled
  else pure false

/-- `tokenize_alloc`, reduced to its result. -/
def tokenizeAlloc : Llm Int := do
  let answer ← Program.ask
  pure answer.tokens

/-- An allocation, a token piece, a sampler or a boundary token. -/
def available : Llm Bool := do
  let answer ← Program.ask
  pure answer.succeeded

def storeSeqState (seqId : Int) (state : SeqState) (model : LlmModel) : LlmModel :=
  { model with seqStates := Function.update model.seqStates seqId state }

def setSeqState (seqId : Int) (state : SeqState) : Llm Unit :=
  Program.change (storeSeqState seqId state)

def seqState (seqId : Int) : Llm SeqState :=
  Program.inspect fun model => model.seqStates seqId

@[simp] theorem seqStates_storeSeqState (model : LlmModel) (seqId : Int) (state : SeqState) :
    (storeSeqState seqId state model).seqStates seqId = state :=
  Function.update_self ..

theorem seqStates_storeSeqState_other (model : LlmModel) {seqId other : Int}
    (state : SeqState) (different : other ≠ seqId) :
    (storeSeqState seqId state model).seqStates other = model.seqStates other :=
  Function.update_of_ne different ..

/-- The chunks of `decode_tokens` from `start`, `remaining` tokens in all.  A
chunk takes a token at least, so that many rounds are enough. -/
def decodeChunks (cancellable : Bool) (seqId : Int) : Nat → Nat → Nat → Llm Int
  | 0, _, _ => pure 0
  | rounds + 1, start, remaining =>
      if remaining = 0 then pure 0
      else do
        let cancelled ← requestCancelled cancellable
        if cancelled then pure (-2)
        else
          let chunk := min remaining config.nBatch
          let decoded ← llamaDecode seqId (Finset.Ico start (start + chunk))
          if decoded then
            decodeChunks cancellable seqId rounds (start + chunk) (remaining - chunk)
          else
            let cancelled ← requestCancelled cancellable
            pure (if cancelled then -2 else -1)

def decodeTokens (cancellable : Bool) (tokenCount : Nat) (seqId : Int) (startPos : Nat) :
    Llm Int :=
  decodeChunks config cancellable seqId tokenCount startPos tokenCount

/-! ### Shared prefixes -/

def findSharedSys (model : LlmModel) (prompt : CString) : Option (Fin kMaxSharedSys) :=
  (List.finRange kMaxSharedSys).find? fun index =>
    (model.sharedSys index).promptText = some prompt

/-- The loop of `select_shared_sys_slot` over the slots still to come. -/
def selectAmong (model : LlmModel) :
    List (Fin kMaxSharedSys) → Fin kMaxSharedSys → Fin kMaxSharedSys
  | [], lruIndex => lruIndex
  | index :: rest, lruIndex =>
      if (model.sharedSys index).promptText = none then index
      else if (model.sharedSys index).lastAccess < (model.sharedSys lruIndex).lastAccess then
        selectAmong model rest index
      else selectAmong model rest lruIndex

def selectSharedSysSlot (model : LlmModel) : Fin kMaxSharedSys :=
  selectAmong model (List.finRange kMaxSharedSys) ⟨0, by decide⟩

def storeSharedSys (index : Fin kMaxSharedSys) (entry : SharedSysEntry) (model : LlmModel) :
    LlmModel :=
  { model with sharedSys := Function.update model.sharedSys index entry }

def setSharedSys (index : Fin kMaxSharedSys) (entry : SharedSysEntry) : Llm Unit :=
  Program.change (storeSharedSys index entry)

@[simp] theorem sharedSys_storeSharedSys (model : LlmModel) (index : Fin kMaxSharedSys)
    (entry : SharedSysEntry) : (storeSharedSys index entry model).sharedSys index = entry :=
  Function.update_self ..

theorem sharedSys_storeSharedSys_other (model : LlmModel) {index other : Fin kMaxSharedSys}
    (entry : SharedSysEntry) (different : other ≠ index) :
    (storeSharedSys index entry model).sharedSys other = model.sharedSys other :=
  Function.update_of_ne different ..

/-- `model->shared_sys[index].last_access = ++model->prefix_clock;` -/
def touched (index : Fin kMaxSharedSys) (model : LlmModel) : LlmModel :=
  storeSharedSys index
    { model.sharedSys index with lastAccess := model.prefixClock + 1 }
    { model with prefixClock := model.prefixClock + 1 }

def touchSharedSys (index : Fin kMaxSharedSys) : Llm Unit :=
  Program.change (touched index)

/-- The slot is emptied if it held a prefix. -/
def evictSharedSys (index : Fin kMaxSharedSys) : Llm Unit := do
  let entry ← Program.inspect fun model => model.sharedSys index
  if entry.promptText = none then pure ()
  else
    memoryClear entry.seqId
    setSharedSys index {}
    Program.change fun model =>
      { model with
        sharedSysCount := model.sharedSysCount - 1
        prefixEvictions := model.prefixEvictions + 1 }

/-- `cache_system_prefix` returns `-1` or writes the slot through its pointer. -/
def cacheSystemPrefix (systemPrompt : CString) : Llm (Option (Fin kMaxSharedSys)) := do
  let count ← tokenizeAlloc
  if count ≤ 0 ∨ (config.nCtx : Int) ≤ count then pure none
  else
    let index ← Program.inspect selectSharedSysSlot
    let sharedSeq := sharedSeqId config index
    evictSharedSys index
    memoryClear sharedSeq
    let decoded ← decodeTokens config false count.toNat sharedSeq 0
    if decoded ≠ 0 then
      memoryClear sharedSeq
      pure none
    else
      let copied ← available
      if !copied then
        memoryClear sharedSeq
        pure none
      else
        setSharedSys index
          { seqId := sharedSeq, tokenCount := count.toNat, promptText := some systemPrompt }
        touchSharedSys index
        Program.change fun model => { model with sharedSysCount := model.sharedSysCount + 1 }
        pure (some index)

/-- The slot of a prompt, and whether it held the prompt already. -/
def findOrCache (systemPrompt : CString) : Llm (Option (Fin kMaxSharedSys) × Bool) := do
  let found ← Program.inspect fun model => findSharedSys model systemPrompt
  match found with
  | some index => pure (some index, true)
  | none =>
      let cached ← cacheSystemPrefix config systemPrompt
      pure (cached, false)

/-! ### Inference -/

/-- The copy of a cached prefix into the sequence of the request. -/
def useSharedPrefix (request : LlmRequest) (index : Fin kMaxSharedSys) (reused : Bool)
    (response : LlmResponse) : Llm LlmResponse := do
  touchSharedSys index
  let entry ← Program.inspect fun model => model.sharedSys index
  memoryCopy entry.seqId request.seqId 0 entry.tokenCount
  setSeqState request.seqId { currentPos := entry.tokenCount, inUse := true }
  if reused then
    setSharedSys index
      { entry with
        shareCount := entry.shareCount + 1
        savedTokens := entry.savedTokens + entry.tokenCount }
    pure { response with cacheHit := true, reusedTokens := entry.tokenCount }
  else pure response

/-- The system prompt is decoded into the sequence of the request itself. -/
def decodeSystemPrompt (request : LlmRequest) (response : LlmResponse) :
    Llm (Bool × LlmResponse) := do
  let systemCount ← tokenizeAlloc
  if systemCount ≤ 0 ∨ (config.nCtx : Int) ≤ systemCount then
    let cancelled ← requestCancelled request.cancellable
    pure (false, { response with cancelled })
  else
    let decoded ← decodeTokens config request.cancellable systemCount.toNat request.seqId 0
    if decoded ≠ 0 then
      let cancelled ← requestCancelled request.cancellable
      pure (false, { response with cancelled })
    else
      setSeqState request.seqId { currentPos := systemCount.toNat, inUse := true }
      pure (true, response)

/-- The system prompt of a first turn.  The result says whether the turn goes on. -/
def prefixPhase (request : LlmRequest) (systemPrompt : CString) (response : LlmResponse) :
    Llm (Bool × LlmResponse) := do
  let shared ← findOrCache config systemPrompt
  match shared.1 with
  | some index =>
      let response ← useSharedPrefix request index shared.2 response
      pure (true, response)
  | none => decodeSystemPrompt config request response

/-- `response->cancelled = result == -2 || request_cancelled(request);` -/
def cancelledAfter (request : LlmRequest) (result : Int) : Llm Bool :=
  if result = -2 then pure true else requestCancelled request.cancellable

/-- What the generation loop leaves in its local variables. -/
structure Generation where
  generated : Nat
  boundaryTokens : Nat := 0
  result : Int := 0
  cancelled : Bool := false
  stopped : Bool := false

/-- A decoded token failed: the generation ends with the matching result. -/
def failedGeneration (request : LlmRequest) (generated : Nat) (result : Int) :
    Llm Generation := do
  let cancelled ← cancelledAfter request result
  pure { generated, cancelled, result := if cancelled then -2 else -1 }

/-- The generation loop with `remaining` tokens to go. -/
def generateTokens (request : LlmRequest) (generationPos : Nat) : Nat → Nat → Llm Generation
  | 0, generated => pure { generated }
  | remaining + 1, generated => do
      let cancelled ← requestCancelled request.cancellable
      if cancelled then pure { generated, result := -2, cancelled := true }
      else
        let sampled ← Program.ask
        if sampled.ends then
          let tokenResult ← decodeTokens config request.cancellable 1 request.seqId
            (generationPos + generated)
          if tokenResult ≠ 0 then failedGeneration request generated tokenResult
          else pure { generated, boundaryTokens := 1, stopped := true }
        else
          let appended ← available
          if !appended then pure { generated, result := -1 }
          else
            let tokenResult ← decodeTokens config request.cancellable 1 request.seqId
              (generationPos + generated)
            if tokenResult ≠ 0 then failedGeneration request generated tokenResult
            else generateTokens request generationPos remaining (generated + 1)

/-- The forced end of a turn, when no token ended it. -/
def closeTurn (request : LlmRequest) (generationPos : Nat) (generation : Generation) :
    Llm Generation :=
  if generation.result = 0 ∧ request.closeTurn = true ∧ generation.boundaryTokens = 0 then do
    let boundary ← available
    if !boundary then pure generation
    else
      let boundaryResult ← decodeTokens config request.cancellable 1 request.seqId
        (generationPos + generation.generated)
      if boundaryResult ≠ 0 then failedGeneration request generation.generated boundaryResult
      else pure { generation with boundaryTokens := 1, stopped := true }
  else pure generation

/-- Sampling, from the end of the prompt to the new state of the sequence. -/
def generationPhase (request : LlmRequest) (maxTokens promptCount generationPos : Nat)
    (response : LlmResponse) : Llm (Int × LlmResponse) := do
  let allocated ← available
  if !allocated then pure (-1, response)
  else
    let sampler ← available
    if !sampler then pure (-1, response)
    else
      let loop ← generateTokens config request generationPos maxTokens 0
      let generation ← closeTurn config request generationPos loop
      let response :=
        { response with cancelled := generation.cancelled, stopped := generation.stopped }
      if generation.result ≠ 0 then pure (generation.result, response)
      else
        let totalTokens := generationPos + generation.generated + generation.boundaryTokens
        setSeqState request.seqId { currentPos := totalTokens, inUse := true }
        let size ← Program.ask
        pure (if generation.cancelled then -2 else 0,
          { response with
            tokensGenerated := generation.generated
            promptTokens := promptCount
            totalTokens
            cacheBytes := size.bytes })

/-- The prompt of a turn. -/
def promptPhase (request : LlmRequest) (maxTokens : Nat) (response : LlmResponse) :
    Llm (Int × LlmResponse) := do
  let state ← seqState request.seqId
  let promptCount ← tokenizeAlloc
  let boundaryReserve : Int := if request.closeTurn then 1 else 0
  if promptCount ≤ 0 ∨
      (config.nCtx : Int) < state.currentPos + promptCount + maxTokens + boundaryReserve then
    pure (-1, response)
  else
    let decodeResult ← decodeTokens config request.cancellable promptCount.toNat request.seqId
      state.currentPos
    if decodeResult ≠ 0 then
      let cancelled ← cancelledAfter request decodeResult
      pure (-1, { response with cancelled })
    else
      generationPhase config request maxTokens promptCount.toNat
        (state.currentPos + promptCount.toNat) response

/-- `native_cleanup` after a failed turn. -/
def rollBack (seqId : Int) (original : SeqState) : Llm Unit := do
  let rolledBack ← memoryRemoveFrom seqId original.currentPos
  if !rolledBack || !original.inUse then
    memoryClear seqId
    setSeqState seqId {}
  else
    setSeqState seqId { currentPos := original.currentPos, inUse := true }

/-- The turn itself: a prefix, if a system prompt starts the sequence, then the
prompt and the generation. -/
def turn (request : LlmRequest) (maxTokens : Nat) (response : LlmResponse) :
    Llm (Int × LlmResponse) := do
  let systemPrompt := request.systemPrompt.getD .empty
  if request.isFirstTurn = true ∧ systemPrompt ≠ .empty then
    let goesOn ← prefixPhase config request systemPrompt response
    if goesOn.1 then promptPhase config request maxTokens goesOn.2
    else pure (-1, goesOn.2)
  else promptPhase config request maxTokens response

/-- A first turn starts from an empty sequence; the result is the state to
return to. -/
def startTurn (request : LlmRequest) : Llm SeqState :=
  if request.isFirstTurn then do
    memoryClear request.seqId
    setSeqState request.seqId {}
    pure {}
  else seqState request.seqId

def effectiveMaxTokens (request : LlmRequest) : Nat :=
  min (if 0 < request.maxTokens then request.maxTokens.toNat else config.maxTokens) config.nCtx

/-- A prompt is never null here. -/
def llmInference (request : LlmRequest) : Llm (Int × LlmResponse) :=
  if request.seqId ≤ 0 ∨ privateSeqLimit config ≤ request.seqId then pure (-1, {})
  else do
    let response : LlmResponse := { seqId := request.seqId }
    let cancelled ← requestCancelled request.cancellable
    if cancelled then pure (-2, { response with cancelled := true })
    else
      let original ← startTurn request
      let outcome ← turn config request (effectiveMaxTokens config request) response
      if outcome.1 ≠ 0 then
        rollBack request.seqId original
        pure outcome
      else pure outcome

/-! ### The other operations -/

/-- `llm_warmup_shared_kv_with_cancel`. -/
def llmWarmupSharedKv (systemPrompt : Option CString) (cancellable : Bool) : Llm Int :=
  if systemPrompt.getD .empty = .empty then pure (-1)
  else do
    let cancelled ← requestCancelled cancellable
    if cancelled then pure (-2)
    else
      let shared ← findOrCache config (systemPrompt.getD .empty)
      match shared.1 with
      | none =>
          let cancelled ← requestCancelled cancellable
          pure (if cancelled then -2 else -1)
      | some index =>
          let cancelled ← requestCancelled cancellable
          if cancelled then pure (-2)
          else
            touchSharedSys index
            Program.inspect fun model => (model.sharedSys index).seqId

def llmClearSeq (seqId : Int) : Llm Unit :=
  if seqId ≤ 0 ∨ privateSeqLimit config ≤ seqId then pure ()
  else do
    memoryClear seqId
    setSeqState seqId {}

/-- A file that holds a sequence, and the position that was reported with it. -/
structure Checkpoint where
  positions : Finset Nat
  position : Nat
deriving DecidableEq

/-- `llm_checkpoint_seq` returns `-1`, or writes the file and reports the position
and the size. -/
def llmCheckpointSeq (seqId : Int) : Llm (Option (Checkpoint × UInt64)) :=
  if seqId ≤ 0 ∨ privateSeqLimit config ≤ seqId then pure none
  else do
    let state ← seqState seqId
    if !state.inUse || state.currentPos = 0 then pure none
    else
      let answer ← Program.ask
      if answer.bytes = 0 then pure none
      else
        let positions ← Program.inspect fun model => model.memory seqId
        pure (some ({ positions, position := state.currentPos }, answer.bytes))

/-- `llm_restore_seq` from a file with these positions; a missing file cannot be
loaded. -/
def llmRestoreSeq (seqId : Int) (file : Option (Finset Nat)) (position : Nat) : Llm Bool :=
  if position = 0 ∨ seqId ≤ 0 ∨ privateSeqLimit config ≤ seqId then pure false
  else do
    memoryClear seqId
    let answer ← Program.ask
    match file with
    | some positions =>
        if answer.succeeded then
          setMemory seqId positions
          setSeqState seqId { currentPos := position, inUse := true }
          pure true
        else
          setMemory seqId (positions.filter fun stored => answer.kept stored = true)
          memoryClear seqId
          pure false
    | none =>
        memoryClear seqId
        pure false

end LlmModel

end AgentNucleus.Top
