/-
The same model built without llama.cpp.  Nothing is encoded: a prefix is a slot with
its prompt, and a token is four characters.  The copy of a prompt and the text of a
response can fail to be allocated.
-/

import AgentNucleus.Library.Machine
import AgentNucleus.Top.LlamaModel

set_option autoImplicit false

namespace AgentNucleus.Top.LlmModel

open AgentNucleus.Library
open AgentNucleus.Runtime (CString)

variable (config : LoadedConfig)

/-- `(int)strlen(text) / 4 + 1` -/
def simulatedTokens (prompt : CString) : Nat :=
  prompt.bytes.length / 4 + 1

def countSharedSys (difference : Int) : Llm Unit :=
  Program.change fun model =>
    { model with sharedSysCount := model.sharedSysCount + difference }

/-- The slot is emptied if it held a prefix; there is no sequence to clear. -/
def dropSharedSys (index : Fin kMaxSharedSys) : Llm Unit := do
  let entry ← Program.inspect fun model => model.sharedSys index
  if entry.promptText = none then pure ()
  else
    setSharedSys index {}
    countSharedSys (-1)
    Program.change fun model => { model with prefixEvictions := model.prefixEvictions + 1 }

/-- `entry->seq_id = …; entry->token_count = …; entry->prompt_text = …;` -/
def describeSharedSys (index : Fin kMaxSharedSys) (systemPrompt : CString)
    (copy : Option CString) : Llm Unit := do
  let entry ← Program.inspect fun model => model.sharedSys index
  setSharedSys index
    { entry with
      seqId := sharedSeqId config index
      tokenCount := simulatedTokens systemPrompt
      promptText := copy }

/-- The slot for a system prompt in `llm_inference`, which copies the prompt first. -/
def inferencePrefix (systemPrompt : CString) : Llm (Option (Fin kMaxSharedSys) × Bool) := do
  let found ← Program.inspect fun model => findSharedSys model systemPrompt
  match found with
  | some index => pure (some index, true)
  | none =>
      let copied ← available
      if !copied then pure (none, false)
      else
        let index ← Program.inspect selectSharedSysSlot
        dropSharedSys index
        describeSharedSys config index systemPrompt (some systemPrompt)
        touchSharedSys index
        countSharedSys 1
        pure (some index, false)

def useSimulatedPrefix (request : LlmRequest) (index : Fin kMaxSharedSys) (reused : Bool)
    (response : LlmResponse) : Llm LlmResponse := do
  touchSharedSys index
  let entry ← Program.inspect fun model => model.sharedSys index
  let state ← seqState request.seqId
  setSeqState request.seqId { state with currentPos := entry.tokenCount }
  if reused then
    setSharedSys index
      { entry with
        shareCount := entry.shareCount + 1
        savedTokens := entry.savedTokens + entry.tokenCount }
    pure { response with cacheHit := true, reusedTokens := entry.tokenCount }
  else pure response

/-- Every response has ten tokens. -/
def simulatedResponse (request : LlmRequest) (prompt : CString) (response : LlmResponse) :
    Llm (Int × LlmResponse) := do
  let allocated ← available
  if !allocated then pure (-1, response)
  else
    let state ← seqState request.seqId
    let promptTokens := simulatedTokens prompt
    let totalTokens := state.currentPos + promptTokens + 10 + if request.closeTurn then 1 else 0
    setSeqState request.seqId { currentPos := totalTokens, inUse := true }
    pure (0,
      { response with
        promptTokens
        tokensGenerated := 10
        totalTokens
        stopped := true
        cacheBytes := UInt64.ofNat totalTokens * 1024 })

/-- The state of the sequence is reset at a first turn. -/
def resetTurn (request : LlmRequest) : Llm Unit :=
  if request.isFirstTurn then setSeqState request.seqId {} else pure ()

def simulatedTurn (request : LlmRequest) (prompt : CString) (original : SeqState)
    (response : LlmResponse) : Llm (Int × LlmResponse) := do
  let systemPrompt := request.systemPrompt.getD .empty
  if request.isFirstTurn = true ∧ systemPrompt ≠ .empty then
    let shared ← inferencePrefix config systemPrompt
    match shared.1 with
    | none =>
        setSeqState request.seqId original
        pure (-1, response)
    | some index =>
        let response ← useSimulatedPrefix request index shared.2 response
        simulatedResponse request prompt response
  else simulatedResponse request prompt response

def simulatedInference (request : LlmRequest) (prompt : CString) : Llm (Int × LlmResponse) :=
  if request.seqId ≤ 0 ∨ privateSeqLimit config ≤ request.seqId then pure (-1, {})
  else do
    let response : LlmResponse := { seqId := request.seqId }
    let cancelled ← requestCancelled request.cancellable
    if cancelled then pure (-2, { response with cancelled := true })
    else
      let original ← seqState request.seqId
      resetTurn request
      simulatedTurn config request prompt original response

/-- The slot for a system prompt in a warm-up, which copies the prompt last: without a
copy the slot stays empty. -/
def warmupPrefix (systemPrompt : CString) : Llm (Option (Fin kMaxSharedSys)) := do
  let found ← Program.inspect fun model => findSharedSys model systemPrompt
  match found with
  | some index => pure (some index)
  | none =>
      let index ← Program.inspect selectSharedSysSlot
      dropSharedSys index
      let copied ← available
      describeSharedSys config index systemPrompt (if copied then some systemPrompt else none)
      if !copied then pure none
      else
        touchSharedSys index
        countSharedSys 1
        pure (some index)

def simulatedWarmupSharedKv (systemPrompt : Option CString) (cancellable : Bool) : Llm Int :=
  if systemPrompt.getD .empty = .empty then pure (-1)
  else do
    let cancelled ← requestCancelled cancellable
    if cancelled then pure (-2)
    else
      let shared ← warmupPrefix config (systemPrompt.getD .empty)
      match shared with
      | none => pure (-1)
      | some index =>
          let cancelled ← requestCancelled cancellable
          if cancelled then pure (-2)
          else
            touchSharedSys index
            Program.inspect fun model => (model.sharedSys index).seqId

/-! ### Calls -/

/-- How the library is built: with or without `USE_LLAMA_CPP`. -/
inductive Build
  | native
  | simulated

/-- A call that works on the shared prefixes.  The length of a prompt is part of the
answers of llama.cpp, and only the simulation reads the prompt. -/
inductive PrefixCall
  | inference (request : LlmRequest) (prompt : CString)
  | warmup (systemPrompt : Option CString) (cancellable : Bool)

def Build.llmInference (build : Build) (request : LlmRequest) (prompt : CString) :
    Llm (Int × LlmResponse) :=
  match build with
  | .native => LlmModel.llmInference config request
  | .simulated => simulatedInference config request prompt

def Build.llmWarmupSharedKv (build : Build) (systemPrompt : Option CString)
    (cancellable : Bool) : Llm Int :=
  match build with
  | .native => LlmModel.llmWarmupSharedKv config systemPrompt cancellable
  | .simulated => simulatedWarmupSharedKv config systemPrompt cancellable

def Build.step (build : Build) (model : LlmModel) (operation : PrefixCall × Answers Answer) :
    LlmModel :=
  match operation.1 with
  | .inference request prompt =>
      (build.llmInference config request prompt).after model operation.2
  | .warmup systemPrompt cancellable =>
      (build.llmWarmupSharedKv config systemPrompt cancellable).after model operation.2

def prefixMachine (build : Build) : Machine LlmModel (PrefixCall × Answers Answer) where
  initial := {}
  step := build.step config

end AgentNucleus.Top.LlmModel
