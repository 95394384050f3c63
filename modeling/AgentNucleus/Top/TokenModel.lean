/-
`llm_inference` with its texts and tokens.  Each sequence holds a token at every position;
what is tokenized, sampled and decoded is known, and a run goes on only while llama.cpp
answers as the vocabulary of the loaded model says.  With the tokens left out it is the
inference on positions alone.
-/

import AgentNucleus.Library.CheckedPrograms
import AgentNucleus.Top.LlamaModel

set_option autoImplicit false

namespace AgentNucleus.Top

open AgentNucleus.Library
open AgentNucleus.Library.Checked (Erases)
open AgentNucleus.Runtime (CString StdString)

/-- `llama_token` -/
abbrev Token := Int32

/-- What llama.cpp knows of a model: `llama_tokenize` with or without the token that
begins a sequence, the text that a token stands for, and the token that
`llama_vocab_eot` or `llama_vocab_eos` names. -/
structure Vocabulary where
  tokenize : StdString → Bool → List Token
  piece : Token → StdString
  endOfTurn : Option Token

namespace Vocabulary

def spell (vocabulary : Vocabulary) (tokens : List Token) : StdString :=
  tokens.flatMap vocabulary.piece

/-- A sampled token that ends the generation is the token that ends a turn, and another one
spells no terminator. -/
def Samples (vocabulary : Vocabulary) (sampled : Answer) : Prop :=
  (sampled.ends = true → vocabulary.endOfTurn = some sampled.token) ∧
    (sampled.ends = false → 0 ∉ vocabulary.piece sampled.token)

instance (vocabulary : Vocabulary) (sampled : Answer) :
    Decidable (vocabulary.Samples sampled) :=
  inferInstanceAs (Decidable ((sampled.ends = true → vocabulary.endOfTurn = some sampled.token) ∧
    (sampled.ends = false → 0 ∉ vocabulary.piece sampled.token)))

end Vocabulary

/-- A model, and the token that each sequence has at a position.  Only a position that is
stored counts. -/
structure TokenModel where
  llm : LlmModel := {}
  cells : Int → Nat → Token := fun _ _ => 0

abbrev Spelling := Checked Answer TokenModel

namespace TokenModel

/-- What no token depends on. -/
def onLlm {α : Type} (program : Llm α) : Spelling α :=
  Checked.lift (program.on TokenModel.llm fun model llm => { model with llm })

/-- The tokens from `start` on are those of a batch. -/
def written (seqId : Int) (start : Nat) (tokens : List Token) (model : TokenModel) :
    TokenModel :=
  { model with
    cells := Function.update model.cells seqId fun position =>
      if start ≤ position then (tokens[position - start]?).getD (model.cells seqId position)
      else model.cells seqId position }

/-- The first tokens are those of another sequence. -/
def copied (source target : Int) (count : Nat) (model : TokenModel) : TokenModel :=
  { model with
    cells := Function.update model.cells target fun position =>
      if position < count then model.cells source position else model.cells target position }

variable (config : LoadedConfig) (vocabulary : Vocabulary)

/-- `tokenize_alloc` counts the tokens of its text, unless it fails. -/
def tokenizeAlloc (tokens : List Token) : Spelling Int := do
  let count ← onLlm LlmModel.tokenizeAlloc
  Checked.require (count ≤ 0 ∨ count = tokens.length)
  pure count

/-- What a failed call has left does not count, since its positions are removed. -/
def decodeTokens (cancellable : Bool) (tokens : List Token) (seqId : Int) (startPos : Nat) :
    Spelling Int := do
  Checked.lift (Program.change (written seqId startPos tokens))
  onLlm (LlmModel.decodeTokens config cancellable tokens.length seqId startPos)

/-! ### The system prompt -/

def cacheSystemPrefix (systemPrompt : CString) : Spelling (Option (Fin kMaxSharedSys)) := do
  let tokens := vocabulary.tokenize systemPrompt.bytes true
  let count ← tokenizeAlloc tokens
  if count ≤ 0 ∨ (config.nCtx : Int) ≤ count then pure none
  else
    let index ← onLlm (Program.inspect LlmModel.selectSharedSysSlot)
    let sharedSeq := LlmModel.sharedSeqId config index
    onLlm (LlmModel.evictSharedSys index)
    onLlm (LlmModel.memoryClear sharedSeq)
    let decoded ← decodeTokens config false tokens sharedSeq 0
    if decoded ≠ 0 then
      onLlm (LlmModel.memoryClear sharedSeq)
      pure none
    else
      let copied ← onLlm LlmModel.available
      if !copied then
        onLlm (LlmModel.memoryClear sharedSeq)
        pure none
      else
        onLlm (LlmModel.setSharedSys index
          { seqId := sharedSeq, tokenCount := tokens.length, promptText := some systemPrompt })
        onLlm (LlmModel.touchSharedSys index)
        onLlm (Program.change fun model =>
          { model with sharedSysCount := model.sharedSysCount + 1 })
        pure (some index)

def findOrCache (systemPrompt : CString) :
    Spelling (Option (Fin kMaxSharedSys) × Bool) := do
  let found ← onLlm (Program.inspect fun model => LlmModel.findSharedSys model systemPrompt)
  match found with
  | some index => pure (some index, true)
  | none =>
      let cached ← cacheSystemPrefix config vocabulary systemPrompt
      pure (cached, false)

/-- The tokens of the prefix, where `llama_memory_seq_cp` puts its positions. -/
def copyPrefix (target : Int) (index : Fin kMaxSharedSys) (model : TokenModel) : TokenModel :=
  copied (model.llm.sharedSys index).seqId target (model.llm.sharedSys index).tokenCount model

def useSharedPrefix (request : LlmRequest) (index : Fin kMaxSharedSys) (reused : Bool)
    (response : LlmResponse) : Spelling LlmResponse := do
  Checked.lift (Program.change (copyPrefix request.seqId index))
  onLlm (LlmModel.useSharedPrefix request index reused response)

def decodeSystemPrompt (request : LlmRequest) (systemPrompt : CString) (response : LlmResponse) :
    Spelling (Bool × LlmResponse) := do
  let tokens := vocabulary.tokenize systemPrompt.bytes true
  let systemCount ← tokenizeAlloc tokens
  if systemCount ≤ 0 ∨ (config.nCtx : Int) ≤ systemCount then
    let cancelled ← onLlm (LlmModel.requestCancelled request.cancellable)
    pure (false, { response with cancelled })
  else
    let decoded ← decodeTokens config request.cancellable tokens request.seqId 0
    if decoded ≠ 0 then
      let cancelled ← onLlm (LlmModel.requestCancelled request.cancellable)
      pure (false, { response with cancelled })
    else
      onLlm (LlmModel.setSeqState request.seqId { currentPos := tokens.length, inUse := true })
      pure (true, response)

def prefixPhase (request : LlmRequest) (systemPrompt : CString) (response : LlmResponse) :
    Spelling (Bool × LlmResponse) := do
  let shared ← findOrCache config vocabulary systemPrompt
  match shared.1 with
  | some index =>
      let response ← useSharedPrefix request index shared.2 response
      pure (true, response)
  | none => decodeSystemPrompt config vocabulary request systemPrompt response

/-! ### The generation -/

/-- What the generation loop leaves: the tokens that it has decoded, and those at the end of
the turn. -/
structure Generation where
  generated : List Token
  boundary : List Token := []
  result : Int := 0
  cancelled : Bool := false
  stopped : Bool := false

def Generation.counted (generation : Generation) : LlmModel.Generation where
  generated := generation.generated.length
  boundaryTokens := generation.boundary.length
  result := generation.result
  cancelled := generation.cancelled
  stopped := generation.stopped

def failedGeneration (request : LlmRequest) (generated : List Token) (result : Int) :
    Spelling Generation := do
  let cancelled ← onLlm (LlmModel.cancelledAfter request result)
  pure { generated, cancelled, result := if cancelled then -2 else -1 }

/-- One token is decoded behind those that were generated. -/
def decodeNext (request : LlmRequest) (generationPos : Nat) (generated tokens : List Token) :
    Spelling Int :=
  decodeTokens config request.cancellable tokens request.seqId (generationPos + generated.length)

def generateTokens (request : LlmRequest) (generationPos : Nat) :
    Nat → List Token → Spelling Generation
  | 0, generated => pure { generated }
  | remaining + 1, generated => do
      let cancelled ← onLlm (LlmModel.requestCancelled request.cancellable)
      if cancelled then pure { generated, result := -2, cancelled := true }
      else
        let sampled ← onLlm Program.ask
        Checked.require (vocabulary.Samples sampled)
        if sampled.ends then
          let tokenResult ← decodeNext config request generationPos generated [sampled.token]
          if tokenResult ≠ 0 then failedGeneration request generated tokenResult
          else pure { generated, boundary := [sampled.token], stopped := true }
        else
          let appended ← onLlm LlmModel.available
          if !appended then pure { generated, result := -1 }
          else
            let tokenResult ← decodeNext config request generationPos generated [sampled.token]
            if tokenResult ≠ 0 then failedGeneration request generated tokenResult
            else generateTokens request generationPos remaining (generated ++ [sampled.token])

def closeTurn (request : LlmRequest) (generationPos : Nat) (generation : Generation) :
    Spelling Generation :=
  if generation.result = 0 ∧ request.closeTurn = true ∧ generation.boundary = [] then do
    let present ← onLlm LlmModel.available
    Checked.require (present = vocabulary.endOfTurn.isSome)
    if !present then pure generation
    else
      let boundary := vocabulary.endOfTurn.toList
      let boundaryResult ←
        decodeNext config request generationPos generation.generated boundary
      if boundaryResult ≠ 0 then
        failedGeneration request generation.generated boundaryResult
      else pure { generation with boundary, stopped := true }
  else pure generation

/-- The result of an inference with the tokens of its answer. -/
abbrev Inferred := (Int × LlmResponse) × List Token

def generationPhase (request : LlmRequest) (maxTokens promptCount generationPos : Nat)
    (response : LlmResponse) : Spelling Inferred := do
  let allocated ← onLlm LlmModel.available
  if !allocated then pure ((-1, response), [])
  else
    let sampler ← onLlm LlmModel.available
    if !sampler then pure ((-1, response), [])
    else
      let loop ← generateTokens config vocabulary request generationPos maxTokens []
      let generation ← closeTurn config vocabulary request generationPos loop
      let response :=
        { response with cancelled := generation.cancelled, stopped := generation.stopped }
      if generation.result ≠ 0 then pure ((generation.result, response), [])
      else
        let totalTokens :=
          generationPos + generation.generated.length + generation.boundary.length
        onLlm (LlmModel.setSeqState request.seqId { currentPos := totalTokens, inUse := true })
        let size ← onLlm Program.ask
        pure ((if generation.cancelled then -2 else 0,
          { response with
            tokensGenerated := generation.generated.length
            promptTokens := promptCount
            totalTokens
            cacheBytes := size.bytes }), generation.generated)

/-! ### The inference -/

/-- The prompt of a turn, with the token that begins a sequence if it is empty. -/
def promptPhase (request : LlmRequest) (prompt : CString) (maxTokens : Nat)
    (response : LlmResponse) : Spelling Inferred := do
  let state ← onLlm (LlmModel.seqState request.seqId)
  let tokens := vocabulary.tokenize prompt.bytes (!state.inUse)
  let promptCount ← tokenizeAlloc tokens
  let boundaryReserve : Int := if request.closeTurn then 1 else 0
  if promptCount ≤ 0 ∨
      (config.nCtx : Int) < state.currentPos + promptCount + maxTokens + boundaryReserve then
    pure ((-1, response), [])
  else
    let decodeResult ← decodeTokens config request.cancellable tokens request.seqId
      state.currentPos
    if decodeResult ≠ 0 then
      let cancelled ← onLlm (LlmModel.cancelledAfter request decodeResult)
      pure ((-1, { response with cancelled }), [])
    else
      generationPhase config vocabulary request maxTokens tokens.length
        (state.currentPos + tokens.length) response

/-- A run goes on only if the new positions can be removed. -/
def rollBack (seqId : Int) (original : LlmModel.SeqState) : Spelling Unit := do
  let rolledBack ← onLlm (LlmModel.memoryRemoveFrom seqId original.currentPos)
  Checked.require (rolledBack = true)
  if !rolledBack || !original.inUse then
    onLlm (LlmModel.memoryClear seqId)
    onLlm (LlmModel.setSeqState seqId {})
  else
    onLlm (LlmModel.setSeqState seqId { currentPos := original.currentPos, inUse := true })

def turn (request : LlmRequest) (prompt : CString) (maxTokens : Nat) (response : LlmResponse) :
    Spelling Inferred := do
  let systemPrompt := request.systemPrompt.getD .empty
  if request.isFirstTurn = true ∧ systemPrompt ≠ .empty then
    let goesOn ← prefixPhase config vocabulary request systemPrompt response
    if goesOn.1 then promptPhase config vocabulary request prompt maxTokens goesOn.2
    else pure ((-1, goesOn.2), [])
  else promptPhase config vocabulary request prompt maxTokens response

def llmInference (request : LlmRequest) (prompt : CString) : Spelling Inferred :=
  if request.seqId ≤ 0 ∨ LlmModel.privateSeqLimit config ≤ request.seqId then
    pure ((-1, {}), [])
  else do
    let response : LlmResponse := { seqId := request.seqId }
    let cancelled ← onLlm (LlmModel.requestCancelled request.cancellable)
    if cancelled then pure ((-2, { response with cancelled := true }), [])
    else
      let original ← onLlm (LlmModel.startTurn request)
      let outcome ← turn config vocabulary request prompt
        (LlmModel.effectiveMaxTokens config request) response
      if outcome.1.1 ≠ 0 then
        rollBack request.seqId original
        pure outcome
      else pure outcome

/-! ### The tokens left out -/

variable {config vocabulary}

theorem onLlm_erases {α : Type} (program : Llm α) :
    Erases TokenModel.llm id (onLlm program) program :=
  Erases.lift (fun _ _ => rfl) program

theorem tokenizeAlloc_spec (before : TokenModel → Prop) (tokens : List Token) :
    Checked.Triple before (tokenizeAlloc tokens) fun count model =>
      before model ∧ (count ≤ 0 ∨ count = tokens.length) := by
  have kept : Checked.Triple before (onLlm LlmModel.tokenizeAlloc) fun _ => before :=
    Checked.Triple.lift (Program.Triple.on fun _ start =>
      Program.Triple.asks _ |>.weaken fun _ _ same => by rw [same]; exact start)
  apply kept.bind
  intro count
  apply Checked.Triple.require_then
  intro counted
  exact Checked.Triple.pure count fun _ holds => ⟨holds, counted⟩

theorem tokenizeAlloc_erases (tokens : List Token) :
    Erases TokenModel.llm id (tokenizeAlloc tokens) LlmModel.tokenizeAlloc := by
  unfold tokenizeAlloc
  rw [← bind_pure LlmModel.tokenizeAlloc]
  apply (onLlm_erases _).bind
  intro count
  apply Erases.require_then
  intro counted
  exact Erases.pure _ id count

theorem decodeTokens_erases (cancellable : Bool) (tokens : List Token) (seqId : Int)
    (startPos : Nat) :
    Erases TokenModel.llm id (decodeTokens config cancellable tokens seqId startPos)
      (LlmModel.decodeTokens config cancellable tokens.length seqId startPos) := by
  apply Erases.change_then
  · exact fun _ => rfl
  · exact onLlm_erases _

theorem tokenizeAlloc_counts (tokens : List Token) :
    Checked.Triple (fun _ => True) (tokenizeAlloc tokens) fun count _ =>
      count ≤ 0 ∨ count = tokens.length :=
  (tokenizeAlloc_spec _ tokens).weaken fun _ _ spec => spec.2

theorem cacheSystemPrefix_erases (systemPrompt : CString) :
    Erases TokenModel.llm id (cacheSystemPrefix config vocabulary systemPrompt)
      (LlmModel.cacheSystemPrefix config systemPrompt) := by
  apply (tokenizeAlloc_erases _).bind_knowing (tokenizeAlloc_counts _)
  intro count counted
  apply Erases.ite Iff.rfl
  · intro refused
    exact Erases.pure _ id none
  · intro accepted
    have counts : count.toNat = (vocabulary.tokenize systemPrompt.bytes true).length := by
      omega
    apply (onLlm_erases _).bind
    intro index
    apply (onLlm_erases _).bind
    intro evicted
    apply (onLlm_erases _).bind
    intro cleared
    simp only [id_eq, counts]
    apply (decodeTokens_erases _ _ _ _).bind
    intro decoded
    apply Erases.ite Iff.rfl
    · intro failure
      apply (onLlm_erases _).bind
      intro cleared
      exact Erases.pure _ id none
    · intro success
      apply (onLlm_erases _).bind
      intro copied
      apply Erases.ite Iff.rfl
      · intro missing
        apply (onLlm_erases _).bind
        intro cleared
        exact Erases.pure _ id none
      · intro present
        apply (onLlm_erases _).bind
        intro filled
        apply (onLlm_erases _).bind
        intro touched
        apply (onLlm_erases _).bind
        intro counted
        exact Erases.pure _ id (some index)

theorem findOrCache_erases (systemPrompt : CString) :
    Erases TokenModel.llm id (findOrCache config vocabulary systemPrompt)
      (LlmModel.findOrCache config systemPrompt) := by
  apply (onLlm_erases _).bind
  intro found
  cases found with
  | some index => exact Erases.pure _ id (some index, true)
  | none =>
      apply (cacheSystemPrefix_erases systemPrompt).bind
      intro cached
      exact Erases.pure _ id (cached, false)

theorem useSharedPrefix_erases (request : LlmRequest) (index : Fin kMaxSharedSys)
    (reused : Bool) (response : LlmResponse) :
    Erases TokenModel.llm id (useSharedPrefix request index reused response)
      (LlmModel.useSharedPrefix request index reused response) := by
  apply Erases.change_then
  · exact fun _ => rfl
  · exact onLlm_erases _

theorem decodeSystemPrompt_erases (request : LlmRequest) (systemPrompt : CString)
    (response : LlmResponse) :
    Erases TokenModel.llm id (decodeSystemPrompt config vocabulary request systemPrompt response)
      (LlmModel.decodeSystemPrompt config request response) := by
  have refusing : Erases TokenModel.llm id
      (do
        let cancelled ← onLlm (LlmModel.requestCancelled request.cancellable)
        pure (false, { response with cancelled }))
      (do
        let cancelled ← LlmModel.requestCancelled request.cancellable
        pure (false, { response with cancelled })) := by
    apply (onLlm_erases _).bind
    intro cancelled
    exact Erases.pure _ id (false, { response with cancelled })
  apply (tokenizeAlloc_erases _).bind_knowing (tokenizeAlloc_counts _)
  intro systemCount counted
  apply Erases.ite Iff.rfl
  · intro refused
    exact refusing
  · intro accepted
    have counts : systemCount.toNat = (vocabulary.tokenize systemPrompt.bytes true).length := by
      omega
    simp only [id_eq, counts]
    apply (decodeTokens_erases _ _ _ _).bind
    intro decoded
    apply Erases.ite Iff.rfl
    · intro failure
      exact refusing
    · intro success
      apply (onLlm_erases _).bind
      intro stored
      exact Erases.pure _ id (true, response)

theorem prefixPhase_erases (request : LlmRequest) (systemPrompt : CString)
    (response : LlmResponse) :
    Erases TokenModel.llm id (prefixPhase config vocabulary request systemPrompt response)
      (LlmModel.prefixPhase config request systemPrompt response) := by
  apply (findOrCache_erases systemPrompt).bind
  intro shared
  obtain ⟨_ | index, reused⟩ := shared
  · exact decodeSystemPrompt_erases request systemPrompt response
  · apply (useSharedPrefix_erases request index reused response).bind
    intro used
    exact Erases.pure _ id (true, used)

theorem failedGeneration_erases (request : LlmRequest) (generated : List Token)
    (result : Int) :
    Erases TokenModel.llm Generation.counted (failedGeneration request generated result)
      (LlmModel.failedGeneration request generated.length result) := by
  apply (onLlm_erases _).bind
  intro cancelled
  exact Erases.pure _ Generation.counted
    { generated, cancelled, result := if cancelled then -2 else -1 }

theorem decodeNext_erases (request : LlmRequest) (generationPos : Nat)
    (generated : List Token) (token : Token) :
    Erases TokenModel.llm id (decodeNext config request generationPos generated [token])
      (LlmModel.decodeTokens config request.cancellable 1 request.seqId
        (generationPos + generated.length)) :=
  decodeTokens_erases ..

theorem generateTokens_erases (request : LlmRequest) (generationPos remaining : Nat) :
    ∀ generated : List Token, Erases TokenModel.llm Generation.counted
      (generateTokens config vocabulary request generationPos remaining generated)
      (LlmModel.generateTokens config request generationPos remaining generated.length) := by
  induction remaining with
  | zero =>
      intro generated
      exact Erases.pure _ Generation.counted { generated }
  | succ remaining ih =>
      intro generated
      unfold generateTokens LlmModel.generateTokens
      apply (onLlm_erases _).bind
      intro cancelled
      apply Erases.ite Iff.rfl
      · intro now
        exact Erases.pure _ Generation.counted { generated, result := -2, cancelled := true }
      · intro goesOn
        apply (onLlm_erases _).bind
        intro sampled
        apply Erases.require_then
        intro regular
        apply Erases.ite Iff.rfl
        · intro ends
          apply (decodeNext_erases request generationPos generated sampled.token).bind
          intro tokenResult
          apply Erases.ite Iff.rfl
          · intro failure
            exact failedGeneration_erases request generated tokenResult
          · intro success
            exact Erases.pure _ Generation.counted
              { generated, boundary := [sampled.token], stopped := true }
        · intro continues
          apply (onLlm_erases _).bind
          intro appended
          apply Erases.ite Iff.rfl
          · intro missing
            exact Erases.pure _ Generation.counted { generated, result := -1 }
          · intro present
            apply (decodeNext_erases request generationPos generated sampled.token).bind
            intro tokenResult
            apply Erases.ite Iff.rfl
            · intro failure
              exact failedGeneration_erases request generated tokenResult
            · intro success
              have next := ih (generated ++ [sampled.token])
              rw [List.length_append] at next
              exact next

theorem closeTurn_erases (request : LlmRequest) (generationPos : Nat)
    (generation : Generation) :
    Erases TokenModel.llm Generation.counted
      (closeTurn config vocabulary request generationPos generation)
      (LlmModel.closeTurn config request generationPos generation.counted) := by
  have unbounded : generation.boundary = [] ↔ generation.counted.boundaryTokens = 0 :=
    List.length_eq_zero_iff.symm
  apply Erases.ite
  · rw [unbounded]
    rfl
  · intro open_
    apply (onLlm_erases _).bind
    intro present
    apply Erases.require_then
    intro known
    apply Erases.ite Iff.rfl
    · intro missing
      exact Erases.pure _ Generation.counted generation
    · intro there
      obtain ⟨token, named⟩ : ∃ token, vocabulary.endOfTurn = some token := by
        apply Option.isSome_iff_exists.mp
        rw [← known]
        simpa using there
      rw [named]
      apply (decodeNext_erases request generationPos generation.generated token).bind
      intro boundaryResult
      apply Erases.ite Iff.rfl
      · intro failure
        exact failedGeneration_erases request generation.generated boundaryResult
      · intro success
        exact Erases.pure _ Generation.counted
          { generation with boundary := [token], stopped := true }
  · intro otherwise
    exact Erases.pure _ Generation.counted generation

theorem generationPhase_erases (request : LlmRequest)
    (maxTokens promptCount generationPos : Nat) (response : LlmResponse) :
    Erases TokenModel.llm Prod.fst
      (generationPhase config vocabulary request maxTokens promptCount generationPos response)
      (LlmModel.generationPhase config request maxTokens promptCount generationPos response) := by
  apply (onLlm_erases _).bind
  intro allocated
  apply Erases.ite Iff.rfl
  · intro missing
    exact Erases.pure _ Prod.fst ((-1, response), [])
  · intro present
    apply (onLlm_erases _).bind
    intro sampler
    apply Erases.ite Iff.rfl
    · intro missing
      exact Erases.pure _ Prod.fst ((-1, response), [])
    · intro sampling
      apply (generateTokens_erases request generationPos maxTokens []).bind
      intro loop
      apply (closeTurn_erases request generationPos loop).bind
      intro generation
      apply Erases.ite Iff.rfl
      · intro failure
        exact Erases.pure _ Prod.fst ((generation.result, _), [])
      · intro success
        apply (onLlm_erases _).bind
        intro stored
        apply (onLlm_erases _).bind
        intro size
        exact Erases.pure _ Prod.fst ((_, _), generation.generated)

theorem promptPhase_erases (request : LlmRequest) (prompt : CString) (maxTokens : Nat)
    (response : LlmResponse) :
    Erases TokenModel.llm Prod.fst
      (promptPhase config vocabulary request prompt maxTokens response)
      (LlmModel.promptPhase config request maxTokens response) := by
  apply (onLlm_erases _).bind
  intro state
  apply (tokenizeAlloc_erases _).bind_knowing (tokenizeAlloc_counts _)
  intro promptCount counted
  apply Erases.ite Iff.rfl
  · intro refused
    exact Erases.pure _ Prod.fst ((-1, response), [])
  · intro accepted
    have counts : promptCount.toNat =
        (vocabulary.tokenize prompt.bytes (!state.inUse)).length := by
      omega
    simp only [id_eq, counts]
    apply (decodeTokens_erases _ _ _ _).bind
    intro decodeResult
    apply Erases.ite Iff.rfl
    · intro failure
      apply (onLlm_erases _).bind
      intro cancelled
      exact Erases.pure _ Prod.fst ((-1, { response with cancelled }), [])
    · intro success
      exact generationPhase_erases ..

theorem rollBack_erases (seqId : Int) (original : LlmModel.SeqState) :
    Erases TokenModel.llm id (rollBack seqId original) (LlmModel.rollBack seqId original) := by
  apply (onLlm_erases _).bind
  intro rolledBack
  apply Erases.require_then
  intro accepted
  apply Erases.ite Iff.rfl
  · intro unused
    apply (onLlm_erases _).bind
    intro cleared
    exact onLlm_erases _
  · intro used
    exact onLlm_erases _

theorem turn_erases (request : LlmRequest) (prompt : CString) (maxTokens : Nat)
    (response : LlmResponse) :
    Erases TokenModel.llm Prod.fst (turn config vocabulary request prompt maxTokens response)
      (LlmModel.turn config request maxTokens response) := by
  apply Erases.ite Iff.rfl
  · intro first
    apply (prefixPhase_erases ..).bind
    intro goesOn
    apply Erases.ite Iff.rfl
    · intro success
      exact promptPhase_erases ..
    · intro failure
      exact Erases.pure _ Prod.fst ((-1, goesOn.2), [])
  · intro later
    exact promptPhase_erases ..

/-- Without its tokens the inference is the one on positions. -/
theorem llmInference_erases (request : LlmRequest) (prompt : CString) :
    Erases TokenModel.llm Prod.fst (llmInference config vocabulary request prompt)
      (LlmModel.llmInference config request) := by
  apply Erases.ite Iff.rfl
  · intro outside
    exact Erases.pure _ Prod.fst ((-1, ({} : LlmResponse)), [])
  · intro inside
    apply (onLlm_erases _).bind
    intro cancelled
    apply Erases.ite Iff.rfl
    · intro now
      exact Erases.pure _ Prod.fst ((-2, _), [])
    · intro goesOn
      apply (onLlm_erases _).bind
      intro original
      apply (turn_erases ..).bind
      intro outcome
      apply Erases.ite Iff.rfl
      · intro failure
        apply (rollBack_erases request.seqId original).bind
        intro undone
        exact Erases.pure _ Prod.fst outcome
      · intro success
        exact Erases.pure _ Prod.fst outcome

end TokenModel

end AgentNucleus.Top
