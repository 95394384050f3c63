/-
The batches of `decode_tokens`.  Here the loop is followed with the tokens, positions and
logits that it writes into each batch; the state is the list of the batches that
llama.cpp has been given.  The loop may take a number of rounds, and returns nothing
where that number is too small.
-/

import AgentNucleus.Library.CoupledPrograms
import AgentNucleus.Top.LlamaModel

set_option autoImplicit false

namespace AgentNucleus.Top

open AgentNucleus.Library
open AgentNucleus.Library.Program (Coupled Triple)

namespace LlmModel

/-- One row of the arrays of a `llama_batch`. -/
structure BatchEntry where
  token : Int32
  pos : Int
  seqId : Int
  logits : Bool
deriving DecidableEq

abbrev TokenBatch := List BatchEntry

abbrev Decoding := Program Answer (List TokenBatch)

/-- What `decode_tokens` is called with. -/
structure DecodeCall where
  tokens : List Int32
  seqId : Int
  startPos : Int
  needFinalLogits : Bool
  /-- The request is not null, and its callback is set. -/
  cancellable : Bool

namespace DecodeCall

variable (config : LoadedConfig) (call : DecodeCall)

/-- The inner loop. -/
def fillBatch (offset chunk : Nat) : TokenBatch :=
  (List.range chunk).map fun i =>
    { token := call.tokens.getD (offset + i) 0
      pos := call.startPos + offset + i
      seqId := call.seqId
      logits := false }

def nextBatch (offset chunk : Nat) : TokenBatch :=
  if call.needFinalLogits = true ∧ offset + chunk = call.tokens.length then
    (call.fillBatch offset chunk).modify (chunk - 1) fun entry => { entry with logits := true }
  else call.fillBatch offset chunk

def nextChunk (offset : Nat) : Nat :=
  if config.nBatch < call.tokens.length - offset then config.nBatch
  else call.tokens.length - offset

/-- `request_cancelled` -/
def pollCancelled (cancellable : Bool) : Decoding Bool :=
  if cancellable then do
    let answer ← Program.ask
    pure answer.cancelled
  else pure false

/-- `llama_decode`; the result says whether it is zero. -/
def passBatch (batch : TokenBatch) : Decoding Bool := do
  let answer ← Program.ask
  Program.change fun passed => passed ++ [batch]
  pure answer.succeeded

/-- The loop, from `offset` on. -/
def decodeFrom : Nat → Nat → Decoding (Option Int)
  | 0, _ => pure none
  | rounds + 1, offset =>
      if offset < call.tokens.length then do
        let cancelled ← pollCancelled call.cancellable
        if cancelled then pure (some (-2))
        else
          let chunk := call.nextChunk config offset
          let decoded ← passBatch (call.nextBatch offset chunk)
          if decoded then decodeFrom rounds (offset + chunk)
          else
            let cancelled ← pollCancelled call.cancellable
            pure (some (if cancelled then -2 else -1))
      else pure (some 0)

/-- Every round decodes a token, and one more finds that there are none left. -/
def decodeBatches : Decoding (Option Int) :=
  call.decodeFrom config (call.tokens.length + 1) 0

/-- The rows that the tokens make, one after the other. -/
def rows : List BatchEntry :=
  call.tokens.zipIdx.map fun pair =>
    { token := pair.1
      pos := call.startPos + pair.2
      seqId := call.seqId
      logits := call.needFinalLogits && decide (pair.2 + 1 = call.tokens.length) }

/-! ### One batch -/

variable {config call}

theorem length_rows : call.rows.length = call.tokens.length := by
  unfold rows
  rw [List.length_map, List.length_zipIdx]

theorem getElem?_rows (call : DecodeCall) {i : Nat} (below : i < call.tokens.length) :
    call.rows[i]? = some
      { token := call.tokens.getD i 0
        pos := call.startPos + i
        seqId := call.seqId
        logits := call.needFinalLogits && decide (i + 1 = call.tokens.length) } := by
  unfold rows
  rw [List.getElem?_map, List.getElem?_zipIdx, List.getElem?_eq_getElem below,
    List.getD_eq_getElem?_getD, List.getElem?_eq_getElem below]
  simp only [Option.map_some, Nat.zero_add, Option.getD_some]

theorem length_nextBatch (offset chunk : Nat) : (call.nextBatch offset chunk).length = chunk := by
  have filled : (call.fillBatch offset chunk).length = chunk := by
    unfold fillBatch
    rw [List.length_map, List.length_range]
  unfold nextBatch
  split
  · rw [List.length_modify, filled]
  · exact filled

theorem getElem?_fillBatch {offset chunk i : Nat} (below : i < chunk) :
    (call.fillBatch offset chunk)[i]? = some
      { token := call.tokens.getD (offset + i) 0
        pos := call.startPos + (offset + i : Nat)
        seqId := call.seqId
        logits := false } := by
  unfold fillBatch
  rw [List.getElem?_map, List.getElem?_range below, Option.map_some]
  congr 2
  omega

/-- A batch holds the next rows: the logits fall on the last token, if they fall on any. -/
theorem nextBatch_eq {offset chunk : Nat} (inside : offset + chunk ≤ call.tokens.length) :
    call.nextBatch offset chunk = (call.rows.drop offset).take chunk := by
  apply List.ext_getElem?
  intro i
  by_cases below : i < chunk
  · have row := getElem?_rows call (i := offset + i) (by omega)
    rw [List.getElem?_take_of_lt below, List.getElem?_drop, row]
    unfold nextBatch
    split
    · next last =>
        obtain ⟨needed, reaches⟩ := last
        rw [List.getElem?_modify, getElem?_fillBatch below]
        by_cases final : chunk - 1 = i
        · have here : offset + i + 1 = call.tokens.length := by omega
          simp [final, needed, here]
        · have elsewhere : ¬offset + i + 1 = call.tokens.length := by omega
          simp [final, elsewhere]
    · next other =>
        rw [getElem?_fillBatch below]
        have none : (call.needFinalLogits && decide (offset + i + 1 = call.tokens.length)) =
            false := by
          rw [Bool.and_eq_false_iff, decide_eq_false_iff_not]
          by_contra both
          rw [not_or, Bool.not_eq_false, not_not] at both
          exact other ⟨both.1, by omega⟩
        rw [none]
  · rw [List.getElem?_eq_none (by rw [length_nextBatch]; omega), List.getElem?_eq_none]
    rw [List.length_take]
    omega

/-! ### The loop -/

/-- The batches passed so far hold the first `reached` rows. -/
structure Passed (config : LoadedConfig) (call : DecodeCall) (reached : Nat)
    (passed : List TokenBatch) : Prop where
  rows : passed.flatten = call.rows.take reached
  inside : reached ≤ call.tokens.length
  sized : ∀ batch ∈ passed, 1 ≤ batch.length ∧ batch.length ≤ config.nBatch

theorem Passed.nothing : Passed config call 0 [] := by
  refine ⟨?_, Nat.zero_le _, ?_⟩
  · rw [List.flatten_nil, List.take_zero]
  · intro batch member
    cases member

/-- A chunk has a row at least, and no more than are left. -/
theorem nextChunk_bounds (config : LoadedConfig) {offset : Nat}
    (more : offset < call.tokens.length) :
    1 ≤ call.nextChunk config offset ∧ call.nextChunk config offset ≤ config.nBatch ∧
      offset + call.nextChunk config offset ≤ call.tokens.length := by
  have positive := config.batchPositive
  unfold nextChunk
  split <;> omega

theorem Passed.next {offset : Nat} {passed : List TokenBatch}
    (before : Passed config call offset passed) (more : offset < call.tokens.length) :
    Passed config call (offset + call.nextChunk config offset)
      (passed ++ [call.nextBatch offset (call.nextChunk config offset)]) := by
  obtain ⟨positive, small, inside⟩ := nextChunk_bounds config more
  refine ⟨?_, inside, ?_⟩
  · rw [List.flatten_append, List.flatten_singleton, before.rows, nextBatch_eq inside,
      ← List.take_add]
  · intro batch member
    rcases List.mem_append.mp member with old | new
    · exact before.sized batch old
    · rw [List.mem_singleton.mp new, length_nextBatch]
      exact ⟨positive, small⟩

/-- What the loop ends with: all rows are passed unless it has failed. -/
structure Finished (config : LoadedConfig) (call : DecodeCall) (result : Option Int)
    (passed : List TokenBatch) : Prop where
  ends : ∃ code, result = some code ∧ ∃ reached, Passed config call reached passed ∧
    (code = 0 → reached = call.tokens.length)

theorem pollCancelled_keeps (before : List TokenBatch → Prop) (cancellable : Bool) :
    Triple before (pollCancelled cancellable) fun _ => before := by
  unfold pollCancelled
  apply Triple.ite
  · intro callback
    exact Triple.asks Answer.cancelled
  · intro missing
    exact Triple.pure _ fun _ holds => holds

theorem passBatch_spec {offset : Nat} (more : offset < call.tokens.length) :
    Triple (Passed config call offset)
      (passBatch (call.nextBatch offset (call.nextChunk config offset)))
      fun _ => Passed config call (offset + call.nextChunk config offset) := by
  unfold passBatch
  apply Triple.ask_then
  intro answer
  have appended : Triple (Passed config call offset)
      (Program.change fun passed =>
        passed ++ [call.nextBatch offset (call.nextChunk config offset)] : Decoding Unit)
      fun _ => Passed config call (offset + call.nextChunk config offset) :=
    Triple.change fun passed before => before.next more
  apply appended.bind
  intro _
  exact Triple.pure _ fun _ holds => holds

theorem Passed.failed {reached : Nat} {passed : List TokenBatch}
    (holds : Passed config call reached passed) {code : Int} (failure : code ≠ 0) :
    Finished config call (some code) passed :=
  ⟨code, rfl, reached, holds, fun success => absurd success failure⟩

theorem decodeFrom_spec (rounds : Nat) :
    ∀ offset, call.tokens.length - offset < rounds →
      Triple (Passed config call offset) (call.decodeFrom config rounds offset)
        (Finished config call) := by
  induction rounds with
  | zero =>
      intro offset enough
      omega
  | succ rounds ih =>
      intro offset enough
      unfold decodeFrom
      apply Triple.ite
      · intro more
        have bounds := nextChunk_bounds config more
        apply Triple.bind (pollCancelled_keeps _ call.cancellable)
        intro cancelled
        apply Triple.ite
        · intro now
          exact Triple.pure _ fun _ holds => holds.failed (by decide)
        · intro goesOn
          apply Triple.bind (passBatch_spec more)
          intro decoded
          apply Triple.ite
          · intro success
            apply ih
            omega
          · intro failure
            apply Triple.bind (pollCancelled_keeps _ call.cancellable)
            intro cancelledNow
            apply Triple.pure
            intro passed holds
            apply holds.failed
            split <;> decide
      · intro none
        apply Triple.pure
        intro passed holds
        have inside := holds.inside
        exact ⟨0, rfl, offset, holds, fun _ => by omega⟩

theorem decodeBatches_spec :
    Triple (fun passed => passed = []) (call.decodeBatches config)
      (Finished config call) := by
  have run : Triple (Passed config call 0) (call.decodeBatches config) (Finished config call) :=
    decodeFrom_spec (call.tokens.length + 1) 0 (by omega)
  apply run.strengthen
  intro passed start
  rw [start]
  exact Passed.nothing

/-! ### The positions alone -/

/-- What is stored in the sequence was there before or belongs to a row passed, whose
position is larger by `shift`. -/
def Covers (seqId shift : Int) (before : Finset Nat) (passed : List TokenBatch)
    (model : LlmModel) : Prop :=
  ∀ position ∈ model.memory seqId,
    position ∈ before ∨ ∃ entry ∈ passed.flatten, entry.pos = position + shift

section Positions

variable {allowed : Answer → Prop} {seqId shift : Int} {before : Finset Nat}

theorem Covers.append {passed : List TokenBatch} {model : LlmModel}
    (covers : Covers seqId shift before passed model) {batch : TokenBatch}
    {positions : Finset Nat}
    (rows : ∀ position ∈ positions, ∃ entry ∈ batch, entry.pos = position + shift) :
    Covers seqId shift before (passed ++ [batch])
      (storeMemory seqId (model.memory seqId ∪ positions) model) := by
  intro position stored
  rw [memory_storeMemory, Finset.mem_union] at stored
  rw [List.flatten_append, List.flatten_singleton]
  rcases stored with old | new
  · rcases covers position old with first | found
    · exact .inl first
    · obtain ⟨entry, member, here⟩ := found
      exact .inr ⟨entry, List.mem_append_left _ member, here⟩
  · obtain ⟨entry, member, here⟩ := rows position new
    exact .inr ⟨entry, List.mem_append_right _ member, here⟩

theorem pollCancelled_coupled (cancellable : Bool) :
    Coupled allowed (Covers seqId shift before) (pollCancelled cancellable)
      (requestCancelled cancellable) Eq := by
  unfold pollCancelled requestCancelled
  apply Coupled.ite Iff.rfl
  · intro _
    apply Coupled.ask_then
    intro answer _
    exact Coupled.pure rfl
  · intro _
    exact Coupled.pure rfl

theorem passBatch_coupled {batch : TokenBatch} {positions : Finset Nat}
    (rows : ∀ position ∈ positions, ∃ entry ∈ batch, entry.pos = position + shift) :
    Coupled allowed (Covers seqId shift before) (passBatch batch) (llamaDecode seqId positions)
      Eq := by
  constructor
  intro passed model answers good covers
  by_cases success : (answers 0).succeeded = true
  · have run : llamaDecode seqId positions model answers =
        ((true, storeMemory seqId (model.memory seqId ∪ positions) model),
          fun index => answers (index + 1)) := by
      change (if (answers 0).succeeded = true then _ else _ : Llm Bool) model _ = _
      rw [if_pos success]
      rfl
    rw [run]
    exact ⟨success, covers.append rows, rfl, fun index => good (index + 1)⟩
  · have run : llamaDecode seqId positions model answers =
        ((false, storeMemory seqId (model.memory seqId ∪
            positions.filter fun position => (answers 0).kept position = true) model),
          fun index => answers (index + 1)) := by
      change (if (answers 0).succeeded = true then _ else _ : Llm Bool) model _ = _
      rw [if_neg success]
      rfl
    rw [run]
    refine ⟨Bool.not_eq_true _ ▸ success, covers.append ?_, rfl, fun index => good (index + 1)⟩
    intro position kept
    exact rows position (Finset.mem_filter.mp kept).1

/-- The positions of a batch are those that the chunk stores. -/
theorem nextBatch_positions {offset chunk : Nat} (start : Nat)
    (inside : offset + chunk ≤ call.tokens.length) {position : Nat}
    (stored : position ∈ Finset.Ico (start + offset) (start + offset + chunk)) :
    ∃ entry ∈ call.nextBatch offset chunk, entry.pos = position + (call.startPos - start) := by
  obtain ⟨low, high⟩ := Finset.mem_Ico.mp stored
  have row := getElem?_rows call (i := position - start) (by omega)
  have here : (call.nextBatch offset chunk)[position - start - offset]? =
      call.rows[position - start]? := by
    rw [nextBatch_eq inside, List.getElem?_take_of_lt (by omega), List.getElem?_drop,
      show offset + (position - start - offset) = position - start by omega]
  rw [row] at here
  refine ⟨_, List.mem_of_getElem? here, ?_⟩
  change call.startPos + (position - start : Nat) = position + (call.startPos - start)
  omega

theorem decodeFrom_coupled (start rounds : Nat) :
    ∀ offset, call.tokens.length - offset ≤ rounds →
      Coupled allowed (Covers call.seqId (call.startPos - start) before)
        (call.decodeFrom config (rounds + 1) offset)
        (decodeChunks config call.cancellable call.seqId rounds (start + offset)
          (call.tokens.length - offset))
        fun result code => result = some code := by
  induction rounds with
  | zero =>
      intro offset enough
      unfold decodeFrom decodeChunks
      rw [if_neg (by omega)]
      exact Coupled.pure rfl
  | succ rounds ih =>
      intro offset enough
      unfold decodeFrom decodeChunks
      by_cases more : offset < call.tokens.length
      · rw [if_pos more, if_neg (by omega)]
        have chunk_eq : min (call.tokens.length - offset) config.nBatch =
            call.nextChunk config offset := by
          unfold nextChunk
          split <;> omega
        have bounds := nextChunk_bounds config more
        apply (pollCancelled_coupled call.cancellable).bind
        intro cancelled _ same
        subst same
        apply Coupled.ite Iff.rfl
        · intro _
          exact Coupled.pure rfl
        · intro _
          rw [chunk_eq]
          apply (passBatch_coupled fun position => nextBatch_positions start bounds.2.2).bind
          intro decoded _ same
          subst same
          apply Coupled.ite Iff.rfl
          · intro _
            have later := ih (offset + call.nextChunk config offset) (by omega)
            rw [← Nat.add_assoc, Nat.sub_add_eq] at later
            exact later
          · intro _
            apply (pollCancelled_coupled call.cancellable).bind
            intro cancelledNow _ same
            subst same
            exact Coupled.pure rfl
      · rw [if_neg more, if_pos (by omega)]
        exact Coupled.pure rfl

/-- `decodeTokens` is this loop with the tokens left out. -/
theorem decodeBatches_coupled (start : Nat) :
    Coupled allowed (Covers call.seqId (call.startPos - start) before)
      (call.decodeBatches config)
      (decodeTokens config call.cancellable call.tokens.length call.seqId start)
      fun result code => result = some code :=
  decodeFrom_coupled start call.tokens.length 0 (Nat.le_refl _)

end Positions

end DecodeCall

end LlmModel

end AgentNucleus.Top
