/-
How a later turn ends.  A failed one returns to the position at which it began,
unless llama.cpp refuses to remove the new positions: then the whole sequence is
given up.  A completed one has moved the position on.
-/

import AgentNucleus.Top.KvRuns

set_option autoImplicit false

namespace AgentNucleus.Top.LlmModel

open AgentNucleus.Library
open AgentNucleus.Library.Program (Triple)

variable (config : LoadedConfig)

/-- The turn comes to its cleanup, with something to return to, and the partial
removal is refused there. -/
def cleanupRefused (request : LlmRequest) (model : LlmModel) (answers : Answers Answer) : Bool :=
  if request.seqId ≤ 0 ∨ privateSeqLimit config ≤ request.seqId then false
  else
    let asked := requestCancelled request.cancellable model answers
    if asked.1.1 then false
    else
      let begun := startTurn request asked.1.2 asked.2
      let ended := turn config request (effectiveMaxTokens config request)
        { seqId := request.seqId } begun.1.2 begun.2
      decide (ended.1.1.1 ≠ 0) && begun.1.1.inUse && !(ended.2 0).succeeded

variable {config} {request : LlmRequest} {model : LlmModel}

/-! ### The cleanup -/

theorem requestCancelled_state (cancellable : Bool) (answers : Answers Answer) :
    (requestCancelled cancellable model answers).1.2 = model := by
  unfold requestCancelled
  cases cancellable with
  | false => rfl
  | true => rfl

theorem startTurn_later (later : request.isFirstTurn = false) (answers : Answers Answer) :
    startTurn request model answers = ((model.seqStates request.seqId, model), answers) := by
  unfold startTurn
  rw [later]
  rfl

theorem rollBack_state (seqId : Int) (original : SeqState) (answers : Answers Answer) :
    (rollBack seqId original model answers).1.2.seqStates seqId =
      if !(answers 0).succeeded || !original.inUse then {}
      else { currentPos := original.currentPos, inUse := true } := by
  have removed : (memoryRemoveFrom seqId original.currentPos model answers).1.1 =
      (answers 0).succeeded := by
    change ((if (answers 0).succeeded then _ else _ : Llm Bool) model _).1.1 = _
    cases (answers 0).succeeded with
    | false => rfl
    | true => rfl
  change ((if !(memoryRemoveFrom seqId original.currentPos model answers).1.1 ||
    !original.inUse then _ else _ : Llm Unit) _ _).1.2.seqStates seqId = _
  rw [removed]
  cases (!(answers 0).succeeded || !original.inUse) with
  | true => exact seqStates_storeSeqState ..
  | false => exact seqStates_storeSeqState ..

/-- A sequence that is not in use has the empty state. -/
private theorem original_state {original : SeqState} {stored : Finset Nat}
    (aligned : AlignedAt config original stored) :
    (if !original.inUse then {} else { currentPos := original.currentPos, inUse := true }) =
      original := by
  obtain ⟨currentPos, inUse⟩ := original
  cases inUse with
  | false => exact (aligned.idle rfl).1.symm
  | true => rfl

/-- A later turn as it runs: it may be cancelled before it begins. -/
theorem llmInference_later (inside : ¬(request.seqId ≤ 0 ∨ privateSeqLimit config ≤ request.seqId))
    (later : request.isFirstTurn = false) {answers rest last : Answers Answer} {cancelled : Bool}
    {outcome : Int × LlmResponse} {after : LlmModel}
    (asked : requestCancelled request.cancellable model answers = ((cancelled, model), rest))
    (ended : turn config request (effectiveMaxTokens config request) { seqId := request.seqId }
      model rest = ((outcome, after), last)) :
    llmInference config request model answers =
      if cancelled then (((-2, { seqId := request.seqId, cancelled := true }), model), rest)
      else if outcome.1 ≠ 0 then
        ((outcome, (rollBack request.seqId (model.seqStates request.seqId) after last).1.2),
          (rollBack request.seqId (model.seqStates request.seqId) after last).2)
      else ((outcome, after), last) := by
  unfold llmInference
  rw [if_neg inside]
  dsimp only
  rw [Program.run_bind _ _ _ _ _ asked]
  cases cancelled with
  | true => rfl
  | false =>
      rw [if_neg Bool.false_ne_true]
      dsimp only
      rw [if_neg Bool.false_ne_true, Program.run_bind _ _ _ _ _ (startTurn_later later rest)]
      dsimp only
      rw [Program.run_bind _ _ _ _ _ ended]
      by_cases failed : outcome.1 ≠ 0
      · rw [if_pos failed, if_pos failed]
        rfl
      · rw [if_neg failed, if_neg failed]
        rfl

theorem cleanupRefused_later
    (inside : ¬(request.seqId ≤ 0 ∨ privateSeqLimit config ≤ request.seqId))
    (later : request.isFirstTurn = false) {answers rest last : Answers Answer} {cancelled : Bool}
    {outcome : Int × LlmResponse} {after : LlmModel}
    (asked : requestCancelled request.cancellable model answers = ((cancelled, model), rest))
    (ended : turn config request (effectiveMaxTokens config request) { seqId := request.seqId }
      model rest = ((outcome, after), last)) :
    cleanupRefused config request model answers =
      if cancelled then false
      else decide (outcome.1 ≠ 0) && (model.seqStates request.seqId).inUse &&
        !(last 0).succeeded := by
  unfold cleanupRefused
  rw [if_neg inside, asked]
  dsimp only
  rw [startTurn_later later rest]
  dsimp only
  rw [ended]

/-- A later turn that fails returns to the state before it, unless the removal is
refused. -/
theorem llmInference_failed (later : request.isFirstTurn = false)
    (aligned : Aligned config model) (answers : Answers Answer)
    (failed : (llmInference config request model answers).1.1.1 ≠ 0) :
    (llmInference config request model answers).1.2.seqStates request.seqId =
      if cleanupRefused config request model answers then {}
      else model.seqStates request.seqId := by
  by_cases outside : request.seqId ≤ 0 ∨ privateSeqLimit config ≤ request.seqId
  · unfold llmInference cleanupRefused
    rw [if_pos outside, if_pos outside]
    rfl
  · have found : IsPrivate config request.seqId := by
      unfold IsPrivate
      omega
    rcases asked : requestCancelled request.cancellable model answers with
      ⟨⟨cancelled, middle⟩, rest⟩
    have unchanged : model = middle := by
      have state := @requestCancelled_state model request.cancellable answers
      rw [asked] at state
      exact state.symm
    subst unchanged
    rcases ended : turn config request (effectiveMaxTokens config request)
      { seqId := request.seqId } model rest with ⟨⟨outcome, after⟩, last⟩
    rw [llmInference_later outside later asked ended] at failed ⊢
    rw [cleanupRefused_later outside later asked ended]
    cases cancelled with
    | true => rfl
    | false =>
        rw [if_neg Bool.false_ne_true] at failed ⊢
        rw [if_neg Bool.false_ne_true]
        by_cases completed : outcome.1 = 0
        · rw [if_neg (not_not.mpr completed)] at failed
          exact absurd completed failed
        · rw [if_pos completed, decide_eq_true completed, Bool.true_and]
          change (rollBack request.seqId _ after last).1.2.seqStates request.seqId = _
          rw [rollBack_state]
          have back := original_state (aligned.sequences request.seqId found)
          cases (last 0).succeeded with
          | true =>
              rw [Bool.not_true, Bool.and_false, if_neg Bool.false_ne_true]
              exact back
          | false =>
              cases used : (model.seqStates request.seqId).inUse with
              | true => rfl
              | false =>
                  rw [used] at back
                  exact back

/-- A refused removal ends a failed turn of a sequence in use. -/
theorem cleanupRefused_fails (later : request.isFirstTurn = false) (answers : Answers Answer)
    (refused : cleanupRefused config request model answers = true) :
    (llmInference config request model answers).1.1.1 ≠ 0 ∧
      (model.seqStates request.seqId).inUse = true := by
  by_cases outside : request.seqId ≤ 0 ∨ privateSeqLimit config ≤ request.seqId
  · unfold cleanupRefused at refused
    rw [if_pos outside] at refused
    cases refused
  · rcases asked : requestCancelled request.cancellable model answers with
      ⟨⟨cancelled, middle⟩, rest⟩
    have unchanged : model = middle := by
      have state := @requestCancelled_state model request.cancellable answers
      rw [asked] at state
      exact state.symm
    subst unchanged
    rcases ended : turn config request (effectiveMaxTokens config request)
      { seqId := request.seqId } model rest with ⟨⟨outcome, after⟩, last⟩
    rw [cleanupRefused_later outside later asked ended] at refused
    rw [llmInference_later outside later asked ended]
    cases cancelled with
    | true => cases refused
    | false =>
        rw [if_neg Bool.false_ne_true, Bool.and_eq_true, Bool.and_eq_true,
          decide_eq_true_iff] at refused
        rw [if_neg Bool.false_ne_true, if_pos refused.1.1]
        exact refused.1

/-! ### A completed turn -/

private theorem anything {α : Type} (program : Llm α) (before : LlmModel → Prop) :
    Triple before program fun _ _ => True :=
  ⟨fun _ _ _ => trivial⟩

private theorem generationPhase_moves (maxTokens promptCount generationPos : Nat)
    (response : LlmResponse) (before : LlmModel → Prop) :
    Triple before
      (generationPhase config request maxTokens promptCount generationPos response)
      fun outcome after => outcome.1 = 0 →
        generationPos ≤ (after.seqStates request.seqId).currentPos := by
  apply Triple.bind (available_keeps _)
  intro allocated
  apply Triple.ite
  · intro failed
    exact Triple.pure _ fun _ _ => nofun
  · intro memory
    apply Triple.bind (available_keeps _)
    intro sampler
    apply Triple.ite
    · intro failed
      exact Triple.pure _ fun _ _ => nofun
    · intro sampling
      apply Triple.bind (anything _ _)
      intro loop
      apply Triple.bind (anything _ _)
      intro generation
      apply Triple.ite
      · intro failed
        exact Triple.pure _ fun _ _ completed => absurd completed failed
      · intro generated
        have recorded : Triple (fun _ => True)
            (setSeqState request.seqId
              { currentPos := generationPos + generation.generated + generation.boundaryTokens
                inUse := true })
            fun _ after => generationPos ≤ (after.seqStates request.seqId).currentPos := by
          apply Triple.change
          intro before started
          rw [seqStates_storeSeqState]
          change generationPos ≤ generationPos + generation.generated + generation.boundaryTokens
          omega
        apply Triple.bind recorded
        intro done
        apply Triple.ask_then
        intro size
        exact Triple.pure _ fun _ moved _ => moved

/-- A completed later turn has a prompt, so that the position has moved. -/
theorem llmInference_moves (later : request.isFirstTurn = false) :
    Triple (fun start => start = model) (llmInference config request)
      fun outcome after => outcome.1 = 0 →
        (model.seqStates request.seqId).currentPos <
          (after.seqStates request.seqId).currentPos := by
  have stays (start : LlmModel) (same : start = model) : (-1 : Int) = 0 →
      (model.seqStates request.seqId).currentPos <
        (start.seqStates request.seqId).currentPos := nofun
  unfold llmInference
  apply Triple.ite
  · intro outside
    exact Triple.pure _ stays
  · intro inside
    apply Triple.bind (requestCancelled_keeps _ _)
    intro cancelled
    apply Triple.ite
    · intro now
      exact Triple.pure _ fun _ _ => nofun
    · intro goesOn
      have begun : Triple (fun start => start = model) (startTurn request)
          fun _ start => start = model := by
        unfold startTurn
        rw [later]
        exact Triple.inspects _
      apply Triple.bind begun
      intro original
      have moves : Triple (fun start => start = model)
          (turn config request (effectiveMaxTokens config request) { seqId := request.seqId })
          fun outcome after => outcome.1 = 0 →
            (model.seqStates request.seqId).currentPos <
              (after.seqStates request.seqId).currentPos := by
        unfold turn
        apply Triple.ite
        · intro first
          rw [later] at first
          cases first.1
        · intro plain
          unfold promptPhase
          apply Triple.inspect_then
          apply Triple.bind (tokenizeAlloc_keeps _)
          intro promptCount
          apply Triple.ite
          · intro refused
            exact Triple.pure _ fun _ _ => nofun
          · intro accepted
            apply Triple.bind (anything _ _)
            intro decodeResult
            apply Triple.ite
            · intro failed
              apply Triple.bind (anything _ _)
              intro cancelled
              exact Triple.pure _ fun _ _ => nofun
            · intro decoded
              apply (generationPhase_moves _ _ _ _ _).weaken
              intro outcome after moved completed
              have reached := moved completed
              omega
      apply Triple.bind moves
      intro outcome
      apply Triple.ite
      · intro failed
        apply Triple.bind (anything _ _)
        intro back
        exact Triple.pure _ fun _ _ completed => absurd completed failed
      · intro completed
        exact Triple.pure _ fun _ moved => moved

end AgentNucleus.Top.LlmModel
