/-
What a call writes besides the shared prefixes: the memory and the state of its own
sequence.  A property that such writes keep is kept by the whole call, whatever
fails on the way.
-/

import AgentNucleus.Top.KvRuns

set_option autoImplicit false

namespace AgentNucleus.Top.LlmModel

open AgentNucleus.Library
open AgentNucleus.Runtime (CString)
open AgentNucleus.Library.Program (Triple)

theorem findSharedSys_eq_none {model : LlmModel} {prompt : CString} :
    findSharedSys model prompt = none ↔
      ∀ index, (model.sharedSys index).promptText ≠ some prompt := by
  unfold findSharedSys
  rw [List.find?_eq_none]
  constructor
  · intro nowhere index present
    exact nowhere index (List.mem_finRange index) (decide_eq_true present)
  · intro nowhere index _ present
    exact nowhere index (of_decide_eq_true present)

theorem findSharedSys_eq_some {model : LlmModel} {prompt : CString}
    {index : Fin kMaxSharedSys} (found : findSharedSys model prompt = some index) :
    (model.sharedSys index).promptText = some prompt := by
  unfold findSharedSys at found
  have holds := List.find?_some found
  exact of_decide_eq_true holds

theorem findSharedSys_congr {left right : LlmModel} {prompt : CString}
    (same : ∀ index, (left.sharedSys index).promptText = (right.sharedSys index).promptText) :
    findSharedSys left prompt = findSharedSys right prompt := by
  unfold findSharedSys
  simp only [same]

/-- Writes to one sequence keep the property. -/
structure Stable (seqId : Int) (property : LlmModel → Prop) : Prop where
  memory : ∀ model positions, property model → property (storeMemory seqId positions model)
  state : ∀ model state, property model → property (storeSeqState seqId state model)

theorem seqState_keeps (before : LlmModel → Prop) (seqId : Int) :
    Triple before (seqState seqId) fun _ => before := by
  constructor
  intro model answers start
  exact start

section Pieces

variable {config : LoadedConfig} {seqId : Int} {property : LlmModel → Prop}
variable (stable : Stable seqId property)
include stable

/-- Writes to a sequence leave the slots of the prefixes as they are. -/
theorem Stable.keepsSlots (slots : Fin kMaxSharedSys → SharedSysEntry) :
    Stable seqId fun model => property model ∧ model.sharedSys = slots where
  memory := fun model positions both => ⟨stable.memory model positions both.1, both.2⟩
  state := fun model state both => ⟨stable.state model state both.1, both.2⟩

theorem Stable.setMemory (positions : Finset Nat) :
    Triple property (setMemory seqId positions) fun _ => property :=
  Triple.change fun model holds => stable.memory model positions holds

theorem Stable.setSeqState (state : SeqState) :
    Triple property (setSeqState seqId state) fun _ => property :=
  Triple.change fun model holds => stable.state model state holds

theorem Stable.memoryRemoveFrom (first : Nat) :
    Triple property (memoryRemoveFrom seqId first) fun _ => property := by
  apply Triple.ask_then
  intro answer
  apply Triple.ite
  · intro succeeded
    apply Triple.from_state
    intro model holds
    apply Triple.inspect_then
    apply Triple.change_then
    apply Triple.pure
    intro after same
    rw [same]
    exact stable.memory model _ holds
  · intro failed
    exact Triple.pure _ fun _ holds => holds

theorem Stable.memoryCopy (source : Int) (first last : Nat) :
    Triple property (memoryCopy source seqId first last) fun _ => property := by
  apply Triple.from_state
  intro model holds
  apply Triple.inspect_then
  apply Triple.inspect_then
  apply Triple.change
  intro after same
  rw [same]
  exact stable.memory model _ holds

theorem Stable.llamaDecode (batch : Finset Nat) :
    Triple property (llamaDecode seqId batch) fun _ => property := by
  apply Triple.ask_then
  intro answer
  apply Triple.from_state
  intro model holds
  apply Triple.inspect_then
  apply Triple.ite
  · intro succeeded
    apply Triple.change_then
    apply Triple.pure
    intro after same
    rw [same]
    exact stable.memory model _ holds
  · intro failed
    apply Triple.change_then
    apply Triple.pure
    intro after same
    rw [same]
    exact stable.memory model _ holds

theorem Stable.decodeChunks (cancellable : Bool) (rounds : Nat) :
    ∀ start remaining : Nat,
      Triple property (decodeChunks config cancellable seqId rounds start remaining)
        fun _ => property := by
  induction rounds with
  | zero =>
      intro start remaining
      exact Triple.pure _ fun _ holds => holds
  | succ rounds ih =>
      intro start remaining
      apply Triple.ite
      · intro done
        exact Triple.pure _ fun _ holds => holds
      · intro more
        apply Triple.bind (requestCancelled_keeps _ cancellable)
        intro cancelled
        apply Triple.ite
        · intro now
          exact Triple.pure _ fun _ holds => holds
        · intro goesOn
          apply Triple.bind (stable.llamaDecode _)
          intro decoded
          apply Triple.ite
          · intro success
            exact ih _ _
          · intro failure
            apply Triple.bind (requestCancelled_keeps _ cancellable)
            intro cancelledNow
            exact Triple.pure _ fun _ holds => holds

theorem Stable.decodeTokens (cancellable : Bool) (tokenCount startPos : Nat) :
    Triple property (decodeTokens config cancellable tokenCount seqId startPos)
      fun _ => property :=
  stable.decodeChunks cancellable tokenCount startPos tokenCount

end Pieces

section Turns

variable {config : LoadedConfig} {property : LlmModel → Prop} {request : LlmRequest}
variable (stable : Stable request.seqId property)
include stable

theorem Stable.decodeSystemPrompt (response : LlmResponse) :
    Triple property (decodeSystemPrompt config request response) fun _ => property := by
  apply Triple.bind (tokenizeAlloc_keeps _)
  intro systemCount
  apply Triple.ite
  · intro refused
    apply Triple.bind (requestCancelled_keeps _ _)
    intro cancelled
    exact Triple.pure _ fun _ holds => holds
  · intro accepted
    apply Triple.bind (stable.decodeTokens _ _ _)
    intro decoded
    apply Triple.ite
    · intro failure
      apply Triple.bind (requestCancelled_keeps _ _)
      intro cancelled
      exact Triple.pure _ fun _ holds => holds
    · intro success
      apply Triple.bind (stable.setSeqState _)
      intro done
      exact Triple.pure _ fun _ holds => holds

omit stable in
theorem failedGeneration_keeps (property : LlmModel → Prop) (request : LlmRequest)
    (generated : Nat) (result : Int) :
    Triple property (failedGeneration request generated result) fun _ => property := by
  apply Triple.bind (cancelledAfter_keeps _ request result)
  intro cancelled
  exact Triple.pure _ fun _ holds => holds

theorem Stable.generateTokens (generationPos remaining : Nat) :
    ∀ generated : Nat,
      Triple property (generateTokens config request generationPos remaining generated)
        fun _ => property := by
  induction remaining with
  | zero =>
      intro generated
      exact Triple.pure _ fun _ holds => holds
  | succ remaining ih =>
      intro generated
      apply Triple.bind (requestCancelled_keeps _ _)
      intro cancelled
      apply Triple.ite
      · intro now
        exact Triple.pure _ fun _ holds => holds
      · intro goesOn
        apply Triple.ask_then
        intro sampled
        apply Triple.ite
        · intro ends
          apply Triple.bind (stable.decodeTokens _ _ _)
          intro tokenResult
          apply Triple.ite
          · intro failure
            exact failedGeneration_keeps _ request _ _
          · intro success
            exact Triple.pure _ fun _ holds => holds
        · intro another
          apply Triple.bind (available_keeps _)
          intro appended
          apply Triple.ite
          · intro missing
            exact Triple.pure _ fun _ holds => holds
          · intro present
            apply Triple.bind (stable.decodeTokens _ _ _)
            intro tokenResult
            apply Triple.ite
            · intro failure
              exact failedGeneration_keeps _ request _ _
            · intro success
              exact ih _

theorem Stable.closeTurn (generationPos : Nat) (generation : Generation) :
    Triple property (closeTurn config request generationPos generation) fun _ => property := by
  apply Triple.ite
  · intro open_
    apply Triple.bind (available_keeps _)
    intro boundary
    apply Triple.ite
    · intro missing
      exact Triple.pure _ fun _ holds => holds
    · intro present
      apply Triple.bind (stable.decodeTokens _ _ _)
      intro boundaryResult
      apply Triple.ite
      · intro failure
        exact failedGeneration_keeps _ request _ _
      · intro success
        exact Triple.pure _ fun _ holds => holds
  · intro closed
    exact Triple.pure _ fun _ holds => holds

theorem Stable.generationPhase (maxTokens promptCount generationPos : Nat)
    (response : LlmResponse) :
    Triple property
      (generationPhase config request maxTokens promptCount generationPos response)
      fun _ => property := by
  apply Triple.bind (available_keeps _)
  intro allocated
  apply Triple.ite
  · intro missing
    exact Triple.pure _ fun _ holds => holds
  · intro present
    apply Triple.bind (available_keeps _)
    intro sampler
    apply Triple.ite
    · intro missing
      exact Triple.pure _ fun _ holds => holds
    · intro sampling
      apply Triple.bind (stable.generateTokens _ _ _)
      intro loop
      apply Triple.bind (stable.closeTurn _ _)
      intro generation
      apply Triple.ite
      · intro failure
        exact Triple.pure _ fun _ holds => holds
      · intro success
        apply Triple.bind (stable.setSeqState _)
        intro done
        exact Triple.asks _

theorem Stable.promptPhase (maxTokens : Nat) (response : LlmResponse) :
    Triple property (promptPhase config request maxTokens response) fun _ => property := by
  apply Triple.bind (seqState_keeps _ _)
  intro state
  apply Triple.bind (tokenizeAlloc_keeps _)
  intro promptCount
  apply Triple.ite
  · intro refused
    exact Triple.pure _ fun _ holds => holds
  · intro accepted
    apply Triple.bind (stable.decodeTokens _ _ _)
    intro decodeResult
    apply Triple.ite
    · intro failure
      apply Triple.bind (cancelledAfter_keeps _ request decodeResult)
      intro cancelled
      exact Triple.pure _ fun _ holds => holds
    · intro success
      exact stable.generationPhase _ _ _ _

theorem Stable.startTurn : Triple property (startTurn request) fun _ => property := by
  apply Triple.ite
  · intro first
    apply Triple.bind (stable.setMemory ∅)
    intro cleared
    apply Triple.bind (stable.setSeqState {})
    intro reset
    exact Triple.pure _ fun _ holds => holds
  · intro later
    exact seqState_keeps _ _

theorem Stable.rollBack (original : SeqState) :
    Triple property (rollBack request.seqId original) fun _ => property := by
  apply Triple.bind (stable.memoryRemoveFrom _)
  intro rolledBack
  apply Triple.ite
  · intro lost
    apply Triple.bind (stable.setMemory ∅)
    intro cleared
    exact stable.setSeqState {}
  · intro kept
    exact stable.setSeqState _

/-- The turn after its prefix, and the way back. -/
theorem Stable.turn {before : LlmModel → Prop}
    (implied : ¬(request.isFirstTurn = true ∧ request.systemPrompt.getD .empty ≠ .empty) →
      ∀ model, before model → property model)
    (prefixed : request.isFirstTurn = true → request.systemPrompt.getD .empty ≠ .empty →
      ∀ response, Triple before
        (prefixPhase config request (request.systemPrompt.getD .empty) response)
        fun _ => property)
    (maxTokens : Nat) (response : LlmResponse) :
    Triple before (turn config request maxTokens response) fun _ => property := by
  apply Triple.ite
  · intro first
    apply Triple.bind (prefixed first.1 first.2 response)
    intro goesOn
    apply Triple.ite
    · intro yes
      exact stable.promptPhase _ _
    · intro no
      exact Triple.pure _ fun _ holds => holds
  · intro other
    exact (stable.promptPhase _ _).strengthen (implied other)

end Turns

end AgentNucleus.Top.LlmModel
