/-
When the clear of a released sequence is harmless.  `release_context` gives the
sequence back before it clears it, without `conversation_mutex_`; a `generate`
in between can put a new context on that sequence.
-/

import AgentNucleus.Top.HandleInterleaving
import AgentNucleus.Top.LiveSequences

set_option autoImplicit false

namespace AgentNucleus.Top.TopRuntime

open AgentNucleus.Library
open AgentNucleus.Runtime (AgentId ContextId TimePoint)

/-- A `release_context` call has returned this sequence and not cleared it yet. -/
def Pending (runtime : TopRuntime) (sequence : Int32) : Prop :=
  ∃ thread contextId removed, runtime.threads thread = .clearing sequence contextId removed

/-- If the next step of the thread is the clear of `release_context`, then its
sequence belongs to no stored context, and none loses its state by the clear. -/
def ClearSafe (runtime : TopRuntime) (thread : ThreadId) : Prop :=
  ∀ sequence contextId removed,
    runtime.threads thread = .clearing sequence contextId removed →
      ¬runtime.contexts.Live sequence ∧
        ∀ key entry, runtime.contexts.context? key = some entry →
          (runtime.step (.clear thread)).seqStates entry.sequenceId =
            runtime.seqStates entry.sequenceId

/-- The acquire of a `generate` call hands out no sequence that a
`release_context` call still has to clear. -/
def HandsOutCleared (runtime : TopRuntime) : Action → Prop
  | .acquire thread agentId parentId requestedContext save load _ order _ =>
      runtime.threads thread = .generating →
        ∀ sequence, runtime.contexts.HandsOut agentId parentId requestedContext
          (runtime.swapCallbacks save load) order sequence → ¬runtime.Pending sequence
  | _ => True

/-- No sequence that is still to be cleared belongs to a stored context. -/
def Harmless (runtime : TopRuntime) : Prop :=
  ∀ sequence, runtime.Pending sequence → ¬runtime.contexts.Live sequence

/-- What every run keeps, whatever the threads do. -/
structure Consistent (runtime : TopRuntime) : Prop where
  entries : runtime.contexts.Sound
  once : ∀ id, runtime.contexts.occurrences id ≤ 1
  pending : ∀ sequence, runtime.Pending sequence → 0 ≤ sequence.toInt

variable (runtime : TopRuntime)

/-! ### What the parts of a step leave alone -/

@[simp] theorem contexts_llmClearSeq (sequence : Int32) :
    (runtime.llmClearSeq sequence).contexts = runtime.contexts := by
  unfold llmClearSeq
  split <;> rfl

@[simp] theorem threads_llmClearSeq (sequence : Int32) :
    (runtime.llmClearSeq sequence).threads = runtime.threads := by
  unfold llmClearSeq
  split <;> rfl

@[simp] theorem threads_swapped (writes : Int32 → Option SeqState) :
    (runtime.swapped writes).threads = runtime.threads := by
  unfold swapped
  split <;> rfl

/-- A clear touches one sequence at most. -/
theorem seqStates_llmClearSeq (sequence other : Int32) (different : other ≠ sequence) :
    (runtime.llmClearSeq sequence).seqStates other = runtime.seqStates other := by
  unfold llmClearSeq
  split
  · rfl
  · exact Function.update_of_ne different _ _

variable {runtime}

/-- The places of the threads decide what is pending. -/
theorem Pending.congr {other : TopRuntime} {sequence : Int32} (pending : other.Pending sequence)
    (same : other.threads = runtime.threads) : runtime.Pending sequence := by
  obtain ⟨thread, contextId, removed, place⟩ := pending
  rw [same] at place
  exact ⟨thread, contextId, removed, place⟩

theorem pending_goto (thread : ThreadId) (next : Thread) (sequence : Int32)
    (pending : (runtime.goto thread next).Pending sequence) :
    runtime.Pending sequence ∨
      ∃ contextId removed, next = .clearing sequence contextId removed := by
  obtain ⟨other, contextId, removed, place⟩ := pending
  change Function.update runtime.threads thread next other = _ at place
  by_cases same : other = thread
  · subst same
    rw [Function.update_self] at place
    exact Or.inr ⟨contextId, removed, place⟩
  · rw [Function.update_of_ne same] at place
    exact Or.inl ⟨other, contextId, removed, place⟩

/-- Only `release_context` announces a clear. -/
theorem pending_goto_quiet (thread : ThreadId) (next : Thread) (sequence : Int32)
    (quiet : ∀ contextId removed, next ≠ .clearing sequence contextId removed)
    (pending : (runtime.goto thread next).Pending sequence) : runtime.Pending sequence := by
  rcases pending_goto thread next sequence pending with before | ⟨contextId, removed, same⟩
  · exact before
  · exact absurd same (quiet contextId removed)

/-! ### The steps without an acquire or a new clear -/

/-- Nothing becomes live and no clear is announced. -/
structure Calm (runtime after : TopRuntime) : Prop where
  live : ∀ sequence, after.contexts.Live sequence → runtime.contexts.Live sequence
  pending : ∀ sequence, after.Pending sequence → runtime.Pending sequence

theorem Calm.refl (runtime : TopRuntime) : Calm runtime runtime :=
  { live := fun _ live => live
    pending := fun _ pending => pending }

theorem Calm.harmless {after : TopRuntime} (calm : Calm runtime after)
    (harmless : runtime.Harmless) : after.Harmless := by
  intro sequence pending live
  exact harmless sequence (calm.pending sequence pending) (calm.live sequence live)

/-- A call of the manager that makes nothing live, and a move of the thread. -/
theorem calm_call (between : TopRuntime) (thread : ThreadId) (next : Thread)
    (live : ∀ sequence, between.contexts.Live sequence → runtime.contexts.Live sequence)
    (threads : between.threads = runtime.threads)
    (quiet : ∀ sequence contextId removed, next ≠ .clearing sequence contextId removed) :
    Calm runtime (between.goto thread next) := by
  constructor
  · exact live
  · intro sequence pending
    have before := pending_goto_quiet thread next sequence (quiet sequence) pending
    exact before.congr threads

/-- A step that moves one thread and touches no context. -/
theorem calm_goto (between : TopRuntime) (thread : ThreadId) (next : Thread)
    (contexts : between.contexts = runtime.contexts) (threads : between.threads = runtime.threads)
    (quiet : ∀ sequence contextId removed, next ≠ .clearing sequence contextId removed) :
    Calm runtime (between.goto thread next) := by
  refine calm_call between thread next ?_ threads quiet
  intro sequence live
  rw [contexts] at live
  exact live

theorem calm_clear (thread : ThreadId) (sequence : Int32) (contextId : ContextId)
    (removed : Bool) : Calm runtime (runtime.clearReleased thread sequence contextId removed) := by
  refine calm_goto _ thread _ (contexts_llmClearSeq runtime sequence)
    (threads_llmClearSeq runtime sequence) ?_
  intro other context flag
  cases removed <;> exact nofun

theorem calm_close (thread : ThreadId) (contextId : ContextId) :
    Calm runtime (runtime.closeConversation thread contextId) := by
  unfold closeConversation
  split
  · exact calm_goto _ thread _ rfl rfl nofun
  · exact Calm.refl runtime

theorem calm_generate (thread : ThreadId) : Calm runtime (runtime.beginGenerate thread) := by
  unfold beginGenerate
  split
  · exact calm_goto _ thread _ rfl rfl nofun
  · exact Calm.refl runtime

theorem calm_leave (thread : ThreadId) (agentId parentId : AgentId) (lease : ContextLease) :
    Calm runtime (runtime.leaveEarly thread agentId parentId lease) := by
  unfold leaveEarly
  split
  · exact Calm.refl runtime
  · exact calm_goto _ thread _ rfl rfl nofun

theorem calm_infer (thread : ThreadId) (agentId parentId : AgentId) (lease : ContextLease)
    (succeeded : Bool) (state : SeqState) :
    Calm runtime (runtime.infer thread agentId parentId lease succeeded state) :=
  calm_goto _ thread _ rfl rfl nofun

theorem calm_wipe (thread : ThreadId) (sequence : Int32) (contextId : ContextId) :
    Calm runtime ((runtime.llmClearSeq sequence).dropConversation thread contextId) :=
  calm_goto _ thread _ (contexts_llmClearSeq runtime sequence)
    (threads_llmClearSeq runtime sequence) nofun

theorem calm_finish (thread : ThreadId) (agentId parentId : AgentId) (lease : ContextLease)
    (undo : Bool) (now : TimePoint) :
    Calm runtime (runtime.finishPin thread agentId parentId lease undo now) := by
  have live := (ContextManager.finish_spec runtime.contexts lease.contextId now).live
  unfold finishPin
  cases undo with
  | true => exact calm_call _ thread _ live rfl nofun
  | false => exact calm_call _ thread _ live rfl nofun

theorem calm_undo (thread : ThreadId) (agentId parentId : AgentId) (lease : ContextLease)
    (now : TimePoint) : Calm runtime (runtime.undoCreation thread agentId parentId lease now) := by
  have live := (ContextManager.release_spec runtime.contexts agentId parentId
    lease.contextId now).live
  unfold undoCreation
  dsimp only
  split
  · exact calm_call _ thread _ live rfl nofun
  · exact calm_call _ thread _ live rfl nofun

/-! ### Release and acquire -/

theorem release_live (thread : ThreadId) (agentId parentId : AgentId) (contextId : ContextId)
    (now : TimePoint) (sequence : Int32)
    (live : (runtime.releaseContext thread agentId parentId contextId now).contexts.Live
      sequence) : runtime.contexts.Live sequence := by
  have before := (ContextManager.release_spec runtime.contexts agentId parentId contextId
    now).live sequence
  unfold releaseContext at live
  dsimp only at live
  split at live
  · exact live
  · split at live
    · exact before live
    · exact before live

/-- A new clear concerns a sequence that has just been put back. -/
theorem release_pending (thread : ThreadId) (agentId parentId : AgentId)
    (contextId : ContextId) (now : TimePoint) (sequence : Int32)
    (pending : (runtime.releaseContext thread agentId parentId contextId now).Pending sequence) :
    runtime.Pending sequence ∨ 0 ≤ sequence.toInt ∧
      sequence ∈ (runtime.releaseContext thread agentId parentId contextId
        now).contexts.freeSequences := by
  have returned := (ContextManager.release_spec runtime.contexts agentId parentId contextId
    now).returned
  unfold releaseContext at pending ⊢
  dsimp only at pending ⊢
  split at pending
  · exact Or.inl pending
  · rename_i named
    rw [if_neg named]
    split at pending
    · rename_i released
      rw [if_pos released]
      rcases pending_goto thread _ sequence pending with before | ⟨context, removed, next⟩
      · exact Or.inl (before.congr rfl)
      · right
        unfold afterRelease at next
        split at next
        · rename_i positive
          cases next
          refine ⟨positive, returned ?_⟩
          intro absent
          rw [absent] at positive
          revert positive
          decide
        · split at next <;> cases next
    · exact Or.inl (pending.congr rfl)

theorem acquire_contexts (thread : ThreadId) (agentId parentId : AgentId)
    (requestedContext : ContextId) (save load : SwapCallback) (now : TimePoint)
    (order : IterationOrder ContextId) (writes : Int32 → Option SeqState) :
    (runtime.acquireLease thread agentId parentId requestedContext save load now order
        writes).contexts =
      (runtime.contexts.acquire agentId parentId requestedContext
        (runtime.swapCallbacks save load) now order).1 := by
  unfold acquireLease
  dsimp only
  split <;> rfl

theorem acquire_pending (thread : ThreadId) (agentId parentId : AgentId)
    (requestedContext : ContextId) (save load : SwapCallback) (now : TimePoint)
    (order : IterationOrder ContextId) (writes : Int32 → Option SeqState) (sequence : Int32)
    (place : runtime.threads thread = .generating) :
    (runtime.acquireLease thread agentId parentId requestedContext save load now order
        writes).Pending sequence ↔ runtime.Pending sequence := by
  have moved : ∀ next, (∀ other removed, next ≠ .clearing sequence other removed) →
      ∀ after : TopRuntime, after.threads = runtime.threads →
        ((after.goto thread next).Pending sequence ↔ runtime.Pending sequence) := by
    intro next quiet after threads
    constructor
    · intro pending
      exact (pending_goto_quiet thread next sequence quiet pending).congr threads
    · rintro ⟨other, contextId, removed, held⟩
      have different : other ≠ thread := by
        rintro rfl
        rw [place] at held
        cases held
      refine ⟨other, contextId, removed, ?_⟩
      change Function.update after.threads thread next other = _
      rw [Function.update_of_ne different, threads]
      exact held
  unfold acquireLease
  dsimp only
  split
  · exact moved .idle nofun _ (threads_swapped runtime writes)
  · exact moved (.leased agentId parentId _) nofun _ (threads_swapped runtime writes)

/-! ### One step -/

theorem create_consistent (config : AcceptedConfig) : (create config).Consistent := by
  obtain ⟨config, accepted⟩ := config
  have few : config.maxContexts.toNat < 2 ^ 31 := by
    unfold TopRuntimeConfig.accepted at accepted
    simp only [Bool.not_eq_true', Bool.or_eq_false_iff, decide_eq_false_iff_not] at accepted
    have limit := accepted.2
    rw [UInt64.lt_iff_toNat_lt] at limit
    change ¬55 < config.maxContexts.toNat at limit
    omega
  have partitioned := ContextManager.create_partitioned config.maxContexts
    config.logicalContextLimit (ContextManager.max_one_fits config.maxContexts few)
  exact
    { entries := partitioned.entries
      once := partitioned.atMostOnce
      pending := by
        rintro sequence ⟨thread, contextId, removed, place⟩
        cases place }

/-- The contexts change only by operations of the manager. -/
theorem step_contexts (action : Action) :
    (runtime.step action).contexts = runtime.contexts ∨
      ∃ operation, (runtime.step action).contexts = runtime.contexts.step operation := by
  cases action with
  | release thread agentId parentId contextId now =>
      simp only [step]
      split
      · unfold releaseContext
        dsimp only
        split
        · exact Or.inl rfl
        · split <;> exact Or.inr ⟨.release agentId parentId contextId now, rfl⟩
      · exact Or.inl rfl
  | clear thread =>
      simp only [step]
      split
      · exact Or.inl (contexts_llmClearSeq runtime _)
      · exact Or.inl rfl
  | close thread =>
      simp only [step]
      split
      · unfold closeConversation
        split <;> exact Or.inl rfl
      · exact Or.inl rfl
  | generate thread =>
      simp only [step]
      split
      · unfold beginGenerate
        split <;> exact Or.inl rfl
      · exact Or.inl rfl
  | acquire thread agentId parentId requestedContext save load now order writes =>
      simp only [step]
      split
      · exact Or.inr ⟨.acquire agentId parentId requestedContext
          (runtime.swapCallbacks save load) now order, acquire_contexts ..⟩
      · exact Or.inl rfl
  | leave thread =>
      simp only [step]
      split
      · unfold leaveEarly
        split <;> exact Or.inl rfl
      · exact Or.inl rfl
  | infer thread succeeded state =>
      simp only [step]
      split <;> exact Or.inl rfl
  | finish thread now =>
      simp only [step]
      split
      · rename_i agentId parentId lease undo place
        refine Or.inr ⟨.finish lease.contextId now, ?_⟩
        cases undo <;> rfl
      · exact Or.inl rfl
  | undo thread now =>
      simp only [step]
      split
      · rename_i agentId parentId lease place
        refine Or.inr ⟨.release agentId parentId lease.contextId now, ?_⟩
        unfold undoCreation
        dsimp only
        split <;> rfl
      · exact Or.inl rfl
  | wipe thread =>
      simp only [step]
      split
      · exact Or.inl (contexts_llmClearSeq runtime _)
      · exact Or.inl rfl

/-- A step other than an acquire or a release is calm. -/
def Action.Minor : Action → Prop
  | .release .. => False
  | .acquire .. => False
  | _ => True

theorem step_calm (action : Action) (minor : action.Minor) :
    Calm runtime (runtime.step action) := by
  cases action with
  | release thread agentId parentId contextId now => exact minor.elim
  | acquire thread agentId parentId requestedContext save load now order writes =>
      exact minor.elim
  | clear thread =>
      simp only [step]
      split
      · exact calm_clear thread _ _ _
      · exact Calm.refl runtime
  | close thread =>
      simp only [step]
      split
      · exact calm_close thread _
      · exact Calm.refl runtime
  | generate thread =>
      simp only [step]
      split
      · exact calm_generate thread
      · exact Calm.refl runtime
  | leave thread =>
      simp only [step]
      split
      · exact calm_leave thread _ _ _
      · exact Calm.refl runtime
  | infer thread succeeded state =>
      simp only [step]
      split
      · exact calm_infer thread _ _ _ succeeded state
      · exact Calm.refl runtime
  | finish thread now =>
      simp only [step]
      split
      · exact calm_finish thread _ _ _ _ now
      · exact Calm.refl runtime
  | undo thread now =>
      simp only [step]
      split
      · exact calm_undo thread _ _ _ now
      · exact Calm.refl runtime
  | wipe thread =>
      simp only [step]
      split
      · exact calm_wipe thread _ _
      · exact Calm.refl runtime

/-- What is pending after a step was pending before, or has just been put back
into the free list. -/
theorem step_pending (action : Action) (sequence : Int32)
    (pending : (runtime.step action).Pending sequence) :
    runtime.Pending sequence ∨ 0 ≤ sequence.toInt ∧
      sequence ∈ (runtime.step action).contexts.freeSequences := by
  cases action with
  | release thread agentId parentId contextId now =>
      simp only [step] at pending ⊢
      split at pending
      · exact release_pending thread agentId parentId contextId now sequence pending
      · exact Or.inl pending
  | acquire thread agentId parentId requestedContext save load now order writes =>
      simp only [step] at pending
      split at pending
      · rename_i place
        exact Or.inl ((acquire_pending thread agentId parentId requestedContext save load now
          order writes sequence place).mp pending)
      · exact Or.inl pending
  | _ =>
      refine Or.inl ((step_calm _ ?_).pending sequence pending)
      trivial

theorem step_consistent (action : Action) (consistent : runtime.Consistent) :
    (runtime.step action).Consistent := by
  have pending : ∀ sequence, (runtime.step action).Pending sequence → 0 ≤ sequence.toInt := by
    intro sequence waits
    rcases step_pending action sequence waits with before | ⟨positive, _⟩
    · exact consistent.pending sequence before
    · exact positive
  rcases step_contexts action with same | ⟨operation, moved⟩
  · exact
      { entries := by rw [same]; exact consistent.entries
        once := by intro id; rw [same]; exact consistent.once id
        pending := pending }
  · refine
      { entries := by rw [moved]; exact ContextManager.step_sound operation consistent.entries
        once := ?_
        pending := pending }
    intro id
    obtain ⟨lost, balance, _⟩ :=
      ContextManager.step_occurrences runtime.contexts id operation
    have before := consistent.once id
    rw [moved]
    omega

theorem not_minusOne (sequence : Int32) (positive : 0 ≤ sequence.toInt) : sequence ≠ -1 := by
  rintro rfl
  revert positive
  decide

/-- A step keeps the pending clears harmless exactly if it hands none of their
sequences out. -/
theorem step_harmless_iff (action : Action) (consistent : runtime.Consistent)
    (harmless : runtime.Harmless) :
    (runtime.step action).Harmless ↔ runtime.HandsOutCleared action := by
  cases action with
  | release thread agentId parentId contextId now =>
      refine ⟨fun _ => trivial, fun _ => ?_⟩
      intro sequence pending live
      have after := step_consistent (.release thread agentId parentId contextId now) consistent
      rcases step_pending _ sequence pending with before | ⟨positive, free⟩
      · refine harmless sequence before ?_
        simp only [step] at live
        split at live
        · exact release_live thread agentId parentId contextId now sequence live
        · exact live
      · exact ContextManager.not_live_of_free sequence after.entries
          (after.once sequence.toInt) (not_minusOne sequence positive) free live
  | acquire thread agentId parentId requestedContext save load now order writes =>
      by_cases place : runtime.threads thread = .generating
      · have moved : runtime.step
            (.acquire thread agentId parentId requestedContext save load now order writes) =
              runtime.acquireLease thread agentId parentId requestedContext save load now order
                writes := by
          simp only [step]
          rw [place]
        rw [moved]
        constructor
        · intro after _ sequence hands pending
          refine after sequence ((acquire_pending thread agentId parentId requestedContext save
            load now order writes sequence place).mpr pending) ?_
          rw [acquire_contexts]
          exact hands.live now
        · intro guard sequence pending live
          rw [acquire_pending _ _ _ _ _ _ _ _ _ _ place] at pending
          rw [acquire_contexts] at live
          have real := not_minusOne sequence (consistent.pending sequence pending)
          rcases ContextManager.acquire_live agentId parentId requestedContext
              (runtime.swapCallbacks save load) now order sequence live real with
            before | hands
          · exact harmless sequence pending before
          · exact guard place sequence hands pending
      · have stays : runtime.step
            (.acquire thread agentId parentId requestedContext save load now order writes) =
              runtime := by
          simp only [step]
        rw [stays]
        exact ⟨fun _ stands => absurd stands place, fun _ => harmless⟩
  | _ =>
      refine ⟨fun _ => trivial, fun _ => (step_calm _ ?_).harmless harmless⟩
      trivial

/-! ### Runs -/

theorem harmless_iff : runtime.Harmless ↔ ∀ thread, runtime.ClearSafe thread := by
  constructor
  · intro harmless thread sequence contextId removed place
    have dead := harmless sequence ⟨thread, contextId, removed, place⟩
    refine ⟨dead, ?_⟩
    intro key entry present
    have different : entry.sequenceId ≠ sequence := fun same => dead ⟨key, entry, present, same⟩
    simp only [step]
    simp only [place]
    exact seqStates_llmClearSeq runtime sequence entry.sequenceId different
  · rintro safe sequence ⟨thread, contextId, removed, place⟩
    exact (safe thread sequence contextId removed place).1

/-- In every state of a run all outstanding clears are safe, if and only if no
acquire of the run has handed out a sequence that was still to be cleared. -/
theorem released_sequence_cleared_safely_iff (config : AcceptedConfig) (actions : List Action) :
    (machine config).Throughout (fun runtime => ∀ thread, runtime.ClearSafe thread)
        (create config) actions ↔
      (machine config).Along HandsOutCleared (create config) actions := by
  have runs := (machine config).throughout_iff_along Consistent Harmless HandsOutCleared
    (fun _ => True) (fun _ action consistent _ => step_consistent action consistent)
    (fun _ action consistent harmless _ => step_harmless_iff action consistent harmless)
    (create config) actions (create_consistent config)
    (by rintro sequence ⟨thread, contextId, removed, place⟩; cases place)
    (fun _ _ => trivial)
  rw [← runs]
  constructor
  · exact fun safe => safe.mono fun _ => harmless_iff.mpr
  · exact fun harmless => harmless.mono fun _ => harmless_iff.mp

/-! ### A run that wipes a live context -/

/-- One context, without swapping. -/
def singleContext : AcceptedConfig := ⟨{ maxContexts := 1 }, by decide⟩

/-- A whole `generate` call of one agent, up to the end of the scope. -/
def generateCall (thread : ThreadId) (agentId : AgentId) (position : Int32) : List Action :=
  let callback : SwapCallback := fun _ _ error => (true, error)
  [.generate thread, .acquire thread agentId 0 0 callback callback 0 .asStored fun _ => none,
    .infer thread true { currentPos := position, inUse := true }, .finish thread 0]

/-- Thread 1 releases the context of agent 1; before it clears the sequence,
thread 2 generates for agent 2. -/
def releaseOvertaken : List Action :=
  generateCall 2 1 5 ++ [.release 1 1 0 1 0] ++ generateCall 2 2 7

/-- The clear that thread 1 still owes takes the position of the new context of
agent 2 from 7 back to 0. -/
theorem released_sequence_wiped :
    ¬((machine singleContext).run releaseOvertaken).ClearSafe 1 ∧
      (((machine singleContext).run releaseOvertaken).seqStates 1).currentPos = 7 ∧
      (((machine singleContext).run (releaseOvertaken ++ [.clear 1])).seqStates 1).currentPos =
        0 := by
  have place : ((machine singleContext).run releaseOvertaken).threads 1 = .clearing 1 1 true := by
    decide
  have live : (((machine singleContext).run releaseOvertaken).contexts.context? 2).map
      Entry.sequenceId = some 1 := by
    decide
  refine ⟨?_, by decide, by decide⟩
  intro safe
  obtain ⟨entry, present, holder⟩ := Option.map_eq_some_iff.mp live
  exact (safe 1 1 true place).1 ⟨2, entry, present, holder⟩

end AgentNucleus.Top.TopRuntime
