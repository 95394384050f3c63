/-
The context manager inside the stores.  A call acquires at most one context, finishes it and
then only releases contexts; what this does to the manager is what the call does.
-/

import AgentNucleus.Top.ContextLeases
import AgentNucleus.Top.SequenceBalance
import AgentNucleus.Top.StoreTurns

set_option autoImplicit false

namespace AgentNucleus.Top

open AgentNucleus.Library
open AgentNucleus.Library.Program (Triple)
open AgentNucleus.Runtime (AgentId ContextId InvocationRequest StdString TimePoint)

namespace ContextManager

/-- Properties of the manager during a call, by the lease that the call holds.  A finished
lease is held no longer. -/
structure GivesBack (held : Option ContextLease → ContextManager → Prop) : Prop where
  finished : ∀ {manager : ContextManager} {lease : ContextLease} (now : TimePoint),
    held (some lease) manager → held none (manager.finish lease.contextId now).1
  released : ∀ {manager : ContextManager} (agentId parentId : AgentId) (contextId : ContextId)
    (now : TimePoint), held none manager →
      held none (manager.release agentId parentId contextId now).1

/-- Nothing is lost since the manager was `origin`, and only the lease is pinned. -/
structure Settled (origin : ContextManager) (lent : Option ContextLease)
    (manager : ContextManager) : Prop where
  limits : manager.limits = origin.limits
  occurrences : ∀ id, manager.occurrences id = origin.occurrences id
  pins : ∀ key, PinsExact key (lent.any fun lease => lease.contextId == key).toNat 0 manager

variable {origin manager : ContextManager}

private theorem PinsExact.even {key : ContextId} {count : Nat}
    (pins : PinsExact key count count manager) : PinsExact key 0 0 manager := by
  constructor
  · intro entry present
    have stored := pins.stored entry present
    exact ⟨by omega, stored.2⟩
  · intro missing
    rfl

theorem Settled.acquired {agentId parentId : AgentId} {requestedContext : ContextId}
    {now : TimePoint} {after : ContextManager} {result : Option ContextLease}
    (settled : Settled origin none manager) (sound : manager.Sound)
    (fresh : manager.context? manager.nextContextId = none)
    (acquired : manager.Acquired agentId parentId requestedContext now after result) :
    Settled origin result after where
  limits := acquired.limits.trans settled.limits
  occurrences := by
    intro id
    obtain ⟨lost, balance, kept⟩ := acquired.occurrences id
    rw [kept fresh] at balance
    exact balance.trans (settled.occurrences id)
  pins := by
    intro key
    have small : (result.any fun lease => lease.contextId == key).toNat ≤ 1 := Bool.toNat_le _
    have pinned := acquired.pins (settled.pins key) sound fresh (by
      change 0 + _ < 0 + 2 ^ 64
      omega)
    change PinsExact key (0 + _) 0 after at pinned
    rw [Nat.zero_add] at pinned
    exact pinned

/-- The lease is pinned, so that it can be finished. -/
private theorem Settled.finished {lease : ContextLease}
    (settled : Settled origin (some lease) manager) (now : TimePoint) :
    Settled origin none (manager.finish lease.contextId now).1 := by
  have finished := finish_spec manager lease.contextId now
  have own := settled.pins lease.contextId
  have one : ((some lease).any fun given => given.contextId == lease.contextId).toNat = 1 := by
    change (lease.contextId == lease.contextId).toNat = 1
    rw [beq_self_eq_true]
    rfl
  rw [one] at own
  have succeeded : (manager.finish lease.contextId now).2.2 = true := by
    cases present : manager.context? lease.contextId with
    | none => cases own.missing present
    | some entry =>
        have pinned : entry.pinCount ≠ 0 := by
          intro none
          have count := (own.stored entry present).1
          rw [none] at count
          cases count
        unfold finish
        simp only [present, if_neg pinned]
  refine ⟨finished.limits.trans settled.limits, ?_, ?_⟩
  · intro id
    exact (finished.occurrences id).trans (settled.occurrences id)
  · intro key
    have pins := finished.pins (settled.pins key)
    rw [succeeded, Bool.and_true, Nat.zero_add] at pins
    exact pins.even

theorem settled_givesBack (origin : ContextManager) : GivesBack (Settled origin) where
  finished := fun now settled => settled.finished now
  released := by
    intro manager agentId parentId contextId now settled
    have released := release_spec manager agentId parentId contextId now
    refine ⟨released.limits.trans settled.limits, ?_, ?_⟩
    · intro id
      exact (released.occurrences id).trans (settled.occurrences id)
    · intro key
      exact released.pins (settled.pins key)

end ContextManager

namespace RuntimeStores

variable (config : AcceptedServing) {holds : ContextManager → Prop}

def OnContexts (holds : ContextManager → Prop) (stores : RuntimeStores) : Prop :=
  holds stores.contexts

/-! ### Parts that leave the contexts alone -/

/-- Only the contexts matter here. -/
theorem untracked_keeps {α : Type} {program : Serve α}
    (spec : ∀ start, Triple (fun stores => stores = start) program
      fun _ after => Untracked start after) :
    Triple (OnContexts holds) program fun _ => OnContexts holds := by
  apply Triple.from_state
  intro start before
  apply (spec start).weaken
  intro value after same
  unfold OnContexts
  rw [same.contexts]
  exact before

private theorem onLlm_keeps {α : Type} (program : Llm α) :
    Triple (OnContexts holds) (onLlm program) fun _ => OnContexts holds :=
  untracked_keeps (onLlm_untracked program)

private theorem removeFile_keeps (contextId : ContextId) :
    Triple (OnContexts holds) (removeFile contextId) fun _ => OnContexts holds := by
  apply untracked_keeps
  intro start
  apply (removeFile_spec contextId start).weaken
  intro value after left
  exact left.1

private theorem removeSnapshot_keeps (contextId : ContextId) :
    Triple (OnContexts holds) (removeSnapshot contextId) fun _ => OnContexts holds := by
  apply Triple.bind (Triple.inspects _)
  intro found
  cases found with
  | none => exact Triple.pure _ fun _ before => before
  | some snapshot =>
      apply Triple.bind (removeFile_keeps contextId)
      intro removed
      exact Triple.change fun _ before => before

private theorem clearReleased_keeps (sequenceId : Int32) :
    Triple (OnContexts holds) (clearReleased config sequenceId) fun _ => OnContexts holds :=
  untracked_keeps (clearReleased_spec config sequenceId)

private theorem clearOutcome_keeps (outcome : ContextManager.Release) :
    Triple (OnContexts holds) (clearOutcome config outcome) fun _ => OnContexts holds := by
  apply Triple.ite
  · intro released
    exact clearReleased_keeps config outcome.releasedSequence
  · intro refused
    exact Triple.pure _ fun _ before => before

private theorem forgetRemoved_keeps (removed : Bool) (contextId : ContextId) :
    Triple (OnContexts holds) (forgetRemoved removed contextId) fun _ => OnContexts holds := by
  apply Triple.ite
  · intro last
    apply Triple.bind (removeSnapshot_keeps contextId)
    intro erased
    exact Triple.change fun _ before => before
  · intro shared
    exact Triple.pure _ fun _ before => before

private theorem rewrite_keeps (contextId : ContextId) (applied : Bool)
    (rewritten : Conversation → Conversation) :
    Triple (OnContexts holds)
      (if applied then
        Program.change fun stores =>
          match stores.conversations.lookup contextId with
          | none => stores
          | some conversation =>
              storeConversation contextId (rewritten conversation) stores
      else pure () : Serve Unit)
      fun _ => OnContexts holds := by
  apply Triple.ite
  · intro templated
    apply Triple.change
    intro stores before
    cases stores.conversations.lookup contextId with
    | none => exact before
    | some conversation => exact before
  · intro plain
    exact Triple.pure _ fun _ before => before

private theorem completeTurn_keeps (lease : ContextLease) (applied : Bool)
    (response : LlmResponse) :
    Triple (OnContexts holds) (completeTurn lease applied response)
      fun _ => OnContexts holds := by
  apply Triple.ask_then
  intro generated
  apply Triple.bind (rewrite_keeps lease.contextId applied _)
  intro recorded
  apply Triple.bind (makeTextResult_keeps _ _ _)
  intro result
  exact Triple.pure _ fun _ before => before

/-! ### Giving back -/

section GivesBack

variable {held : Option ContextLease → ContextManager → Prop}
  (returns : ContextManager.GivesBack held)

include returns

theorem finish_settles (lease : ContextLease) :
    Triple (OnContexts (held (some lease))) (finish lease.contextId)
      fun _ => OnContexts (held none) := by
  apply Triple.from_state
  intro start before
  apply (finish_leaves lease.contextId start).weaken
  intro value after left
  obtain ⟨now, rfl⟩ := left
  exact returns.finished now before

theorem release_keeps (agentId parentId : AgentId) (contextId : ContextId) :
    Triple (OnContexts (held none)) (release agentId parentId contextId)
      fun _ => OnContexts (held none) := by
  apply Triple.from_state
  intro start before
  apply (release_leaves agentId parentId contextId start).weaken
  intro outcome after left
  obtain ⟨now, _, rfl⟩ := left
  exact returns.released agentId parentId contextId now before

theorem releaseContext_keeps (request : InvocationRequest) :
    Triple (OnContexts (held none)) (releaseContext config request)
      fun _ => OnContexts (held none) := by
  apply Triple.ite
  · intro unnamed
    exact Triple.pure _ fun _ before => before
  · intro named
    apply Triple.bind (release_keeps returns request.agentId request.parentId request.contextId)
    intro outcome
    apply Triple.ite
    · intro refused
      exact Triple.pure _ fun _ before => before
    · intro released
      apply Triple.bind (clearReleased_keeps config outcome.releasedSequence)
      intro cleared
      apply Triple.bind (forgetRemoved_keeps outcome.contextRemoved request.contextId)
      intro forgotten
      exact makeTextResult_keeps _ _ _

private theorem abandonContext_keeps (request : InvocationRequest) (lease : ContextLease) :
    Triple (OnContexts (held none)) (abandonContext config request lease)
      fun _ => OnContexts (held none) := by
  apply Triple.ite
  · intro created
    apply Triple.bind (release_keeps returns request.agentId request.parentId lease.contextId)
    intro outcome
    apply Triple.bind (clearOutcome_keeps config outcome)
    intro cleared
    exact Triple.change fun _ before => before
  · intro older
    exact Triple.pure _ fun _ before => before

private theorem failTurn_keeps (request : InvocationRequest) (lease : ContextLease)
    (previousCount : Nat) (applied : Bool) (response : LlmResponse) :
    Triple (OnContexts (held none))
      (failTurn config request lease previousCount applied response)
      fun _ => OnContexts (held none) := by
  apply Triple.bind (rewrite_keeps lease.contextId applied _)
  intro dropped
  apply Triple.bind (abandonContext_keeps config returns request lease)
  intro abandoned
  apply Triple.bind (cancelledDuring_keeps response _)
  intro cancelled
  exact Triple.pure _ fun _ before => before

theorem serveLease_settles (request : InvocationRequest) (payload : GeneratePayload)
    (lease : ContextLease) :
    Triple (OnContexts (held (some lease))) (serveLease config request payload lease)
      fun _ => OnContexts (held none) := by
  apply Triple.bind (Triple.inspects _)
  intro conversation
  apply Triple.bind (renderTurn_spec conversation lease.created payload _)
  intro rendered
  have stored : Triple (fun stores => OnContexts (held (some lease)) stores ∧
      (lease.created = true → ∃ turn, rendered.2 = .ok turn))
      (Program.change (storeConversation lease.contextId rendered.1) : Serve Unit)
      fun _ => OnContexts (held (some lease)) := Triple.change fun _ before => before.1
  apply Triple.bind stored
  intro done
  cases rendered.2 with
  | error message =>
      apply Triple.bind (finish_settles returns lease)
      intro finished
      exact Triple.pure _ fun _ before => before
  | ok turn =>
      apply Triple.bind (onLlm_keeps _)
      intro outcome
      apply Triple.bind (finish_settles returns lease)
      intro finished
      apply Triple.ite
      · intro failed
        exact failTurn_keeps config returns request lease _ turn.applied outcome.2
      · intro done
        exact completeTurn_keeps lease turn.applied outcome.2

/-! ### Any call -/

variable {start : RuntimeStores} (tracked : Tracked start) (before : held none start.contexts)

include tracked before

theorem generate_settles (request : InvocationRequest)
    (payload : Except StdString GeneratePayload) (order : IterationOrder ContextId)
    (acquires : ∀ {now : TimePoint} {after : ContextManager} {result : Option ContextLease},
      start.contexts.Acquired request.agentId request.parentId request.contextId now after
        result → held result after) :
    Triple (fun stores => stores = start) (generate config request payload order)
      fun _ => OnContexts (held none) := by
  have nothing (after : RuntimeStores) (same : after = start) :
      OnContexts (held none) after := by
    subst same
    exact before
  cases payload with
  | error message => exact Triple.pure _ nothing
  | ok payload =>
      apply Triple.ite
      · intro invalid
        exact Triple.pure _ nothing
      · intro valid
        apply Triple.bind (acquire_spec config tracked request.agentId request.parentId
          request.contextId order)
        intro acquired
        apply Triple.from_state
        intro middle granted
        obtain ⟨now, step⟩ := granted.acquired
        have lent := acquires step
        have there (after : RuntimeStores) (same : after = middle) :
            OnContexts (held acquired.2) after := by
          subst same
          exact lent
        cases result : acquired.2 with
        | none =>
            rw [result] at there
            exact Triple.pure _ there
        | some lease =>
            rw [result] at there
            exact (serveLease_settles config returns request payload lease).strengthen there

theorem handleModel_settles (call : HandleCall)
    (acquires : ∀ {now : TimePoint} {after : ContextManager} {result : Option ContextLease},
      start.contexts.Acquired call.request.agentId call.request.parentId
        call.request.contextId now after result → held result after) :
    Triple (fun stores => stores = start) (handleModel config call)
      fun _ => OnContexts (held none) := by
  have nothing (after : RuntimeStores) (same : after = start) :
      OnContexts (held none) after := by
    subst same
    exact before
  apply Triple.ite
  · intro unknown
    exact Triple.pure _ nothing
  · intro known
    apply Triple.ite
    · intro release
      exact (releaseContext_keeps config returns call.request).strengthen nothing
    · intro other
      apply Triple.ite
      · intro stats
        exact (makeTextResult_keeps _ _ _).strengthen nothing
      · intro other
        apply Triple.ite
        · intro warmup
          exact (untracked_keeps (warmupPrefix_spec config call.warmupPrompt)).strengthen nothing
        · intro other
          apply Triple.ite
          · intro generates
            exact generate_settles config returns tracked before call.request call.payload
              call.order acquires
          · intro unsupported
            exact Triple.pure _ nothing

end GivesBack

end RuntimeStores

end AgentNucleus.Top
