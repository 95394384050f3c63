/-
Every public operation is one of eleven effects, and every effect moves each
agent along one edge of the same small automaton.
-/

import AgentNucleus.Runtime.SchedulerCascade
import AgentNucleus.Runtime.SchedulerDispatch
import AgentNucleus.Runtime.SchedulerSubmission

set_option autoImplicit false

namespace AgentNucleus.Runtime

open Library

/-- The states in which a worker holds the agent. -/
def isActive (state : AgentState) : Bool :=
  state == .dispatched || state == .running || state == .blocked

/-- The states of the members of `ready_`. -/
def isQueued (state : AgentState) : Bool :=
  state == .ready || state == .waitingResource

theorem isQueued_iff (state : AgentState) :
    isQueued state = true ↔ state = .ready ∨ state = .waitingResource := by
  cases state <;> simp [isQueued]

/-- A worker reports that it has started or waits, or a field without influence
on scheduling is written. -/
structure Node.Moved (old new : Node) : Prop where
  spec : new.spec = old.spec
  successors : new.successors = old.successors
  unresolved : new.unresolved = old.unresolved
  reserved : new.resourcesReserved = old.resourcesReserved
  retryCount : new.snapshot.retryCount = old.snapshot.retryCount
  state : new.state = old.state ∨ isActive old.state = true ∧ isActive new.state = true

namespace AgentScheduler

/-- The batch that a submitting operation hands to `submit_batch_locked`. -/
def offered (scheduler : AgentScheduler) : Operation → Option (List AgentTaskSpec)
  | .submit task _ _ => some [task]
  | .submitBatch tasks _ _ => some tasks
  | .spawn parent task _ _ =>
      if scheduler.nodes.contains parent then some [{ task with parentId := parent }] else none
  | _ => none

/-- The two operations that dispatch. -/
inductive Dispatches : Operation → MemorySnapshot → TimePoint → IterationOrder AgentId → Prop
  where
  | tryDispatch (resources : MemorySnapshot) (now : TimePoint)
      (order : IterationOrder AgentId) :
      Dispatches (.tryDispatch resources now order) resources now order
  | waitDispatch (resources : MemorySnapshot) (now : TimePoint)
      (order : IterationOrder AgentId) :
      Dispatches (.waitDispatch resources now order) resources now order

/-- The agent that the operation completes. -/
def completing (scheduler : AgentScheduler) : Operation → Option AgentId
  | .complete id _ =>
      match scheduler.node? id with
      | some node => if isActive node.state then some id else none
      | none => none
  | _ => none

/-- The agent whose failure or cancellation the operation propagates. -/
def collapsing (scheduler : AgentScheduler) : Operation → Option AgentId
  | .fail id _ _ =>
      match scheduler.node? id with
      | some node =>
          if node.snapshot.retryCount < node.spec.retryLimit then none
          else if isActive node.state then some id else none
      | none => none
  | .cancel id _ =>
      match scheduler.node? id with
      | some node => if isTerminal node.state then none else some id
      | none => none
  | _ => none

/-- The operation ends no agent. -/
def Quiet (scheduler : AgentScheduler) (operation : Operation) : Prop :=
  scheduler.completing operation = none ∧ scheduler.collapsing operation = none

/-! ### Effects -/

inductive Effect (before : AgentScheduler) : Operation → AgentScheduler → Prop where
  | idle {operation : Operation} (quiet : before.Quiet operation) :
      Effect before operation before
  | submitted {operation : Operation} {after : AgentScheduler} (tasks : List AgentTaskSpec)
      (now : TimePoint) (order : IterationOrder AgentId)
      (quiet : before.Quiet operation)
      (offered : before.offered operation = some tasks)
      (admissible : before.Admissible tasks)
      (loopFree : graphHasCycleLocked (before.linkedNodes tasks now) order = false)
      (submitted : Submitted tasks now before after) : Effect before operation after
  | relabelled {operation : Operation} {resources : MemorySnapshot} {now : TimePoint}
      {order : IterationOrder AgentId}
      (dispatches : Dispatches operation resources now order)
      (nothing : (before.dispatchLocked resources now order).2 = none) :
      Effect before operation (before.relabelled resources now order)
  | reserved {operation : Operation} {resources : MemorySnapshot} {now : TimePoint}
      {order : IterationOrder AgentId} (id : AgentId) (old : Node)
      (dispatches : Dispatches operation resources now order)
      (chosen : (before.dispatchLocked resources now order).2 = some id)
      (queued : id ∈ before.ready) (found : before.node? id = some old)
      (fitting : before.fits resources old = true) :
      Effect before operation
        ((before.relabelled resources now order).reserve id (old.relabel true))
  | moved {operation : Operation} (id : AgentId) (old new : Node)
      (quiet : before.Quiet operation)
      (found : before.node? id = some old) (moved : old.Moved new) :
      Effect before operation (before.store id new)
  | woken (id : AgentId) (old : Node) (found : before.node? id = some old)
      (asleep : old.state = .blocked ∨ old.state = .suspended ∨
        old.state = .waitingResource) :
      Effect before (.wake id) ((before.store id (old.setState .ready)).enqueue id)
  | completed (id : AgentId) (old : Node) (now : TimePoint)
      (found : before.node? id = some old) (active : isActive old.state = true) :
      Effect before (.complete id now)
        (old.successors.foldl resolveDependency
          ((before.releaseResourcesLocked old).1.store id
            (old.ended .completed old.snapshot.error now)))
  | retried (id : AgentId) (old : Node) (message : StdString) (now : TimePoint)
      (found : before.node? id = some old)
      (left : old.snapshot.retryCount < old.spec.retryLimit) :
      Effect before (.fail id message now)
        (((before.releaseResourcesLocked old).1.store id
          (old.unreserved.retryWith message)).enqueue id)
  | released (id : AgentId) (old : Node) (message : StdString) (now : TimePoint)
      (found : before.node? id = some old)
      (exhausted : ¬old.snapshot.retryCount < old.spec.retryLimit)
      (inactive : isActive old.state = false) :
      Effect before (.fail id message now)
        ((before.releaseResourcesLocked old).1.store id old.unreserved)
  | failed (id : AgentId) (old : Node) (message : StdString) (now : TimePoint)
      (found : before.node? id = some old)
      (exhausted : ¬old.snapshot.retryCount < old.spec.retryLimit)
      (active : isActive old.state = true) :
      Effect before (.fail id message now)
        (((before.releaseResourcesLocked old).1.store id
          (old.ended .failed message now)).cancelDescendantsLocked id
            (text "dependency agent failed") now)
  | cancelled (id : AgentId) (old : Node) (now : TimePoint)
      (found : before.node? id = some old) (live : isTerminal old.state = false) :
      Effect before (.cancel id now)
        ((((before.dequeue id).releaseResourcesLocked old).1.store id
          (old.ended .cancelled old.snapshot.error now)).cancelDescendantsLocked id
            (text "dependency agent was cancelled") now)

section Steps

variable (scheduler : AgentScheduler)

theorem transitionAllowed_end (current : AgentState) :
    transitionAllowed current .completed = isActive current ∧
      transitionAllowed current .failed = isActive current := by
  cases current <;> exact ⟨rfl, rfl⟩

theorem transitionAllowed_cancelled (current : AgentState) :
    transitionAllowed current .cancelled = !isTerminal current := rfl

theorem transitionLocked_ok {node moved : Node} {next : AgentState}
    (accepted : transitionLocked node next = .ok moved) :
    transitionAllowed node.state next = true ∧ moved = node.setState next := by
  unfold transitionLocked at accepted
  split at accepted
  · rename_i allowed
    cases accepted
    exact ⟨allowed, rfl⟩
  · cases accepted

/-- A live agent is cancelled. -/
theorem transitionLocked_cancelled {node moved : Node}
    (accepted : transitionLocked node .cancelled = .ok moved) :
    isTerminal node.state = false ∧ moved = node.setState .cancelled := by
  obtain ⟨allowed, written⟩ := transitionLocked_ok accepted
  rw [transitionAllowed_cancelled, Bool.not_eq_true'] at allowed
  exact ⟨allowed, written⟩

theorem transitionLocked_error {node : Node} {next : AgentState} {message : StdString}
    (refused : transitionLocked node next = .error message) :
    transitionAllowed node.state next = false := by
  unfold transitionLocked at refused
  split at refused
  · cases refused
  · rename_i allowed
    exact Bool.eq_false_iff.mpr allowed

private theorem effect_submit {operation : Operation} (keyed : scheduler.Keyed)
    (tasks : List AgentTaskSpec) (now : TimePoint) (order : IterationOrder AgentId)
    (quiet : scheduler.Quiet operation)
    (offered : scheduler.offered operation = some tasks) :
    Effect scheduler operation (scheduler.submitBatchLocked tasks now order).1 := by
  rcases submitBatchLocked_cases scheduler tasks now order with
    ⟨admissible, loopFree, accepted⟩ | ⟨_, rejected, _⟩
  · rw [accepted]
    exact Effect.submitted tasks now order quiet offered admissible loopFree
      (admissible.submitted keyed now)
  · rw [rejected]
    exact Effect.idle quiet

private theorem effect_dispatch {operation : Operation} {resources : MemorySnapshot}
    {now : TimePoint} {order : IterationOrder AgentId}
    (dispatches : Dispatches operation resources now order) :
    Effect scheduler operation (scheduler.dispatchLocked resources now order).1 := by
  rcases dispatchLocked_cases scheduler resources now order with
    nothing | ⟨id, node, queued, found, fitting, chosen⟩
  · rw [nothing]
    exact Effect.relabelled dispatches (by rw [nothing])
  · rw [chosen]
    exact Effect.reserved id node dispatches (by rw [chosen]) queued found fitting

private theorem effect_markRunning (id : AgentId) (processId : Int64) (now : TimePoint) :
    Effect scheduler (.markRunning id processId now)
      (scheduler.markRunning id processId now).1 := by
  unfold markRunning
  cases found : scheduler.node? id with
  | none => exact Effect.idle ⟨rfl, rfl⟩
  | some node =>
      dsimp only
      cases moved : transitionLocked node .running with
      | error message => exact Effect.idle ⟨rfl, rfl⟩
      | ok next =>
          obtain ⟨allowed, rfl⟩ := transitionLocked_ok moved
          have dispatched : node.state = .dispatched := eq_of_beq allowed
          refine Effect.moved id node _ ⟨rfl, rfl⟩ found ⟨rfl, rfl, rfl, rfl, rfl, Or.inr ⟨?_, rfl⟩⟩
          rw [dispatched]
          rfl

private theorem effect_markBlocked (id : AgentId) :
    Effect scheduler (.markBlocked id) (scheduler.markBlocked id).1 := by
  unfold markBlocked
  cases found : scheduler.node? id with
  | none => exact Effect.idle ⟨rfl, rfl⟩
  | some node =>
      dsimp only
      cases moved : transitionLocked node .blocked with
      | error message => exact Effect.idle ⟨rfl, rfl⟩
      | ok next =>
          obtain ⟨allowed, rfl⟩ := transitionLocked_ok moved
          have running : node.state = .running := eq_of_beq allowed
          refine Effect.moved id node _ ⟨rfl, rfl⟩ found ⟨rfl, rfl, rfl, rfl, rfl, Or.inr ⟨?_, rfl⟩⟩
          rw [running]
          rfl

private theorem effect_wake (id : AgentId) :
    Effect scheduler (.wake id) (scheduler.wake id).1 := by
  unfold wake
  cases found : scheduler.node? id with
  | none => exact Effect.idle ⟨rfl, rfl⟩
  | some node =>
      dsimp only
      cases moved : transitionLocked node .ready with
      | error message => exact Effect.idle ⟨rfl, rfl⟩
      | ok next =>
          obtain ⟨allowed, rfl⟩ := transitionLocked_ok moved
          refine Effect.woken id node found ?_
          simpa [transitionAllowed, or_assoc] using allowed

private theorem effect_complete (id : AgentId) (now : TimePoint) :
    Effect scheduler (.complete id now) (scheduler.complete id now).1 := by
  unfold complete
  cases found : scheduler.node? id with
  | none => exact Effect.idle ⟨by simp only [completing, found], rfl⟩
  | some node =>
      dsimp only
      cases moved : transitionLocked node .completed with
      | error message =>
          have inactive := transitionLocked_error moved
          rw [(transitionAllowed_end node.state).1] at inactive
          refine Effect.idle ⟨?_, rfl⟩
          simp only [completing, found, inactive, Bool.false_eq_true, if_false]
      | ok next =>
          obtain ⟨allowed, rfl⟩ := transitionLocked_ok moved
          rw [(transitionAllowed_end node.state).1] at allowed
          simp only [release_node]
          rw [scheduler.release_congr ((node.setState .completed).finishAt now) node rfl rfl]
          exact Effect.completed id node now found allowed

private theorem effect_fail (id : AgentId) (message : StdString) (now : TimePoint) :
    Effect scheduler (.fail id message now) (scheduler.fail id message now).1 := by
  unfold fail
  cases found : scheduler.node? id with
  | none => exact Effect.idle ⟨rfl, by simp only [collapsing, found]⟩
  | some node =>
      simp only [release_node]
      change Effect scheduler _ (Prod.fst (if node.snapshot.retryCount < node.spec.retryLimit
        then _ else _))
      by_cases left : node.snapshot.retryCount < node.spec.retryLimit
      · rw [if_pos left]
        exact Effect.retried id node message now found left
      · rw [if_neg left]
        cases moved : transitionLocked node.unreserved .failed with
        | error failure =>
            have refused := transitionLocked_error moved
            rw [(transitionAllowed_end _).2] at refused
            exact Effect.released id node message now found left refused
        | ok next =>
            obtain ⟨allowed, rfl⟩ := transitionLocked_ok moved
            rw [(transitionAllowed_end _).2] at allowed
            exact Effect.failed id node message now found left allowed

private theorem effect_cancel (id : AgentId) (now : TimePoint) :
    Effect scheduler (.cancel id now) (scheduler.cancel id now).1 := by
  unfold cancel
  cases found : scheduler.node? id with
  | none => exact Effect.idle ⟨rfl, by simp only [collapsing, found]⟩
  | some node =>
      dsimp only
      cases moved : transitionLocked node .cancelled with
      | error message =>
          have refused := transitionLocked_error moved
          have ended : isTerminal node.state = true := by
            simpa only [transitionAllowed_cancelled, Bool.not_eq_false'] using refused
          refine Effect.idle ⟨rfl, ?_⟩
          simp only [collapsing, found, ended, if_true]
      | ok next =>
          obtain ⟨live, rfl⟩ := transitionLocked_cancelled moved
          simp only [release_node]
          rw [(scheduler.dequeue id).release_congr (node.setState .cancelled) node rfl rfl]
          exact Effect.cancelled id node now found live

private theorem effect_annotate {operation : Operation} (id : AgentId) (acceptable : Bool)
    (message : StdString) (write : AgentSnapshot → AgentSnapshot)
    (quiet : scheduler.Quiet operation)
    (harmless : ∀ node : Node, node.Moved { node with snapshot := write node.snapshot }) :
    Effect scheduler operation (scheduler.annotate id acceptable message write).1 := by
  unfold annotate
  cases found : scheduler.node? id with
  | none => exact Effect.idle quiet
  | some node =>
      cases refused : isTerminal node.state || !acceptable with
      | true => simp only [refused, if_true]; exact Effect.idle quiet
      | false =>
          simp only [refused, Bool.false_eq_true, if_false]
          exact Effect.moved id node _ quiet found (harmless node)

/-- Every step of the scheduler is one of the effects. -/
theorem step_effect (keyed : scheduler.Keyed) (operation : Operation) :
    Effect scheduler operation (scheduler.step operation) := by
  cases operation with
  | submit task now order => exact effect_submit scheduler keyed [task] now order ⟨rfl, rfl⟩ rfl
  | submitBatch tasks now order =>
      exact effect_submit scheduler keyed tasks now order ⟨rfl, rfl⟩ rfl
  | spawn parent task now order =>
      change Effect scheduler _ (scheduler.spawn parent task now order).1
      unfold spawn
      cases known : scheduler.nodes.contains parent with
      | true =>
          simp only [if_true]
          refine effect_submit scheduler keyed _ now order ⟨rfl, rfl⟩ ?_
          simp only [offered, known, if_true]
      | false =>
          simp only [Bool.false_eq_true, if_false]
          exact Effect.idle ⟨rfl, rfl⟩
  | tryDispatch resources now order =>
      exact effect_dispatch scheduler (Dispatches.tryDispatch resources now order)
  | waitDispatch resources now order =>
      exact effect_dispatch scheduler (Dispatches.waitDispatch resources now order)
  | markRunning id processId now => exact effect_markRunning scheduler id processId now
  | markBlocked id => exact effect_markBlocked scheduler id
  | wake id => exact effect_wake scheduler id
  | complete id now => exact effect_complete scheduler id now
  | fail id message now => exact effect_fail scheduler id message now
  | cancel id now => exact effect_cancel scheduler id now
  | bindContext id contextId =>
      exact effect_annotate scheduler id _ _ _ ⟨rfl, rfl⟩
        fun _ => ⟨rfl, rfl, rfl, rfl, rfl, Or.inl rfl⟩
  | bindProcess id processId =>
      exact effect_annotate scheduler id _ _ _ ⟨rfl, rfl⟩
        fun _ => ⟨rfl, rfl, rfl, rfl, rfl, Or.inl rfl⟩
  | recordMetrics id metrics =>
      exact effect_annotate scheduler id _ _ _ ⟨rfl, rfl⟩
        fun _ => ⟨rfl, rfl, rfl, rfl, rfl, Or.inl rfl⟩

end Steps

end AgentScheduler

end AgentNucleus.Runtime
