/-
Calls that return false.  Each of them leaves the scheduler as it was, except that
`fail` gives up a reservation before it asks whether the agent may fail at all.
-/

import AgentNucleus.Runtime.SchedulerSteps

set_option autoImplicit false

namespace AgentNucleus.Runtime

open Library

namespace AgentScheduler

/-- What a call returns; a dispatch returns no `bool`. -/
def outcome (scheduler : AgentScheduler) : Operation → Option Outcome
  | .submit task now order => some (scheduler.submit task now order).2
  | .submitBatch tasks now order => some (scheduler.submitBatch tasks now order).2
  | .spawn parent task now order => some (scheduler.spawn parent task now order).2
  | .tryDispatch _ _ _ => none
  | .waitDispatch _ _ _ => none
  | .markRunning id processId now => some (scheduler.markRunning id processId now).2
  | .markBlocked id => some (scheduler.markBlocked id).2
  | .wake id => some (scheduler.wake id).2
  | .complete id now => some (scheduler.complete id now).2
  | .fail id message now => some (scheduler.fail id message now).2
  | .cancel id now => some (scheduler.cancel id now).2
  | .bindContext id contextId => some (scheduler.bindContext id contextId).2
  | .bindProcess id processId => some (scheduler.bindProcess id processId).2
  | .recordMetrics id metrics => some (scheduler.recordMetrics id metrics).2

/-- The call returns false. -/
def Fails (scheduler : AgentScheduler) (operation : Operation) : Prop :=
  ∃ outcome, scheduler.outcome operation = some outcome ∧ outcome.ok = false

/-- The tables and the counters are the same; the order of entries in a table is
nobody's business. -/
structure Unchanged (before after : AgentScheduler) : Prop where
  nodes : ∀ id, after.node? id = before.node? id
  ready : ∀ id, id ∈ after.ready ↔ id ∈ before.ready
  cpu : after.reservedCpuThreads = before.reservedCpuThreads
  memory : after.reservedMemoryBytes = before.reservedMemoryBytes

theorem Unchanged.refl (scheduler : AgentScheduler) : Unchanged scheduler scheduler :=
  ⟨fun _ => rfl, fun _ => Iff.rfl, rfl, rfl⟩

/-- The operation reports the failure of an agent that has no retry left and is held
by no worker, but still has a reservation. -/
def LosesReservation (scheduler : AgentScheduler) (operation : Operation) : Prop :=
  ∃ id message now node, operation = .fail id message now ∧ scheduler.node? id = some node ∧
    node.resourcesReserved = true ∧ isActive node.state = false ∧
    ¬node.snapshot.retryCount < node.spec.retryLimit

/-! ### The operations -/

section Operations

variable (scheduler : AgentScheduler)

private theorem submitBatchLocked_failed {tasks : List AgentTaskSpec} {now : TimePoint}
    {order : IterationOrder AgentId}
    (failed : (scheduler.submitBatchLocked tasks now order).2.ok = false) :
    (scheduler.submitBatchLocked tasks now order).1 = scheduler := by
  rcases submitBatchLocked_cases scheduler tasks now order with
    ⟨_, _, accepted⟩ | ⟨_, rejected, _⟩
  · rw [accepted] at failed
    cases failed
  · exact rejected

private theorem spawn_failed {parent : AgentId} {task : AgentTaskSpec} {now : TimePoint}
    {order : IterationOrder AgentId}
    (failed : (scheduler.spawn parent task now order).2.ok = false) :
    (scheduler.spawn parent task now order).1 = scheduler := by
  unfold spawn at failed ⊢
  cases known : scheduler.nodes.contains parent with
  | true =>
      rw [known, if_pos rfl] at failed
      rw [if_pos rfl]
      exact scheduler.submitBatchLocked_failed failed
  | false => rfl

/-- The transitions share their form: a missing agent and a refused transition
leave the scheduler alone. -/
private theorem transition_failed {id : AgentId} {next : AgentState}
    {missing : Outcome} {moved : Node → AgentScheduler}
    {result : AgentScheduler × Outcome}
    (form : result = match scheduler.node? id with
      | none => (scheduler, missing)
      | some node =>
          match transitionLocked node next with
          | .error message => (scheduler, .rejected message)
          | .ok after => (moved after, .accepted))
    (failed : result.2.ok = false) : result.1 = scheduler := by
  cases found : scheduler.node? id with
  | none =>
      rw [found] at form
      rw [form]
  | some node =>
      rw [found] at form
      cases allowed : transitionLocked node next with
      | error message =>
          simp only [allowed] at form
          rw [form]
      | ok after =>
          simp only [allowed] at form
          rw [form] at failed
          cases failed

private theorem annotate_failed {id : AgentId} {acceptable : Bool} {message : StdString}
    {write : AgentSnapshot → AgentSnapshot}
    (failed : (scheduler.annotate id acceptable message write).2.ok = false) :
    (scheduler.annotate id acceptable message write).1 = scheduler := by
  unfold annotate at failed ⊢
  cases found : scheduler.node? id with
  | none => rfl
  | some node =>
      simp only [found] at failed ⊢
      split
      · rfl
      · rename_i accepted
        rw [if_neg accepted] at failed
        cases failed

/-- A `fail` that returns false has met no agent, or it has released one that is not
active and has no retry left. -/
private theorem fail_failed {id : AgentId} {message : StdString} {now : TimePoint}
    (failed : (scheduler.fail id message now).2.ok = false) :
    (scheduler.fail id message now).1 = scheduler ∨
      ∃ node, scheduler.node? id = some node ∧ isActive node.state = false ∧
        ¬node.snapshot.retryCount < node.spec.retryLimit ∧
        (scheduler.fail id message now).1 =
          (scheduler.releaseResourcesLocked node).1.store id node.unreserved := by
  unfold fail at failed ⊢
  cases found : scheduler.node? id with
  | none => exact Or.inl rfl
  | some node =>
      apply Or.inr
      simp only [found, release_node] at failed ⊢
      have same : node.unreserved.snapshot = node.snapshot ∧ node.unreserved.spec = node.spec :=
        ⟨rfl, rfl⟩
      rw [same.1, same.2] at failed ⊢
      by_cases left : node.snapshot.retryCount < node.spec.retryLimit
      · rw [if_pos left] at failed
        cases failed
      · rw [if_neg left] at failed ⊢
        cases moved : transitionLocked node.unreserved .failed with
        | ok next =>
            rw [moved] at failed
            cases failed
        | error refusal =>
            have refused := transitionLocked_error moved
            rw [(transitionAllowed_end _).2] at refused
            exact ⟨node, rfl, refused, left, rfl⟩

/-- The call whose release comes too early returns false. -/
private theorem fail_refuses {id : AgentId} {node : Node} (message : StdString) (now : TimePoint)
    (found : scheduler.node? id = some node) (inactive : isActive node.state = false)
    (exhausted : ¬node.snapshot.retryCount < node.spec.retryLimit) :
    (scheduler.fail id message now).2.ok = false ∧
      (scheduler.fail id message now).1 =
        (scheduler.releaseResourcesLocked node).1.store id node.unreserved := by
  have refused : transitionLocked node.unreserved .failed =
      .error (text "invalid transition " ++ node.state.name ++ text " -> " ++
        AgentState.failed.name) := by
    unfold transitionLocked
    rw [(transitionAllowed_end _).2]
    exact if_neg (by rw [show node.unreserved.state = node.state from rfl, inactive]; decide)
  unfold fail
  simp only [found, release_node]
  rw [if_neg (show ¬node.unreserved.snapshot.retryCount < node.unreserved.spec.retryLimit
    from exhausted), refused]
  exact ⟨rfl, rfl⟩

/-- Releasing an agent without a reservation writes back what was there. -/
private theorem released_unchanged {id : AgentId} {node : Node}
    (found : scheduler.node? id = some node) (free : node.resourcesReserved = false) :
    Unchanged scheduler ((scheduler.releaseResourcesLocked node).1.store id node.unreserved) := by
  have untouched : (scheduler.releaseResourcesLocked node).1 = scheduler := by
    unfold releaseResourcesLocked
    rw [free]
    rfl
  have same : node.unreserved = node := by
    unfold Node.unreserved
    rw [← free]
  rw [untouched, same]
  refine ⟨?_, fun _ => Iff.rfl, rfl, rfl⟩
  intro other
  rw [node?_store]
  by_cases here : other = id
  · rw [if_pos here, here, found]
  · rw [if_neg here]

/-- Every call but `fail` returns the scheduler it was given. -/
theorem failed_same {operation : Operation} (fails : scheduler.Fails operation)
    (other : ∀ id message now, operation ≠ .fail id message now) :
    scheduler.step operation = scheduler := by
  obtain ⟨outcome, returned, failed⟩ := fails
  cases operation with
  | submit task now order =>
      cases returned
      exact scheduler.submitBatchLocked_failed failed
  | submitBatch tasks now order =>
      cases returned
      exact scheduler.submitBatchLocked_failed failed
  | spawn parent task now order =>
      cases returned
      exact scheduler.spawn_failed failed
  | tryDispatch resources now order => cases returned
  | waitDispatch resources now order => cases returned
  | markRunning id processId now =>
      cases returned
      exact scheduler.transition_failed rfl failed
  | markBlocked id =>
      cases returned
      exact scheduler.transition_failed rfl failed
  | wake id =>
      cases returned
      exact scheduler.transition_failed rfl failed
  | complete id now =>
      cases returned
      exact scheduler.transition_failed rfl failed
  | fail id message now => exact absurd rfl (other id message now)
  | cancel id now =>
      cases returned
      exact scheduler.transition_failed rfl failed
  | bindContext id contextId =>
      cases returned
      exact scheduler.annotate_failed failed
  | bindProcess id processId =>
      cases returned
      exact scheduler.annotate_failed failed
  | recordMetrics id metrics =>
      cases returned
      exact scheduler.annotate_failed failed

end Operations

/-- A call that returns false leaves the scheduler as it was exactly when it is not
a `fail` that releases a reservation before it refuses. -/
theorem failed_calls_unchanged_iff (scheduler : AgentScheduler) (operation : Operation) :
    (scheduler.Fails operation → Unchanged scheduler (scheduler.step operation)) ↔
      ¬scheduler.LosesReservation operation := by
  constructor
  · intro unchanged loses
    obtain ⟨id, message, now, node, rfl, found, reserved, inactive, exhausted⟩ := loses
    obtain ⟨failed, released⟩ := scheduler.fail_refuses message now found inactive exhausted
    have kept := (unchanged ⟨_, rfl, failed⟩).nodes id
    change (scheduler.fail id message now).1.node? id = _ at kept
    rw [released, node?_store_self, found, Option.some.injEq] at kept
    have flag : node.unreserved.resourcesReserved = node.resourcesReserved := by
      rw [kept]
    rw [reserved] at flag
    cases flag
  · intro keeps fails
    by_cases failing : ∃ id message now, operation = .fail id message now
    · obtain ⟨id, message, now, rfl⟩ := failing
      obtain ⟨outcome, returned, failed⟩ := fails
      cases returned
      change Unchanged scheduler (scheduler.fail id message now).1
      rcases scheduler.fail_failed failed with same | ⟨node, found, inactive, exhausted, released⟩
      · rw [same]
        exact Unchanged.refl scheduler
      · rw [released]
        apply scheduler.released_unchanged found
        apply Bool.eq_false_iff.mpr
        intro reserved
        exact keeps ⟨id, message, now, node, rfl, found, reserved, inactive, exhausted⟩
    · rw [scheduler.failed_same fails
        fun id message now same => failing ⟨id, message, now, same⟩]
      exact Unchanged.refl scheduler

/-- An agent that has blocked and been woken keeps the reservation of its first
dispatch. -/
def wokenWithReservation : List Operation :=
  [ .submit { id := 1 } 0 IterationOrder.asStored,
    .tryDispatch { availableCpuThreads := 2 } 0 IterationOrder.asStored,
    .markRunning 1 7 0,
    .markBlocked 1,
    .wake 1 ]

/-- `fail` returns false and has released one thread. -/
theorem refused_failure_releases :
    (machine.run wokenWithReservation).Fails (.fail 1 [] 0) ∧
      (machine.run wokenWithReservation).reservedCpuThreads = 1 ∧
      ((machine.run wokenWithReservation).step (.fail 1 [] 0)).reservedCpuThreads = 0 ∧
      ¬∀ scheduler operation, Reachable scheduler → scheduler.Fails operation →
        Unchanged scheduler (scheduler.step operation) := by
  have fails : (machine.run wokenWithReservation).Fails (.fail 1 [] 0) := ⟨_, rfl, by decide⟩
  refine ⟨fails, by decide, by decide, ?_⟩
  intro unchanged
  have kept := (unchanged _ _ (machine.reachable_run wokenWithReservation) fails).cpu
  revert kept
  decide

end AgentScheduler

end AgentNucleus.Runtime
