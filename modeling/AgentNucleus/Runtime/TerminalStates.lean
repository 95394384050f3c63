/-
Terminal states.  A worker's late report is the one way out of them: the retry
path of `fail` assigns `ready` without asking `transition_locked`.
-/

import AgentNucleus.Runtime.SchedulerLifecycle

set_option autoImplicit false

namespace AgentNucleus.Runtime

open Library

namespace AgentScheduler

/-- Along the run, an agent that is terminal at some point keeps its state from
there on. -/
def KeepsTerminalStates (scheduler : AgentScheduler) (operations : List Operation) : Prop :=
  ∀ first rest, operations = first ++ rest → ∀ id state,
    (machine.runFrom scheduler first).HasState id state → isTerminal state = true →
      machine.Throughout (HasState id state) (machine.runFrom scheduler first) rest

/-- The operation reports the failure of an agent that is terminal already and
has a retry left. -/
def RetriesTerminal (scheduler : AgentScheduler) (operation : Operation) : Prop :=
  ∃ id message now node, operation = .fail id message now ∧
    scheduler.node? id = some node ∧ isTerminal node.state = true ∧
    node.snapshot.retryCount < node.spec.retryLimit

/-- Every edge but a retry keeps a terminal state. -/
theorem Change.terminal {operation : Operation} {completing collapsing : Option AgentId}
    {id : AgentId} {old new : Node} {queued requeued : Prop}
    (change : Change operation completing collapsing id old queued requeued new)
    (coherent : old.Coherent queued) (terminal : isTerminal old.state = true) :
    new.state = old.state ∨
      old.snapshot.retryCount < old.spec.retryLimit ∧
        ∃ message now, operation = .fail id message now := by
  obtain ⟨unqueued, inactive⟩ := isTerminal_unqueued terminal
  have outside : ¬queued := by
    rw [coherent.queue, unqueued]
    exact Bool.false_ne_true
  cases change with
  | kept queue => exact Or.inl rfl
  | linked ids queue => exact Or.inl rfl
  | relabelled fitting was is => exact absurd was outside
  | reserved was gone => exact absurd was outside
  | moved moved queue =>
      rcases moved.state with same | ⟨active, _⟩
      · exact Or.inl same
      · rw [inactive] at active
        cases active
  | woken waking asleep is =>
      rcases asleep with same | same | same
      · rw [same] at terminal
        cases terminal
      · rw [same] at terminal
        cases terminal
      · rw [same] at terminal
        cases terminal
  | resolved source completed queue =>
      refine Or.inl (Node.resolve_state_of_not_wakes fun wakes => ?_)
      rw [wakes.1] at terminal
      cases terminal
  | retried message now failing left is => exact Or.inr ⟨left, message, now, failing⟩
  | released _ queue => exact Or.inl rfl
  | finished state error now ends active queue =>
      rw [inactive] at active
      cases active
  | cancelled root error now collapses live gone =>
      rw [terminal] at live
      cases live

theorem HasState.step {scheduler : AgentScheduler} {id : AgentId} {state : AgentState}
    (holds : scheduler.HasState id state) (sound : scheduler.Sound)
    (terminal : isTerminal state = true) (operation : Operation)
    (allowed : ¬scheduler.RetriesTerminal operation) :
    (scheduler.step operation).HasState id state := by
  obtain ⟨old, found, rfl⟩ := holds
  obtain ⟨new, newFound, change⟩ :=
    (sound.effect operation).change sound.graph id old found
  rcases change.terminal (sound.coherent id old found) terminal with
    same | ⟨left, message, now, failing⟩
  · exact ⟨new, newFound, same⟩
  · exact absurd ⟨id, message, now, old, failing, found, terminal, left⟩ allowed

/-- The retry path puts the agent back, whatever its state was. -/
theorem step_retry {scheduler : AgentScheduler} {id : AgentId} {node : Node}
    (message : StdString) (now : TimePoint) (found : scheduler.node? id = some node)
    (left : node.snapshot.retryCount < node.spec.retryLimit) :
    (scheduler.step (.fail id message now)).node? id =
        some (node.unreserved.retryWith message) ∧
      id ∈ (scheduler.step (.fail id message now)).ready := by
  have retried : scheduler.step (.fail id message now) =
      ((scheduler.releaseResourcesLocked node).1.store id
        (node.unreserved.retryWith message)).enqueue id := by
    change (scheduler.fail id message now).1 = _
    unfold fail
    simp only [found, release_node]
    exact congrArg Prod.fst (if_pos left)
  rw [retried, node?_enqueue, node?_store_self, mem_ready_enqueue]
  exact ⟨rfl, Or.inl rfl⟩

theorem KeepsTerminalStates.along {scheduler : AgentScheduler} {operations : List Operation}
    (keeps : scheduler.KeepsTerminalStates operations) :
    machine.Along (fun scheduler operation => ¬scheduler.RetriesTerminal operation)
      scheduler operations := by
  refine machine.along_of_segments _ _ _ ?_
  rintro first operation second split ⟨id, message, now, node, rfl, found, terminal, left⟩
  have kept := keeps first _ split id node.state ⟨node, found, rfl⟩ terminal
  obtain ⟨after, afterFound, same⟩ := Machine.Throughout.at_segment [_] second kept
  have put : (machine.runFrom (machine.runFrom scheduler first)
      [.fail id message now]).node? id = some (node.unreserved.retryWith message) :=
    (step_retry message now found left).1
  rw [put, Option.some.injEq] at afterFound
  rw [← same, ← afterFound] at terminal
  cases terminal

theorem keepsTerminalStates_of_along {scheduler : AgentScheduler}
    (reached : Reachable scheduler) (operations : List Operation)
    (guarded : machine.Along
      (fun scheduler operation => ¬scheduler.RetriesTerminal operation) scheduler operations) :
    scheduler.KeepsTerminalStates operations := by
  intro first rest split id state holds terminal
  subst split
  have later := Machine.Along.after_segment first rest guarded
  have sound := Reachable.sound (reached.runFrom first)
  refine Machine.Throughout.mono (fun _ both => both.2) (machine.throughout_of_along
    (fun scheduler => scheduler.Sound ∧ scheduler.HasState id state) _ ?_ _ rest
    ⟨sound, holds⟩ later)
  rintro current operation ⟨here, has⟩ allowed
  exact ⟨here.step operation, has.step here terminal operation allowed⟩

/-- Terminal states are absorbing in exactly those runs in which no failure is
reported for a terminal agent with a retry left. -/
theorem terminal_states_absorbing_iff (history operations : List Operation) :
    (machine.run history).KeepsTerminalStates operations ↔
      machine.Along (fun scheduler operation => ¬scheduler.RetriesTerminal operation)
        (machine.run history) operations :=
  ⟨KeepsTerminalStates.along,
    keepsTerminalStates_of_along (machine.reachable_run history) operations⟩

/-- A client cancels agent 1 while a worker executes it. -/
def cancelledWhileRunning : List Operation :=
  [ .submit { id := 1, retryLimit := 1 } 0 IterationOrder.asStored,
    .tryDispatch { availableCpuThreads := 1 } 0 IterationOrder.asStored,
    .markRunning 1 7 0,
    .cancel 1 0 ]

/-- The worker's report of a failure makes the cancelled agent ready again. -/
theorem cancelled_agent_is_retried :
    (machine.run cancelledWhileRunning).HasState 1 .cancelled ∧
      (machine.runFrom (machine.run cancelledWhileRunning) [.fail 1 [] 0]).HasState 1 .ready ∧
      (1 : AgentId) ∈
        (machine.runFrom (machine.run cancelledWhileRunning) [.fail 1 [] 0]).ready ∧
      ¬∀ history operations : List Operation,
        (machine.run history).KeepsTerminalStates operations := by
  have before : (machine.run cancelledWhileRunning).HasState 1 .cancelled :=
    ⟨_, rfl, by decide⟩
  have after : (machine.runFrom (machine.run cancelledWhileRunning)
      [.fail 1 [] 0]).HasState 1 .ready :=
    ⟨_, rfl, by decide⟩
  refine ⟨before, after, by decide, fun absorbing => ?_⟩
  have kept : machine.Throughout (HasState 1 .cancelled) (machine.run cancelledWhileRunning)
      [.fail 1 [] 0] :=
    absorbing cancelledWhileRunning [.fail 1 [] 0] [] _ rfl 1 .cancelled before rfl
  obtain ⟨node, found, cancelled⟩ := Machine.Throughout.at_segment [_] [] kept
  obtain ⟨other, otherFound, ready⟩ := after
  rw [found, Option.some.injEq] at otherFound
  rw [otherFound, ready] at cancelled
  cases cancelled

end AgentScheduler

end AgentNucleus.Runtime
