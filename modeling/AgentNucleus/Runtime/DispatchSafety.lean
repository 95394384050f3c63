/-
Dependency safety of dispatch.  An agent that is dispatched has only completed
dependencies, unless a retry has put an agent into `ready_` without looking at its
counter, or has taken back a completion that others have already counted.
-/

import AgentNucleus.Runtime.DependencyCounting

set_option autoImplicit false

namespace AgentNucleus.Runtime

open Library

namespace AgentScheduler

/-- Whatever the snapshot, an agent that `try_dispatch` returns has only completed
dependencies at that moment. -/
def DispatchSafe (scheduler : AgentScheduler) : Prop :=
  ∀ resources now order id, (scheduler.tryDispatch resources now order).2 = some id →
    ∃ node, (scheduler.tryDispatch resources now order).1.node? id = some node ∧
      (scheduler.tryDispatch resources now order).1.DependenciesCompleted node.spec

/-- A failure that leads to a retry is reported for an agent whose dependencies have
completed, and if the agent itself has completed, no live agent depends on it. -/
def RetriesSafely (scheduler : AgentScheduler) (operation : Operation) : Prop :=
  ∀ id message now node, operation = .fail id message now →
    scheduler.node? id = some node → node.snapshot.retryCount < node.spec.retryLimit →
      scheduler.DependenciesCompleted node.spec ∧
      (node.state = .completed →
        ∀ successorId ∈ node.successors, scheduler.Settled successorId)

def KeepsDependencies (scheduler : AgentScheduler) (operation : Operation) : Prop :=
  scheduler.CountsFit operation ∧ scheduler.RetriesSafely operation

/-- The counter of a waiting agent is exact, and a live agent that does not wait has
no uncompleted dependency. -/
def WaitingCounted (scheduler : AgentScheduler) : Prop :=
  ∀ id node, scheduler.node? id = some node → isTerminal node.state = false →
    (node.state = .waitingDependency →
      node.unresolved.toNat = scheduler.pendingCount node.spec.dependencies) ∧
    (node.state ≠ .waitingDependency → scheduler.pendingCount node.spec.dependencies = 0)

section Step

variable {before after : AgentScheduler} {operation : Operation}

private theorem waiting_completed {source id : AgentId} {old new : Node}
    (completed : Completes before after source) (counted : before.WaitingCounted)
    (known : before.node? id = some old) (found : after.node? id = some new)
    (live : isTerminal new.state = false) :
    (new.state = .waitingDependency →
      new.unresolved.toNat = after.pendingCount new.spec.dependencies) ∧
    (new.state ≠ .waitingDependency → after.pendingCount new.spec.dependencies = 0) := by
  by_cases same : id = source
  · subst same
    obtain ⟨next, nextFound, done, _⟩ := completed.self old known
    rw [found, Option.some.injEq] at nextFound
    rw [nextFound, done] at live
    cases live
  · have next := completed.others id same
    rw [found, known, Option.map_some, Option.some.injEq] at next
    subst next
    rw [Node.resolve_spec, Node.resolve_unresolved, completed.pendingCount]
    by_cases wakes : old.Wakes (old.spec.dependencies.count source)
    · have oldLive : isTerminal old.state = false := by
        rw [wakes.1]
        rfl
      have counter := (counted id old known oldLive).1 wakes.1
      have enough := wakes.2.2
      rw [Node.resolve_state_of_wakes wakes]
      exact ⟨nofun, fun _ => by omega⟩
    · rw [Node.resolve_state_of_not_wakes wakes] at live ⊢
      obtain ⟨waiting, other⟩ := counted id old known live
      refine ⟨fun sleeping => ?_, fun awake => ?_⟩
      · rw [waiting sleeping]
      · rw [other awake, Nat.zero_sub]

/-- A safe retry changes nothing for the dependencies of a live agent, nor for those
of the agent it puts back. -/
private theorem pendingCount_kept {id : AgentId} {old : Node}
    (keeps : KeepsCounters before after operation) (sound : before.Sound)
    (safe : before.RetriesSafely operation) (known : before.node? id = some old)
    (live : isTerminal old.state = false ∨ ∃ message now, operation = .fail id message now) :
    after.pendingCount old.spec.dependencies = before.pendingCount old.spec.dependencies := by
  refine pendingCount_congr fun dependency listed => ?_
  rcases keeps.pendingIn dependency with
    same | ⟨⟨message, now, node, failing, found, done, left⟩, _⟩
  · exact same
  · exfalso
    have linked : id ∈ node.successors := by
      rw [← List.count_pos_iff, sound.graph.linked dependency node id old found known]
      exact List.count_pos_iff.mpr listed
    rcases live with oldLive | ⟨otherMessage, otherNow, own⟩
    · have settled := (safe dependency message now node failing found left).2 done id linked
        old known
      rw [settled] at oldLive
      cases oldLive
    · rw [failing] at own
      cases own
      exact sound.graph.not_own_successor found linked

theorem WaitingCounted.step (counted : before.WaitingCounted) (sound : before.Sound)
    (keepsDependencies : before.KeepsDependencies operation) :
    (before.step operation).WaitingCounted := by
  obtain ⟨fits, safe⟩ := keepsDependencies
  intro id new found live
  have effect := sound.effect operation
  cases known : before.node? id with
  | none =>
      obtain ⟨counter, state⟩ := sound.fresh_counter fits known found
      refine ⟨fun _ => counter, fun awake => ?_⟩
      by_contra positive
      exact awake (state.trans (if_neg positive))
  | some old =>
      cases completes : before.completing operation with
      | some source =>
          exact waiting_completed (sound.completes effect completes) counted known found live
      | none =>
          have keeps := sound.keepsCounters effect completes
          obtain ⟨next, nextFound, counter, spec⟩ := keeps.unresolved id old known
          rw [found, Option.some.injEq] at nextFound
          subst nextFound
          obtain ⟨next, nextFound, change⟩ := effect.change sound.graph id old known
          rw [found, Option.some.injEq] at nextFound
          subst nextFound
          rw [counter, spec]
          rcases change.live_cases (sound.coherent id old known) live with
            ⟨oldLive, agree⟩ | ⟨source, completed⟩ | ⟨ready, left, message, now, failing⟩
          · rw [pendingCount_kept keeps sound safe known (Or.inl oldLive), agree, Ne, agree]
            exact counted id old known oldLive
          · rw [completes] at completed
            cases completed
          · rw [pendingCount_kept keeps sound safe known (Or.inr ⟨message, now, failing⟩), ready]
            refine ⟨nofun, fun _ => ?_⟩
            rw [← dependenciesCompleted_iff]
            exact (safe id message now old failing known left).1

/-- Only members of `ready_` are dispatched, and dispatching completes nothing. -/
theorem WaitingCounted.dispatchSafe (counted : before.WaitingCounted) (sound : before.Sound) :
    before.DispatchSafe := by
  intro resources now order id dispatched
  have effect : Effect before (.tryDispatch resources now order)
      (before.tryDispatch resources now order).1 :=
    sound.effect (.tryDispatch resources now order)
  unfold tryDispatch at dispatched effect ⊢
  rcases dispatchLocked_cases before resources now order with
    nothing | ⟨chosen, node, queued, found, _, result⟩
  · rw [nothing] at dispatched
    cases dispatched
  · rw [result, Option.some.injEq] at dispatched
    subst dispatched
    have keeps := sound.keepsCounters effect rfl
    obtain ⟨new, newFound, _, spec⟩ := keeps.unresolved chosen node found
    refine ⟨new, newFound, ?_⟩
    have state := (sound.coherent chosen node found).queue.mp queued
    have awake : node.state ≠ .waitingDependency := by
      intro waits
      rw [waits] at state
      cases state
    have none := (counted chosen node found (isQueued_inactive state).2).2 awake
    rw [dependenciesCompleted_iff, spec, ← none]
    refine pendingCount_congr fun dependency _ => ?_
    rcases keeps.pendingIn dependency with same | ⟨⟨_, _, _, failing, _⟩, _⟩
    · exact same
    · cases failing

end Step

theorem waitingCounted_initial : ({} : AgentScheduler).WaitingCounted := by
  intro id node found
  rw [node?_initial] at found
  cases found

/-- In a run that counts its tasks within 32 bits and retries safely, every state
dispatches only agents whose dependencies have completed. -/
theorem dispatch_respects_dependencies (operations : List Operation)
    (guarded : machine.Along KeepsDependencies machine.initial operations) :
    machine.Throughout DispatchSafe machine.initial operations := by
  refine Machine.Throughout.mono (fun _ held => held.2.dispatchSafe held.1)
    (machine.throughout_of_along (fun scheduler => scheduler.Sound ∧ scheduler.WaitingCounted)
      KeepsDependencies ?_ machine.initial operations
      ⟨sound_initial, waitingCounted_initial⟩ guarded)
  rintro scheduler operation ⟨sound, counted⟩ keeps
  exact ⟨sound.step operation, counted.step sound keeps⟩

/-- The chain of two agents, with a failed and retried attempt at the first. -/
def retriedChain : List Operation :=
  [ .submitBatch [{ id := 1, retryLimit := 1 }, { id := 2, dependencies := [1] }] 0
      IterationOrder.asStored,
    .tryDispatch { availableCpuThreads := 1 } 0 IterationOrder.asStored,
    .fail 1 [] 0,
    .tryDispatch { availableCpuThreads := 1 } 0 IterationOrder.asStored,
    .complete 1 0 ]

theorem retriesSafely_of_not_fail {scheduler : AgentScheduler} {operation : Operation}
    (other : ∀ id message now, operation ≠ .fail id message now) :
    scheduler.RetriesSafely operation :=
  fun id message now _ failing => absurd failing (other id message now)

theorem retriedChain_guarded :
    machine.Along KeepsDependencies machine.initial retriedChain := by
  refine ⟨⟨countsFit_of_length rfl ?_, retriesSafely_of_not_fail nofun⟩,
    ⟨countsFit_of_quiet rfl, retriesSafely_of_not_fail nofun⟩,
    ⟨countsFit_of_quiet rfl, ?_⟩,
    ⟨countsFit_of_quiet rfl, retriesSafely_of_not_fail nofun⟩,
    ⟨countsFit_of_quiet rfl, retriesSafely_of_not_fail nofun⟩, trivial⟩
  · decide
  · intro id message now node failing found left
    cases failing
    have facts : ((machine.run (retriedChain.take 2)).node? 1).map
        (fun node => (node.spec.dependencies, node.state)) = some ([], .dispatched) := by decide
    have here : (machine.run (retriedChain.take 2)).node? 1 = some node := found
    rw [here, Option.map_some, Option.some.injEq, Prod.mk.injEq] at facts
    refine ⟨fun dependency listed => ?_, fun done => ?_⟩
    · rw [facts.1] at listed
      cases listed
    · rw [facts.2] at done
      cases done

theorem retriedChain_dispatchSafe :
    machine.Throughout DispatchSafe machine.initial retriedChain :=
  dispatch_respects_dependencies retriedChain retriedChain_guarded

/-- Agent 2 waits for agent 1; a failure reported for it makes it ready. -/
def retriedWaiter : List Operation :=
  [ .submitBatch [{ id := 1 }, { id := 2, priority := 1, dependencies := [1], retryLimit := 1 }]
      0 IterationOrder.asStored,
    .fail 2 [] 0 ]

theorem retried_waiter_is_dispatched :
    ¬∀ operations : List Operation,
      machine.Throughout DispatchSafe machine.initial operations := by
  intro always
  have safe : (machine.run retriedWaiter).DispatchSafe :=
    Machine.Throughout.at_segment retriedWaiter []
      ((List.append_nil retriedWaiter).symm ▸ always retriedWaiter)
  let dispatched := ((machine.run retriedWaiter).tryDispatch { availableCpuThreads := 1 } 0
    IterationOrder.asStored).1
  have listed : (dispatched.node? 2).map (fun node => node.spec.dependencies) = some [1] := by
    decide
  have uncompleted : (dispatched.node? 1).map Node.state = some .ready := by decide
  obtain ⟨node, found, completed⟩ := safe { availableCpuThreads := 1 } 0
    IterationOrder.asStored 2 (by decide)
  rw [found, Option.map_some, Option.some.injEq] at listed
  obtain ⟨dependency, present, done⟩ :=
    completed 1 (by rw [listed]; exact List.mem_singleton.mpr rfl)
  rw [present, Option.map_some, done] at uncompleted
  cases uncompleted

end AgentScheduler

end AgentNucleus.Runtime
