/-
What `AgentScheduler` keeps between its three representations of the same facts:
dependency lists against successor lists, keys against the ids that loops look
up, and `ready_` against the states of the agents.
-/

import AgentNucleus.Runtime.SchedulerLifecycle

set_option autoImplicit false

namespace AgentNucleus.Runtime

open Library
open Library.DepthFirst (Edge)
open Relation (TransGen ReflTransGen)

namespace AgentScheduler

def Stored (scheduler : AgentScheduler) (id : AgentId) : Prop :=
  ∃ node, scheduler.node? id = some node

/-- `nodes_.at` finds its key.  While an operation that is no submission runs, the
table has the skeleton it had before, and the search for a cycle runs on the
table with the batch linked. -/
structure LookupsDefined (scheduler : AgentScheduler) : Prop where
  dispatch : ∀ during, scheduler.SameSkeleton during → ∀ id ∈ scheduler.ready, during.Stored id
  visited : ∀ during, scheduler.SameSkeleton during → ∀ id target, during.Stored id →
    ReflTransGen (Edge (successorsOf during.nodes)) id target → during.Stored target
  cycleSearch : ∀ tasks now, scheduler.Admissible tasks → ∀ id target,
    id ∈ scheduler.linkedNodes tasks now →
    ReflTransGen (Edge (successorsOf (scheduler.linkedNodes tasks now))) id target →
      target ∈ scheduler.linkedNodes tasks now

/-- The graph is a set of agents with two mirrored adjacency lists and no loop. -/
structure DependencyGraph (scheduler : AgentScheduler) : Prop where
  dependencies : ∀ id node, scheduler.node? id = some node →
    ∀ dependency ∈ node.spec.dependencies, scheduler.Stored dependency
  successors : ∀ id node, scheduler.node? id = some node →
    ∀ successorId ∈ node.successors, scheduler.Stored successorId
  mirrored : ∀ id node successorId successor, scheduler.node? id = some node →
    scheduler.node? successorId = some successor →
    node.successors.count successorId = successor.spec.dependencies.count id
  loopFree : ∀ id, ¬TransGen (Edge (successorsOf scheduler.nodes)) id id
  lookups : scheduler.LookupsDefined

section Sound

variable {scheduler : AgentScheduler}

theorem Stored.sameSkeleton {during : AgentScheduler} {id : AgentId}
    (stored : scheduler.Stored id) (same : scheduler.SameSkeleton during) : during.Stored id := by
  obtain ⟨node, found⟩ := stored
  obtain ⟨next, present, _⟩ := same.forward found
  exact ⟨next, present⟩

theorem Graph.edge_stored (graph : scheduler.Graph) {id target : AgentId}
    (edge : Edge (successorsOf scheduler.nodes) id target) : scheduler.Stored target := by
  unfold Edge at edge
  cases found : scheduler.node? id with
  | none =>
      rw [successorsOf_none found] at edge
      cases edge
  | some node =>
      rw [successorsOf_some found] at edge
      exact graph.successors id node found target edge

theorem Graph.path_stored (graph : scheduler.Graph) {id target : AgentId}
    (start : scheduler.Stored id)
    (path : ReflTransGen (Edge (successorsOf scheduler.nodes)) id target) :
    scheduler.Stored target := by
  induction path with
  | refl => exact start
  | tail _ edge _ => exact graph.edge_stored edge

theorem Sound.lookupsDefined (sound : scheduler.Sound) : scheduler.LookupsDefined where
  dispatch := by
    intro during same id queued
    have stored : scheduler.Stored id := sound.stored id queued
    exact stored.sameSkeleton same
  visited := by
    intro during same id target start path
    exact (sound.graph.sameSkeleton same).path_stored start path
  cycleSearch := by
    intro tasks now admissible id target start path
    induction path with
    | refl => exact start
    | tail _ edge _ =>
        exact AList.mem_keys.mpr (sound.graph.linked_closed admissible now edge).2

theorem Sound.mem_ready_iff (sound : scheduler.Sound) (id : AgentId) :
    id ∈ scheduler.ready ↔
      ∃ node, scheduler.node? id = some node ∧
        (node.state = .ready ∨ node.state = .waitingResource) := by
  constructor
  · intro queued
    obtain ⟨node, found⟩ := sound.stored id queued
    have state := (sound.coherent id node found).queue.mp queued
    exact ⟨node, found, (isQueued_iff node.state).mp state⟩
  · intro waits
    obtain ⟨node, found, state⟩ := waits
    apply (sound.coherent id node found).queue.mpr
    exact (isQueued_iff node.state).mpr state

/-- What is dispatched leaves the queue. -/
theorem dispatched_not_queued (resources : MemorySnapshot) (now : TimePoint)
    (order : IterationOrder AgentId) (id : AgentId)
    (dispatched : (scheduler.dispatchLocked resources now order).2 = some id) :
    id ∈ scheduler.ready ∧ id ∉ (scheduler.dispatchLocked resources now order).1.ready := by
  rcases dispatchLocked_cases scheduler resources now order with
    nothing | ⟨chosen, node, queued, _, _, result⟩
  · rw [nothing] at dispatched
    cases dispatched
  · rw [result, Option.some.injEq] at dispatched
    subst dispatched
    refine ⟨queued, ?_⟩
    rw [result, mem_ready_reserve]
    exact fun both => both.1 rfl

end Sound

/-- Dependencies and successors stay mirror images over the stored agents, without
a loop, in every reachable state. -/
theorem dependency_graph_sound {scheduler : AgentScheduler} (reached : Reachable scheduler) :
    scheduler.DependencyGraph where
  dependencies := reached.sound.graph.dependencies
  successors := reached.sound.graph.successors
  mirrored := reached.sound.graph.linked
  loopFree := reached.sound.graph.loopFree
  lookups := reached.sound.lookupsDefined

/-- A diamond of four agents whose first agent has completed, next to a batch that
closes a loop and is rejected. -/
def diamond : List Operation :=
  [ .submitBatch
      [ { id := 1 }, { id := 2, dependencies := [1] }, { id := 3, dependencies := [1, 1] },
        { id := 4, dependencies := [2, 3] } ] 0 IterationOrder.asStored,
    .submitBatch [{ id := 5, dependencies := [6] }, { id := 6, dependencies := [5, 4] }] 0
      IterationOrder.asStored,
    .tryDispatch { availableCpuThreads := 4 } 0 IterationOrder.asStored,
    .complete 1 0 ]

theorem diamond_sound : (machine.run diamond).DependencyGraph :=
  dependency_graph_sound (machine.reachable_run diamond)

/-- `ready_` holds exactly the agents that may run, so a dispatch takes one of
these, and never the same one again from the queue. -/
theorem ready_set_agrees {scheduler : AgentScheduler} (reached : Reachable scheduler) :
    (∀ id, id ∈ scheduler.ready ↔
      ∃ node, scheduler.node? id = some node ∧
        (node.state = .ready ∨ node.state = .waitingResource)) ∧
    (∀ resources now order id,
      (scheduler.dispatchLocked resources now order).2 = some id →
      (∃ node, scheduler.node? id = some node ∧
        (node.state = .ready ∨ node.state = .waitingResource)) ∧
      id ∉ (scheduler.dispatchLocked resources now order).1.ready) := by
  have agrees := reached.sound.mem_ready_iff
  refine ⟨agrees, ?_⟩
  intro resources now order id dispatched
  obtain ⟨queued, taken⟩ := dispatched_not_queued resources now order id dispatched
  exact ⟨(agrees id).mp queued, taken⟩

theorem diamond_ready :
    (∀ id, id ∈ (machine.run diamond).ready ↔
      ∃ node, (machine.run diamond).node? id = some node ∧
        (node.state = .ready ∨ node.state = .waitingResource)) ∧
    (∀ resources now order id,
      ((machine.run diamond).dispatchLocked resources now order).2 = some id →
      (∃ node, (machine.run diamond).node? id = some node ∧
        (node.state = .ready ∨ node.state = .waitingResource)) ∧
      id ∉ ((machine.run diamond).dispatchLocked resources now order).1.ready) :=
  ready_set_agrees (machine.reachable_run diamond)

end AgentScheduler

end AgentNucleus.Runtime
