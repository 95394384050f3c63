/-
Completing several agents.  What a run of completions leaves of each agent depends
on how often the completed ones list it, and not on the order of the calls.
-/

import AgentNucleus.Runtime.ResourceLedger

set_option autoImplicit false

namespace AgentNucleus.Runtime

open Library

/-- The agent without the time at which it has finished. -/
def Node.timeless (node : Node) : Node := node.finishAt 0

/-- The agent after completions that list it `count` times; it is one of the completed
ones, or it is not. -/
def Node.settledBy (node : Node) (completed : Bool) (count : Nat) : Node :=
  if completed then (node.resolve count).ended .completed node.snapshot.error 0
  else (node.resolve count).timeless

theorem Node.settledBy_nothing (node : Node) : node.settledBy false 0 = node.timeless := by
  unfold Node.settledBy
  rw [if_neg Bool.false_ne_true, Node.resolve_zero]

/-- An agent that has completed does not wait, so later completions only move its
counter. -/
theorem Node.settledBy_ended (node : Node) (count : Nat) (now : TimePoint) :
    (node.ended .completed node.snapshot.error now).settledBy false count =
      node.settledBy true count := by
  have awake : ¬(node.ended .completed node.snapshot.error now).Wakes count := nofun
  unfold Node.settledBy
  rw [if_neg Bool.false_ne_true, if_pos rfl]
  unfold Node.resolve
  rw [if_neg awake]
  rfl

theorem Node.settledBy_resolve (node : Node) (completed : Bool) (first second : Nat) :
    (node.resolve first).settledBy completed second =
      node.settledBy completed (first + second) := by
  unfold Node.settledBy
  rw [Node.resolve_add]
  rfl

theorem Node.resolve_active {node : Node} (active : isActive node.state = true) (count : Nat) :
    (node.resolve count).state = node.state := by
  refine Node.resolve_state_of_not_wakes fun wakes => ?_
  rw [wakes.1] at active
  cases active

namespace AgentScheduler

/-- The calls of `complete` one after the other, with what each of them returns. -/
def completeAll : AgentScheduler → List (AgentId × TimePoint) → AgentScheduler × List Outcome
  | scheduler, [] => (scheduler, [])
  | scheduler, (id, now) :: rest =>
      let completed := scheduler.complete id now
      let further := completeAll completed.1 rest
      (further.1, completed.2 :: further.2)

/-- How often the successor lists of `ids` name `other`. -/
def listings (scheduler : AgentScheduler) (ids : List AgentId) (other : AgentId) : Nat :=
  (ids.map fun id => (successorsOf scheduler.nodes id).count other).sum

theorem listings_cons (scheduler : AgentScheduler) (id other : AgentId) (rest : List AgentId) :
    scheduler.listings (id :: rest) other =
      (successorsOf scheduler.nodes id).count other + scheduler.listings rest other := by
  unfold listings
  rw [List.map_cons, List.sum_cons]

/-! ### One completion -/

section Complete

variable {scheduler : AgentScheduler} {id : AgentId} {node : Node}

theorem complete_active (now : TimePoint) (found : scheduler.node? id = some node)
    (active : isActive node.state = true) :
    scheduler.complete id now =
      (node.successors.foldl resolveDependency
          ((scheduler.releaseResourcesLocked node).1.store id
            (node.ended .completed node.snapshot.error now)), .accepted) := by
  have moves : transitionLocked node .completed = .ok (node.setState .completed) := by
    unfold transitionLocked
    rw [(transitionAllowed_end node.state).1, if_pos active]
  unfold complete
  simp only [found, moves, release_node]
  rw [scheduler.release_congr ((node.setState .completed).finishAt now) node rfl rfl]
  rfl

/-- What a completion leaves of every agent. -/
theorem node?_complete (now : TimePoint) (graph : scheduler.Graph)
    (found : scheduler.node? id = some node) (active : isActive node.state = true)
    (other : AgentId) :
    (scheduler.complete id now).1.node? other =
      if other = id then some (node.ended .completed node.snapshot.error now)
      else (scheduler.node? other).map fun old => old.resolve (node.successors.count other) := by
  rw [complete_active now found active]
  exact node?_completed graph found node.snapshot.error now other

theorem successorsOf_complete (now : TimePoint) (graph : scheduler.Graph)
    (found : scheduler.node? id = some node) (active : isActive node.state = true)
    (other : AgentId) :
    successorsOf (scheduler.complete id now).1.nodes other =
      successorsOf scheduler.nodes other := by
  have after := node?_complete now graph found active other
  by_cases same : other = id
  · subst same
    rw [if_pos rfl] at after
    rw [successorsOf_some after, successorsOf_some found, Node.ended_successors]
  · rw [if_neg same] at after
    cases present : scheduler.node? other with
    | none =>
        rw [present] at after
        rw [successorsOf_none after, successorsOf_none present]
    | some old =>
        rw [present] at after
        rw [successorsOf_some after, successorsOf_some present, Node.resolve_successors]

theorem counter_complete (now : TimePoint) (covered : scheduler.Covered)
    (found : scheduler.node? id = some node) (active : isActive node.state = true)
    (resource : Resource) :
    (resource.counter (scheduler.complete id now).1).toNat + resource.heldBy node =
      (resource.counter scheduler).toNat := by
  have enough := Nat.le_trans (resource.heldBy_le_held found) (covered resource)
  have released := counter_release resource node enough
  have loop := counters_resolveAll ((scheduler.releaseResourcesLocked node).1.store id
    (node.ended .completed node.snapshot.error now)) node.successors
  rw [complete_active now found active]
  have same : resource.counter (node.successors.foldl resolveDependency
      ((scheduler.releaseResourcesLocked node).1.store id
        (node.ended .completed node.snapshot.error now))) =
      resource.counter (scheduler.releaseResourcesLocked node).1 := by
    cases resource with
    | cpuThreads => exact loop.1
    | memoryBytes => exact loop.2
  rw [same]
  exact released

theorem mem_ready_complete (now : TimePoint) (graph : scheduler.Graph)
    (found : scheduler.node? id = some node) (active : isActive node.state = true)
    (other : AgentId) :
    other ∈ (scheduler.complete id now).1.ready ↔
      other ∈ scheduler.ready ∨ other ≠ id ∧ ∃ old, scheduler.node? other = some old ∧
        old.Wakes (node.successors.count other) := by
  rw [complete_active now found active]
  exact mem_ready_completed graph found node.snapshot.error now other

end Complete

/-! ### A run of completions -/

/-- The agent is dispatched, running or blocked. -/
def AtWork (scheduler : AgentScheduler) (id : AgentId) : Prop :=
  ∃ node, scheduler.node? id = some node ∧ isActive node.state = true

/-- What completing the agents `ids` amounts to. -/
structure CompletedBy (before after : AgentScheduler) (ids : List AgentId) : Prop where
  nodes : ∀ other, (after.node? other).map Node.timeless =
    (before.node? other).map fun old =>
      old.settledBy (ids.contains other) (before.listings ids other)
  ready : ∀ other, other ∈ after.ready ↔
    other ∈ before.ready ∨ ∃ old, before.node? other = some old ∧
      old.Wakes (before.listings ids other)
  counters : ∀ resource : Resource,
    (resource.counter after).toNat + resource.heldByAll before ids =
      (resource.counter before).toNat

theorem CompletedBy.nothing (scheduler : AgentScheduler) :
    scheduler.CompletedBy scheduler [] := by
  refine ⟨fun other => ?_, fun other => ?_, fun resource => rfl⟩
  · cases scheduler.node? other with
    | none => rfl
    | some node => exact congrArg some (Node.settledBy_nothing node).symm
  · constructor
    · exact Or.inl
    · rintro (member | ⟨_, _, wakes⟩)
      · exact member
      · exact absurd wakes.2.1 (Nat.lt_irrefl 0)

/-- One more completion in front. -/
theorem CompletedBy.cons {before after : AgentScheduler} {id : AgentId} {node : Node}
    {rest : List AgentId} (now : TimePoint) (sound : before.Sound) (covered : before.Covered)
    (found : before.node? id = some node) (active : isActive node.state = true)
    (fresh : id ∉ rest)
    (completed : (before.complete id now).1.CompletedBy after rest) :
    before.CompletedBy after (id :: rest) := by
  have graph := sound.graph
  have listings : ∀ other, before.listings (id :: rest) other =
      node.successors.count other + (before.complete id now).1.listings rest other := by
    intro other
    rw [listings_cons, successorsOf_some found]
    unfold AgentScheduler.listings
    simp only [successorsOf_complete now graph found active]
  have own : node.successors.count id = 0 :=
    List.count_eq_zero.mpr (graph.not_own_successor found)
  refine ⟨fun other => ?_, fun other => ?_, fun resource => ?_⟩
  · rw [completed.nodes other, node?_complete now graph found active, listings other]
    by_cases same : other = id
    · subst same
      rw [if_pos rfl, found, own, Nat.zero_add, Option.map_some, Option.map_some,
        List.contains_cons, beq_self_eq_true, Bool.true_or,
        show rest.contains other = false by simpa using fresh, Node.settledBy_ended]
    · rw [if_neg same, Option.map_map, List.contains_cons, beq_false_of_ne same, Bool.false_or]
      congr 1
      funext old
      exact Node.settledBy_resolve old _ _ _
  · rw [completed.ready other, mem_ready_complete now graph found active,
      node?_complete now graph found active, listings other]
    by_cases same : other = id
    · subst same
      rw [if_pos rfl, found, own, Nat.zero_add]
      have awake : ∀ count, ¬node.Wakes count := by
        intro count wakes
        rw [wakes.1] at active
        cases active
      have ended : ∀ count, ¬(node.ended .completed node.snapshot.error now).Wakes count :=
        fun _ => nofun
      simp [awake, ended]
    · rw [if_neg same]
      cases present : before.node? other with
      | none => simp
      | some old => simp [same, Node.wakes_add, or_assoc]
  · have first := counter_complete now covered found active resource
    have later := completed.counters resource
    have kept : resource.heldByAll (before.complete id now).1 rest =
        resource.heldByAll before rest := by
      refine resource.heldByAll_congr fun other member => ?_
      have different : other ≠ id := fun same => fresh (same ▸ member)
      unfold Resource.heldAt
      rw [node?_complete now graph found active, if_neg different]
      cases before.node? other with
      | none => rfl
      | some old => exact resource.heldBy_congr rfl rfl
    rw [resource.heldByAll_cons, resource.heldAt_some found]
    omega

/-- Every call succeeds, and the run amounts to the set of agents it completes. -/
theorem completeAll_completed (calls : List (AgentId × TimePoint)) (scheduler : AgentScheduler)
    (sound : scheduler.Sound) (covered : scheduler.Covered)
    (distinct : (calls.map Prod.fst).Nodup)
    (atWork : ∀ id ∈ calls.map Prod.fst, scheduler.AtWork id) :
    (∀ outcome ∈ (scheduler.completeAll calls).2, outcome = .accepted) ∧
      scheduler.CompletedBy (scheduler.completeAll calls).1 (calls.map Prod.fst) := by
  induction calls generalizing scheduler with
  | nil =>
      refine ⟨fun outcome member => ?_, CompletedBy.nothing scheduler⟩
      cases member
  | cons call rest ih =>
      obtain ⟨id, now⟩ := call
      obtain ⟨fresh, restDistinct⟩ := List.nodup_cons.mp distinct
      obtain ⟨node, found, active⟩ := atWork id List.mem_cons_self
      have stillAtWork : ∀ other ∈ rest.map Prod.fst,
          (scheduler.complete id now).1.AtWork other := by
        intro other member
        obtain ⟨old, present, working⟩ := atWork other (List.mem_cons_of_mem id member)
        have different : other ≠ id := fun same => fresh (same ▸ member)
        refine ⟨old.resolve (node.successors.count other), ?_, ?_⟩
        · rw [node?_complete now sound.graph found active, if_neg different, present,
            Option.map_some]
        · rw [Node.resolve_active working]
          exact working
      obtain ⟨accepted, completed⟩ := ih (scheduler.complete id now).1
        (sound.step (.complete id now)) (covered.step sound (.complete id now)) restDistinct
        stillAtWork
      refine ⟨?_, CompletedBy.cons now sound covered found active fresh completed⟩
      intro outcome member
      rcases List.mem_cons.mp member with head | later
      · rw [head, complete_active now found active]
      · exact accepted outcome later

/-! ### Two orders -/

/-- Every agent is the same up to the time at which it has finished, and so are
`ready_` and the counters. -/
structure SameUpToTimes (left right : AgentScheduler) : Prop where
  nodes : ∀ id, (left.node? id).map Node.timeless = (right.node? id).map Node.timeless
  ready : ∀ id, id ∈ left.ready ↔ id ∈ right.ready
  cpu : left.reservedCpuThreads = right.reservedCpuThreads
  memory : left.reservedMemoryBytes = right.reservedMemoryBytes

theorem listings_perm (scheduler : AgentScheduler) {first second : List AgentId}
    (same : first.Perm second) (other : AgentId) :
    scheduler.listings first other = scheduler.listings second other :=
  (same.map _).sum_nat

theorem CompletedBy.sameUpToTimes {before left right : AgentScheduler}
    {first second : List AgentId} (same : first.Perm second)
    (leftCompleted : before.CompletedBy left first)
    (rightCompleted : before.CompletedBy right second) : left.SameUpToTimes right := by
  have counter : ∀ resource : Resource, resource.counter left = resource.counter right := by
    intro resource
    have leftLedger := leftCompleted.counters resource
    have rightLedger := rightCompleted.counters resource
    have held : resource.heldByAll before first = resource.heldByAll before second :=
      (same.map _).sum_nat
    apply UInt64.toNat_inj.mp
    omega
  refine ⟨fun id => ?_, fun id => ?_, counter .cpuThreads, counter .memoryBytes⟩
  · have contains : first.contains id = second.contains id := by
      rw [Bool.eq_iff_iff, List.contains_iff_mem, List.contains_iff_mem]
      exact same.mem_iff
    rw [leftCompleted.nodes id, rightCompleted.nodes id, contains,
      before.listings_perm same id]
  · rw [leftCompleted.ready id, rightCompleted.ready id, before.listings_perm same id]

/-- Agents that are at work can be completed in any order. -/
theorem completion_order_irrelevant (history : List Operation)
    (first second : List (AgentId × TimePoint)) (distinct : (first.map Prod.fst).Nodup)
    (same : (first.map Prod.fst).Perm (second.map Prod.fst))
    (atWork : ∀ id ∈ first.map Prod.fst, (machine.run history).AtWork id) :
    (∀ outcome ∈ ((machine.run history).completeAll first).2, outcome = .accepted) ∧
      (∀ outcome ∈ ((machine.run history).completeAll second).2, outcome = .accepted) ∧
      ((machine.run history).completeAll first).1.SameUpToTimes
        ((machine.run history).completeAll second).1 := by
  have reached : Reachable (machine.run history) := machine.reachable_run history
  obtain ⟨firstAccepted, firstCompleted⟩ := completeAll_completed first _ reached.sound
    reached.covered distinct atWork
  obtain ⟨secondAccepted, secondCompleted⟩ := completeAll_completed second _ reached.sound
    reached.covered (same.nodup_iff.mp distinct)
    (fun id member => atWork id (same.mem_iff.mpr member))
  exact ⟨firstAccepted, secondAccepted, firstCompleted.sameUpToTimes same secondCompleted⟩

/-- Agents 1 and 2 are dispatched, and agent 3 depends on both. -/
def twoAtWork : List Operation :=
  [ .submitBatch [{ id := 1 }, { id := 2 }, { id := 3, dependencies := [1, 2] }] 0
      IterationOrder.asStored,
    .tryDispatch { availableCpuThreads := 2 } 0 IterationOrder.asStored,
    .tryDispatch { availableCpuThreads := 2 } 0 IterationOrder.asStored ]

theorem twoAtWork_either_order :
    (∀ outcome ∈ ((machine.run twoAtWork).completeAll [(1, 5), (2, 6)]).2, outcome = .accepted) ∧
      (∀ outcome ∈ ((machine.run twoAtWork).completeAll [(2, 7), (1, 8)]).2,
        outcome = .accepted) ∧
      ((machine.run twoAtWork).completeAll [(1, 5), (2, 6)]).1.SameUpToTimes
        ((machine.run twoAtWork).completeAll [(2, 7), (1, 8)]).1 := by
  refine completion_order_irrelevant twoAtWork [(1, 5), (2, 6)] [(2, 7), (1, 8)] (by decide)
    (by decide) ?_
  intro id member
  rcases List.mem_cons.mp member with rfl | member
  · exact ⟨_, rfl, by decide⟩
  · cases List.mem_singleton.mp member
    exact ⟨_, rfl, by decide⟩

end AgentScheduler

end AgentNucleus.Runtime
