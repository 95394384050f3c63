/-
The lifecycle of one agent.  A step moves every stored agent along one edge of a
small automaton, and what each edge preserves holds in every reachable state.
-/

import AgentNucleus.Runtime.SchedulerGraph

set_option autoImplicit false

namespace AgentNucleus.Runtime

open Library
open Library.DepthFirst (Edge)
open Relation (TransGen)

namespace AgentScheduler

/-! ### Edges -/

/-- What one step can do to one agent; `completing` and `collapsing` are the agents
that the step ends, and `queued` and `requeued` are the membership in `ready_`. -/
inductive Change (operation : Operation) (completing collapsing : Option AgentId)
    (id : AgentId) (old : Node) (queued requeued : Prop) : Node → Prop where
  | kept (queue : requeued ↔ queued) :
      Change operation completing collapsing id old queued requeued old
  | linked (ids : List AgentId) (queue : requeued ↔ queued) :
      Change operation completing collapsing id old queued requeued (old.addSuccessors ids)
  | relabelled (fitting : Bool) (was : queued) (is : requeued) :
      Change operation completing collapsing id old queued requeued (old.relabel fitting)
  | reserved (was : queued) (gone : ¬requeued) :
      Change operation completing collapsing id old queued requeued
        { (old.relabel true).setState .dispatched with resourcesReserved := true }
  | moved {new : Node} (moved : old.Moved new) (queue : requeued ↔ queued) :
      Change operation completing collapsing id old queued requeued new
  | woken (waking : operation = .wake id) (asleep : old.state = .blocked ∨
        old.state = .suspended ∨ old.state = .waitingResource) (is : requeued) :
      Change operation completing collapsing id old queued requeued (old.setState .ready)
  | resolved (source : AgentId) (completed : completing = some source)
      (queue : requeued ↔
        queued ∨ old.Wakes (old.spec.dependencies.count source)) :
      Change operation completing collapsing id old queued requeued
        (old.resolve (old.spec.dependencies.count source))
  | retried (message : StdString) (now : TimePoint) (failing : operation = .fail id message now)
      (left : old.snapshot.retryCount < old.spec.retryLimit) (is : requeued) :
      Change operation completing collapsing id old queued requeued
        (old.unreserved.retryWith message)
  | released (inactive : isActive old.state = false) (queue : requeued ↔ queued) :
      Change operation completing collapsing id old queued requeued old.unreserved
  | finished (state : AgentState) (error : StdString) (now : TimePoint)
      (ends : state = .completed ∧ completing = some id ∨
        state = .failed ∧ collapsing = some id)
      (active : isActive old.state = true)
      (queue : requeued ↔ queued) :
      Change operation completing collapsing id old queued requeued (old.ended state error now)
  | cancelled (root : AgentId) (error : StdString) (now : TimePoint)
      (collapses : collapsing = some root) (live : isTerminal old.state = false)
      (gone : ¬requeued) :
      Change operation completing collapsing id old queued requeued (old.ended .cancelled error now)

/-- A write to the agent `id` decides its change, and keeps every other agent. -/
private theorem change_write {operation : Operation} {completing collapsing : Option AgentId}
    {before after : AgentScheduler}
    {id : AgentId} {old : Node} (new : Node) (found : before.node? id = some old)
    (nodes : ∀ other, after.node? other = if other = id then some new else before.node? other)
    (others : ∀ other, other ≠ id → (other ∈ after.ready ↔ other ∈ before.ready))
    (here : Change operation completing collapsing id old (id ∈ before.ready)
      (id ∈ after.ready) new)
    (other : AgentId) (previous : Node) (present : before.node? other = some previous) :
    ∃ next, after.node? other = some next ∧
      Change operation completing collapsing other previous (other ∈ before.ready)
        (other ∈ after.ready) next := by
  rw [nodes other]
  by_cases same : other = id
  · subst same
    rw [found, Option.some.injEq] at present
    subst present
    rw [if_pos rfl]
    exact ⟨new, rfl, here⟩
  · rw [if_neg same]
    exact ⟨previous, present, Change.kept (others other same)⟩

private theorem change_cascade {operation : Operation} {completing collapsing : Option AgentId}
    {before middle after : AgentScheduler}
    {id : AgentId} {old : Node} (state : AgentState) (error : StdString) (now : TimePoint)
    (root : AgentId) (collapses : collapsing = some root)
    (ends : isTerminal state = true) (found : before.node? id = some old)
    (nodes : ∀ other, middle.node? other =
      if other = id then some (old.ended state error now) else before.node? other)
    (others : ∀ other, other ≠ id → (other ∈ middle.ready ↔ other ∈ before.ready))
    (here : ∀ {requeued : Prop}, (requeued ↔ id ∈ middle.ready) →
      Change operation completing collapsing id old (id ∈ before.ready) requeued
        (old.ended state error now))
    (cancels : middle.Cancels after)
    (other : AgentId) (previous : Node) (present : before.node? other = some previous) :
    ∃ next, after.node? other = some next ∧
      Change operation completing collapsing other previous (other ∈ before.ready)
        (other ∈ after.ready) next := by
  by_cases same : other = id
  · subst same
    rw [found, Option.some.injEq] at present
    subst present
    have stored := nodes other
    rw [if_pos rfl] at stored
    rcases cancels other with ⟨sameNode, sameReady⟩ | ⟨live, _, liveFound, alive, _⟩
    · exact ⟨_, sameNode.trans stored, here sameReady⟩
    · rw [stored, Option.some.injEq] at liveFound
      rw [← liveFound, Node.ended_state, ends] at alive
      cases alive
  · have stored := nodes other
    rw [if_neg same] at stored
    rcases cancels other with ⟨sameNode, sameReady⟩ |
      ⟨live, new, liveFound, alive, newFound, ⟨message, time, rfl⟩, gone⟩
    · exact ⟨previous, sameNode.trans (stored.trans present),
        Change.kept (sameReady.trans (others other same))⟩
    · rw [stored, present, Option.some.injEq] at liveFound
      subst liveFound
      exact ⟨_, newFound, Change.cancelled root message time collapses alive gone⟩

theorem Graph.not_own_successor {scheduler : AgentScheduler} (graph : scheduler.Graph)
    {id : AgentId} {node : Node} (found : scheduler.node? id = some node) :
    id ∉ node.successors := by
  intro listed
  refine graph.loopFree id (TransGen.single ?_)
  unfold Edge
  rw [successorsOf_some found]
  exact listed

/-- Completing an agent resolves every other agent as often as it is listed. -/
theorem node?_completed {before : AgentScheduler} {id : AgentId} {old : Node}
    (graph : before.Graph) (found : before.node? id = some old) (error : StdString)
    (now : TimePoint) (other : AgentId) :
    (old.successors.foldl resolveDependency
        ((before.releaseResourcesLocked old).1.store id
          (old.ended .completed error now))).node? other =
      if other = id then some (old.ended .completed error now)
      else (before.node? other).map fun node => node.resolve (old.successors.count other) := by
  rw [node?_resolveAll, node?_store, release_node?]
  by_cases same : other = id
  · rw [if_pos same, if_pos same, same,
      List.count_eq_zero.mpr (graph.not_own_successor found), Option.map_some,
      Node.resolve_zero]
  · rw [if_neg same, if_neg same]

theorem mem_ready_completed {before : AgentScheduler} {id : AgentId} {old : Node}
    (graph : before.Graph) (found : before.node? id = some old) (error : StdString)
    (now : TimePoint) (other : AgentId) :
    other ∈ (old.successors.foldl resolveDependency
        ((before.releaseResourcesLocked old).1.store id
          (old.ended .completed error now))).ready ↔
      other ∈ before.ready ∨ other ≠ id ∧ ∃ node, before.node? other = some node ∧
        node.Wakes (old.successors.count other) := by
  have written : before.SameSkeleton ((before.releaseResourcesLocked old).1.store id
      (old.ended .completed error now)) :=
    sameSkeleton_write _ _ found (release_nodes before old) rfl rfl
  rw [mem_ready_resolveAll _ (graph.sameSkeleton written).keyed, store_ready, release_ready,
    node?_store, release_node?]
  refine or_congr_right ?_
  by_cases same : other = id
  · rw [if_pos same, same, List.count_eq_zero.mpr (graph.not_own_successor found)]
    constructor
    · rintro ⟨node, _, wakes⟩
      exact absurd wakes.2.1 (Nat.lt_irrefl 0)
    · rintro ⟨different, _⟩
      exact absurd rfl different
  · rw [if_neg same]
    exact ⟨fun woken => ⟨same, woken⟩, fun both => both.2⟩

/-- Every step moves every stored agent along one edge. -/
theorem Effect.change {before after : AgentScheduler} {operation : Operation}
    (effect : Effect before operation after) (graph : before.Graph) (id : AgentId) (old : Node)
    (found : before.node? id = some old) :
    ∃ new, after.node? id = some new ∧
      Change operation (before.completing operation) (before.collapsing operation)
        id old (id ∈ before.ready) (id ∈ after.ready) new := by
  cases effect with
  | idle _ => exact ⟨old, found, Change.kept Iff.rfl⟩
  | submitted tasks now order quiet offered admissible loopFree submitted =>
      refine ⟨_, submitted.old id old found, Change.linked _ ?_⟩
      rw [submitted.ready, admissible.taskOf_of_known found]
      simp
  | @relabelled _ resources now order dispatches nothing =>
      rw [node?_relabelled, relabelled_ready]
      by_cases queued : id ∈ before.ready
      · rw [if_pos queued, found]
        exact ⟨_, rfl, Change.relabelled _ queued queued⟩
      · rw [if_neg queued]
        exact ⟨old, found, Change.kept Iff.rfl⟩
  | @reserved _ resources now order chosen node dispatches selected queued present fitting =>
      rw [node?_reserve, mem_ready_reserve, relabelled_ready, node?_relabelled]
      by_cases same : id = chosen
      · subst same
        rw [found, Option.some.injEq] at present
        subst present
        rw [if_pos rfl]
        exact ⟨_, rfl, Change.reserved queued fun both => both.1 rfl⟩
      · rw [if_neg same]
        by_cases member : id ∈ before.ready
        · rw [if_pos member, found]
          exact ⟨_, rfl, Change.relabelled _ member ⟨same, member⟩⟩
        · rw [if_neg member]
          exact ⟨old, found, Change.kept ⟨fun both => both.2, fun here => ⟨same, here⟩⟩⟩
  | moved target previous new quiet present moved =>
      refine change_write new present (node?_store before target · new)
        (fun _ _ => Iff.rfl) (Change.moved moved Iff.rfl) id old found
  | woken target previous present asleep =>
      refine change_write (previous.setState .ready) present ?_ ?_
        (Change.woken rfl asleep ?_) id old found
      · intro other
        rw [node?_enqueue, node?_store]
      · intro other different
        rw [mem_ready_enqueue]
        exact ⟨fun member => member.resolve_left different, Or.inr⟩
      · rw [mem_ready_enqueue]
        exact Or.inl rfl
  | completed target previous now present active =>
      have completes : before.completing (.complete target now) = some target := by
        simp only [completing, present, active, if_true]
      rw [node?_completed graph present, mem_ready_completed graph present]
      by_cases same : id = target
      · subst same
        rw [found, Option.some.injEq] at present
        subst present
        rw [if_pos rfl]
        refine ⟨_, rfl, Change.finished .completed _ now (Or.inl ⟨rfl, completes⟩) active ?_⟩
        exact ⟨fun member => member.resolve_right fun both => both.1 rfl, Or.inl⟩
      · rw [if_neg same, found, Option.map_some,
          graph.linked target previous id old present found]
        refine ⟨_, rfl, Change.resolved target completes ?_⟩
        simp [same]
  | retried target previous message now present left =>
      refine change_write (previous.unreserved.retryWith message) present ?_ ?_
        (Change.retried message now rfl left ?_) id old found
      · intro other
        rw [node?_enqueue, node?_store, release_node?]
      · intro other different
        rw [mem_ready_enqueue, store_ready, release_ready]
        exact ⟨fun member => member.resolve_left different, Or.inr⟩
      · rw [mem_ready_enqueue]
        exact Or.inl rfl
  | released target previous message now present exhausted inactive =>
      refine change_write previous.unreserved present ?_ ?_
        (Change.released inactive ?_) id old found
      · intro other
        rw [node?_store, release_node?]
      · intro other _
        rw [store_ready, release_ready]
      · rw [store_ready, release_ready]
  | failed target previous message now present exhausted active =>
      have collapses : before.collapsing (.fail target message now) = some target := by
        simp only [collapsing, present, exhausted, active, if_false, if_true]
      refine change_cascade .failed message now target collapses rfl present ?_ ?_ ?_
        (cancelDescendants_cancels _ target _ now) id old found
      · intro other
        rw [node?_store, release_node?]
      · intro other _
        rw [store_ready, release_ready]
      · intro requeued queue
        rw [store_ready, release_ready] at queue
        exact Change.finished .failed message now (Or.inr ⟨rfl, collapses⟩) active queue
  | cancelled target previous now present live =>
      have collapses : before.collapsing (.cancel target now) = some target := by
        simp only [collapsing, present, live, Bool.false_eq_true, if_false]
      refine change_cascade .cancelled previous.snapshot.error now target collapses rfl present
        ?_ ?_ ?_
        (cancelDescendants_cancels _ target _ now) id old found
      · intro other
        rw [node?_store, release_node?, node?_dequeue]
      · intro other different
        rw [store_ready, release_ready, mem_ready_dequeue]
        exact ⟨fun both => both.2, fun member => ⟨different, member⟩⟩
      · intro requeued queue
        rw [store_ready, release_ready, mem_ready_dequeue] at queue
        exact Change.cancelled target _ now collapses live fun member => (queue.mp member).1 rfl

/-- An agent that appears was submitted with a batch. -/
theorem Effect.fresh {before after : AgentScheduler} {operation : Operation}
    (effect : Effect before operation after) (graph : before.Graph) {id : AgentId} {new : Node}
    (missing : before.node? id = none) (found : after.node? id = some new) :
    ∃ tasks now task, before.offered operation = some tasks ∧ before.WellFormedBatch tasks ∧
      Submitted tasks now before after ∧ taskOf tasks id = some task ∧
      new = before.submittedNode tasks now task := by
  rcases effect.skeleton with same | ⟨tasks, now, order, offered, admissible, clear, submitted⟩
  · obtain ⟨old, present, _⟩ := same.symm.forward found
    rw [missing] at present
    cases present
  · rcases submitted.origin found with ⟨old, present, _⟩ | ⟨_, task, given, same⟩
    · rw [missing] at present
      cases present
    · have wellFormed := (graph.wellFormed_iff tasks now order).mp ⟨admissible, clear⟩
      exact ⟨tasks, now, task, offered, wellFormed, submitted, given, same⟩

end AgentScheduler

/-! ### What every agent keeps -/

/-- The state of an agent agrees with its queue membership, its reservation flag
and its counter. -/
structure Node.Coherent (node : Node) (queued : Prop) : Prop where
  possible : node.state ≠ .created ∧ node.state ≠ .suspended
  queue : queued ↔ isQueued node.state = true
  active : isActive node.state = true → node.resourcesReserved = true
  terminal : isTerminal node.state = true → node.resourcesReserved = false
  waiting : node.state = .waitingDependency → 0 < node.unresolved.toNat

namespace AgentScheduler

section Coherent

variable {operation : Operation} {completing collapsing : Option AgentId} {id : AgentId}
  {old new : Node} {queued requeued : Prop}

theorem isQueued_inactive {state : AgentState} (queued : isQueued state = true) :
    isActive state = false ∧ isTerminal state = false := by
  cases state with
  | ready => exact ⟨rfl, rfl⟩
  | waitingResource => exact ⟨rfl, rfl⟩
  | _ => cases queued

theorem isActive_unqueued {state : AgentState} (active : isActive state = true) :
    isQueued state = false ∧ isTerminal state = false := by
  cases state with
  | dispatched => exact ⟨rfl, rfl⟩
  | running => exact ⟨rfl, rfl⟩
  | blocked => exact ⟨rfl, rfl⟩
  | _ => cases active

theorem isTerminal_unqueued {state : AgentState} (terminal : isTerminal state = true) :
    isQueued state = false ∧ isActive state = false := by
  cases state with
  | completed => exact ⟨rfl, rfl⟩
  | failed => exact ⟨rfl, rfl⟩
  | cancelled => exact ⟨rfl, rfl⟩
  | _ => cases terminal

/-- A node that is now queued or terminal needs only what these states ask for. -/
private theorem coherent_queued (state : isQueued new.state = true) (is : requeued) :
    new.Coherent requeued := by
  obtain ⟨inactive, live⟩ := isQueued_inactive state
  refine ⟨⟨?_, ?_⟩, ⟨fun _ => state, fun _ => is⟩, ?_, ?_, ?_⟩
  · intro same
    rw [same] at state
    cases state
  · intro same
    rw [same] at state
    cases state
  · intro active
    rw [inactive] at active
    cases active
  · intro terminal
    rw [live] at terminal
    cases terminal
  · intro same
    rw [same] at state
    cases state

private theorem coherent_active (state : isActive new.state = true)
    (reserved : new.resourcesReserved = true) (gone : ¬requeued) : new.Coherent requeued := by
  obtain ⟨unqueued, live⟩ := isActive_unqueued state
  refine ⟨⟨?_, ?_⟩, ⟨fun member => absurd member gone, ?_⟩, fun _ => reserved, ?_, ?_⟩
  · intro same
    rw [same] at state
    cases state
  · intro same
    rw [same] at state
    cases state
  · intro queue
    rw [unqueued] at queue
    cases queue
  · intro terminal
    rw [live] at terminal
    cases terminal
  · intro same
    rw [same] at state
    cases state

private theorem coherent_terminal (state : isTerminal new.state = true)
    (free : new.resourcesReserved = false) (gone : ¬requeued) : new.Coherent requeued := by
  obtain ⟨unqueued, inactive⟩ := isTerminal_unqueued state
  refine ⟨⟨?_, ?_⟩, ⟨fun member => absurd member gone, ?_⟩, ?_, fun _ => free, ?_⟩
  · intro same
    rw [same] at state
    cases state
  · intro same
    rw [same] at state
    cases state
  · intro queue
    rw [unqueued] at queue
    cases queue
  · intro active
    rw [inactive] at active
    cases active
  · intro same
    rw [same] at state
    cases state

private theorem coherent_resolve (count : Nat) (coherent : old.Coherent queued)
    (queue : requeued ↔ queued ∨ old.Wakes count) : (old.resolve count).Coherent requeued := by
  by_cases wakes : old.Wakes count
  · refine coherent_queued ?_ (queue.mpr (Or.inr wakes))
    rw [Node.resolve_state_of_wakes wakes]
    rfl
  · have state := Node.resolve_state_of_not_wakes wakes
    refine ⟨?_, ?_, ?_, ?_, ?_⟩
    · rw [state]
      exact coherent.possible
    · rw [queue, state]
      simp only [wakes, or_false]
      exact coherent.queue
    · rw [state]
      exact coherent.active
    · rw [state]
      exact coherent.terminal
    · intro waiting
      rw [state] at waiting
      have positive := coherent.waiting waiting
      rw [Node.resolve_unresolved]
      by_contra exhausted
      exact wakes ⟨waiting, by omega, by omega⟩

private theorem unqueued_of_active (coherent : old.Coherent queued)
    (active : isActive old.state = true) : ¬queued := by
  intro member
  rw [coherent.queue, (isActive_unqueued active).1] at member
  cases member

theorem Change.coherent (change : Change operation completing collapsing id old queued requeued new)
    (coherent : old.Coherent queued) : new.Coherent requeued := by
  cases change with
  | kept queue =>
      exact ⟨coherent.possible, queue.trans coherent.queue, coherent.active,
        coherent.terminal, coherent.waiting⟩
  | linked ids queue =>
      exact ⟨coherent.possible, queue.trans coherent.queue, coherent.active,
        coherent.terminal, coherent.waiting⟩
  | relabelled fitting was is =>
      have state := (isQueued_iff old.state).mp (coherent.queue.mp was)
      exact coherent_queued ((isQueued_iff _).mpr (Node.relabel_state fitting state)) is
  | reserved was gone => exact coherent_active rfl rfl gone
  | moved moved queue =>
      rcases moved.state with same | ⟨oldActive, newActive⟩
      · refine ⟨?_, ?_, ?_, ?_, ?_⟩
        · rw [same]
          exact coherent.possible
        · rw [same]
          exact queue.trans coherent.queue
        · rw [same, moved.reserved]
          exact coherent.active
        · rw [same, moved.reserved]
          exact coherent.terminal
        · rw [same, moved.unresolved]
          exact coherent.waiting
      · refine coherent_active newActive ?_ fun member =>
          unqueued_of_active coherent oldActive (queue.mp member)
        rw [moved.reserved]
        exact coherent.active oldActive
  | woken waking asleep is => exact coherent_queued rfl is
  | resolved source completed queue => exact coherent_resolve _ coherent queue
  | retried message now failing left is => exact coherent_queued rfl is
  | released inactive queue =>
      refine ⟨coherent.possible, queue.trans coherent.queue, ?_, fun _ => rfl,
        coherent.waiting⟩
      intro active
      change isActive old.state = true at active
      rw [inactive] at active
      cases active
  | finished state error now ends active queue =>
      refine coherent_terminal ?_ rfl fun member =>
        unqueued_of_active coherent active (queue.mp member)
      rcases ends with ⟨rfl, _⟩ | ⟨rfl, _⟩
      · rfl
      · rfl
  | cancelled root error now collapses live gone => exact coherent_terminal rfl rfl gone

/-- A submitted agent is queued, or it waits with a counter that is not zero. -/
theorem submittedNode_coherent (scheduler : AgentScheduler) (tasks : List AgentTaskSpec)
    (now : TimePoint) (task : AgentTaskSpec)
    (queue : requeued ↔ UInt32.ofNat (scheduler.pendingCount task.dependencies) = 0) :
    (scheduler.submittedNode tasks now task).Coherent requeued := by
  have state : (scheduler.submittedNode tasks now task).state =
      if UInt32.ofNat (scheduler.pendingCount task.dependencies) = 0 then .ready
      else .waitingDependency := rfl
  by_cases free : UInt32.ofNat (scheduler.pendingCount task.dependencies) = 0
  · rw [if_pos free] at state
    refine coherent_queued ?_ (queue.mpr free)
    rw [state]
    rfl
  · rw [if_neg free] at state
    have gone : ¬requeued := fun member => free (queue.mp member)
    refine ⟨?_, ?_, ?_, ?_, ?_⟩
    · rw [state]
      exact ⟨nofun, nofun⟩
    · rw [state]
      exact ⟨fun member => absurd member gone, nofun⟩
    · rw [state]
      nofun
    · rw [state]
      nofun
    · intro _
      refine Nat.pos_of_ne_zero fun zero => free ?_
      exact UInt32.toNat_inj.mp zero

end Coherent

/-- The graph invariant, together with coherence of every agent. -/
structure Sound (scheduler : AgentScheduler) : Prop where
  graph : scheduler.Graph
  coherent : ∀ id node, scheduler.node? id = some node → node.Coherent (id ∈ scheduler.ready)
  stored : ∀ id, id ∈ scheduler.ready → ∃ node, scheduler.node? id = some node

theorem Sound.effect {before : AgentScheduler} (sound : before.Sound) (operation : Operation) :
    Effect before operation (before.step operation) :=
  step_effect before sound.graph.keyed operation

private theorem ready_stored {before after : AgentScheduler} {operation : Operation}
    (effect : Effect before operation after) (sound : before.Sound) (id : AgentId)
    (member : id ∈ after.ready) : ∃ node, after.node? id = some node := by
  cases known : before.node? id with
  | some old =>
      obtain ⟨new, found, _⟩ := effect.change sound.graph id old known
      exact ⟨new, found⟩
  | none =>
      have outside : id ∉ before.ready := by
        intro queued
        obtain ⟨node, found⟩ := sound.stored id queued
        rw [known] at found
        cases found
      have target : ∀ {other : AgentId} {node : Node}, before.node? other = some node →
          id ≠ other := by
        rintro other node found rfl
        rw [known] at found
        cases found
      cases effect with
      | idle _ => exact absurd member outside
      | submitted tasks now order quiet offered admissible loopFree submitted =>
          obtain ⟨task, given, _⟩ := ((submitted.ready id).mp member).resolve_left outside
          have stored := submitted.fresh id known
          rw [given] at stored
          exact ⟨_, stored⟩
      | relabelled dispatches nothing =>
          rw [relabelled_ready] at member
          exact absurd member outside
      | reserved chosen node dispatches selected queued present fitting =>
          rw [mem_ready_reserve, relabelled_ready] at member
          exact absurd member.2 outside
      | moved other node new quiet present moved => exact absurd member outside
      | woken other node present asleep =>
          rw [mem_ready_enqueue] at member
          exact absurd (member.resolve_left (target present)) outside
      | completed other node now present active =>
          rw [mem_ready_completed sound.graph present] at member
          obtain ⟨_, node, found, _⟩ := member.resolve_left outside
          rw [known] at found
          cases found
      | retried other node message now present left =>
          rw [mem_ready_enqueue, store_ready, release_ready] at member
          exact absurd (member.resolve_left (target present)) outside
      | released other node message now present exhausted inactive =>
          rw [store_ready, release_ready] at member
          exact absurd member outside
      | failed other node message now present exhausted active =>
          rcases cancelDescendants_cancels _ other _ now id with
            ⟨_, same⟩ | ⟨_, _, _, _, _, _, gone⟩
          · have queued := same.mp member
            rw [store_ready, release_ready] at queued
            exact absurd queued outside
          · exact absurd member gone
      | cancelled other node now present live =>
          rcases cancelDescendants_cancels _ other _ now id with
            ⟨_, same⟩ | ⟨_, _, _, _, _, _, gone⟩
          · have queued := same.mp member
            rw [store_ready, release_ready, mem_ready_dequeue] at queued
            exact absurd queued.2 outside
          · exact absurd member gone

theorem Sound.step {before : AgentScheduler} (sound : before.Sound) (operation : Operation) :
    (before.step operation).Sound := by
  have effect := sound.effect operation
  refine ⟨sound.graph.step operation, ?_, ready_stored effect sound⟩
  intro id new found
  cases known : before.node? id with
  | some old =>
      obtain ⟨next, nextFound, change⟩ := effect.change sound.graph id old known
      rw [found, Option.some.injEq] at nextFound
      subst nextFound
      exact change.coherent (sound.coherent id old known)
  | none =>
      obtain ⟨tasks, now, task, _, _, submitted, given, rfl⟩ :=
        effect.fresh sound.graph known found
      refine submittedNode_coherent before tasks now task ?_
      rw [submitted.ready, given]
      have outside : id ∉ before.ready := by
        intro queued
        obtain ⟨node, present⟩ := sound.stored id queued
        rw [known] at present
        cases present
      simp [outside]

theorem sound_initial : ({} : AgentScheduler).Sound := by
  refine ⟨graph_initial, ?_, ?_⟩
  · intro id node found
    rw [node?_initial] at found
    cases found
  · intro id member
    exact absurd member (AList.notMem_empty id)

theorem Reachable.sound {scheduler : AgentScheduler} (reached : Reachable scheduler) :
    scheduler.Sound :=
  machine.reachable_invariant Sound sound_initial (fun _ operation sound => sound.step operation)
    scheduler reached

end AgentScheduler

end AgentNucleus.Runtime
