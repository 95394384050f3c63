/-
Orphaned waiters.  A failure settles everything behind the agent at the moment it
happens; a task submitted behind a failed agent afterwards waits for ever.
-/

import AgentNucleus.Runtime.SubmissionContract

set_option autoImplicit false

namespace AgentNucleus.Runtime

open Library
open Library.DepthFirst (Edge)

namespace AgentScheduler

def HasFailed (id : AgentId) (scheduler : AgentScheduler) : Prop :=
  scheduler.HasState id .failed ∨ scheduler.HasState id .cancelled

/-- No waiting agent has a failed or cancelled dependency. -/
def NoOrphans (scheduler : AgentScheduler) : Prop :=
  ∀ id node, scheduler.node? id = some node → node.state = .waitingDependency →
    ∀ dependency ∈ node.spec.dependencies, ¬scheduler.HasFailed dependency

/-- Unless all agents are terminal, one of them can be dispatched or is executed. -/
def Progresses (scheduler : AgentScheduler) : Prop :=
  scheduler.allTerminal = false → ∃ id node, scheduler.node? id = some node ∧
    (node.state = .ready ∨ node.state = .waitingResource ∨ node.state = .dispatched ∨
      node.state = .running ∨ node.state = .blocked)

/-- A task of a well-formed batch that has a failed or cancelled dependency does not
end up waiting: its count of uncompleted entries wraps to zero. -/
def NoneBehindFailed (scheduler : AgentScheduler) (operation : Operation) : Prop :=
  ∀ tasks, scheduler.offered operation = some tasks → scheduler.WellFormedBatch tasks →
    ∀ task ∈ tasks, ∀ dependency ∈ task.dependencies, scheduler.HasFailed dependency →
      scheduler.pendingCount task.dependencies % 2 ^ 32 = 0

theorem allTerminal_eq_false_iff (scheduler : AgentScheduler) :
    scheduler.allTerminal = false ↔
      ∃ id node, scheduler.node? id = some node ∧ isTerminal node.state = false := by
  unfold allTerminal
  rw [List.all_eq_false]
  constructor
  · rintro ⟨⟨id, node⟩, member, live⟩
    exact ⟨id, node, AList.mem_lookup_iff.mpr member, Bool.eq_false_iff.mpr live⟩
  · rintro ⟨id, node, found, live⟩
    exact ⟨⟨id, node⟩, AList.mem_lookup_iff.mp found, Bool.eq_false_iff.mp live⟩

section Change

variable {operation : Operation} {completing collapsing : Option AgentId} {id : AgentId}
  {old new : Node} {queued requeued : Prop}

/-- Only a submission makes an agent wait. -/
theorem Change.waiting
    (change : Change operation completing collapsing id old queued requeued new)
    (coherent : old.Coherent queued) (waits : new.state = .waitingDependency) :
    old.state = .waitingDependency := by
  cases change with
  | kept queue => exact waits
  | linked ids queue => exact waits
  | relabelled fitting was is =>
      have labels := Node.relabel_state fitting ((isQueued_iff _).mp (coherent.queue.mp was))
      rw [waits] at labels
      rcases labels with state | state
      · cases state
      · cases state
  | reserved was gone => cases waits
  | moved moved queue =>
      rcases moved.state with kept | ⟨_, newActive⟩
      · exact kept.symm.trans waits
      · rw [waits] at newActive
        cases newActive
  | woken waking asleep is => cases waits
  | resolved source completed queue =>
      by_cases wakes : old.Wakes (old.spec.dependencies.count source)
      · exact wakes.1
      · exact (Node.resolve_state_of_not_wakes wakes).symm.trans waits
  | retried message now failing left is => cases waits
  | released inactive queue => exact waits
  | finished state error now ends active queue =>
      rcases ends with ⟨rfl, _⟩ | ⟨rfl, _⟩
      · cases waits
      · cases waits
  | cancelled root error now collapses live gone => cases waits

/-- An agent fails or is cancelled only when the step collapses something. -/
theorem Change.failed_cases
    (change : Change operation completing collapsing id old queued requeued new)
    (coherent : old.Coherent queued)
    (failed : new.state = .failed ∨ new.state = .cancelled) :
    new.state = old.state ∨
      ∃ root, collapsing = some root ∧ isTerminal old.state = false := by
  have activeCase : isActive new.state = true → False := by
    intro active
    rcases failed with state | state
    · rw [state] at active
      cases active
    · rw [state] at active
      cases active
  cases change with
  | kept queue => exact Or.inl rfl
  | linked ids queue => exact Or.inl rfl
  | relabelled fitting was is =>
      have labels := Node.relabel_state fitting ((isQueued_iff _).mp (coherent.queue.mp was))
      rcases failed with state | state
      · rw [state] at labels
        exact absurd labels (by decide)
      · rw [state] at labels
        exact absurd labels (by decide)
  | reserved was gone => exact absurd rfl activeCase
  | moved moved queue =>
      rcases moved.state with kept | ⟨_, newActive⟩
      · exact Or.inl kept
      · exact absurd newActive activeCase
  | woken waking asleep is => exact absurd failed (by simp)
  | resolved source completed queue =>
      by_cases wakes : old.Wakes (old.spec.dependencies.count source)
      · rw [Node.resolve_state_of_wakes wakes] at failed
        exact absurd failed (by decide)
      · exact Or.inl (Node.resolve_state_of_not_wakes wakes)
  | retried message now failing left is =>
      exact absurd (show AgentState.ready = .failed ∨ AgentState.ready = .cancelled from failed)
        (by decide)
  | released inactive queue => exact Or.inl rfl
  | finished state error now ends active queue =>
      rcases ends with ⟨rfl, _⟩ | ⟨rfl, collapses⟩
      · rw [Node.ended_state] at failed
        exact absurd failed (by decide)
      · exact Or.inr ⟨id, collapses, (isActive_unqueued active).2⟩
  | cancelled root error now collapses live gone => exact Or.inr ⟨root, collapses, live⟩

end Change

section Step

variable {before after : AgentScheduler} {operation : Operation}

/-- The cascade from the root settles what lies behind the root and behind every
agent that was live before. -/
private theorem cascade_closes (root : AgentId) (reason : StdString) (now : TimePoint)
    {id : AgentId} {node new : Node} (found : before.node? id = some node)
    (start : id = root ∨ isTerminal node.state = false)
    (newFound : (before.cancelDescendantsLocked root reason now).node? id = some new)
    (ended : isTerminal new.state = true) :
    ∀ successorId ∈ node.successors,
      (before.cancelDescendantsLocked root reason now).Settled successorId := by
  obtain ⟨rootSettled, closed⟩ := cancelDescendants_settles before root reason now
  intro successorId listed
  rw [← successorsOf_some found] at listed
  rcases start with rfl | live
  · exact rootSettled successorId listed
  · refine closed id ?_ ?_ successorId listed
    · intro settled
      rw [settled node found] at live
      cases live
    · intro other otherFound
      rw [newFound, Option.some.injEq] at otherFound
      rw [← otherFound]
      exact ended

/-- When a step collapses an agent, nothing live is left behind any agent it ends. -/
theorem Effect.collapses (effect : Effect before operation after) {root : AgentId}
    (collapses : before.collapsing operation = some root) {id : AgentId} {old new : Node}
    (known : before.node? id = some old) (live : isTerminal old.state = false)
    (found : after.node? id = some new) (ended : isTerminal new.state = true) :
    ∀ successorId ∈ old.successors, after.Settled successorId := by
  cases effect with
  | idle quiet =>
      rw [quiet.2] at collapses
      cases collapses
  | submitted tasks now order quiet offered admissible loopFree submitted =>
      rw [quiet.2] at collapses
      cases collapses
  | relabelled dispatches nothing =>
      cases dispatches with
      | tryDispatch _ _ _ => cases collapses
      | waitDispatch _ _ _ => cases collapses
  | reserved chosen old dispatches selected queued found fitting =>
      cases dispatches with
      | tryDispatch _ _ _ => cases collapses
      | waitDispatch _ _ _ => cases collapses
  | moved target old new quiet found moved =>
      rw [quiet.2] at collapses
      cases collapses
  | woken target old found asleep => cases collapses
  | completed target old now found active => cases collapses
  | retried target node message now present left =>
      simp only [collapsing, present, left, if_true] at collapses
      cases collapses
  | released target node message now present exhausted inactive =>
      simp only [collapsing, present, exhausted, inactive, if_false, Bool.false_eq_true]
        at collapses
      cases collapses
  | failed target node message now present exhausted active =>
      by_cases same : id = target
      · subst same
        rw [present, Option.some.injEq] at known
        subst known
        have closed := cascade_closes id _ now
          (node?_store_self _ id (node.ended .failed message now)) (Or.inl rfl) found ended
        exact closed
      · refine cascade_closes target _ now ?_ (Or.inr live) found ended
        rw [node?_store_other _ _ same, release_node?]
        exact known
  | cancelled target node now present alive =>
      by_cases same : id = target
      · subst same
        rw [present, Option.some.injEq] at known
        subst known
        have closed := cascade_closes id _ now
          (node?_store_self _ id (node.ended .cancelled node.snapshot.error now)) (Or.inl rfl)
          found ended
        exact closed
      · refine cascade_closes target _ now ?_ (Or.inr live) found ended
        rw [node?_store_other _ _ same, release_node?, node?_dequeue]
        exact known

/-- A failed or cancelled agent had failed before, or has nothing live behind it. -/
private theorem hasFailed_cases (sound : before.Sound)
    (effect : Effect before operation after) {id : AgentId} {old : Node}
    (known : before.node? id = some old) (failed : after.HasFailed id) :
    before.HasFailed id ∨ ∀ successorId ∈ old.successors, after.Settled successorId := by
  obtain ⟨new, found, change⟩ := effect.change sound.graph id old known
  have state : new.state = .failed ∨ new.state = .cancelled := by
    rcases failed with ⟨node, present, state⟩ | ⟨node, present, state⟩
    · rw [found, Option.some.injEq] at present
      exact Or.inl (present ▸ state)
    · rw [found, Option.some.injEq] at present
      exact Or.inr (present ▸ state)
  rcases change.failed_cases (sound.coherent id old known) state with
    same | ⟨root, collapses, live⟩
  · rw [same] at state
    exact Or.inl (state.imp (fun here => ⟨old, known, here⟩) (fun here => ⟨old, known, here⟩))
  · refine Or.inr (effect.collapses collapses known live found ?_)
    rw [isTerminal_iff]
    exact Or.inr state

theorem Submitted.hasFailed {tasks : List AgentTaskSpec} {now : TimePoint}
    (submitted : Submitted tasks now before after) (id : AgentId) :
    after.HasFailed id ↔ before.HasFailed id := by
  have agree : ∀ state, state = AgentState.failed ∨ state = AgentState.cancelled →
      (after.HasState id state ↔ before.HasState id state) := by
    intro state either
    constructor
    · rintro ⟨node, found, here⟩
      rcases submitted.origin found with ⟨old, present, rfl⟩ | ⟨_, task, _, rfl⟩
      · exact ⟨old, present, here⟩
      · exfalso
        change (if UInt32.ofNat (before.pendingCount task.dependencies) = 0 then
          AgentState.ready else .waitingDependency) = state at here
        split at here
        · rcases either with rfl | rfl
          · cases here
          · cases here
        · rcases either with rfl | rfl
          · cases here
          · cases here
    · rintro ⟨old, present, here⟩
      exact ⟨_, submitted.old id old present, here⟩
  unfold HasFailed
  rw [agree .failed (Or.inl rfl), agree .cancelled (Or.inr rfl)]

theorem NoOrphans.step (noOrphans : before.NoOrphans) (sound : before.Sound)
    (guarded : before.NoneBehindFailed operation) : (before.step operation).NoOrphans := by
  intro id new found waits dependency listed failed
  have effect := sound.effect operation
  cases known : before.node? id with
  | none =>
      obtain ⟨tasks, now, task, offered, wellFormed, submitted, given, rfl⟩ :=
        effect.fresh sound.graph known found
      obtain ⟨same, member⟩ := taskOf_id given
      obtain ⟨node, stored, _, state, _⟩ := submitted.new_state sound wellFormed member
      rw [same, found, Option.some.injEq] at stored
      subst stored
      rw [guarded tasks offered wellFormed task member dependency listed
        ((submitted.hasFailed dependency).mp failed), if_pos rfl, waits] at state
      cases state
  | some old =>
      obtain ⟨next, nextFound, change⟩ := effect.change sound.graph id old known
      rw [found, Option.some.injEq] at nextFound
      subst nextFound
      have waited := change.waiting (sound.coherent id old known) waits
      rw [change.unresolved.1] at listed
      obtain ⟨predecessor, present⟩ := sound.graph.dependencies id old known dependency listed
      rcases hasFailed_cases sound effect present failed with failedBefore | settled
      · exact noOrphans id old known waited dependency listed failedBefore
      · have linked : id ∈ predecessor.successors := by
          rw [← List.count_pos_iff,
            sound.graph.linked dependency predecessor id old present known]
          exact List.count_pos_iff.mpr listed
        have ended := settled id linked new found
        rw [waits] at ended
        cases ended

/-- A batch that leaves no orphan has no waiting task behind a failed agent. -/
theorem NoOrphans.guarded (noOrphans : (before.step operation).NoOrphans)
    (sound : before.Sound) : before.NoneBehindFailed operation := by
  intro tasks offered wellFormed task member dependency listed failed
  obtain ⟨now, submitted⟩ := sound.graph.step_offered offered wellFormed
  obtain ⟨node, stored, spec, state, _⟩ := submitted.new_state sound wellFormed member
  by_contra wrapped
  rw [if_neg wrapped] at state
  exact noOrphans task.id node stored state dependency (spec ▸ listed)
    ((submitted.hasFailed dependency).mpr failed)

end Step

/-- Without orphans, a live agent that waits has a live predecessor; the graph has no
loop, so some live agent does not wait. -/
theorem NoOrphans.progresses {scheduler : AgentScheduler} (noOrphans : scheduler.NoOrphans)
    (sound : scheduler.Sound) (bounded : scheduler.CountersBounded) :
    scheduler.Progresses := by
  intro someLive
  by_contra stuck
  have onlyWaiting : ∀ id node, scheduler.node? id = some node →
      isTerminal node.state = false → node.state = .waitingDependency := by
    intro id node found live
    have possible := (sound.coherent id node found).possible
    by_contra awake
    refine stuck ⟨id, node, found, ?_⟩
    revert live awake possible
    cases node.state <;> simp
  have allSettled : ∀ id ∈ scheduler.nodes.keys.toFinset, scheduler.Settled id := by
    refine DepthFirst.loopFree_induction (successorsOf scheduler.nodes) _
      (fun id _ => sound.graph.loopFree id) scheduler.Settled ?_
    intro id _ predecessorsSettled node found
    cases live : isTerminal node.state with
    | true => rfl
    | false =>
        exfalso
        have waits := onlyWaiting id node found live
        have positive := (sound.coherent id node found).waiting waits
        obtain ⟨dependency, listed, pending⟩ := (pendingCount_pos_iff scheduler _).mp
          (Nat.lt_of_lt_of_le positive (bounded id node found))
        obtain ⟨predecessor, present⟩ :=
          sound.graph.dependencies id node found dependency listed
        have edge : Edge (successorsOf scheduler.nodes) dependency id := by
          unfold Edge
          rw [successorsOf_some present, ← List.count_pos_iff,
            sound.graph.linked dependency predecessor id node present found]
          exact List.count_pos_iff.mpr listed
        have inKeys : dependency ∈ scheduler.nodes.keys.toFinset :=
          List.mem_toFinset.mpr ((mem_keys_iff scheduler dependency).mpr ⟨predecessor, present⟩)
        have ended := predecessorsSettled dependency inKeys edge predecessor present
        have uncompleted := (pendingIn_some scheduler present).mp pending
        rcases (isTerminal_iff predecessor.state).mp ended with done | failed | cancelled
        · exact uncompleted done
        · exact noOrphans id node found waits dependency listed
            (Or.inl ⟨predecessor, present, failed⟩)
        · exact noOrphans id node found waits dependency listed
            (Or.inr ⟨predecessor, present, cancelled⟩)
  obtain ⟨id, node, found, live⟩ := (allTerminal_eq_false_iff scheduler).mp someLive
  have settled := allSettled id
    (List.mem_toFinset.mpr ((mem_keys_iff scheduler id).mpr ⟨node, found⟩)) node found
  rw [settled] at live
  cases live

theorem noOrphans_initial : ({} : AgentScheduler).NoOrphans := by
  intro id node found
  rw [node?_initial] at found
  cases found

/-- A run has no orphaned waiter, and can always go on, exactly when it accepts no
task that starts to wait behind a failed or cancelled agent. -/
theorem no_orphaned_waiters_iff (operations : List Operation) :
    machine.Throughout (fun scheduler => scheduler.NoOrphans ∧ scheduler.Progresses)
        machine.initial operations ↔
      machine.Along NoneBehindFailed machine.initial operations := by
  refine machine.throughout_iff_along
    (fun scheduler => scheduler.Sound ∧ scheduler.CountersBounded) _ NoneBehindFailed
    (fun _ => True) ?_ ?_ _ operations ⟨sound_initial, countersBounded_initial⟩
    ⟨noOrphans_initial, noOrphans_initial.progresses sound_initial countersBounded_initial⟩
    (fun _ _ => trivial)
  · rintro scheduler operation ⟨sound, bounded⟩ _
    exact ⟨sound.step operation, bounded.step sound operation⟩
  · rintro scheduler operation ⟨sound, bounded⟩ ⟨noOrphans, _⟩ _
    constructor
    · rintro ⟨next, _⟩
      exact next.guarded sound
    · intro guarded
      have next := noOrphans.step sound guarded
      exact ⟨next, next.progresses (sound.step operation) (bounded.step sound operation)⟩

/-- Agent 1 fails, and agent 2 is submitted behind it afterwards. -/
def lateDependent : List Operation :=
  [ .submit { id := 1 } 0 IterationOrder.asStored,
    .tryDispatch { availableCpuThreads := 1 } 0 IterationOrder.asStored,
    .fail 1 [] 0,
    .submit { id := 2, dependencies := [1] } 0 IterationOrder.asStored ]

theorem late_dependent_is_orphaned :
    ¬∀ operations : List Operation,
      machine.Throughout (fun scheduler => scheduler.NoOrphans ∧ scheduler.Progresses)
        machine.initial operations := by
  intro always
  have holds := always lateDependent
  rw [← List.append_nil lateDependent] at holds
  have noOrphans := (Machine.Throughout.at_segment lateDependent [] holds).1
  have waiting : ((machine.run lateDependent).node? 2).map
      (fun node => (node.state, node.spec.dependencies)) = some (.waitingDependency, [1]) := by
    decide
  have failed : ((machine.run lateDependent).node? 1).map Node.state = some .failed := by
    decide
  obtain ⟨waiter, waiterFound, fields⟩ := Option.map_eq_some_iff.mp waiting
  obtain ⟨dependency, dependencyFound, state⟩ := Option.map_eq_some_iff.mp failed
  rw [Prod.mk.injEq] at fields
  exact noOrphans 2 waiter waiterFound fields.1 1
    (by rw [fields.2]; exact List.mem_singleton.mpr rfl)
    (Or.inl ⟨dependency, dependencyFound, state⟩)

end AgentScheduler

end AgentNucleus.Runtime
