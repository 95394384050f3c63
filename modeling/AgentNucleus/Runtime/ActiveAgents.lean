/-
The agents in the hands of a worker.  Only a dispatch makes an agent active, its
report ends that, and a reservation lasts as long when nothing wakes an agent.
-/

import AgentNucleus.Runtime.PendingDependencies
import AgentNucleus.Runtime.ResourceLedger
import AgentNucleus.Runtime.TerminalStates

set_option autoImplicit false

namespace AgentNucleus.Runtime

open Library

namespace AgentScheduler

section Origin

variable {before after : AgentScheduler} {operation : Operation}

/-- What leaves `ready_` has been dispatched, or it has been cancelled. -/
private theorem Effect.dequeued (effect : Effect before operation after) (sound : before.Sound)
    {id : AgentId} (was : id ∈ before.ready) (gone : id ∉ after.ready) :
    after.Settled id ∨
      ∃ resources now order, Dispatches operation resources now order ∧
        (before.dispatchLocked resources now order).2 = some id := by
  cases effect with
  | idle _ => exact absurd was gone
  | submitted tasks now order quiet offered admissible loopFree submitted =>
      exact absurd ((submitted.ready id).mpr (Or.inl was)) gone
  | relabelled dispatches nothing =>
      rw [relabelled_ready] at gone
      exact absurd was gone
  | reserved chosen node dispatches selected queued present fitting =>
      rw [mem_ready_reserve, relabelled_ready] at gone
      by_cases same : id = chosen
      · subst same
        exact Or.inr ⟨_, _, _, dispatches, selected⟩
      · exact absurd ⟨same, was⟩ gone
  | moved other node new quiet present moved => exact absurd was gone
  | woken other node present asleep =>
      rw [mem_ready_enqueue] at gone
      exact absurd (Or.inr was) gone
  | completed other node now present active =>
      rw [mem_ready_completed sound.graph present] at gone
      exact absurd (Or.inl was) gone
  | retried other node message now present left =>
      rw [mem_ready_enqueue, store_ready, release_ready] at gone
      exact absurd (Or.inr was) gone
  | released other node message now present exhausted inactive =>
      rw [store_ready, release_ready] at gone
      exact absurd was gone
  | failed other node message now present exhausted active =>
      rcases cancelDescendants_cancels _ other (text "dependency agent failed") now id with
        ⟨_, same⟩ | ⟨_, new, _, _, found, cancelled, _⟩
      · rw [same, store_ready, release_ready] at gone
        exact absurd was gone
      · apply Or.inl
        intro ended present
        rw [found, Option.some.injEq] at present
        subst present
        exact CancelledFrom_terminal cancelled
  | cancelled other node now present live =>
      apply Or.inl
      rcases cancelDescendants_cancels _ other (text "dependency agent was cancelled") now id with
        ⟨stored, same⟩ | ⟨_, new, _, _, found, cancelled, _⟩
      · rw [same, store_ready, release_ready, mem_ready_dequeue] at gone
        have target : id = other := by
          by_contra different
          exact gone ⟨different, was⟩
        intro ended present
        rw [stored, target, node?_store_self, Option.some.injEq] at present
        subst present
        rfl
      · intro ended present
        rw [found, Option.some.injEq] at present
        subst present
        exact CancelledFrom_terminal cancelled

/-- The edges into the active states: an agent was active already, or it has left
the queue. -/
private theorem Change.activated {completing collapsing : Option AgentId} {id : AgentId}
    {old new : Node} {queued requeued : Prop}
    (change : Change operation completing collapsing id old queued requeued new)
    (coherent : old.Coherent queued) (active : isActive new.state = true) :
    isActive old.state = true ∨ queued ∧ ¬requeued := by
  cases change with
  | kept queue => exact Or.inl active
  | linked ids queue => exact Or.inl active
  | relabelled fitting was is =>
      have state := Node.relabel_state fitting
        ((isQueued_iff old.state).mp (coherent.queue.mp was))
      have inactive := (isQueued_inactive ((isQueued_iff _).mpr state)).1
      rw [inactive] at active
      cases active
  | reserved was gone => exact Or.inr ⟨was, gone⟩
  | moved moved queue =>
      rcases moved.state with same | ⟨oldActive, _⟩
      · rw [same] at active
        exact Or.inl active
      · exact Or.inl oldActive
  | woken waking asleep is => cases active
  | resolved source completed queue =>
      by_cases wakes : old.Wakes (old.spec.dependencies.count source)
      · rw [Node.resolve_state_of_wakes wakes] at active
        cases active
      · rw [Node.resolve_state_of_not_wakes wakes] at active
        exact Or.inl active
  | retried message now failing left is => cases active
  | released inactive queue => exact Or.inl active
  | finished state error now ends oldActive queue => exact Or.inl oldActive
  | cancelled root error now collapses live gone => cases active

theorem submittedNode_inactive (scheduler : AgentScheduler) (tasks : List AgentTaskSpec)
    (now : TimePoint) (task : AgentTaskSpec) :
    isActive (scheduler.submittedNode tasks now task).state = false := by
  have state : (scheduler.submittedNode tasks now task).state =
      if UInt32.ofNat (scheduler.pendingCount task.dependencies) = 0 then .ready
      else .waitingDependency := rfl
  rw [state]
  split
  · rfl
  · rfl

/-- An agent that is active after a step was active before, or the step is the
dispatch that has selected it. -/
theorem Effect.activated (effect : Effect before operation after) (sound : before.Sound)
    {id : AgentId} {new : Node} (found : after.node? id = some new)
    (active : isActive new.state = true) :
    (∃ old, before.node? id = some old ∧ isActive old.state = true) ∨
      ∃ resources now order, Dispatches operation resources now order ∧
        (before.dispatchLocked resources now order).2 = some id := by
  cases known : before.node? id with
  | none =>
      obtain ⟨tasks, now, task, _, _, _, _, rfl⟩ := effect.fresh sound.graph known found
      rw [submittedNode_inactive] at active
      cases active
  | some old =>
      obtain ⟨next, nextFound, change⟩ := effect.change sound.graph id old known
      rw [found, Option.some.injEq] at nextFound
      subst nextFound
      rcases change.activated (sound.coherent id old known) active with oldActive | ⟨was, gone⟩
      · exact Or.inl ⟨old, rfl, oldActive⟩
      · apply Or.inr
        rcases effect.dequeued sound was gone with settled | dispatched
        · have terminal := settled new found
          rw [(isTerminal_unqueued terminal).2] at active
          cases active
        · exact dispatched

end Origin

/-! ### Reports -/

/-- No stored agent of this id is active. -/
def Inactive (scheduler : AgentScheduler) (id : AgentId) : Prop :=
  ∀ node, scheduler.node? id = some node → isActive node.state = false

theorem Sound.active_before {scheduler : AgentScheduler} {id : AgentId} {new : Node}
    (sound : scheduler.Sound) (operation : Operation)
    (undispatched : ∀ resources now order, ¬Dispatches operation resources now order)
    (found : (scheduler.step operation).node? id = some new) (active : isActive new.state = true) :
    ∃ old, scheduler.node? id = some old ∧ isActive old.state = true := by
  rcases (sound.effect operation).activated sound found active with
    before | ⟨resources, now, order, dispatches, _⟩
  · exact before
  · exact absurd dispatches (undispatched resources now order)

theorem complete_inactive {scheduler : AgentScheduler} (sound : scheduler.Sound) (id : AgentId)
    (now : TimePoint) : (scheduler.complete id now).1.Inactive id := by
  intro new present
  by_contra held
  have active : isActive new.state = true := Bool.eq_true_of_not_eq_false held
  obtain ⟨old, found, oldActive⟩ := sound.active_before (.complete id now) nofun present active
  have completes : scheduler.completing (.complete id now) = some id := by
    simp only [completing, found, oldActive, if_true]
  obtain ⟨next, nextFound, done, _⟩ :=
    (sound.completes (sound.effect (.complete id now)) completes).self old found
  have same : next = new := Option.some.inj (nextFound.symm.trans present)
  rw [← same, done] at active
  cases active

/-- The last attempt of an active agent ends it and what depends on it. -/
private theorem fail_last {scheduler : AgentScheduler} {id : AgentId} {old : Node}
    (message : StdString) (now : TimePoint) (found : scheduler.node? id = some old)
    (exhausted : ¬old.snapshot.retryCount < old.spec.retryLimit)
    (active : isActive old.state = true) :
    (scheduler.fail id message now).1 =
      ((scheduler.releaseResourcesLocked old).1.store id
        (old.ended .failed message now)).cancelDescendantsLocked id
          (text "dependency agent failed") now := by
  have allowed : transitionLocked old.unreserved .failed =
      .ok (old.unreserved.setState .failed) := by
    unfold transitionLocked
    rw [(transitionAllowed_end _).2]
    exact if_pos active
  unfold fail
  simp only [found, release_node]
  rw [if_neg (show ¬old.unreserved.snapshot.retryCount < old.unreserved.spec.retryLimit
    from exhausted), allowed]
  rfl

theorem fail_inactive {scheduler : AgentScheduler} (sound : scheduler.Sound) (id : AgentId)
    (message : StdString) (now : TimePoint) :
    (scheduler.fail id message now).1.Inactive id := by
  intro new present
  by_contra held
  have active : isActive new.state = true := Bool.eq_true_of_not_eq_false held
  obtain ⟨old, found, oldActive⟩ :=
    sound.active_before (.fail id message now) nofun present active
  by_cases left : old.snapshot.retryCount < old.spec.retryLimit
  · have put : (scheduler.fail id message now).1.node? id =
        some (old.unreserved.retryWith message) := (step_retry message now found left).1
    rw [put, Option.some.injEq] at present
    subst present
    cases active
  · rw [fail_last message now found left oldActive] at present
    rcases cancelDescendants_cancels
        ((scheduler.releaseResourcesLocked old).1.store id (old.ended .failed message now)) id
        (text "dependency agent failed") now id with
      ⟨same, _⟩ | ⟨_, next, _, _, nextFound, cancelled, _⟩
    · rw [same, node?_store_self, Option.some.injEq] at present
      subst present
      cases active
    · rw [nextFound, Option.some.injEq] at present
      subst present
      rw [(isTerminal_unqueued (CancelledFrom_terminal cancelled)).2] at active
      cases active

/-! ### Reservations -/

/-- Every reservation belongs to an active agent. -/
def ReservedActive (scheduler : AgentScheduler) : Prop :=
  ∀ id node, scheduler.node? id = some node → node.resourcesReserved = true →
    isActive node.state = true

private theorem Change.keepsReserved {operation : Operation}
    {completing collapsing : Option AgentId} {id : AgentId} {old new : Node}
    {queued requeued : Prop}
    (change : Change operation completing collapsing id old queued requeued new)
    (coherent : old.Coherent queued) (asleep : operation ≠ .wake id)
    (before : old.resourcesReserved = true → isActive old.state = true)
    (flag : new.resourcesReserved = true) : isActive new.state = true := by
  cases change with
  | kept queue => exact before flag
  | linked ids queue => exact before flag
  | relabelled fitting was is =>
      rw [Node.relabel_reserved] at flag
      have inactive := (isQueued_inactive (coherent.queue.mp was)).1
      rw [before flag] at inactive
      cases inactive
  | reserved was gone => rfl
  | moved moved queue =>
      rw [moved.reserved] at flag
      rcases moved.state with same | ⟨_, active⟩
      · rw [same]
        exact before flag
      · exact active
  | woken waking slept is => exact absurd waking asleep
  | resolved source completed queue =>
      rw [Node.resolve_reserved] at flag
      have active := before flag
      have sleeps : ¬old.Wakes (old.spec.dependencies.count source) := by
        intro wakes
        rw [wakes.1] at active
        cases active
      rw [Node.resolve_state_of_not_wakes sleeps]
      exact active
  | retried message now failing left is => cases flag
  | released inactive queue => cases flag
  | finished state error now ends active queue => cases flag
  | cancelled root error now collapses live gone => cases flag

/-- As long as nobody is woken, a reservation ends with the activity. -/
theorem ReservedActive.step {scheduler : AgentScheduler} (reserved : scheduler.ReservedActive)
    (sound : scheduler.Sound) (operation : Operation) (asleep : ∀ id, operation ≠ .wake id) :
    (scheduler.step operation).ReservedActive := by
  intro id new found flag
  have effect := sound.effect operation
  cases known : scheduler.node? id with
  | none =>
      obtain ⟨tasks, now, task, _, _, _, _, rfl⟩ := effect.fresh sound.graph known found
      cases flag
  | some old =>
      obtain ⟨next, nextFound, change⟩ := effect.change sound.graph id old known
      rw [found, Option.some.injEq] at nextFound
      subst nextFound
      exact change.keepsReserved (sound.coherent id old known) (asleep id)
        (reserved id old known) flag

/-- An agent that waits in the queue holds no reservation that a second dispatch
could count twice. -/
theorem ReservedActive.not_redispatched {scheduler : AgentScheduler}
    (reserved : scheduler.ReservedActive) (sound : scheduler.Sound) (operation : Operation) :
    ¬scheduler.RedispatchesReserved operation := by
  intro again
  obtain ⟨resources, now, order, id, node, _, selected, found, flag, _⟩ := again
  rcases dispatchLocked_cases scheduler resources now order with
    nothing | ⟨chosen, _, queued, _, _, result⟩
  · rw [nothing] at selected
    cases selected
  · rw [result, Option.some.injEq] at selected
    subst selected
    have waits := (sound.coherent chosen node found).queue.mp queued
    have active := reserved chosen node found flag
    rw [(isQueued_inactive waits).1] at active
    cases active

/-! ### Dispatch and idleness -/

theorem allTerminal_iff (scheduler : AgentScheduler) :
    scheduler.allTerminal = true ↔ ∀ id, scheduler.Settled id := by
  unfold allTerminal
  rw [List.all_eq_true]
  constructor
  · intro all id node found
    exact all ⟨id, node⟩ (AList.mem_lookup_iff.mp found)
  · intro settled entry member
    exact settled entry.1 entry.2 (AList.mem_lookup_iff.mpr member)

/-- The operation brings an agent into a state that is not terminal: it submits a
batch that is accepted, or it reports a failure that is retried. -/
def Revives (scheduler : AgentScheduler) (operation : Operation) : Prop :=
  (∃ tasks, scheduler.offered operation = some tasks ∧ scheduler.WellFormedBatch tasks) ∨
    ∃ id message now node, operation = .fail id message now ∧
      scheduler.node? id = some node ∧ node.snapshot.retryCount < node.spec.retryLimit

theorem not_revives {scheduler : AgentScheduler} {operation : Operation}
    (unoffered : scheduler.offered operation = none)
    (notFailing : ∀ id message now, operation ≠ .fail id message now) :
    ¬scheduler.Revives operation := by
  intro revives
  rcases revives with ⟨tasks, offered, _⟩ | ⟨id, message, now, _, failing, _⟩
  · rw [unoffered] at offered
    cases offered
  · exact notFailing id message now failing

theorem allTerminal_step {scheduler : AgentScheduler} (sound : scheduler.Sound)
    (all : scheduler.allTerminal = true) (operation : Operation)
    (dead : ¬scheduler.Revives operation) : (scheduler.step operation).allTerminal = true := by
  rw [allTerminal_iff] at all ⊢
  intro id new found
  have effect := sound.effect operation
  cases known : scheduler.node? id with
  | none =>
      obtain ⟨tasks, _, _, offered, wellFormed, _⟩ := effect.fresh sound.graph known found
      exact absurd (Or.inl ⟨tasks, offered, wellFormed⟩) dead
  | some old =>
      obtain ⟨next, nextFound, change⟩ := effect.change sound.graph id old known
      rw [found, Option.some.injEq] at nextFound
      subst nextFound
      rcases change.terminal (sound.coherent id old known) (all id old known) with
        same | ⟨left, message, now, failing⟩
      · rw [same]
        exact all id old known
      · exact absurd (Or.inr ⟨id, message, now, old, failing, known, left⟩) dead

/-- Where all agents are terminal there is nothing to dispatch. -/
theorem waitDispatch_of_allTerminal {scheduler : AgentScheduler} (sound : scheduler.Sound)
    (all : scheduler.allTerminal = true) (resources : MemorySnapshot) (now : TimePoint)
    (order : IterationOrder AgentId) :
    (scheduler.waitDispatch resources now order).2 = none := by
  unfold waitDispatch
  rcases dispatchLocked_cases scheduler resources now order with
    nothing | ⟨chosen, node, queued, found, _, _⟩
  · rw [nothing]
  · have waits := (sound.coherent chosen node found).queue.mp queued
    have terminal := (allTerminal_iff scheduler).mp all chosen node found
    rw [(isQueued_inactive waits).2] at terminal
    cases terminal

end AgentScheduler

end AgentNucleus.Runtime
