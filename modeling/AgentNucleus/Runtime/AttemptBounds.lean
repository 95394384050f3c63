/-
How often one agent is dispatched.  Each dispatch uses up the place in `ready_`,
and only the submission, a retry and a wake provide another one.
-/

import AgentNucleus.Runtime.RepresentationInvariants

set_option autoImplicit false

namespace AgentNucleus.Runtime

open Library

namespace AgentScheduler

/-! ### What is counted -/

/-- The agent that the operation returns, if it is a dispatch. -/
def dispatched (scheduler : AgentScheduler) : Operation → Option AgentId
  | .tryDispatch resources now order => (scheduler.tryDispatch resources now order).2
  | .waitDispatch resources now order => (scheduler.waitDispatch resources now order).2
  | _ => none

/-- The operation is a dispatch, of either kind, that returns the agent. -/
def dispatchesAgent (id : AgentId) (scheduler : AgentScheduler) (operation : Operation) : Bool :=
  scheduler.dispatched operation == some id

/-- The operation is a call of `wake` on the agent that returns true. -/
def wakesAgent (id : AgentId) (scheduler : AgentScheduler) : Operation → Bool
  | .wake target => target == id && (scheduler.wake target).2.ok
  | _ => false

end AgentScheduler

/-- The agent has a dispatch to come without a retry or a wake: it is queued, or it
will be when its dependencies are done. -/
def Node.expected (node : Node) : Bool :=
  isQueued node.state || node.state == .waitingDependency

namespace AgentScheduler

section Step

variable {before : AgentScheduler} {operation : Operation}

theorem dispatched_dispatches {id : AgentId} (chosen : before.dispatched operation = some id) :
    ∃ resources now order, Dispatches operation resources now order ∧
      before.step operation = (before.dispatchLocked resources now order).1 ∧
      (before.dispatchLocked resources now order).2 = some id := by
  cases operation with
  | tryDispatch resources now order =>
      exact ⟨resources, now, order, .tryDispatch resources now order, rfl, chosen⟩
  | waitDispatch resources now order =>
      exact ⟨resources, now, order, .waitDispatch resources now order, rfl, chosen⟩
  | _ => cases chosen

/-- Only a retry counts as one. -/
theorem Change.retryCount {completing collapsing : Option AgentId} {id : AgentId}
    {old new : Node} {queued requeued : Prop}
    (change : Change operation completing collapsing id old queued requeued new) :
    new.snapshot.retryCount = old.snapshot.retryCount ∨
      ∃ message now, operation = .fail id message now ∧
        old.snapshot.retryCount < old.spec.retryLimit ∧
        new.snapshot.retryCount = old.snapshot.retryCount + 1 := by
  cases change with
  | relabelled fitting was is => exact Or.inl (Node.relabel_retryCount old fitting)
  | reserved was gone => exact Or.inl (Node.relabel_retryCount old true)
  | moved moved queue => exact Or.inl moved.retryCount
  | retried message now failing left is => exact Or.inr ⟨message, now, failing, left, rfl⟩
  | _ => exact Or.inl rfl

theorem retryCount_succ {count limit : UInt32} (left : count < limit) :
    (count + 1).toNat = count.toNat + 1 := by
  have below := UInt32.lt_iff_toNat_lt.mp left
  have bounded := limit.toNat_lt
  rw [UInt32.toNat_add]
  change (count.toNat + 1) % 4294967296 = _
  omega

/-- A dispatch takes the place that the agent had. -/
theorem dispatched_step (sound : before.Sound) {id : AgentId} {old new : Node}
    (found : before.node? id = some old) (after : (before.step operation).node? id = some new)
    (chosen : before.dispatched operation = some id) :
    old.expected = true ∧ new.expected = false ∧
      new.snapshot.retryCount = old.snapshot.retryCount := by
  obtain ⟨resources, now, order, dispatches, step, selected⟩ := dispatched_dispatches chosen
  obtain ⟨queued, node, present, state⟩ := waitDispatch_dispatched selected
  have same : new = node := by
    rw [step] at after
    exact Option.some.inj (after.symm.trans present)
  refine ⟨?_, ?_, ?_⟩
  · unfold Node.expected
    rw [(sound.coherent id old found).queue.mp queued]
    rfl
  · unfold Node.expected
    rw [same, state]
    rfl
  · obtain ⟨next, nextFound, change⟩ :=
      (sound.effect operation).change sound.graph id old found
    have sameNext : next = new := Option.some.inj (nextFound.symm.trans after)
    subst sameNext
    rcases change.retryCount with kept | ⟨message, now, failing, _⟩
    · exact kept
    · rw [failing] at dispatches
      cases dispatches

/-- Without a dispatch, an agent gains a place by a retry or a wake alone. -/
theorem Change.expected (sound : before.Sound) {id : AgentId} {old new : Node}
    {completing collapsing : Option AgentId} {requeued : Prop}
    (found : before.node? id = some old)
    (change : Change operation completing collapsing id old (id ∈ before.ready) requeued new) :
    new.expected.toNat + old.snapshot.retryCount.toNat ≤
      old.expected.toNat + new.snapshot.retryCount.toNat +
        (before.wakesAgent id operation).toNat := by
  have coherent := sound.coherent id old found
  have keeps (state : new.state = old.state)
      (count : new.snapshot.retryCount = old.snapshot.retryCount) :
      new.expected.toNat + old.snapshot.retryCount.toNat ≤
        old.expected.toNat + new.snapshot.retryCount.toNat +
          (before.wakesAgent id operation).toNat := by
    unfold Node.expected
    rw [state, count]
    omega
  have leaves (gone : new.expected = false)
      (count : new.snapshot.retryCount = old.snapshot.retryCount) :
      new.expected.toNat + old.snapshot.retryCount.toNat ≤
        old.expected.toNat + new.snapshot.retryCount.toNat +
          (before.wakesAgent id operation).toNat := by
    rw [gone, count, Bool.toNat_false]
    omega
  have stays (was : old.expected = true)
      (count : new.snapshot.retryCount = old.snapshot.retryCount) :
      new.expected.toNat + old.snapshot.retryCount.toNat ≤
        old.expected.toNat + new.snapshot.retryCount.toNat +
          (before.wakesAgent id operation).toNat := by
    have one := Bool.toNat_le new.expected
    rw [was, count, Bool.toNat_true]
    omega
  cases change with
  | kept queue => exact keeps rfl rfl
  | linked ids queue => exact keeps rfl rfl
  | relabelled fitting was is =>
      apply stays _ (Node.relabel_retryCount old fitting)
      unfold Node.expected
      rw [coherent.queue.mp was]
      rfl
  | reserved was gone => exact leaves rfl (Node.relabel_retryCount old true)
  | moved moved queue =>
      rcases moved.state with same | ⟨_, active⟩
      · exact keeps same moved.retryCount
      · apply leaves _ moved.retryCount
        unfold Node.expected
        rw [(isActive_unqueued active).1, Bool.false_or, beq_eq_false_iff_ne]
        intro waiting
        rw [waiting] at active
        cases active
  | woken waking asleep is =>
      have awake : before.wakesAgent id operation = true := by
        have allowed : transitionAllowed old.state .ready = true := by
          rcases asleep with state | state | state
          · rw [state]
            rfl
          · rw [state]
            rfl
          · rw [state]
            rfl
        rw [waking]
        unfold wakesAgent wake
        simp only [found, transitionLocked, allowed, if_true, beq_self_eq_true, Bool.true_and]
        rfl
      have one := Bool.toNat_le (old.setState .ready).expected
      rw [awake, Bool.toNat_true]
      change _ + old.snapshot.retryCount.toNat ≤ _ + old.snapshot.retryCount.toNat + 1
      omega
  | resolved source completed queue =>
      by_cases wakes : old.Wakes (old.spec.dependencies.count source)
      · apply stays _ rfl
        unfold Node.expected
        rw [wakes.1]
        rfl
      · exact keeps (Node.resolve_state_of_not_wakes wakes) rfl
  | retried message now failing left is =>
      have one := Bool.toNat_le (old.unreserved.retryWith message).expected
      have next := retryCount_succ left
      change _ ≤ _ + (old.snapshot.retryCount + 1).toNat + _
      omega
  | released inactive queue => exact keeps rfl rfl
  | finished state error now ends active queue =>
      apply leaves _ rfl
      rcases ends with ⟨rfl, _⟩ | ⟨rfl, _⟩
      · rfl
      · rfl
  | cancelled root error now collapses live gone => exact leaves rfl rfl

end Step

/-! ### Runs -/

/-- The dispatches so far, and the one that is expected, are paid for by the
submission, by retries and by wakes. -/
structure Paid (dispatches wakes : Nat) (node : Node) : Prop where
  dispatches : dispatches + node.expected.toNat ≤ 1 + node.snapshot.retryCount.toNat + wakes
  retries : node.snapshot.retryCount ≤ node.spec.retryLimit

section Paid

variable {before : AgentScheduler} {dispatches wakes : Nat}

theorem Paid.step {id : AgentId} {old new : Node} (paid : Paid dispatches wakes old)
    (sound : before.Sound) (operation : Operation) (found : before.node? id = some old)
    (after : (before.step operation).node? id = some new) :
    Paid (dispatches + (before.dispatchesAgent id operation).toNat)
      (wakes + (before.wakesAgent id operation).toNat) new := by
  obtain ⟨next, nextFound, change⟩ := (sound.effect operation).change sound.graph id old found
  have same : next = new := Option.some.inj (nextFound.symm.trans after)
  subst same
  obtain ⟨other, otherFound, spec⟩ := (sound.effect operation).keepsTask found
  rw [after, Option.some.injEq] at otherFound
  subst otherFound
  have bounded := paid.dispatches
  constructor
  · by_cases chosen : before.dispatched operation = some id
    · obtain ⟨was, gone, count⟩ := dispatched_step sound found after chosen
      have one : before.dispatchesAgent id operation = true := beq_iff_eq.mpr chosen
      rw [was, Bool.toNat_true] at bounded
      rw [one, gone, count, Bool.toNat_true, Bool.toNat_false]
      omega
    · have none : before.dispatchesAgent id operation = false := beq_eq_false_iff_ne.mpr chosen
      have gained := change.expected sound found
      rw [none, Bool.toNat_false]
      omega
  · rw [spec]
    rcases change.retryCount with kept | ⟨_, _, _, left, count⟩
    · rw [kept]
      exact paid.retries
    · have succ := retryCount_succ left
      rw [count, UInt32.le_iff_toNat_le, succ]
      exact UInt32.lt_iff_toNat_lt.mp left

/-- An agent that is not stored is neither dispatched nor woken. -/
theorem missing_idle (sound : before.Sound) (operation : Operation) {id : AgentId}
    (missing : before.node? id = none) : before.dispatchesAgent id operation = false := by
  apply beq_eq_false_iff_ne.mpr
  intro chosen
  obtain ⟨_, _, _, _, _, selected⟩ := dispatched_dispatches chosen
  obtain ⟨queued, _⟩ := waitDispatch_dispatched selected
  obtain ⟨node, found⟩ := sound.stored id queued
  rw [missing] at found
  cases found

/-- A new agent has its first dispatch to come. -/
theorem Paid.fresh (sound : before.Sound) (operation : Operation) {id : AgentId} {new : Node}
    (missing : before.node? id = none)
    (after : (before.step operation).node? id = some new) : Paid 0 wakes new := by
  obtain ⟨tasks, now, task, _, _, _, _, rfl⟩ :=
    (sound.effect operation).fresh sound.graph missing after
  have one := Bool.toNat_le (before.submittedNode tasks now task).expected
  constructor
  · change 0 + _ ≤ 1 + 0 + wakes
    omega
  · exact UInt32.zero_le

end Paid

/-- What holds of an id after a run: without an agent nothing is dispatched, and with
one every dispatch is paid for. -/
def PaidFor (operations : List Operation) (id : AgentId) : Prop :=
  ((machine.run operations).node? id = none →
      machine.count (dispatchesAgent id) machine.initial operations = 0) ∧
    ∀ node, (machine.run operations).node? id = some node →
      Paid (machine.count (dispatchesAgent id) machine.initial operations)
        (machine.count (wakesAgent id) machine.initial operations) node

theorem run_paidFor (operations : List Operation) (id : AgentId) : PaidFor operations id := by
  induction operations using List.reverseRecOn with
  | nil =>
      refine ⟨fun _ => rfl, ?_⟩
      intro node found
      exact absurd found (by rw [show machine.run [] = {} from rfl, node?_initial]; nofun)
  | append_singleton earlier operation ih =>
      obtain ⟨absent, present⟩ := ih
      have sound := Reachable.sound (machine.reachable_run earlier)
      have last (event : AgentScheduler → Operation → Bool) :
          machine.count event machine.initial (earlier ++ [operation]) =
            machine.count event machine.initial earlier +
              (event (machine.run earlier) operation).toNat :=
        machine.count_append event machine.initial earlier [operation]
      unfold PaidFor
      rw [last, last, machine.run_snoc]
      cases known : (machine.run earlier).node? id with
      | none =>
          have idle := missing_idle sound operation known
          rw [absent known, idle]
          refine ⟨fun _ => rfl, ?_⟩
          intro node found
          exact Paid.fresh sound operation known found
      | some old =>
          obtain ⟨new, found, _⟩ := (sound.effect operation).keepsTask known
          constructor
          · intro missing
            exact absurd (found.symm.trans missing) nofun
          · intro node stored
            exact (present old known).step sound operation known stored

/-- An agent is dispatched once, and again only after a retry or a wake. -/
theorem attempts_bounded (operations : List Operation) (id : AgentId) :
    ((machine.run operations).node? id = none →
      machine.count (dispatchesAgent id) machine.initial operations = 0) ∧
    ∀ node, (machine.run operations).node? id = some node →
      machine.count (dispatchesAgent id) machine.initial operations ≤
        1 + node.spec.retryLimit.toNat +
          machine.count (wakesAgent id) machine.initial operations ∧
      node.snapshot.retryCount ≤ node.spec.retryLimit := by
  obtain ⟨absent, present⟩ := run_paidFor operations id
  refine ⟨absent, ?_⟩
  intro node found
  obtain ⟨dispatches, retries⟩ := present node found
  have below := UInt32.le_iff_toNat_le.mp retries
  exact ⟨by omega, retries⟩

/-- One agent that is retried once and woken once. -/
def retriedAndWoken : List Operation :=
  [ .submit { id := 5, retryLimit := 1 } 0 IterationOrder.asStored,
    .tryDispatch { availableCpuThreads := 2 } 0 IterationOrder.asStored,
    .fail 5 [] 0,
    .waitDispatch { availableCpuThreads := 2 } 0 IterationOrder.asStored,
    .markRunning 5 7 0,
    .markBlocked 5,
    .wake 5,
    .tryDispatch { availableCpuThreads := 2 } 0 IterationOrder.asStored ]

/-- The bound is met exactly. -/
theorem retriedAndWoken_bounded : ∃ node, (machine.run retriedAndWoken).node? 5 = some node ∧
    machine.count (dispatchesAgent 5) machine.initial retriedAndWoken = 3 ∧
    machine.count (dispatchesAgent 5) machine.initial retriedAndWoken ≤
      1 + node.spec.retryLimit.toNat +
        machine.count (wakesAgent 5) machine.initial retriedAndWoken ∧
    node.snapshot.retryCount ≤ node.spec.retryLimit :=
  ⟨_, rfl, by decide, (attempts_bounded retriedAndWoken 5).2 _ rfl⟩

end AgentScheduler

end AgentNucleus.Runtime
