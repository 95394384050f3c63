/-
The contract of `submit_batch`: it accepts the well-formed batches, a rejection
has no effect, and a new agent is ready exactly when its dependencies have
completed.  The last part depends on a counter of 32 bits.
-/

import AgentNucleus.Runtime.PendingDependencies

set_option autoImplicit false

namespace AgentNucleus.Runtime

open Library
open Relation (TransGen)

namespace AgentScheduler

def DependenciesCompleted (scheduler : AgentScheduler) (task : AgentTaskSpec) : Prop :=
  ∀ dependency ∈ task.dependencies, scheduler.HasState dependency .completed

theorem dependenciesCompleted_iff (scheduler : AgentScheduler) (task : AgentTaskSpec) :
    scheduler.DependenciesCompleted task ↔ scheduler.pendingCount task.dependencies = 0 :=
  (pendingCount_eq_zero_iff scheduler task.dependencies).symm

structure SubmissionContract (before : AgentScheduler) (tasks : List AgentTaskSpec)
    (after : AgentScheduler) (outcome : Outcome) : Prop where
  accepts : outcome.ok = true ↔ before.WellFormedBatch tasks
  rejected : outcome.ok = false → after = before
  old : outcome.ok = true → ∀ id node, before.node? id = some node →
    (∃ ids, after.node? id = some { node with successors := node.successors ++ ids }) ∧
      (id ∈ after.ready ↔ id ∈ before.ready)
  counters : outcome.ok = true → after.reservedCpuThreads = before.reservedCpuThreads ∧
    after.reservedMemoryBytes = before.reservedMemoryBytes
  nothingElse : outcome.ok = true → ∀ id node, after.node? id = some node →
    (∃ old, before.node? id = some old) ∨ ∃ task ∈ tasks, task.id = id
  new : outcome.ok = true → ∀ task ∈ tasks, ∃ node, after.node? task.id = some node ∧
    node.spec = task ∧
    (after.DependenciesCompleted task → node.state = .ready ∧ task.id ∈ after.ready) ∧
    (¬after.DependenciesCompleted task →
      node.state = .waitingDependency ∧ task.id ∉ after.ready)

/-- No number of uncompleted entries in the batch wraps to zero in 32 bits. -/
def CountsWithoutWrap (scheduler : AgentScheduler) (tasks : List AgentTaskSpec) : Prop :=
  ∀ task ∈ tasks, scheduler.pendingCount task.dependencies % 2 ^ 32 = 0 →
    scheduler.pendingCount task.dependencies = 0

theorem ofNat_eq_zero_iff (count : Nat) : UInt32.ofNat count = 0 ↔ count % 2 ^ 32 = 0 := by
  rw [← UInt32.toNat_inj, UInt32.toNat_ofNat']
  rfl

section Submitted

variable {before after : AgentScheduler} {tasks : List AgentTaskSpec} {now : TimePoint}

/-- A new agent as the source decides its state: by the wrapped counter. -/
theorem Submitted.new_state (submitted : Submitted tasks now before after)
    (sound : before.Sound) (wellFormed : before.WellFormedBatch tasks)
    {task : AgentTaskSpec} (member : task ∈ tasks) :
    ∃ node, after.node? task.id = some node ∧ node.spec = task ∧
      node.state = (if before.pendingCount task.dependencies % 2 ^ 32 = 0 then .ready
        else .waitingDependency) ∧
      (task.id ∈ after.ready ↔ before.pendingCount task.dependencies % 2 ^ 32 = 0) := by
  have given := taskOf_of_mem wellFormed.distinct member
  have missing := wellFormed.toAdmissible.missing_of_taskOf given
  have stored := submitted.fresh task.id missing
  rw [given] at stored
  refine ⟨_, stored, rfl, ?_, ?_⟩
  · change (if UInt32.ofNat (before.pendingCount task.dependencies) = 0 then
      AgentState.ready else .waitingDependency) = _
    simp only [ofNat_eq_zero_iff]
  · rw [submitted.ready, given]
    have outside : task.id ∉ before.ready := by
      intro queued
      obtain ⟨node, present⟩ := sound.stored task.id queued
      rw [missing] at present
      cases present
    simp only [outside, false_or, Option.some.injEq, exists_eq_left', ofNat_eq_zero_iff]

theorem Submitted.dependenciesCompleted_iff (submitted : Submitted tasks now before after)
    (task : AgentTaskSpec) :
    after.DependenciesCompleted task ↔ before.pendingCount task.dependencies = 0 := by
  rw [AgentScheduler.dependenciesCompleted_iff,
    pendingCount_congr fun dependency _ => submitted.pendingIn dependency]

theorem Submitted.contract (submitted : Submitted tasks now before after)
    (sound : before.Sound) (wellFormed : before.WellFormedBatch tasks) {outcome : Outcome}
    (accepted : outcome.ok = true) (counts : before.CountsWithoutWrap tasks) :
    before.SubmissionContract tasks after outcome where
  accepts := ⟨fun _ => wellFormed, fun _ => accepted⟩
  rejected := by
    intro refused
    rw [accepted] at refused
    cases refused
  old := by
    intro _ id node found
    refine ⟨⟨_, submitted.old id node found⟩, ?_⟩
    rw [submitted.ready, wellFormed.toAdmissible.taskOf_of_known found]
    simp
  counters := fun _ => ⟨submitted.cpu, submitted.memory⟩
  nothingElse := by
    intro _ id node found
    rcases submitted.origin found with ⟨old, present, _⟩ | ⟨_, task, given, _⟩
    · exact Or.inl ⟨old, present⟩
    · exact Or.inr ⟨task, (taskOf_id given).2, (taskOf_id given).1⟩
  new := by
    intro _ task member
    obtain ⟨node, found, spec, state, queue⟩ := submitted.new_state sound wellFormed member
    refine ⟨node, found, spec, ?_, ?_⟩
    · intro completed
      have none := (submitted.dependenciesCompleted_iff task).mp completed
      rw [none] at state queue
      exact ⟨state, queue.mpr rfl⟩
    · intro pending
      have wrapped : ¬before.pendingCount task.dependencies % 2 ^ 32 = 0 := fun zero =>
        pending ((submitted.dependenciesCompleted_iff task).mpr (counts task member zero))
      rw [if_neg wrapped] at state
      exact ⟨state, fun queued => wrapped (queue.mp queued)⟩

/-- A new agent that keeps the contract was counted without a wrap. -/
theorem Submitted.counts (submitted : Submitted tasks now before after)
    (sound : before.Sound) (wellFormed : before.WellFormedBatch tasks) {outcome : Outcome}
    (accepted : outcome.ok = true) (contract : before.SubmissionContract tasks after outcome) :
    before.CountsWithoutWrap tasks := by
  intro task member zero
  obtain ⟨node, found, _, state, _⟩ := submitted.new_state sound wellFormed member
  obtain ⟨other, otherFound, _, _, waiting⟩ := contract.new accepted task member
  rw [found, Option.some.injEq] at otherFound
  subst otherFound
  by_contra positive
  have pending : ¬after.DependenciesCompleted task := fun completed =>
    positive ((submitted.dependenciesCompleted_iff task).mp completed)
  rw [(waiting pending).1, if_pos zero] at state
  cases state

end Submitted

theorem Sound.contract_iff {scheduler : AgentScheduler} (sound : scheduler.Sound)
    (tasks : List AgentTaskSpec) (now : TimePoint) (order : IterationOrder AgentId) :
    scheduler.SubmissionContract tasks (scheduler.submitBatch tasks now order).1
        (scheduler.submitBatch tasks now order).2 ↔
      (scheduler.WellFormedBatch tasks → scheduler.CountsWithoutWrap tasks) := by
  unfold submitBatch
  rcases sound.graph.submitBatchLocked_cases tasks now order with
    ⟨wellFormed, accepted, submitted⟩ | ⟨malformed, refused, unchanged⟩
  · exact ⟨fun contract _ => submitted.counts sound wellFormed accepted contract,
      fun counts => submitted.contract sound wellFormed accepted (counts wellFormed)⟩
  · rw [unchanged]
    have never : (scheduler.submitBatchLocked tasks now order).2.ok ≠ true := by
      rw [refused]
      exact Bool.false_ne_true
    refine ⟨fun _ wellFormed => absurd wellFormed malformed, fun _ => ?_⟩
    exact {
      accepts := ⟨fun accepted => absurd accepted never,
        fun wellFormed => absurd wellFormed malformed⟩
      rejected := fun _ => rfl
      old := fun accepted => absurd accepted never
      counters := fun accepted => absurd accepted never
      nothingElse := fun accepted => absurd accepted never
      new := fun accepted => absurd accepted never }

/-- In every reachable state, `submit_batch` keeps its contract exactly on the
batches whose counts of uncompleted entries do not wrap to zero. -/
theorem submit_batch_contract_iff (history : List Operation) (tasks : List AgentTaskSpec)
    (now : TimePoint) (order : IterationOrder AgentId) :
    (machine.run history).SubmissionContract tasks
        ((machine.run history).submitBatch tasks now order).1
        ((machine.run history).submitBatch tasks now order).2 ↔
      ((machine.run history).WellFormedBatch tasks →
        (machine.run history).CountsWithoutWrap tasks) :=
  (Reachable.sound (machine.reachable_run history)).contract_iff tasks now order

/-! ### A counter that wraps -/

/-- One agent that has not completed. -/
def singleReady : List Operation :=
  [.submit { id := 1 } 0 IterationOrder.asStored]

/-- A task that lists agent 1 as a dependency again and again. -/
def repeating (count : Nat) : AgentTaskSpec :=
  { id := 2, dependencies := List.replicate count 1 }

theorem repeating_wellFormed (count : Nat) :
    (machine.run singleReady).WellFormedBatch [repeating count] := by
  have listed : ∀ dependency ∈ (repeating count).dependencies, dependency = 1 :=
    fun dependency member => List.eq_of_mem_replicate member
  have known : (1 : AgentId) ∈ (machine.run singleReady).nodes := by decide
  have unknown : (2 : AgentId) ∉ (machine.run singleReady).nodes := by decide
  have only : ∀ task ∈ [repeating count], task = repeating count :=
    fun task member => List.mem_singleton.mp member
  refine ⟨⟨List.cons_ne_nil _ _, ?_, ?_, List.nodup_singleton _, ?_⟩, ?_⟩
  · intro task member
    rw [only task member]
    exact ⟨nofun, fun both => both.1 rfl, nofun⟩
  · intro task member
    rw [only task member]
    exact unknown
  · intro task member dependency dependencyListed
    rw [only task member] at dependencyListed ⊢
    rw [listed dependency dependencyListed]
    exact ⟨nofun, Or.inl known⟩
  · intro id loop
    obtain ⟨next, ⟨task, member, _, dependency, inBatch⟩, _⟩ :=
      Relation.TransGen.head'_iff.mp loop
    rw [only task member] at dependency
    rw [listed next dependency] at inBatch
    have impossible : (1 : AgentId) = 2 := List.mem_singleton.mp inBatch
    cases impossible

theorem repeating_pendingCount (count : Nat) :
    (machine.run singleReady).pendingCount (repeating count).dependencies = count := by
  have pending : (machine.run singleReady).pendingIn 1 = true := by decide
  unfold pendingCount repeating
  rw [List.countP_replicate, if_pos pending]

/-- With `2 ^ 32` entries the counter is zero, and the new agent is ready although
its dependency has not completed. -/
theorem repeated_dependency_breaks_contract :
    ¬∀ history tasks now order,
      (machine.run history).SubmissionContract tasks
        ((machine.run history).submitBatch tasks now order).1
        ((machine.run history).submitBatch tasks now order).2 := by
  intro contract
  have sound := Reachable.sound (machine.reachable_run singleReady)
  have counts := (sound.contract_iff [repeating (2 ^ 32)] 0 IterationOrder.asStored).mp
    (contract singleReady [repeating (2 ^ 32)] 0 IterationOrder.asStored)
    (repeating_wellFormed (2 ^ 32))
  have zero := counts (repeating (2 ^ 32)) (List.mem_singleton.mpr rfl)
  rw [repeating_pendingCount] at zero
  exact absurd (zero (Nat.mod_self _)) (Nat.ne_of_gt (Nat.two_pow_pos 32))

end AgentScheduler

end AgentNucleus.Runtime
