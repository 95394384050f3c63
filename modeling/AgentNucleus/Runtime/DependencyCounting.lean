/-
Exact dependency counting.  Without retries the counter of an agent is the number
of its uncompleted dependency entries, as long as that number fits into 32 bits
when the agent is submitted.
-/

import AgentNucleus.Runtime.SubmissionContract

set_option autoImplicit false

namespace AgentNucleus.Runtime

open Library

namespace AgentScheduler

/-- Every counter is exact, and a live agent waits exactly while its counter is
positive. -/
def CountersExact (scheduler : AgentScheduler) : Prop :=
  ∀ id node, scheduler.node? id = some node →
    node.unresolved.toNat = scheduler.pendingCount node.spec.dependencies ∧
    (isTerminal node.state = false →
      (node.state = .waitingDependency ↔
        0 < scheduler.pendingCount node.spec.dependencies) ∧
      (node.state ≠ .waitingDependency →
        node.state = .ready ∨ node.state = .waitingResource ∨ node.state = .dispatched ∨
          node.state = .running ∨ node.state = .blocked))

/-- A successful completion makes ready exactly the waiting agents whose last
uncompleted dependency it was. -/
def WakesExactly (scheduler : AgentScheduler) : Prop :=
  ∀ source now, (scheduler.complete source now).2.ok = true → ∀ id,
    (¬scheduler.HasState id .ready ∧ (scheduler.complete source now).1.HasState id .ready) ↔
      ∃ node, scheduler.node? id = some node ∧ node.state = .waitingDependency ∧
        source ∈ node.spec.dependencies ∧
        ∀ dependency ∈ node.spec.dependencies,
          scheduler.pendingIn dependency = true → dependency = source

/-- A well-formed batch counts its uncompleted entries within 32 bits. -/
def CountsFit (scheduler : AgentScheduler) (operation : Operation) : Prop :=
  ∀ tasks, scheduler.offered operation = some tasks → scheduler.WellFormedBatch tasks →
    ∀ task ∈ tasks, scheduler.pendingCount task.dependencies < 2 ^ 32

/-- The tasks that an operation submits, whatever becomes of them. -/
def Operation.tasks : Operation → List AgentTaskSpec
  | .submit task _ _ => [task]
  | .submitBatch tasks _ _ => tasks
  | .spawn _ task _ _ => [task]
  | _ => []

def Operation.WithoutRetries (operation : Operation) : Prop :=
  ∀ task ∈ operation.tasks, task.retryLimit = 0

instance (operation : Operation) : Decidable operation.WithoutRetries :=
  inferInstanceAs (Decidable (∀ task ∈ operation.tasks, task.retryLimit = 0))

def NoRetries (scheduler : AgentScheduler) : Prop :=
  ∀ id node, scheduler.node? id = some node → node.spec.retryLimit = 0

section Step

variable {before after : AgentScheduler} {operation : Operation}

theorem offered_withoutRetries {tasks : List AgentTaskSpec}
    (offered : before.offered operation = some tasks) (allowed : operation.WithoutRetries) :
    ∀ task ∈ tasks, task.retryLimit = 0 := by
  cases operation with
  | submit task now order =>
      cases offered
      exact allowed
  | submitBatch batch now order =>
      cases offered
      exact allowed
  | spawn parent task now order =>
      simp only [AgentScheduler.offered] at offered
      split at offered
      · cases offered
        intro other member
        rw [List.mem_singleton.mp member]
        exact allowed task (List.mem_singleton.mpr rfl)
      · cases offered
  | _ => cases offered

theorem NoRetries.step (none : before.NoRetries) (sound : before.Sound)
    (allowed : operation.WithoutRetries) : (before.step operation).NoRetries := by
  intro id new found
  have effect := sound.effect operation
  cases known : before.node? id with
  | none =>
      obtain ⟨tasks, now, task, offered, _, _, given, rfl⟩ :=
        effect.fresh sound.graph known found
      exact offered_withoutRetries offered allowed task (taskOf_id given).2
  | some old =>
      obtain ⟨next, nextFound, change⟩ := effect.change sound.graph id old known
      rw [found, Option.some.injEq] at nextFound
      subst nextFound
      rw [change.unresolved.1]
      exact none id old known

theorem NoRetries.exhausted (none : before.NoRetries) {id : AgentId} {node : Node}
    (found : before.node? id = some node) :
    ¬node.snapshot.retryCount < node.spec.retryLimit := by
  rw [none id node found]
  exact UInt32.not_lt_zero

/-- A completion lowers the number of uncompleted entries of another agent by the
entries that name the completed one. -/
theorem Completes.pendingCount {source : AgentId} (completed : Completes before after source)
    (dependencies : List AgentId) :
    after.pendingCount dependencies =
      before.pendingCount dependencies - dependencies.count source := by
  have fewer := pendingCount_without completed.pending completed.pendingIn dependencies
  omega

theorem Graph.not_own_dependency {scheduler : AgentScheduler} (graph : scheduler.Graph)
    {id : AgentId} {node : Node} (found : scheduler.node? id = some node) :
    node.spec.dependencies.count id = 0 := by
  rw [← graph.linked id node id node found found]
  exact List.count_eq_zero.mpr (graph.not_own_successor found)

private theorem counted_completed {source id : AgentId} {old new : Node}
    (completed : Completes before after source) (sound : before.Sound)
    (counted : before.CountersExact) (known : before.node? id = some old)
    (found : after.node? id = some new) :
    new.unresolved.toNat = after.pendingCount new.spec.dependencies ∧
      (isTerminal new.state = false →
        (new.state = .waitingDependency ↔ 0 < after.pendingCount new.spec.dependencies)) := by
  obtain ⟨counter, waits⟩ := counted id old known
  by_cases same : id = source
  · subst same
    obtain ⟨next, nextFound, done, unresolved, spec⟩ := completed.self old known
    rw [found, Option.some.injEq] at nextFound
    subst nextFound
    rw [spec, unresolved, completed.pendingCount, sound.graph.not_own_dependency known,
      Nat.sub_zero]
    refine ⟨counter, fun live => ?_⟩
    rw [done] at live
    cases live
  · have next := completed.others id same
    rw [found, known, Option.map_some, Option.some.injEq] at next
    subst next
    rw [Node.resolve_spec, Node.resolve_unresolved, completed.pendingCount, counter]
    refine ⟨rfl, fun live => ?_⟩
    by_cases wakes : old.Wakes (old.spec.dependencies.count source)
    · have enough := wakes.2.2
      rw [Node.resolve_state_of_wakes wakes]
      constructor
      · nofun
      · intro positive
        omega
    · rw [Node.resolve_state_of_not_wakes wakes] at live ⊢
      have waiting := (waits live).1
      constructor
      · intro sleeping
        have positive := waiting.mp sleeping
        by_contra nothing
        exact wakes ⟨sleeping, by omega, by omega⟩
      · intro positive
        exact waiting.mpr (by omega)

/-- The counter and the state of a node that an operation has added. -/
theorem Sound.fresh_counter (sound : before.Sound) (fits : before.CountsFit operation)
    {id : AgentId} {new : Node} (known : before.node? id = none)
    (found : (before.step operation).node? id = some new) :
    new.unresolved.toNat = (before.step operation).pendingCount new.spec.dependencies ∧
      new.state = if (before.step operation).pendingCount new.spec.dependencies = 0 then .ready
        else .waitingDependency := by
  obtain ⟨tasks, now, task, offered, wellFormed, submitted, given, rfl⟩ :=
    (sound.effect operation).fresh sound.graph known found
  obtain ⟨same, member⟩ := taskOf_id given
  have small := fits tasks offered wellFormed task member
  obtain ⟨node, stored, _, state, _⟩ := submitted.new_state sound wellFormed member
  rw [same, found, Option.some.injEq] at stored
  subst stored
  rw [submittedNode_spec, pendingCount_congr fun dependency _ => submitted.pendingIn dependency,
    state, Nat.mod_eq_of_lt small]
  refine ⟨?_, rfl⟩
  change (UInt32.ofNat (before.pendingCount task.dependencies)).toNat = _
  rw [UInt32.toNat_ofNat', Nat.mod_eq_of_lt small]

theorem CountersExact.step (counted : before.CountersExact) (sound : before.Sound)
    (none : before.NoRetries) (fits : before.CountsFit operation) :
    (before.step operation).CountersExact := by
  intro id new found
  have effect := sound.effect operation
  have possible := ((sound.step operation).coherent id new found).possible
  have rest : isTerminal new.state = false → new.state ≠ .waitingDependency →
      new.state = .ready ∨ new.state = .waitingResource ∨ new.state = .dispatched ∨
        new.state = .running ∨ new.state = .blocked := by
    intro live waits
    revert live waits possible
    cases new.state <;> simp
  suffices both : new.unresolved.toNat =
      (before.step operation).pendingCount new.spec.dependencies ∧
        (isTerminal new.state = false → (new.state = .waitingDependency ↔
          0 < (before.step operation).pendingCount new.spec.dependencies)) from
    ⟨both.1, fun live => ⟨both.2 live, rest live⟩⟩
  cases known : before.node? id with
  | none =>
      obtain ⟨counter, state⟩ := sound.fresh_counter fits known found
      refine ⟨counter, fun _ => ?_⟩
      by_cases free : (before.step operation).pendingCount new.spec.dependencies = 0
      · simp [state, free]
      · simp [state, free, Nat.pos_of_ne_zero free]
  | some old =>
      cases completes : before.completing operation with
      | some source =>
          exact counted_completed (sound.completes effect completes) sound counted known found
      | none =>
          have keeps := sound.keepsCounters effect completes
          obtain ⟨next, nextFound, counter, spec⟩ := keeps.unresolved id old known
          rw [found, Option.some.injEq] at nextFound
          subst nextFound
          have same : (before.step operation).pendingCount new.spec.dependencies =
              before.pendingCount old.spec.dependencies := by
            rw [spec]
            refine pendingCount_congr fun dependency _ => ?_
            rcases keeps.pendingIn dependency with same | ⟨⟨_, _, node, _, present, _, left⟩, _⟩
            · exact same
            · exact absurd left (none.exhausted present)
          obtain ⟨next, nextFound, change⟩ := effect.change sound.graph id old known
          rw [found, Option.some.injEq] at nextFound
          subst nextFound
          obtain ⟨start, waits⟩ := counted id old known
          rw [counter, same]
          refine ⟨start, fun live => ?_⟩
          rcases change.live_cases (sound.coherent id old known) live with
            ⟨oldLive, agree⟩ | ⟨source, completed⟩ | ⟨_, left, _⟩
          · rw [agree]
            exact (waits oldLive).1
          · rw [completes] at completed
            cases completed
          · exact absurd left (none.exhausted known)

/-- A batch that was counted exactly has counts that fit. -/
theorem CountersExact.fits (counted : (before.step operation).CountersExact)
    (sound : before.Sound) : before.CountsFit operation := by
  intro tasks offered wellFormed task member
  obtain ⟨now, submitted⟩ := sound.graph.step_offered offered wellFormed
  have given := taskOf_of_mem wellFormed.distinct member
  have stored := submitted.fresh task.id (wellFormed.toAdmissible.missing_of_taskOf given)
  rw [given, Option.map_some] at stored
  have counter := (counted task.id _ stored).1
  rw [submittedNode_spec, pendingCount_congr fun dependency _ =>
    submitted.pendingIn dependency] at counter
  change (UInt32.ofNat (before.pendingCount task.dependencies)).toNat = _ at counter
  rw [← counter]
  exact UInt32.toNat_lt _

end Step

theorem completing_of_ok {scheduler : AgentScheduler} {source : AgentId} {now : TimePoint}
    (ok : (scheduler.complete source now).2.ok = true) :
    scheduler.completing (.complete source now) = some source := by
  unfold complete at ok
  cases found : scheduler.node? source with
  | none =>
      rw [found] at ok
      cases ok
  | some node =>
      rw [found] at ok
      dsimp only at ok
      cases moved : transitionLocked node .completed with
      | error message =>
          rw [moved] at ok
          cases ok
      | ok next =>
          have allowed := (transitionLocked_ok moved).1
          rw [(transitionAllowed_end node.state).1] at allowed
          simp only [completing, found, allowed, if_true]

theorem CountersExact.wakesExactly {scheduler : AgentScheduler} (sound : scheduler.Sound)
    (counted : scheduler.CountersExact) : scheduler.WakesExactly := by
  intro source now ok id
  have completes := completing_of_ok ok
  have completed : Completes scheduler (scheduler.complete source now).1 source :=
    sound.completes (sound.effect (.complete source now)) completes
  obtain ⟨sourceNode, _, _, sourceFound, active⟩ := completing_eq_some completes
  by_cases same : id = source
  · subst same
    obtain ⟨next, nextFound, done, _⟩ := completed.self sourceNode sourceFound
    constructor
    · rintro ⟨_, node, found, ready⟩
      rw [nextFound, Option.some.injEq] at found
      rw [← found, done] at ready
      cases ready
    · rintro ⟨node, found, waiting, _⟩
      rw [sourceFound, Option.some.injEq] at found
      rw [found, waiting] at active
      cases active
  · have next := completed.others id same
    cases known : scheduler.node? id with
    | none =>
        rw [known, Option.map_none] at next
        constructor
        · rintro ⟨_, node, found, _⟩
          rw [next] at found
          cases found
        · rintro ⟨node, found, _⟩
          cases found
    | some old =>
        rw [known, Option.map_some] at next
        have fewer := pendingCount_without completed.pending completed.pendingIn
          old.spec.dependencies
        have counter := (counted id old known).1
        have woken : (¬scheduler.HasState id .ready ∧
            (scheduler.complete source now).1.HasState id .ready) ↔
              old.Wakes (old.spec.dependencies.count source) := by
          constructor
          · rintro ⟨notReady, node, found, ready⟩
            rw [next, Option.some.injEq] at found
            subst found
            by_contra sleeps
            rw [Node.resolve_state_of_not_wakes sleeps] at ready
            exact notReady ⟨old, known, ready⟩
          · intro wakes
            refine ⟨?_, _, next, Node.resolve_state_of_wakes wakes⟩
            rintro ⟨node, found, ready⟩
            rw [known, Option.some.injEq] at found
            rw [← found, wakes.1] at ready
            cases ready
        rw [woken]
        constructor
        · rintro ⟨waiting, positive, below⟩
          refine ⟨old, rfl, waiting, List.count_pos_iff.mp positive, ?_⟩
          intro dependency listed pending
          by_contra different
          have still : (scheduler.complete source now).1.pendingIn dependency = true := by
            rw [completed.pendingIn, pending]
            exact bne_iff_ne.mpr different
          have left := (pendingCount_pos_iff _ _).mpr ⟨dependency, listed, still⟩
          omega
        · rintro ⟨node, found, waiting, listed, last⟩
          rw [Option.some.injEq] at found
          subst found
          have nothing : (scheduler.complete source now).1.pendingCount
              old.spec.dependencies = 0 := by
            refine Nat.eq_zero_of_not_pos fun positive => ?_
            obtain ⟨dependency, inList, pending⟩ := (pendingCount_pos_iff _ _).mp positive
            rw [completed.pendingIn, Bool.and_eq_true] at pending
            exact bne_iff_ne.mp pending.2 (last dependency inList pending.1)
          have positive := List.count_pos_iff.mpr listed
          exact ⟨waiting, positive, by omega⟩

theorem countersExact_initial : ({} : AgentScheduler).CountersExact := by
  intro id node found
  rw [node?_initial] at found
  cases found

theorem noRetries_initial : ({} : AgentScheduler).NoRetries := by
  intro id node found
  rw [node?_initial] at found
  cases found

/-- In a run whose tasks have no retries, every counter is exact and no wake-up is
lost, exactly when no accepted task has more uncompleted entries than its counter
can hold. -/
theorem dependency_counting_iff (operations : List Operation)
    (withoutRetries : ∀ operation ∈ operations, operation.WithoutRetries) :
    machine.Throughout (fun scheduler => scheduler.CountersExact ∧ scheduler.WakesExactly)
        machine.initial operations ↔
      machine.Along CountsFit machine.initial operations := by
  refine machine.throughout_iff_along (fun scheduler => scheduler.Sound ∧ scheduler.NoRetries)
    _ CountsFit Operation.WithoutRetries ?_ ?_ _ operations
    ⟨sound_initial, noRetries_initial⟩
    ⟨countersExact_initial, countersExact_initial.wakesExactly sound_initial⟩ withoutRetries
  · rintro scheduler operation ⟨sound, none⟩ allowed
    exact ⟨sound.step operation, none.step sound allowed⟩
  · rintro scheduler operation ⟨sound, none⟩ ⟨counted, _⟩ _
    constructor
    · rintro ⟨next, _⟩
      exact next.fits sound
    · intro fits
      have next := counted.step sound none fits
      exact ⟨next, next.wakesExactly (sound.step operation)⟩

/-- A batch whose dependency lists are short enough is counted without a wrap. -/
theorem countsFit_of_length {scheduler : AgentScheduler} {operation : Operation}
    {tasks : List AgentTaskSpec} (offered : scheduler.offered operation = some tasks)
    (short : ∀ task ∈ tasks, task.dependencies.length < 2 ^ 32) :
    scheduler.CountsFit operation := by
  intro batch offeredBatch _ task member
  rw [offered, Option.some.injEq] at offeredBatch
  subst offeredBatch
  exact Nat.lt_of_le_of_lt List.countP_le_length (short task member)

theorem countsFit_of_quiet {scheduler : AgentScheduler} {operation : Operation}
    (quiet : scheduler.offered operation = none) : scheduler.CountsFit operation := by
  intro tasks offered
  rw [quiet] at offered
  cases offered

/-- Two agents in a row, both executed. -/
def chain : List Operation :=
  [ .submitBatch [{ id := 1 }, { id := 2, dependencies := [1] }] 0 IterationOrder.asStored,
    .tryDispatch { availableCpuThreads := 1 } 0 IterationOrder.asStored,
    .complete 1 0 ]

theorem chain_countsFit : machine.Along CountsFit machine.initial chain := by
  refine ⟨countsFit_of_length rfl ?_, countsFit_of_quiet rfl, countsFit_of_quiet rfl, trivial⟩
  decide

theorem chain_counted_exactly :
    machine.Throughout (fun scheduler => scheduler.CountersExact ∧ scheduler.WakesExactly)
      machine.initial chain :=
  (dependency_counting_iff chain (by decide)).mpr chain_countsFit

def submitRepeating (count : Nat) : List Operation :=
  singleReady ++ [.submit (repeating count) 0 IterationOrder.asStored]

theorem submitRepeating_withoutRetries (count : Nat) :
    ∀ operation ∈ submitRepeating count, operation.WithoutRetries := by
  intro operation member
  rcases List.mem_append.mp member with first | second
  · rw [List.mem_singleton.mp first]
    intro task listed
    rw [List.mem_singleton.mp listed]
  · rw [List.mem_singleton.mp second]
    intro task listed
    rw [List.mem_singleton.mp listed]
    rfl

theorem repeating_fits_of_exact (count : Nat)
    (counted : (machine.run (submitRepeating count)).CountersExact) : count < 2 ^ 32 := by
  have sound := Reachable.sound (machine.reachable_run singleReady)
  unfold submitRepeating Machine.run at counted
  rw [machine.runFrom_append] at counted
  have last : ((machine.run singleReady).step
      (.submit (repeating count) 0 IterationOrder.asStored)).CountersExact := counted
  have fits := last.fits sound [repeating count] rfl (repeating_wellFormed count)
    (repeating count) (List.mem_singleton.mpr rfl)
  rw [← repeating_pendingCount count]
  exact fits

/-- `2 ^ 32` entries for one uncompleted agent leave a counter of zero. -/
theorem repeated_dependency_miscounted :
    ¬∀ operations : List Operation, (∀ operation ∈ operations, operation.WithoutRetries) →
      machine.Throughout (fun scheduler => scheduler.CountersExact ∧ scheduler.WakesExactly)
        machine.initial operations := by
  intro always
  have holds := always (submitRepeating (2 ^ 32)) (submitRepeating_withoutRetries (2 ^ 32))
  rw [← List.append_nil (submitRepeating (2 ^ 32))] at holds
  have counted := (Machine.Throughout.at_segment (submitRepeating (2 ^ 32)) [] holds).1
  exact Nat.lt_irrefl _ (repeating_fits_of_exact (2 ^ 32) counted)

end AgentScheduler

end AgentNucleus.Runtime
