/-
What `wait_until_idle` may conclude from its two reads.  The counter equals the
number of workers between their increment and their decrement, so a worker that
has obtained an agent and not counted itself is visible through its live agent
alone.
-/

import AgentNucleus.Runtime.StrandedAgents

set_option autoImplicit false

namespace AgentNucleus.Runtime

open AgentNucleus.Library

namespace AgentScheduler

/-- The operation makes a live agent terminal. -/
def Ends (scheduler : AgentScheduler) (operation : Operation) (id : AgentId) : Prop :=
  ¬scheduler.Settled id ∧ (scheduler.step operation).Settled id

/-- A live agent stays live in a step that ends nobody. -/
private theorem Change.live {operation : Operation} {id : AgentId} {old new : Node}
    {queued requeued : Prop} (change : Change operation none none id old queued requeued new)
    (coherent : old.Coherent queued) (live : isTerminal old.state = false) :
    isTerminal new.state = false := by
  cases change with
  | kept queue => exact live
  | linked ids queue => exact live
  | relabelled fitting was is =>
      have state := Node.relabel_state fitting
        ((isQueued_iff old.state).mp (coherent.queue.mp was))
      exact (isQueued_inactive ((isQueued_iff _).mpr state)).2
  | reserved was gone => rfl
  | moved moved queue =>
      rcases moved.state with same | ⟨_, active⟩
      · rw [same]
        exact live
      · exact (isActive_unqueued active).2
  | woken waking slept is => rfl
  | resolved source completed queue => cases completed
  | retried message now failing left is => rfl
  | released inactive queue => exact live
  | finished state error now ends active queue =>
      rcases ends with ⟨_, ends⟩ | ⟨_, ends⟩
      · cases ends
      · cases ends
  | cancelled root error now collapses live gone => cases collapses

theorem not_settled_iff (scheduler : AgentScheduler) (id : AgentId) :
    ¬scheduler.Settled id ↔
      ∃ node, scheduler.node? id = some node ∧ isTerminal node.state = false := by
  unfold Settled
  constructor
  · intro unsettled
    by_contra none
    apply unsettled
    intro node found
    by_contra live
    exact none ⟨node, found, Bool.eq_false_of_not_eq_true live⟩
  · intro some settled
    obtain ⟨node, found, live⟩ := some
    rw [settled node found] at live
    cases live

theorem Quiet.not_ends {scheduler : AgentScheduler} {operation : Operation}
    (quiet : scheduler.Quiet operation) (sound : scheduler.Sound) (id : AgentId) :
    ¬scheduler.Ends operation id := by
  intro ends
  obtain ⟨unsettled, settled⟩ := ends
  obtain ⟨old, found, live⟩ := (scheduler.not_settled_iff id).mp unsettled
  obtain ⟨new, newFound, change⟩ := (sound.effect operation).change sound.graph id old found
  rw [quiet.1, quiet.2] at change
  have still := change.live (sound.coherent id old found) live
  rw [settled new newFound] at still
  cases still

end AgentScheduler

namespace WorkerThreads

/-- No worker has obtained an agent that it has not reported. -/
def NobodyWorks (threads : WorkerThreads) : Prop :=
  ∀ place ∈ threads.workers, place.unreported = none

/-- The calls with which clients and reporting workers change the scheduler. -/
def schedules (threads : WorkerThreads) : Action → Option AgentScheduler.Operation
  | .call operation => if AgentRuntime.isClientCall operation then some operation else none
  | .cancel id now => some (.cancel id now)
  | .report worker now =>
      match threads.workers[worker]? with
      | some (.reporting id success message) => some (reportOperation id success message now)
      | _ => none
  | _ => none

/-- No batch is accepted and no failure is retried. -/
def NothingNew (threads : WorkerThreads) (action : Action) : Prop :=
  ∀ operation, threads.schedules action = some operation →
    ¬threads.scheduler.Revives operation

/-- Where `wait_until_idle` would return true, no worker holds an agent, and none
obtains one before something new is submitted or retried. -/
def Truthful (configured : UInt64) (threads : WorkerThreads) : Prop :=
  ∀ client, threads.returnsIdle client = true → threads.NobodyWorks ∧
    ∀ later, (machine configured).Along NothingNew
        (threads.step configured (.readCounter client)) later →
      (machine configured).Throughout NobodyWorks
        (threads.step configured (.readCounter client)) later

/-- Nobody ends an agent which a worker has obtained and not counted, and nothing
new arrives while a client stands between its two reads. -/
def KeepsVerdicts (threads : WorkerThreads) (action : Action) : Prop :=
  ∀ operation, threads.schedules action = some operation →
    (∀ place ∈ threads.workers, ∀ id, place.uncounted = some id →
      ¬threads.scheduler.Ends operation id) ∧
    ((∃ client, threads.terminalSeen client = true) → ¬threads.scheduler.Revives operation)

/-! ### The counter and the agents not counted -/

structure Watched (configured : UInt64) (threads : WorkerThreads) : Prop where
  sound : threads.scheduler.Sound
  counter : threads.activeExecutions.toNat = threads.workers.countP LoopPlace.counted
  capacity : threads.workers.length ≤ (workerCount configured).toNat
  starting : ∀ left, threads.control = .starting left →
    threads.running = true ∧ threads.workers.length + left = (workerCount configured).toNat
  emptied : threads.control = .idle → threads.running = false → threads.workers = []
  live : ∀ place ∈ threads.workers, ∀ id, place.uncounted = some id →
    ¬threads.scheduler.Settled id
  seen : ∀ client, threads.terminalSeen client = true → threads.scheduler.allTerminal = true

theorem LoopPlace.uncounted_of_uncounted {place : LoopPlace} (counted : place.counted = false) :
    place.uncounted = place.unreported := by
  unfold LoopPlace.uncounted
  rw [counted]
  exact if_neg Bool.false_ne_true

section Watched

variable {configured : UInt64} {threads : WorkerThreads}

theorem mem_moveTo (threads : WorkerThreads) {worker : WorkerId} {new place : LoopPlace}
    (member : place ∈ (threads.moveTo worker new).workers) :
    place = new ∨ place ∈ threads.workers :=
  (List.mem_or_eq_of_mem_set member).symm

/-- The number of counted workers changes as the moved one does. -/
theorem countP_moveTo (threads : WorkerThreads) {worker : WorkerId} {old : LoopPlace}
    (new : LoopPlace) (place : threads.workers[worker]? = some old) :
    (threads.moveTo worker new).workers.countP LoopPlace.counted + old.counted.toNat =
      threads.workers.countP LoopPlace.counted + new.counted.toNat :=
  countP_set_place LoopPlace.counted threads.workers worker old new place

theorem Watched.counted_lt (watched : threads.Watched configured) {worker : WorkerId}
    {old : LoopPlace} (place : threads.workers[worker]? = some old)
    (fresh : old.counted = false) :
    threads.workers.countP LoopPlace.counted + 1 < 2 ^ 64 := by
  have moved := countP_moveTo threads .uncounting place
  have bound : (threads.moveTo worker .uncounting).workers.countP LoopPlace.counted ≤
      (threads.moveTo worker .uncounting).workers.length := List.countP_le_length
  have length : (threads.moveTo worker .uncounting).workers.length = threads.workers.length :=
    List.length_set
  have capacity := watched.capacity
  have one : LoopPlace.uncounting.counted.toNat = 1 := rfl
  rw [fresh, one, Bool.toNat_false] at moved
  have room : threads.workers.countP LoopPlace.counted + 1 ≤ (workerCount configured).toNat := by
    omega
  exact Nat.lt_of_le_of_lt room (workerCount configured).toNat_lt

/-- A call that neither ends an uncounted agent nor revives one under the eyes of
a client. -/
theorem Watched.schedule (watched : threads.Watched configured)
    (operation : AgentScheduler.Operation)
    (spares : ∀ place ∈ threads.workers, ∀ id, place.uncounted = some id →
      ¬threads.scheduler.Ends operation id)
    (still : (∃ client, threads.terminalSeen client = true) →
      ¬threads.scheduler.Revives operation) :
    (threads.schedule operation).Watched configured where
  sound := watched.sound.step operation
  counter := watched.counter
  capacity := watched.capacity
  starting := watched.starting
  emptied := watched.emptied
  live := by
    intro place member id uncounted settled
    exact spares place member id uncounted ⟨watched.live place member id uncounted, settled⟩
  seen := by
    intro client saw
    exact AgentScheduler.allTerminal_step watched.sound (watched.seen client saw) operation
      (still ⟨client, saw⟩)

/-- A worker moves on; the counter follows when it crosses one of the two marks. -/
theorem Watched.relocate (watched : threads.Watched configured) {worker : WorkerId}
    {old : LoopPlace} (new : LoopPlace) (place : threads.workers[worker]? = some old)
    (counter : UInt64)
    (counts : counter.toNat + old.counted.toNat =
      threads.activeExecutions.toNat + new.counted.toNat)
    (live : ∀ id, new.uncounted = some id → ¬threads.scheduler.Settled id) :
    Watched configured ({ threads with activeExecutions := counter }.moveTo worker new) where
  sound := watched.sound
  counter := by
    have moved := countP_moveTo threads new place
    have before := watched.counter
    change counter.toNat = (threads.moveTo worker new).workers.countP LoopPlace.counted
    omega
  capacity := by
    change (threads.workers.set worker new).length ≤ _
    rw [List.length_set]
    exact watched.capacity
  starting := by
    intro left control
    change threads.running = true ∧ (threads.workers.set worker new).length + left = _
    rw [List.length_set]
    exact watched.starting left control
  emptied := by
    intro free halted
    rw [watched.emptied free halted] at place
    cases place
  live := by
    intro other member id uncounted
    rcases mem_moveTo threads member with same | before
    · rw [same] at uncounted
      exact live id uncounted
    · exact watched.live other before id uncounted
  seen := watched.seen

theorem Watched.moved (watched : threads.Watched configured) {worker : WorkerId}
    {old : LoopPlace} (new : LoopPlace) (place : threads.workers[worker]? = some old)
    (counted : new.counted = old.counted)
    (live : ∀ id, new.uncounted = some id → old.uncounted = some id) :
    (threads.moveTo worker new).Watched configured := by
  apply watched.relocate new place threads.activeExecutions
  · rw [counted]
  · intro id uncounted
    exact watched.live old (List.mem_of_getElem? place) id (live id uncounted)

theorem Watched.waitDispatch (watched : threads.Watched configured) {worker : WorkerId}
    (place : threads.workers[worker]? = some .waiting) (resources : MemorySnapshot)
    (now : TimePoint) (order : IterationOrder AgentId) :
    (threads.waitDispatch worker resources now order).Watched configured := by
  have scheduled := watched.schedule (.waitDispatch resources now order)
    (fun _ _ id _ => AgentScheduler.Quiet.not_ends ⟨rfl, rfl⟩ watched.sound id)
    (fun _ => AgentScheduler.not_revives rfl nofun)
  have moved := scheduled.relocate
    (.looking (threads.scheduler.waitDispatch resources now order).2) place
    threads.activeExecutions rfl (by
      intro id chosen
      have returned : (threads.scheduler.waitDispatch resources now order).2 = some id := chosen
      obtain ⟨_, node, found, state⟩ := AgentScheduler.waitDispatch_dispatched returned
      apply (AgentScheduler.not_settled_iff _ id).mpr
      refine ⟨node, found, ?_⟩
      rw [state]
      rfl)
  exact ⟨moved.sound, moved.counter, moved.capacity, moved.starting, moved.emptied, moved.live,
    moved.seen⟩

theorem Watched.createThread (watched : threads.Watched configured) {left : Nat}
    (control : threads.control = .starting (left + 1)) :
    Watched configured { threads with
      workers := threads.workers ++ [.condition]
      control := .starting left } := by
  obtain ⟨runs, total⟩ := watched.starting _ control
  refine ⟨watched.sound, ?_, ?_, ?_, nofun, ?_, watched.seen⟩
  · rw [List.countP_append]
    exact watched.counter
  · rw [List.length_append, List.length_singleton]
    omega
  · intro other same
    cases same
    refine ⟨runs, ?_⟩
    rw [List.length_append, List.length_singleton]
    omega
  · intro place member id uncounted
    rcases List.mem_append.mp member with old | new
    · exact watched.live place old id uncounted
    · rw [List.mem_singleton.mp new] at uncounted
      cases uncounted

/-- Exited threads count for nothing. -/
theorem Watched.join (watched : threads.Watched configured) (stopping : Bool)
    (gone : ∀ place ∈ threads.workers, place = .exited) :
    Watched configured { threads with
      workers := []
      control := .idle
      stopped := threads.stopped || stopping } := by
  refine ⟨watched.sound, ?_, Nat.zero_le _, nofun, fun _ _ => rfl, nofun, watched.seen⟩
  rw [watched.counter, List.countP_nil, List.countP_eq_zero]
  intro place member
  rw [gone place member]
  exact Bool.false_ne_true

theorem Watched.step (watched : threads.Watched configured) (action : Action)
    (guarded : threads.KeepsVerdicts action) :
    (threads.step configured action).Watched configured := by
  have effect := step_effect configured threads action
  generalize threads.step configured action = after at effect
  cases effect with
  | idle => exact watched
  | called operation client =>
      obtain ⟨spares, still⟩ := guarded operation (if_pos client)
      exact watched.schedule operation spares still
  | cancelled id now =>
      obtain ⟨spares, still⟩ := guarded (.cancel id now) rfl
      exact watched.schedule (.cancel id now) spares still
  | marked worker id processId now place =>
      apply watched.schedule (.markRunning id processId now)
      · intro _ _ other _
        exact AgentScheduler.Quiet.not_ends ⟨rfl, rfl⟩ watched.sound other
      · intro _
        exact AgentScheduler.not_revives rfl nofun
  | obtained worker resources now order place =>
      exact watched.waitDispatch place resources now order
  | moved worker old new place alive agent counted =>
      apply watched.moved new place counted
      intro id uncounted
      unfold LoopPlace.uncounted at uncounted ⊢
      rw [← counted, ← agent]
      exact uncounted
  | broke worker id place halted => exact watched.moved .exited place rfl nofun
  | vanished worker id place missing => exact watched.moved .condition place rfl nofun
  | counted worker id place =>
      have room := watched.counted_lt place rfl
      have counter := watched.counter
      apply watched.relocate (.executing id) place (threads.activeExecutions + 1)
      · rw [UInt64.toNat_add]
        change (threads.activeExecutions.toNat + 1) % 2 ^ 64 + 0 =
          threads.activeExecutions.toNat + 1
        rw [Nat.mod_eq_of_lt (by omega)]
      · nofun
  | reported worker id success message now place =>
      obtain ⟨spares, still⟩ := guarded (reportOperation id success message now)
        (by simp only [schedules, place])
      have scheduled := watched.schedule _ spares still
      have moved := scheduled.moved .uncounting place rfl nofun
      exact ⟨moved.sound, moved.counter, moved.capacity, moved.starting, moved.emptied,
        moved.live, moved.seen⟩
  | uncounted worker place =>
      have positive : 0 < threads.workers.countP LoopPlace.counted :=
        List.countP_pos_iff.mpr ⟨_, List.mem_of_getElem? place, rfl⟩
      have counter := watched.counter
      apply watched.relocate .condition place (threads.activeExecutions - 1)
      · have one : (1 : UInt64) ≤ threads.activeExecutions := by
          rw [UInt64.le_iff_toNat_le]
          change 1 ≤ _
          omega
        rw [UInt64.toNat_sub_of_le _ _ one]
        change threads.activeExecutions.toNat - 1 + 1 = threads.activeExecutions.toNat + 0
        omega
      · nofun
  | started free halted =>
      have none := watched.emptied free halted
      refine ⟨watched.sound, watched.counter, watched.capacity, ?_, nofun, watched.live,
        watched.seen⟩
      intro left same
      cases same
      refine ⟨rfl, ?_⟩
      rw [none]
      exact Nat.zero_add _
  | allCreated created control =>
      refine ⟨watched.sound, watched.counter, watched.capacity, nofun, ?_, watched.live,
        watched.seen⟩
      intro _ halted
      change threads.running = false at halted
      rw [(watched.starting 0 control).1] at halted
      cases halted
  | created left control => exact watched.createThread control
  | abandoned left control =>
      exact ⟨watched.sound, watched.counter, watched.capacity, nofun, nofun, watched.live,
        watched.seen⟩
  | stopIgnored halted =>
      exact ⟨watched.sound, watched.counter, watched.capacity, watched.starting,
        watched.emptied, watched.live, watched.seen⟩
  | stopping free runs =>
      exact ⟨watched.sound, watched.counter, watched.capacity, nofun, nofun, watched.live,
        watched.seen⟩
  | joined stopping control gone => exact watched.join stopping gone
  | sawTerminal client =>
      refine ⟨watched.sound, watched.counter, watched.capacity, watched.starting,
        watched.emptied, watched.live, ?_⟩
      intro other saw
      by_cases own : other = client
      · rw [own] at saw
        exact (Function.update_self client _ threads.terminalSeen).symm.trans saw
      · exact watched.seen other ((Function.update_of_ne own _ _).symm.trans saw)
  | sawCounter client =>
      refine ⟨watched.sound, watched.counter, watched.capacity, watched.starting,
        watched.emptied, watched.live, ?_⟩
      intro other saw
      by_cases own : other = client
      · rw [own] at saw
        have cleared := (Function.update_self client false threads.terminalSeen).symm.trans saw
        cases cleared
      · exact watched.seen other ((Function.update_of_ne own _ _).symm.trans saw)

theorem watched_initial (configured : UInt64) : ({} : WorkerThreads).Watched configured where
  sound := AgentScheduler.sound_initial
  counter := rfl
  capacity := Nat.zero_le _
  starting := nofun
  emptied := fun _ _ => rfl
  live := nofun
  seen := nofun

/-! ### After the verdict -/

/-- All agents are terminal and no worker has one. -/
structure AtRest (threads : WorkerThreads) : Prop where
  sound : threads.scheduler.Sound
  terminal : threads.scheduler.allTerminal = true
  nobody : threads.NobodyWorks

/-- A worker whose agent is live and uncounted contradicts the first read, a
counted one the second. -/
theorem Watched.atRest (watched : threads.Watched configured) {client : ClientId}
    (verdict : threads.returnsIdle client = true) : threads.AtRest := by
  unfold returnsIdle at verdict
  rw [Bool.and_eq_true] at verdict
  obtain ⟨saw, zero⟩ := verdict
  have terminal := watched.seen client saw
  refine ⟨watched.sound, terminal, ?_⟩
  intro place member
  cases agent : place.unreported with
  | none => rfl
  | some id =>
      exfalso
      cases counted : place.counted with
      | true =>
          have positive : 0 < threads.workers.countP LoopPlace.counted :=
            List.countP_pos_iff.mpr ⟨place, member, counted⟩
          have counter := watched.counter
          rw [eq_of_beq zero] at counter
          change 0 = _ at counter
          omega
      | false =>
          have uncounted := (LoopPlace.uncounted_of_uncounted counted).trans agent
          apply watched.live place member id uncounted
          exact (AgentScheduler.allTerminal_iff threads.scheduler).mp terminal id

theorem AtRest.schedule (rest : threads.AtRest) (operation : AgentScheduler.Operation)
    (nothing : ¬threads.scheduler.Revives operation) : (threads.schedule operation).AtRest where
  sound := rest.sound.step operation
  terminal := AgentScheduler.allTerminal_step rest.sound rest.terminal operation nothing
  nobody := rest.nobody

theorem AtRest.moveTo (rest : threads.AtRest) (worker : WorkerId) (new : LoopPlace)
    (free : new.unreported = none) : (threads.moveTo worker new).AtRest where
  sound := rest.sound
  terminal := rest.terminal
  nobody := by
    intro place member
    rcases mem_moveTo threads member with same | before
    · rw [same]
      exact free
    · exact rest.nobody place before

theorem AtRest.not_holding (rest : threads.AtRest) {worker : WorkerId} {place : LoopPlace}
    {id : AgentId} (present : threads.workers[worker]? = some place) :
    place.unreported ≠ some id := by
  intro agent
  rw [rest.nobody place (List.mem_of_getElem? present)] at agent
  cases agent

theorem AtRest.waitDispatch (rest : threads.AtRest) (worker : WorkerId)
    (resources : MemorySnapshot) (now : TimePoint) (order : IterationOrder AgentId) :
    (threads.waitDispatch worker resources now order).AtRest := by
  have nothing := AgentScheduler.waitDispatch_of_allTerminal rest.sound rest.terminal
    resources now order
  have scheduled := rest.schedule (.waitDispatch resources now order)
    (AgentScheduler.not_revives rfl nofun)
  have moved := scheduled.moveTo worker
    (.looking (threads.scheduler.waitDispatch resources now order).2) nothing
  exact ⟨moved.sound, moved.terminal, moved.nobody⟩

theorem AtRest.step (rest : threads.AtRest) (configured : UInt64) (action : Action)
    (nothing : threads.NothingNew action) : (threads.step configured action).AtRest := by
  have effect := step_effect configured threads action
  generalize threads.step configured action = after at effect
  cases effect with
  | idle => exact rest
  | called operation client =>
      exact rest.schedule operation (nothing operation (if_pos client))
  | cancelled id now => exact rest.schedule (.cancel id now) (nothing (.cancel id now) rfl)
  | marked worker id processId now place => exact absurd rfl (rest.not_holding place)
  | obtained worker resources now order place =>
      exact rest.waitDispatch worker resources now order
  | moved worker old new place alive agent counted =>
      apply rest.moveTo worker
      rw [agent]
      exact rest.nobody old (List.mem_of_getElem? place)
  | broke worker id place halted => exact rest.moveTo worker _ rfl
  | vanished worker id place missing => exact rest.moveTo worker _ rfl
  | counted worker id place => exact absurd rfl (rest.not_holding place)
  | reported worker id success message now place =>
      exact absurd rfl (rest.not_holding place)
  | uncounted worker place =>
      have moved := rest.moveTo worker .condition rfl
      exact ⟨moved.sound, moved.terminal, moved.nobody⟩
  | started free halted => exact ⟨rest.sound, rest.terminal, rest.nobody⟩
  | allCreated created control => exact ⟨rest.sound, rest.terminal, rest.nobody⟩
  | created left control =>
      refine ⟨rest.sound, rest.terminal, ?_⟩
      intro place member
      rcases List.mem_append.mp member with old | new
      · exact rest.nobody place old
      · rw [List.mem_singleton.mp new]
        rfl
  | abandoned left control => exact ⟨rest.sound, rest.terminal, rest.nobody⟩
  | stopIgnored halted => exact ⟨rest.sound, rest.terminal, rest.nobody⟩
  | stopping free runs => exact ⟨rest.sound, rest.terminal, rest.nobody⟩
  | joined stopping control gone => exact ⟨rest.sound, rest.terminal, nofun⟩
  | sawTerminal client => exact ⟨rest.sound, rest.terminal, rest.nobody⟩
  | sawCounter client => exact ⟨rest.sound, rest.terminal, rest.nobody⟩

theorem Watched.truthful (watched : threads.Watched configured) :
    threads.Truthful configured := by
  intro client verdict
  have rest := watched.atRest verdict
  refine ⟨rest.nobody, ?_⟩
  intro later quiet
  apply Machine.Throughout.mono (fun _ (rest : AtRest _) => rest.nobody)
  apply (machine configured).throughout_of_along AtRest NothingNew _ _ later _ quiet
  · intro current action atRest nothing
    exact atRest.step configured action nothing
  · exact ⟨rest.sound, rest.terminal, rest.nobody⟩

end Watched

/-- In a run in which nobody ends an agent that a worker has yet to count, and in
which nothing arrives between the two reads of a client, a verdict of idleness is
true and stays true until something new arrives. -/
theorem idle_verdicts_truthful (configured : UInt64) (actions : List Action)
    (guarded : (machine configured).Along KeepsVerdicts {} actions) :
    (machine configured).Throughout (Truthful configured) {} actions := by
  apply Machine.Throughout.mono (fun _ watched => Watched.truthful watched)
  apply (machine configured).throughout_of_along (Watched configured) KeepsVerdicts _ _ actions
    (watched_initial configured) guarded
  intro threads action watched guard
  exact watched.step action guard

/-- The worker completes agent 1 before a client looks. -/
def verdictAfterWork : List Action :=
  [ .call (.submit { id := 1 } 0 IterationOrder.asStored),
    .start true, .createThread true, .createThread true, .testRunning 0,
    .waitDispatch 0 { availableCpuThreads := 1 } 0 IterationOrder.asStored,
    .lookAgain 0, .snapshot 0, .count 0, .markRunning 0 (-1) 0, .finish 0 true [],
    .report 0 0, .uncount 0, .readTerminal 0 ]

theorem keepsVerdicts_of_unscheduled {threads : WorkerThreads} {action : Action}
    (nothing : threads.schedules action = none) : threads.KeepsVerdicts action := by
  intro operation scheduled
  rw [nothing] at scheduled
  cases scheduled

/-- Nobody is watching and every worker with an agent is counted. -/
theorem keepsVerdicts_of_unwatched {threads : WorkerThreads} {action : Action}
    (counted : ∀ place ∈ threads.workers, place.uncounted = none)
    (unseen : ∀ client, threads.terminalSeen client = false) :
    threads.KeepsVerdicts action := by
  intro operation _
  constructor
  · intro place member id uncounted
    rw [counted place member] at uncounted
    cases uncounted
  · intro saw
    obtain ⟨client, seen⟩ := saw
    rw [unseen client] at seen
    cases seen

theorem verdictAfterWork_guarded : (machine 1).Along KeepsVerdicts {} verdictAfterWork := by
  have quiet : ∀ {threads : WorkerThreads} {action : Action},
      threads.schedules action = none → threads.KeepsVerdicts action :=
    keepsVerdicts_of_unscheduled
  have counted : ∀ place ∈ ((machine 1).runFrom {} (verdictAfterWork.take 11)).workers,
      place.uncounted = none := by decide +kernel
  exact ⟨keepsVerdicts_of_unwatched nofun fun _ => rfl, quiet rfl, quiet rfl, quiet rfl,
    quiet rfl, quiet rfl, quiet rfl, quiet rfl, quiet rfl, quiet rfl, quiet rfl,
    keepsVerdicts_of_unwatched counted fun _ => rfl, quiet rfl, quiet rfl, trivial⟩

theorem verdictAfterWork_truthful :
    (machine 1).Throughout (Truthful 1) {} verdictAfterWork :=
  idle_verdicts_truthful 1 verdictAfterWork verdictAfterWork_guarded

/-- A client cancels agent 1 after the worker has obtained it and before it counts
itself. -/
def cancelledBeforeCount : List Action :=
  [ .call (.submit { id := 1 } 0 IterationOrder.asStored),
    .start true, .createThread true, .createThread true, .testRunning 0,
    .waitDispatch 0 { availableCpuThreads := 1 } 0 IterationOrder.asStored,
    .lookAgain 0, .snapshot 0, .cancel 1 0, .readTerminal 0 ]

theorem idle_verdict_misses_worker :
    ¬∀ (configured : UInt64) (actions : List Action),
      (machine configured).Throughout (Truthful configured) {} actions := by
  intro always
  have holds := always 1 cancelledBeforeCount
  rw [← List.append_nil cancelledBeforeCount] at holds
  have truthful := Machine.Throughout.at_segment cancelledBeforeCount [] holds
  let final := (machine 1).runFrom {} cancelledBeforeCount
  have verdict : final.returnsIdle 0 = true := by decide +kernel
  have place : final.workers = [.counting 1] := by decide +kernel
  have nobody := (truthful 0 verdict).1 (.counting 1)
  rw [show ((machine 1).runFrom {} cancelledBeforeCount).workers = [.counting 1] from place]
    at nobody
  cases nobody (List.mem_singleton.mpr rfl)

end WorkerThreads

end AgentNucleus.Runtime
