/-
What `stop` leaves behind.  Every active agent is in the hands of a worker, and a
worker lets go of its agent by a report; the exception is the second look at
`running_`, which throws away what `wait_dispatch` has returned.
-/

import AgentNucleus.Runtime.ActiveAgents
import AgentNucleus.Runtime.Cancellation
import AgentNucleus.Runtime.WorkerSteps

set_option autoImplicit false

namespace AgentNucleus.Runtime

open AgentNucleus.Library

namespace WorkerThreads

/-- Nothing is left over from the workers: no agent is active or holds a
reservation, every live agent can run after another `start`, and every agent that
a worker has obtained was reported by it. -/
structure NobodyStranded (threads : WorkerThreads) : Prop where
  inactive : ∀ id node, threads.scheduler.node? id = some node →
    node.state ≠ .dispatched ∧ node.state ≠ .running ∧ node.state ≠ .blocked
  runnable : ∀ id node, threads.scheduler.node? id = some node →
    isTerminal node.state = true ∨ node.state = .waitingDependency ∨ id ∈ threads.scheduler.ready
  released : ∀ id node, threads.scheduler.node? id = some node → node.resourcesReserved = false
  counters : threads.scheduler.reservedCpuThreads = 0 ∧ threads.scheduler.reservedMemoryBytes = 0
  reported : ∀ worker, threads.owed worker = []

/-- As long as the last call of `start` or `stop` to return was one of `stop`. -/
def StopsCleanly (threads : WorkerThreads) : Prop :=
  threads.stopped = true → threads.NobodyStranded

/-- A worker that finds the runtime stopped at its second look has obtained no
agent, and a `stop` that finds the runtime stopped already has no worker to wait for. -/
def LeavesNobody (threads : WorkerThreads) (action : Action) : Prop :=
  (∀ worker id, action = .lookAgain worker →
    threads.workers[worker]? = some (.looking (some id)) → threads.running = true) ∧
  (action = .stop → threads.running = false → ∀ place ∈ threads.workers, place = .exited)

/-- Every active agent has its worker. -/
structure Staffed (threads : WorkerThreads) : Prop where
  sound : threads.scheduler.Sound
  reserved : threads.scheduler.ReservedActive
  ledger : threads.scheduler.LedgerExact
  held : ∀ id node, threads.scheduler.node? id = some node → isActive node.state = true →
    ∃ (worker : WorkerId) (place : LoopPlace),
      threads.workers[worker]? = some place ∧ place.unreported = some id
  stored : ∀ (worker : WorkerId) (place : LoopPlace) (id : AgentId),
    threads.workers[worker]? = some place → place.unreported = some id →
      ∃ node, threads.scheduler.node? id = some node
  owed : ∀ worker,
    threads.owed worker = (threads.workers[worker]?.bind LoopPlace.unreported).toList
  halted : threads.stopped = true → ∀ place ∈ threads.workers, place = .exited
  starting : ∀ left, threads.control = .starting left →
    threads.running = true ∧ threads.stopped = false

section Staffed

variable {threads : WorkerThreads}

theorem workers_moveTo (threads : WorkerThreads) (worker : WorkerId) {old : LoopPlace}
    (new : LoopPlace) (place : threads.workers[worker]? = some old) (other : WorkerId) :
    (threads.moveTo worker new).workers[other]? =
      if other = worker then some new else threads.workers[other]? := by
  have within : worker < threads.workers.length := (List.getElem?_eq_some_iff.mp place).1
  unfold moveTo
  by_cases same : other = worker
  · subst same
    rw [if_pos rfl]
    exact List.getElem?_set_self within
  · rw [if_neg same]
    exact List.getElem?_set_ne (Ne.symm same)

theorem Staffed.owed_at (staffed : threads.Staffed) {worker : WorkerId} {place : LoopPlace}
    (present : threads.workers[worker]? = some place) :
    threads.owed worker = place.unreported.toList := by
  rw [staffed.owed, present, Option.bind_some]

theorem Staffed.not_stopped (staffed : threads.Staffed) {worker : WorkerId} {place : LoopPlace}
    (present : threads.workers[worker]? = some place) (alive : place ≠ .exited) :
    threads.stopped ≠ true := by
  intro stopped
  exact alive (staffed.halted stopped place (List.mem_of_getElem? present))

/-- A worker that has left its loop holds nothing. -/
theorem Staffed.inactive_of_exited (staffed : threads.Staffed)
    (gone : ∀ place ∈ threads.workers, place = .exited) {id : AgentId} {node : Node}
    (found : threads.scheduler.node? id = some node) : isActive node.state = false := by
  by_contra held
  obtain ⟨worker, place, present, agent⟩ :=
    staffed.held id node found (Bool.eq_true_of_not_eq_false held)
  rw [gone place (List.mem_of_getElem? present)] at agent
  cases agent

/-- A call that dispatches nobody leaves the agents with their workers. -/
theorem Staffed.schedule (staffed : threads.Staffed) (operation : AgentScheduler.Operation)
    (undispatched : ∀ resources now order,
      ¬AgentScheduler.Dispatches operation resources now order)
    (asleep : ∀ id, operation ≠ .wake id) : (threads.schedule operation).Staffed where
  sound := staffed.sound.step operation
  reserved := staffed.reserved.step staffed.sound operation asleep
  ledger := (staffed.ledger.step_iff staffed.sound operation).mpr
    (staffed.reserved.not_redispatched staffed.sound operation)
  held := by
    intro id new found active
    obtain ⟨old, present, oldActive⟩ :=
      staffed.sound.active_before operation undispatched found active
    exact staffed.held id old present oldActive
  stored := by
    intro worker place id present agent
    obtain ⟨old, found⟩ := staffed.stored worker place id present agent
    obtain ⟨new, newFound, _⟩ := (staffed.sound.effect operation).keepsTask found
    exact ⟨new, newFound⟩
  owed := staffed.owed
  halted := staffed.halted
  starting := staffed.starting

/-- A worker moves on, and lets go of its agent only when that is not active. -/
theorem Staffed.relocate (staffed : threads.Staffed) {worker : WorkerId} {old : LoopPlace}
    (new : LoopPlace) (place : threads.workers[worker]? = some old) (alive : old ≠ .exited)
    (owed : WorkerId → List AgentId)
    (kept : ∀ id, old.unreported = some id →
      new.unreported = some id ∨ threads.scheduler.Inactive id)
    (same : ∀ id, new.unreported = some id → old.unreported = some id)
    (books : ∀ other, owed other =
      if other = worker then new.unreported.toList else threads.owed other) :
    ({ threads with owed := owed }.moveTo worker new).Staffed where
  sound := staffed.sound
  reserved := staffed.reserved
  ledger := staffed.ledger
  held := by
    intro id node found active
    obtain ⟨holder, at_, present, agent⟩ := staffed.held id node found active
    have moved := workers_moveTo { threads with owed := owed } worker new place
    by_cases own : holder = worker
    · subst own
      have before : old = at_ := Option.some.inj (place.symm.trans present)
      rw [← before] at agent
      rcases kept id agent with still | inactive
      · exact ⟨holder, new, by rw [moved, if_pos rfl], still⟩
      · rw [inactive node found] at active
        cases active
    · exact ⟨holder, at_, by rw [moved, if_neg own]; exact present, agent⟩
  stored := by
    intro other at_ id present agent
    rw [workers_moveTo { threads with owed := owed } worker new place] at present
    by_cases own : other = worker
    · rw [if_pos own, Option.some.injEq] at present
      rw [← present] at agent
      exact staffed.stored worker old id place (same id agent)
    · rw [if_neg own] at present
      exact staffed.stored other at_ id present agent
  owed := by
    intro other
    change owed other = _
    rw [books, workers_moveTo { threads with owed := owed } worker new place]
    by_cases own : other = worker
    · rw [if_pos own, if_pos own, Option.bind_some]
    · rw [if_neg own, if_neg own]
      exact staffed.owed other
  halted := fun stopped => absurd stopped (staffed.not_stopped place alive)
  starting := staffed.starting

theorem Staffed.moved (staffed : threads.Staffed) {worker : WorkerId} {old : LoopPlace}
    (new : LoopPlace) (place : threads.workers[worker]? = some old) (alive : old ≠ .exited)
    (agent : new.unreported = old.unreported) : (threads.moveTo worker new).Staffed := by
  apply staffed.relocate new place alive threads.owed
  · intro id unreported
    exact Or.inl (agent.trans unreported)
  · intro id unreported
    exact agent.symm.trans unreported
  · intro other
    by_cases own : other = worker
    · rw [if_pos own, own, staffed.owed_at place, agent]
    · rw [if_neg own]

theorem Staffed.waitDispatch (staffed : threads.Staffed) {worker : WorkerId}
    (place : threads.workers[worker]? = some .waiting) (resources : MemorySnapshot)
    (now : TimePoint) (order : IterationOrder AgentId) :
    (threads.waitDispatch worker resources now order).Staffed where
  sound := staffed.sound.step (.waitDispatch resources now order)
  reserved := staffed.reserved.step staffed.sound (.waitDispatch resources now order) nofun
  ledger := (staffed.ledger.step_iff staffed.sound (.waitDispatch resources now order)).mpr
    (staffed.reserved.not_redispatched staffed.sound _)
  held := by
    intro id new found active
    have moved := workers_moveTo threads worker
      (.looking (threads.scheduler.waitDispatch resources now order).2) place
    rcases (staffed.sound.effect (.waitDispatch resources now order)).activated staffed.sound
        found active with ⟨old, present, oldActive⟩ | ⟨_, _, _, dispatches, chosen⟩
    · obtain ⟨holder, at_, there, agent⟩ := staffed.held id old present oldActive
      have other : holder ≠ worker := by
        intro same
        rw [same, place, Option.some.injEq] at there
        rw [← there] at agent
        cases agent
      exact ⟨holder, at_, by rw [← there]; exact (moved holder).trans (if_neg other), agent⟩
    · cases dispatches
      exact ⟨worker, _, (moved worker).trans (if_pos rfl), chosen⟩
  stored := by
    intro other at_ id present agent
    have moved := workers_moveTo threads worker
      (.looking (threads.scheduler.waitDispatch resources now order).2) place other
    have there := moved.symm.trans present
    by_cases own : other = worker
    · rw [if_pos own, Option.some.injEq] at there
      rw [← there] at agent
      obtain ⟨_, node, found, _⟩ := AgentScheduler.waitDispatch_dispatched agent
      exact ⟨node, found⟩
    · rw [if_neg own] at there
      obtain ⟨old, found⟩ := staffed.stored other at_ id there agent
      obtain ⟨new, newFound, _⟩ :=
        (staffed.sound.effect (.waitDispatch resources now order)).keepsTask found
      exact ⟨new, newFound⟩
  owed := by
    intro other
    have moved := workers_moveTo threads worker
      (.looking (threads.scheduler.waitDispatch resources now order).2) place other
    change Function.update threads.owed worker _ other = Option.toList (Option.bind _ _)
    rw [show (threads.waitDispatch worker resources now order).workers[other]? = _ from moved]
    by_cases own : other = worker
    · rw [own, Function.update_self, if_pos rfl, Option.bind_some, staffed.owed_at place]
      exact List.append_nil _
    · rw [Function.update_of_ne own, if_neg own]
      exact staffed.owed other
  halted := fun stopped => absurd stopped (staffed.not_stopped place nofun)
  starting := staffed.starting

theorem reportOperation_undispatched (id : AgentId) (success : Bool) (message : StdString)
    (now : TimePoint) :
    (∀ resources time order, ¬AgentScheduler.Dispatches
      (reportOperation id success message now) resources time order) ∧
    ∀ other, reportOperation id success message now ≠ .wake other := by
  cases success with
  | true => exact ⟨nofun, nofun⟩
  | false => exact ⟨nofun, nofun⟩

/-- After its report the agent is not active. -/
theorem reportOperation_inactive {scheduler : AgentScheduler} (sound : scheduler.Sound)
    (id : AgentId) (success : Bool) (message : StdString) (now : TimePoint) :
    (scheduler.step (reportOperation id success message now)).Inactive id := by
  cases success with
  | true => exact AgentScheduler.complete_inactive sound id now
  | false => exact AgentScheduler.fail_inactive sound id message now

theorem Staffed.report (staffed : threads.Staffed) {worker : WorkerId} {id : AgentId}
    {success : Bool} {message : StdString} (now : TimePoint)
    (place : threads.workers[worker]? = some (.reporting id success message)) :
    ({ threads.schedule (reportOperation id success message now) with
        owed := Function.update threads.owed worker ((threads.owed worker).erase id) }.moveTo
      worker .uncounting).Staffed := by
  obtain ⟨undispatched, asleep⟩ := reportOperation_undispatched id success message now
  have scheduled := staffed.schedule _ undispatched asleep
  apply scheduled.relocate .uncounting place nofun
  · intro other agent
    have same : id = other := Option.some.inj agent
    rw [← same]
    exact Or.inr (reportOperation_inactive staffed.sound id success message now)
  · nofun
  · intro other
    by_cases own : other = worker
    · rw [own, Function.update_self, if_pos rfl, staffed.owed_at place]
      change [id].erase id = []
      exact List.erase_cons_head id []
    · rw [Function.update_of_ne own, if_neg own]
      rfl

theorem isClientCall_undispatched {operation : AgentScheduler.Operation}
    (client : AgentRuntime.isClientCall operation = true) (resources : MemorySnapshot)
    (now : TimePoint) (order : IterationOrder AgentId) :
    ¬AgentScheduler.Dispatches operation resources now order := by
  intro dispatches
  cases dispatches with
  | tryDispatch _ _ _ => cases client
  | waitDispatch _ _ _ => cases client

/-- A new thread holds nothing. -/
private theorem agent_append (places : List LoopPlace) (worker : WorkerId) :
    (places ++ [.condition])[worker]?.bind LoopPlace.unreported =
      places[worker]?.bind LoopPlace.unreported := by
  rw [List.getElem?_append]
  split
  · rfl
  · rename_i outside
    rw [List.getElem?_eq_none (Nat.le_of_not_lt outside)]
    cases worker - places.length with
    | zero => rfl
    | succ _ => rfl

theorem Staffed.createThread (staffed : threads.Staffed) {left : Nat}
    (control : threads.control = .starting (left + 1)) :
    Staffed { threads with
      workers := threads.workers ++ [.condition]
      control := .starting left } where
  sound := staffed.sound
  reserved := staffed.reserved
  ledger := staffed.ledger
  held := by
    intro id node found active
    obtain ⟨worker, place, present, agent⟩ := staffed.held id node found active
    refine ⟨worker, place, ?_, agent⟩
    exact (List.getElem?_append_left (List.getElem?_eq_some_iff.mp present).1).trans present
  stored := by
    intro worker place id present agent
    have added := agent_append threads.workers worker
    rw [present, Option.bind_some, agent] at added
    obtain ⟨old, there, holds⟩ := Option.bind_eq_some_iff.mp added.symm
    exact staffed.stored worker old id there holds
  owed := by
    intro worker
    rw [agent_append]
    exact staffed.owed worker
  halted := by
    intro stopped
    change threads.stopped = true at stopped
    rw [(staffed.starting _ control).2] at stopped
    cases stopped
  starting := fun _ _ => staffed.starting _ control

/-- The joins return when every thread has left its loop. -/
theorem Staffed.join (staffed : threads.Staffed) (stopping : Bool)
    (gone : ∀ place ∈ threads.workers, place = .exited) :
    Staffed { threads with
      workers := []
      control := .idle
      stopped := threads.stopped || stopping } where
  sound := staffed.sound
  reserved := staffed.reserved
  ledger := staffed.ledger
  held := by
    intro id node found active
    rw [staffed.inactive_of_exited gone found] at active
    cases active
  stored := nofun
  owed := by
    intro worker
    change threads.owed worker = []
    rw [staffed.owed worker]
    cases present : threads.workers[worker]? with
    | none => rfl
    | some place =>
        rw [gone place (List.mem_of_getElem? present)]
        rfl
  halted := nofun
  starting := nofun

theorem Staffed.step (staffed : threads.Staffed) (configured : UInt64) (action : Action)
    (guarded : threads.LeavesNobody action) : (threads.step configured action).Staffed := by
  have effect := step_effect configured threads action
  generalize threads.step configured action = after at effect
  cases effect with
  | idle => exact staffed
  | called operation client =>
      apply staffed.schedule operation (isClientCall_undispatched client)
      exact (AgentRuntime.isClientCall_harmless client).1
  | cancelled id now => exact staffed.schedule (.cancel id now) nofun nofun
  | marked worker id processId now place =>
      exact staffed.schedule (.markRunning id processId now) nofun nofun
  | obtained worker resources now order place =>
      exact staffed.waitDispatch place resources now order
  | moved worker old new place alive agent counted =>
      exact staffed.moved new place alive agent
  | broke worker id place halted =>
      cases id with
      | none => exact staffed.moved .exited place nofun rfl
      | some id =>
          rw [guarded.1 worker id rfl place] at halted
          cases halted
  | vanished worker id place missing =>
      obtain ⟨node, found⟩ := staffed.stored worker _ id place rfl
      rw [missing] at found
      cases found
  | counted worker id place =>
      have ticked : Staffed { threads with activeExecutions := threads.activeExecutions + 1 } :=
        ⟨staffed.sound, staffed.reserved, staffed.ledger, staffed.held, staffed.stored,
          staffed.owed, staffed.halted, staffed.starting⟩
      exact ticked.moved (.executing id) place nofun rfl
  | reported worker id success message now place => exact staffed.report now place
  | uncounted worker place =>
      have ticked : Staffed { threads with activeExecutions := threads.activeExecutions - 1 } :=
        ⟨staffed.sound, staffed.reserved, staffed.ledger, staffed.held, staffed.stored,
          staffed.owed, staffed.halted, staffed.starting⟩
      exact ticked.moved .condition place nofun rfl
  | started free halted =>
      exact ⟨staffed.sound, staffed.reserved, staffed.ledger, staffed.held, staffed.stored,
        staffed.owed, nofun, fun _ _ => ⟨rfl, rfl⟩⟩
  | allCreated created control =>
      exact ⟨staffed.sound, staffed.reserved, staffed.ledger, staffed.held, staffed.stored,
        staffed.owed, staffed.halted, nofun⟩
  | created left control => exact staffed.createThread control
  | abandoned left control =>
      exact ⟨staffed.sound, staffed.reserved, staffed.ledger, staffed.held, staffed.stored,
        staffed.owed, staffed.halted, nofun⟩
  | stopIgnored halted =>
      refine ⟨staffed.sound, staffed.reserved, staffed.ledger, staffed.held, staffed.stored,
        staffed.owed, fun _ => guarded.2 rfl halted, ?_⟩
      intro left control
      rw [(staffed.starting left control).1] at halted
      cases halted
  | stopping free runs =>
      exact ⟨staffed.sound, staffed.reserved, staffed.ledger, staffed.held, staffed.stored,
        staffed.owed, staffed.halted, nofun⟩
  | joined stopping control gone => exact staffed.join stopping gone
  | sawTerminal client =>
      exact ⟨staffed.sound, staffed.reserved, staffed.ledger, staffed.held, staffed.stored,
        staffed.owed, staffed.halted, staffed.starting⟩
  | sawCounter client =>
      exact ⟨staffed.sound, staffed.reserved, staffed.ledger, staffed.held, staffed.stored,
        staffed.owed, staffed.halted, staffed.starting⟩

theorem staffed_initial : ({} : WorkerThreads).Staffed where
  sound := AgentScheduler.sound_initial
  reserved := by
    intro id node found
    rw [AgentScheduler.node?_initial] at found
    cases found
  ledger := AgentScheduler.ledgerExact_initial
  held := by
    intro id node found
    rw [show ({} : WorkerThreads).scheduler.node? id = none from rfl] at found
    cases found
  stored := nofun
  owed := fun _ => rfl
  halted := nofun
  starting := nofun

theorem Staffed.stopsCleanly (staffed : threads.Staffed) : threads.StopsCleanly := by
  intro stopped
  have gone := staffed.halted stopped
  have inactive : ∀ id node, threads.scheduler.node? id = some node →
      isActive node.state = false := fun _ _ found => staffed.inactive_of_exited gone found
  have released : ∀ id node, threads.scheduler.node? id = some node →
      node.resourcesReserved = false := by
    intro id node found
    by_contra flag
    have active := staffed.reserved id node found (Bool.eq_true_of_not_eq_false flag)
    rw [inactive id node found] at active
    cases active
  refine ⟨?_, ?_, released, AgentScheduler.counters_zero_of_sum staffed.ledger.sum released, ?_⟩
  · intro id node found
    have idle := inactive id node found
    refine ⟨?_, ?_, ?_⟩
    · intro state
      rw [state] at idle
      cases idle
    · intro state
      rw [state] at idle
      cases idle
    · intro state
      rw [state] at idle
      cases idle
  · intro id node found
    have coherent := staffed.sound.coherent id node found
    have idle := inactive id node found
    have queue := coherent.queue.mpr
    cases state : node.state with
    | created => exact absurd state coherent.possible.1
    | suspended => exact absurd state coherent.possible.2
    | waitingDependency => exact Or.inr (Or.inl rfl)
    | ready =>
        rw [state] at queue
        exact Or.inr (Or.inr (queue rfl))
    | waitingResource =>
        rw [state] at queue
        exact Or.inr (Or.inr (queue rfl))
    | dispatched =>
        rw [state] at idle
        cases idle
    | running =>
        rw [state] at idle
        cases idle
    | blocked =>
        rw [state] at idle
        cases idle
    | completed => exact Or.inl rfl
    | failed => exact Or.inl rfl
    | cancelled => exact Or.inl rfl
  · intro worker
    rw [staffed.owed worker]
    cases present : threads.workers[worker]? with
    | none => rfl
    | some place =>
        rw [gone place (List.mem_of_getElem? present)]
        rfl

end Staffed

/-- In a run in which no worker throws an agent away and no `stop` overtakes
another one, nothing is stranded whenever `stop` has returned. -/
theorem stop_strands_nobody (configured : UInt64) (actions : List Action)
    (guarded : (machine configured).Along LeavesNobody {} actions) :
    (machine configured).Throughout StopsCleanly {} actions := by
  apply Machine.Throughout.mono (fun _ staffed => Staffed.stopsCleanly staffed)
  apply (machine configured).throughout_of_along Staffed LeavesNobody _ _ actions
    staffed_initial guarded
  intro threads action staffed guard
  exact staffed.step configured action guard

/-- Agent 1 runs on the only worker; the runtime is stopped while it executes. -/
def orderlyStop : List Action :=
  [ .call (.submit { id := 1 } 0 IterationOrder.asStored),
    .start true, .createThread true, .createThread true, .testRunning 0,
    .waitDispatch 0 { availableCpuThreads := 1 } 0 IterationOrder.asStored,
    .lookAgain 0, .snapshot 0, .count 0, .markRunning 0 (-1) 0, .stop, .finish 0 true [],
    .report 0 0, .uncount 0, .testRunning 0, .join ]

theorem leavesNobody_of_other {threads : WorkerThreads} {action : Action}
    (looks : ∀ worker, action ≠ .lookAgain worker) (stops : action ≠ .stop) :
    threads.LeavesNobody action :=
  ⟨fun worker _ same => absurd same (looks worker), fun same => absurd same stops⟩

theorem orderlyStop_guarded : (machine 1).Along LeavesNobody {} orderlyStop := by
  have other : ∀ {threads : WorkerThreads} {action : Action},
      (∀ worker, action ≠ .lookAgain worker) → action ≠ .stop → threads.LeavesNobody action :=
    leavesNobody_of_other
  have looks : ((machine 1).runFrom {} (orderlyStop.take 6)).running = true := by
    decide +kernel
  have stops : ((machine 1).runFrom {} (orderlyStop.take 10)).running = true := by
    decide +kernel
  have looking : LeavesNobody ((machine 1).runFrom {} (orderlyStop.take 6)) (.lookAgain 0) :=
    ⟨fun _ _ _ _ => looks, nofun⟩
  have stopping : LeavesNobody ((machine 1).runFrom {} (orderlyStop.take 10)) .stop := by
    refine ⟨nofun, fun _ halted => ?_⟩
    rw [stops] at halted
    cases halted
  exact ⟨other nofun nofun, other nofun nofun, other nofun nofun, other nofun nofun,
    other nofun nofun, other nofun nofun, looking, other nofun nofun, other nofun nofun,
    other nofun nofun, stopping, other nofun nofun, other nofun nofun, other nofun nofun,
    other nofun nofun, other nofun nofun, trivial⟩

theorem orderlyStop_clean : (machine 1).Throughout StopsCleanly {} orderlyStop :=
  stop_strands_nobody 1 orderlyStop orderlyStop_guarded

/-- The runtime is stopped after the worker has tested `running_` and before it
looks again. -/
def stopDuringDispatch : List Action :=
  [ .call (.submit { id := 1 } 0 IterationOrder.asStored),
    .start true, .createThread true, .createThread true, .testRunning 0,
    .waitDispatch 0 { availableCpuThreads := 1 } 0 IterationOrder.asStored,
    .stop, .lookAgain 0, .join ]

theorem stop_strands_dispatched_agent :
    ¬∀ (configured : UInt64) (actions : List Action),
      (machine configured).Throughout StopsCleanly {} actions := by
  intro always
  have holds := always 1 stopDuringDispatch
  rw [← List.append_nil stopDuringDispatch] at holds
  have clean := Machine.Throughout.at_segment stopDuringDispatch [] holds
  let final := (machine 1).runFrom {} stopDuringDispatch
  have stopped : final.stopped = true := by decide +kernel
  have owed : final.owed 0 = [1] := by decide +kernel
  have nothing := (clean stopped).reported 0
  rw [show final.owed 0 = [] from nothing] at owed
  cases owed

end WorkerThreads

end AgentNucleus.Runtime
