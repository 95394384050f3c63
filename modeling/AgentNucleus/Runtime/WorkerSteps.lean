/-
What one step of the worker threads, of `start` and `stop`, or of a client does to
the shared state, with the place at which the step is taken.
-/

import AgentNucleus.Runtime.WorkerLoop

set_option autoImplicit false

namespace AgentNucleus.Runtime

open AgentNucleus.Library

/-- The worker has obtained an agent and is not counted yet. -/
def LoopPlace.uncounted (place : LoopPlace) : Option AgentId :=
  if place.counted then none else place.unreported

/-- The operation by which a worker reports its agent. -/
def reportOperation (id : AgentId) (success : Bool) (message : StdString) (now : TimePoint) :
    AgentScheduler.Operation :=
  if success then .complete id now else .fail id message now

namespace WorkerThreads

def schedule (threads : WorkerThreads) (operation : AgentScheduler.Operation) : WorkerThreads :=
  { threads with scheduler := threads.scheduler.step operation }

inductive Effect (configured : UInt64) (before : WorkerThreads) : Action → WorkerThreads → Prop
  where
  | idle {action : Action} : Effect configured before action before
  | called (operation : AgentScheduler.Operation)
      (client : AgentRuntime.isClientCall operation = true) :
      Effect configured before (.call operation) (before.schedule operation)
  | cancelled (id : AgentId) (now : TimePoint) :
      Effect configured before (.cancel id now) (before.schedule (.cancel id now))
  | marked (worker : WorkerId) (id : AgentId) (processId : Int64) (now : TimePoint)
      (place : before.workers[worker]? = some (.executing id)) :
      Effect configured before (.markRunning worker processId now)
        (before.schedule (.markRunning id processId now))
  | obtained (worker : WorkerId) (resources : MemorySnapshot) (now : TimePoint)
      (order : IterationOrder AgentId) (place : before.workers[worker]? = some .waiting) :
      Effect configured before (.waitDispatch worker resources now order)
        (before.waitDispatch worker resources now order)
  /-- A place is left for another one with the same agent. -/
  | moved {action : Action} (worker : WorkerId) (old new : LoopPlace)
      (place : before.workers[worker]? = some old) (alive : old ≠ .exited)
      (agent : new.unreported = old.unreported) (counted : new.counted = old.counted) :
      Effect configured before action (before.moveTo worker new)
  /-- The loop is left with what `wait_dispatch` has returned. -/
  | broke (worker : WorkerId) (id : Option AgentId)
      (place : before.workers[worker]? = some (.looking id)) (halted : before.running = false) :
      Effect configured before (.lookAgain worker) (before.moveTo worker .exited)
  | vanished (worker : WorkerId) (id : AgentId)
      (place : before.workers[worker]? = some (.snapshotting id))
      (missing : before.scheduler.node? id = none) :
      Effect configured before (.snapshot worker) (before.moveTo worker .condition)
  | counted (worker : WorkerId) (id : AgentId)
      (place : before.workers[worker]? = some (.counting id)) :
      Effect configured before (.count worker)
        ({ before with activeExecutions := before.activeExecutions + 1 }.moveTo worker
          (.executing id))
  | reported (worker : WorkerId) (id : AgentId) (success : Bool) (message : StdString)
      (now : TimePoint) (place : before.workers[worker]? = some (.reporting id success message)) :
      Effect configured before (.report worker now)
        ({ before.schedule (reportOperation id success message now) with
            owed := Function.update before.owed worker ((before.owed worker).erase id) }.moveTo
          worker .uncounting)
  | uncounted (worker : WorkerId) (place : before.workers[worker]? = some .uncounting) :
      Effect configured before (.uncount worker)
        ({ before with activeExecutions := before.activeExecutions - 1 }.moveTo worker .condition)
  | started (free : before.control = .idle) (halted : before.running = false) :
      Effect configured before (.start true)
        { before with
          running := true
          control := .starting (workerCount configured).toNat
          stopped := false }
  | allCreated (created : Bool) (control : before.control = .starting 0) :
      Effect configured before (.createThread created) { before with control := .idle }
  | created (left : Nat) (control : before.control = .starting (left + 1)) :
      Effect configured before (.createThread true)
        { before with
          workers := before.workers ++ [.condition]
          control := .starting left }
  | abandoned (left : Nat) (control : before.control = .starting (left + 1)) :
      Effect configured before (.createThread false)
        { before with running := false, control := .joining false }
  | stopIgnored (halted : before.running = false) :
      Effect configured before .stop { before with stopped := true }
  | stopping (free : before.control = .idle) (runs : before.running = true) :
      Effect configured before .stop
        { before with running := false, control := .joining true }
  | joined (stopping : Bool) (control : before.control = .joining stopping)
      (gone : ∀ place ∈ before.workers, place = .exited) :
      Effect configured before .join
        { before with
          workers := []
          control := .idle
          stopped := before.stopped || stopping }
  | sawTerminal (client : ClientId) :
      Effect configured before (.readTerminal client)
        { before with
          terminalSeen :=
            Function.update before.terminalSeen client before.scheduler.allTerminal }
  | sawCounter (client : ClientId) :
      Effect configured before (.readCounter client)
        { before with terminalSeen := Function.update before.terminalSeen client false }

section Steps

variable (configured : UInt64) (threads : WorkerThreads)

theorem step_absent {action : Action} {worker : WorkerId} (own : action.worker = some worker)
    (absent : threads.workers[worker]? = none) : threads.step configured action = threads := by
  cases action with
  | call _ => cases own
  | cancel _ _ => cases own
  | start _ => cases own
  | createThread _ => cases own
  | stop => cases own
  | join => cases own
  | readTerminal _ => cases own
  | readCounter _ => cases own
  | _ =>
      cases own
      simp only [step, Action.worker, Option.bind_some, absent, Option.map_none]

theorem step_present {action : Action} {worker : WorkerId} {place : LoopPlace}
    (own : action.worker = some worker) (present : threads.workers[worker]? = some place) :
    threads.step configured action = threads.stepWorker worker place action := by
  cases action with
  | call _ => cases own
  | cancel _ _ => cases own
  | start _ => cases own
  | createThread _ => cases own
  | stop => cases own
  | join => cases own
  | readTerminal _ => cases own
  | readCounter _ => cases own
  | _ =>
      cases own
      simp only [step, Action.worker, Option.bind_some, present, Option.map_some]

private theorem effect_lookAgain (worker : WorkerId) (id : Option AgentId)
    (present : threads.workers[worker]? = some (.looking id)) :
    Effect configured threads (.lookAgain worker) (threads.lookAgain worker id) := by
  unfold lookAgain
  cases runs : threads.running with
  | false => exact Effect.broke worker id present runs
  | true =>
      cases id with
      | none => exact Effect.moved worker _ _ present nofun rfl rfl
      | some id => exact Effect.moved worker _ _ present nofun rfl rfl

private theorem effect_snapshot (worker : WorkerId) (id : AgentId)
    (present : threads.workers[worker]? = some (.snapshotting id)) :
    Effect configured threads (.snapshot worker)
      (threads.moveTo worker
        (if (threads.scheduler.node? id).isSome then .counting id else .condition)) := by
  cases found : threads.scheduler.node? id with
  | none => exact Effect.vanished worker id present found
  | some node => exact Effect.moved worker _ _ present nofun rfl rfl

private theorem effect_report (worker : WorkerId) (id : AgentId) (success : Bool)
    (message : StdString) (now : TimePoint)
    (present : threads.workers[worker]? = some (.reporting id success message)) :
    Effect configured threads (.report worker now)
      (threads.report worker id success message now) := by
  cases success with
  | true => exact Effect.reported worker id true message now present
  | false => exact Effect.reported worker id false message now present

private theorem effect_worker (action : Action) (worker : WorkerId)
    (own : action.worker = some worker) :
    Effect configured threads action (threads.step configured action) := by
  cases present : threads.workers[worker]? with
  | none =>
      rw [step_absent configured threads own present]
      exact Effect.idle
  | some place =>
      rw [step_present configured threads own present]
      cases action with
      | testRunning _ =>
          cases own
          cases place with
          | condition =>
              cases runs : threads.running with
              | true =>
                  simp only [stepWorker, runs, if_true]
                  exact Effect.moved worker _ _ present nofun rfl rfl
              | false =>
                  simp only [stepWorker, runs, Bool.false_eq_true, if_false]
                  exact Effect.moved worker _ _ present nofun rfl rfl
          | _ => exact Effect.idle
      | waitDispatch _ resources now order =>
          cases own
          cases place with
          | waiting => exact Effect.obtained worker resources now order present
          | _ => exact Effect.idle
      | lookAgain _ =>
          cases own
          cases place with
          | looking id => exact effect_lookAgain configured threads worker id present
          | _ => exact Effect.idle
      | snapshot _ =>
          cases own
          cases place with
          | snapshotting id => exact effect_snapshot configured threads worker id present
          | _ => exact Effect.idle
      | count _ =>
          cases own
          cases place with
          | counting id => exact Effect.counted worker id present
          | _ => exact Effect.idle
      | markRunning _ processId now =>
          cases own
          cases place with
          | executing id => exact Effect.marked worker id processId now present
          | _ => exact Effect.idle
      | finish _ success message =>
          cases own
          cases place with
          | executing id => exact Effect.moved worker _ _ present nofun rfl rfl
          | _ => exact Effect.idle
      | report _ now =>
          cases own
          cases place with
          | reporting id success message =>
              exact effect_report configured threads worker id success message now present
          | _ => exact Effect.idle
      | uncount _ =>
          cases own
          cases place with
          | uncounting => exact Effect.uncounted worker present
          | _ => exact Effect.idle
      | _ => cases own

private theorem effect_start (cgroupsReady : Bool) :
    Effect configured threads (.start cgroupsReady)
      (threads.stepControl configured (.start cgroupsReady)) := by
  unfold stepControl
  dsimp only
  split
  · rename_i ready
    obtain ⟨free, halted, rfl⟩ := ready
    exact Effect.started free (by simpa using halted)
  · exact Effect.idle

private theorem effect_createThread (created : Bool) :
    Effect configured threads (.createThread created)
      (threads.stepControl configured (.createThread created)) := by
  unfold stepControl
  dsimp only
  cases control : threads.control with
  | idle => exact Effect.idle
  | joining _ => exact Effect.idle
  | starting left =>
      cases left with
      | zero => exact Effect.allCreated created control
      | succ left =>
          cases created with
          | true => exact Effect.created left control
          | false => exact Effect.abandoned left control

private theorem effect_stop :
    Effect configured threads .stop (threads.stepControl configured .stop) := by
  unfold stepControl
  dsimp only
  split
  · rename_i halted
    exact Effect.stopIgnored (by simpa using halted)
  · rename_i runs
    split
    · rename_i free
      exact Effect.stopping free (by simpa using runs)
    · exact Effect.idle

private theorem effect_join :
    Effect configured threads .join (threads.stepControl configured .join) := by
  unfold stepControl
  dsimp only
  cases control : threads.control with
  | idle => exact Effect.idle
  | starting _ => exact Effect.idle
  | joining stopping =>
      dsimp only
      split
      · rename_i gone
        apply Effect.joined stopping control
        intro place member
        exact eq_of_beq (List.all_eq_true.mp gone place member)
      · exact Effect.idle

/-- Every step is one of the effects. -/
theorem step_effect (action : Action) :
    Effect configured threads action (threads.step configured action) := by
  cases action with
  | call operation =>
      change Effect configured threads _ (ite _ _ _)
      cases client : AgentRuntime.isClientCall operation with
      | true => exact Effect.called operation client
      | false => exact Effect.idle
  | cancel id now => exact Effect.cancelled id now
  | start cgroupsReady => exact effect_start configured threads cgroupsReady
  | createThread created => exact effect_createThread configured threads created
  | stop => exact effect_stop configured threads
  | join => exact effect_join configured threads
  | readTerminal client => exact Effect.sawTerminal client
  | readCounter client => exact Effect.sawCounter client
  | testRunning worker => exact effect_worker configured threads _ worker rfl
  | waitDispatch worker _ _ _ => exact effect_worker configured threads _ worker rfl
  | lookAgain worker => exact effect_worker configured threads _ worker rfl
  | snapshot worker => exact effect_worker configured threads _ worker rfl
  | count worker => exact effect_worker configured threads _ worker rfl
  | markRunning worker _ _ => exact effect_worker configured threads _ worker rfl
  | finish worker _ _ => exact effect_worker configured threads _ worker rfl
  | report worker _ => exact effect_worker configured threads _ worker rfl
  | uncount worker => exact effect_worker configured threads _ worker rfl

end Steps

end WorkerThreads

end AgentNucleus.Runtime
