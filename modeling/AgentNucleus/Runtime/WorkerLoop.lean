/-
`AgentRuntime` seen through `running_`, `workers_` and `active_executions_`: the
threads of `worker_loop`, the one thread inside `start` or `stop`, and the clients
that submit, cancel and wait for the runtime to be idle.  A step is one access to
shared state.
-/

import AgentNucleus.Runtime.CancelProtocol

set_option autoImplicit false

namespace AgentNucleus.Runtime

open AgentNucleus.Library

/-- A thread of `worker_loop`, by what it does next. -/
inductive LoopPlace where
  /-- `while (running_.load())`. -/
  | condition
  /-- `wait_dispatch`; the sample before it touches nothing shared. -/
  | waiting
  /-- The second look at `running_`. -/
  | looking (id : Option AgentId)
  | snapshotting (id : AgentId)
  /-- `active_executions_.fetch_add(1)`. -/
  | counting (id : AgentId)
  | executing (id : AgentId)
  /-- `complete` or `fail`. -/
  | reporting (id : AgentId) (success : Bool) (message : StdString)
  /-- `active_executions_.fetch_sub(1)`. -/
  | uncounting
  | exited
deriving DecidableEq, Repr

/-- The agent that the worker has obtained and not yet reported. -/
def LoopPlace.unreported : LoopPlace → Option AgentId
  | .looking id => id
  | .snapshotting id | .counting id | .executing id => some id
  | .reporting id _ _ => some id
  | .condition | .waiting | .uncounting | .exited => none

/-- The worker is between its `fetch_add` and its `fetch_sub`. -/
def LoopPlace.counted : LoopPlace → Bool
  | .executing _ | .reporting _ _ _ | .uncounting => true
  | _ => false

/-- The thread that is inside `start` or `stop`; `workers_` has no lock of its own,
so there is at most one. -/
inductive Control where
  | idle
  /-- `start`, with this many threads left to create. -/
  | starting (left : Nat)
  /-- The joins, in `stop` or in the handler of `start`. -/
  | joining (stopping : Bool)
deriving DecidableEq, Repr

/-- The last two fields are not in the program: a call of `stop` has returned since
the last `start`, and the agents that a worker has obtained and not reported. -/
structure WorkerThreads where
  scheduler : AgentScheduler := {}
  running : Bool := false
  workers : List LoopPlace := []
  control : Control := .idle
  activeExecutions : UInt64 := 0
  /-- The client is in `wait_until_idle` and has just seen `all_terminal`. -/
  terminalSeen : ClientId → Bool := fun _ => false
  stopped : Bool := false
  owed : WorkerId → List AgentId := fun _ => []

namespace WorkerThreads

/-- The constructor of `AgentRuntime` replaces a worker count of zero. -/
def workerCount (configured : UInt64) : UInt64 :=
  if configured = 0 then 1 else configured

def moveTo (threads : WorkerThreads) (worker : WorkerId) (place : LoopPlace) : WorkerThreads :=
  { threads with workers := threads.workers.set worker place }

/-! ### The worker loop -/

def waitDispatch (threads : WorkerThreads) (worker : WorkerId) (resources : MemorySnapshot)
    (now : TimePoint) (order : IterationOrder AgentId) : WorkerThreads :=
  let result := threads.scheduler.waitDispatch resources now order
  { threads with
    scheduler := result.1
    owed := Function.update threads.owed worker (result.2.toList ++ threads.owed worker) }.moveTo
      worker (.looking result.2)

/-- The loop is left before the result of `wait_dispatch` is looked at. -/
def lookAgain (threads : WorkerThreads) (worker : WorkerId) (id : Option AgentId) :
    WorkerThreads :=
  if !threads.running then threads.moveTo worker .exited
  else
    match id with
    | none => threads.moveTo worker .condition
    | some id => threads.moveTo worker (.snapshotting id)

def report (threads : WorkerThreads) (worker : WorkerId) (id : AgentId) (success : Bool)
    (message : StdString) (now : TimePoint) : WorkerThreads :=
  { threads with
    scheduler :=
      if success then (threads.scheduler.complete id now).1
      else (threads.scheduler.fail id message now).1
    owed := Function.update threads.owed worker ((threads.owed worker).erase id) }.moveTo
      worker .uncounting

/-! ### Interleavings -/

/-- The next step of one thread; an action that does not fit the place where its
thread stands leaves everything as it is. -/
inductive Action where
  /-- A client call, or an annotation by a worker. -/
  | call (operation : AgentScheduler.Operation)
  /-- `AgentRuntime::cancel`, after it has set the token. -/
  | cancel (id : AgentId) (now : TimePoint)
  | start (cgroupsReady : Bool)
  /-- The loop of `start`, which a failing thread creation leaves. -/
  | createThread (created : Bool)
  /-- The exchange in `stop`. -/
  | stop
  | join
  | testRunning (worker : WorkerId)
  | waitDispatch (worker : WorkerId) (resources : MemorySnapshot) (now : TimePoint)
      (order : IterationOrder AgentId)
  | lookAgain (worker : WorkerId)
  | snapshot (worker : WorkerId)
  | count (worker : WorkerId)
  | markRunning (worker : WorkerId) (processId : Int64) (now : TimePoint)
  /-- `execute` returns. -/
  | finish (worker : WorkerId) (success : Bool) (message : StdString)
  | report (worker : WorkerId) (now : TimePoint)
  | uncount (worker : WorkerId)
  /-- `wait_until_idle` calls `all_terminal`. -/
  | readTerminal (client : ClientId)
  /-- `wait_until_idle` loads `active_executions_`. -/
  | readCounter (client : ClientId)

def stepControl (configured : UInt64) (threads : WorkerThreads) : Action → WorkerThreads
  | .start cgroupsReady =>
      if threads.control = .idle ∧ !threads.running ∧ cgroupsReady then
        { threads with
          running := true
          control := .starting (workerCount configured).toNat
          stopped := false }
      else threads
  | .createThread created =>
      match threads.control with
      | .starting 0 => { threads with control := .idle }
      | .starting (left + 1) =>
          if created then
            { threads with
              workers := threads.workers ++ [.condition]
              control := .starting left }
          else { threads with running := false, control := .joining false }
      | _ => threads
  | .stop =>
      if !threads.running then { threads with stopped := true }
      else if threads.control = .idle then
        { threads with running := false, control := .joining true }
      else threads
  | .join =>
      match threads.control with
      | .joining stopping =>
          if threads.workers.all (· == .exited) then
            { threads with
              workers := []
              control := .idle
              stopped := threads.stopped || stopping }
          else threads
      | _ => threads
  | _ => threads

def stepWorker (threads : WorkerThreads) (worker : WorkerId) (place : LoopPlace) :
    Action → WorkerThreads
  | .testRunning _ =>
      match place with
      | .condition => threads.moveTo worker (if threads.running then .waiting else .exited)
      | _ => threads
  | .waitDispatch _ resources now order =>
      match place with
      | .waiting => threads.waitDispatch worker resources now order
      | _ => threads
  | .lookAgain _ =>
      match place with
      | .looking id => threads.lookAgain worker id
      | _ => threads
  | .snapshot _ =>
      match place with
      | .snapshotting id =>
          threads.moveTo worker
            (if (threads.scheduler.node? id).isSome then .counting id else .condition)
      | _ => threads
  | .count _ =>
      match place with
      | .counting id =>
          { threads with activeExecutions := threads.activeExecutions + 1 }.moveTo
            worker (.executing id)
      | _ => threads
  | .markRunning _ processId now =>
      match place with
      | .executing id =>
          { threads with scheduler := (threads.scheduler.markRunning id processId now).1 }
      | _ => threads
  | .finish _ success message =>
      match place with
      | .executing id => threads.moveTo worker (.reporting id success message)
      | _ => threads
  | .report _ now =>
      match place with
      | .reporting id success message => threads.report worker id success message now
      | _ => threads
  | .uncount _ =>
      match place with
      | .uncounting =>
          { threads with activeExecutions := threads.activeExecutions - 1 }.moveTo
            worker .condition
      | _ => threads
  | _ => threads

def stepClient (threads : WorkerThreads) : Action → WorkerThreads
  | .call operation =>
      if AgentRuntime.isClientCall operation then
        { threads with scheduler := threads.scheduler.step operation }
      else threads
  | .cancel id now => { threads with scheduler := (threads.scheduler.cancel id now).1 }
  | .readTerminal client =>
      { threads with
        terminalSeen :=
          Function.update threads.terminalSeen client threads.scheduler.allTerminal }
  | .readCounter client =>
      { threads with terminalSeen := Function.update threads.terminalSeen client false }
  | _ => threads

/-- The worker that takes the step. -/
def Action.worker : Action → Option WorkerId
  | .testRunning worker | .lookAgain worker | .snapshot worker | .count worker => some worker
  | .waitDispatch worker _ _ _ | .markRunning worker _ _ | .finish worker _ _ => some worker
  | .report worker _ | .uncount worker => some worker
  | _ => none

def step (configured : UInt64) (threads : WorkerThreads) (action : Action) : WorkerThreads :=
  match action with
  | .start _ | .createThread _ | .stop | .join => threads.stepControl configured action
  | .call _ | .cancel _ _ | .readTerminal _ | .readCounter _ => threads.stepClient action
  | other =>
      match other.worker.bind fun worker => threads.workers[worker]?.map (worker, ·) with
      | some (worker, place) => threads.stepWorker worker place other
      | none => threads

/-- The pair of reads that `wait_until_idle` makes, in its loop and in its last
statement, ends with the result true. -/
def returnsIdle (threads : WorkerThreads) (client : ClientId) : Bool :=
  threads.terminalSeen client && threads.activeExecutions == 0

def machine (configured : UInt64) : Machine WorkerThreads Action :=
  { initial := {}
    step := step configured }

end WorkerThreads

end AgentNucleus.Runtime
