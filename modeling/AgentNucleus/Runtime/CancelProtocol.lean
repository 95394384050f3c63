/-
`AgentRuntime`: the worker threads that execute agents, the clients that cancel
them, and the tokens through which an execution learns that it is cancelled.
`cancel_mutex_` guards the tokens and the scheduler has its own mutex, so a step
is one critical section of either.
-/

import AgentNucleus.Runtime.Scheduler
import Mathlib.Logic.Function.Basic

set_option autoImplicit false

namespace AgentNucleus.Runtime

open AgentNucleus.Library

/-- A `std::shared_ptr<std::atomic_bool>`, by the order of allocation. -/
abbrev TokenId := Nat

abbrev WorkerId := Nat
abbrev ClientId := Nat

/-- The three branches of `execute`. -/
inductive TaskKind where
  | invocation
  | command
  | handler
deriving DecidableEq, Repr

def taskKind (spec : AgentTaskSpec) : TaskKind :=
  if spec.invocation.isSome then .invocation
  else if !spec.command.isEmpty then .command
  else .handler

/-- How far an execution has come. -/
inductive Place where
  | entered
  /-- A command whose token is inserted; the process is not started. -/
  | armed
  /-- A command past the check of its token before the start; `mark_running` is
  next. -/
  | launching
  /-- An invocation after `mark_running`, before its token exists. -/
  | marked
  /-- The execution polls its token. -/
  | running
  /-- A handler runs; it has no token. -/
  | handling
  /-- A poll has found the token set. -/
  | stopping
  /-- The execution will not start. -/
  | refused
deriving DecidableEq, Repr

/-- One execution of a dispatched agent.  The last field is not in the program:
a cancellation of the agent has returned true since the dispatch. -/
structure Execution where
  id : AgentId
  kind : TaskKind
  place : Place := .entered
  token : Option TokenId := none
  cancelled : Bool := false
deriving DecidableEq, Repr

inductive Worker where
  | idle
  | executing (execution : Execution)
  /-- `execute` has returned, the scheduler does not know yet. -/
  | reporting (id : AgentId) (success : Bool)
deriving DecidableEq, Repr

/-- Remembers a cancellation that has returned true. -/
def Worker.markCancelled (id : AgentId) (worker : Worker) : Worker :=
  match worker with
  | .executing execution =>
      if execution.id = id then .executing { execution with cancelled := true }
      else .executing execution
  | other => other

/-- A thread inside `AgentRuntime::cancel` stands between its two critical
sections and has found this token. -/
inductive Client where
  | idle
  | cancelling (id : AgentId) (found : Option TokenId)
deriving DecidableEq, Repr

structure AgentRuntime where
  scheduler : AgentScheduler := {}
  cancelTokens : UnorderedMap AgentId TokenId := ∅
  tokens : TokenId → Bool := fun _ => false
  nextToken : TokenId := 0
  cancelRequested : Bool := false
  workers : WorkerId → Worker := fun _ => .idle
  clients : ClientId → Client := fun _ => .idle

namespace AgentRuntime

/-- The value an execution reads from its token. -/
def reads (runtime : AgentRuntime) (execution : Execution) : Bool :=
  execution.token.any runtime.tokens

def setWorker (runtime : AgentRuntime) (worker : WorkerId) (state : Worker) : AgentRuntime :=
  { runtime with workers := Function.update runtime.workers worker state }

def advance (runtime : AgentRuntime) (worker : WorkerId) (execution : Execution)
    (place : Place) : AgentRuntime :=
  runtime.setWorker worker (.executing { execution with place := place })

/-! ### The worker loop -/

/-- `wait_dispatch`, the second look at `running_` and the snapshot.  A worker
that finds the runtime stopped leaves the agent as dispatched. -/
def dispatch (runtime : AgentRuntime) (worker : WorkerId) (resources : MemorySnapshot)
    (now : TimePoint) (order : IterationOrder AgentId) (stillRunning : Bool) : AgentRuntime :=
  let result := runtime.scheduler.waitDispatch resources now order
  let after := { runtime with scheduler := result.1 }
  match result.2 with
  | none => after
  | some id =>
      match result.1.node? id with
      | none => after
      | some node =>
          if stillRunning then
            after.setWorker worker (.executing { id := id, kind := taskKind node.spec })
          else after

/-- `cancel_tokens_[id] = std::make_shared<std::atomic_bool>(cancel_requested_)`. -/
def insertToken (runtime : AgentRuntime) (worker : WorkerId) (execution : Execution)
    (place : Place) : AgentRuntime :=
  { runtime with
    cancelTokens := runtime.cancelTokens.insert execution.id runtime.nextToken
    tokens := Function.update runtime.tokens runtime.nextToken runtime.cancelRequested
    nextToken := runtime.nextToken + 1 }.setWorker worker
      (.executing { execution with place := place, token := some runtime.nextToken })

/-- Commands insert their token before the process starts, invocations after
`mark_running`. -/
def armedPlace (execution : Execution) : Option Place :=
  match execution.kind, execution.place with
  | .command, .entered => some .armed
  | .invocation, .marked => some .running
  | _, _ => none

/-- The place after a successful `mark_running`, where one is due. -/
def startedPlace (execution : Execution) : Option Place :=
  match execution.kind, execution.place with
  | .command, .launching => some .running
  | .invocation, .entered => some .marked
  | .handler, .entered => some .handling
  | _, _ => none

def markRunning (runtime : AgentRuntime) (worker : WorkerId) (execution : Execution)
    (started : Place) (processId : Int64) (now : TimePoint) : AgentRuntime :=
  let result := runtime.scheduler.markRunning execution.id processId now
  { runtime with scheduler := result.1 }.advance worker execution
    (if result.2.ok then started else .refused)

/-- The places from which `execute` can return, and whether it may succeed
there. -/
def exit (place : Place) : Option Bool :=
  match place with
  | .marked => none
  | .running | .handling | .stopping => some true
  | .entered | .armed | .launching | .refused => some false

/-- `remove_cancel_token()`, if the execution has a token, and the return. -/
def leave (runtime : AgentRuntime) (worker : WorkerId) (execution : Execution)
    (success : Bool) : AgentRuntime :=
  { runtime with
    cancelTokens :=
      if execution.token.isSome then runtime.cancelTokens.erase execution.id
      else runtime.cancelTokens }.setWorker worker (.reporting execution.id success)

def report (runtime : AgentRuntime) (worker : WorkerId) (id : AgentId) (success : Bool)
    (message : StdString) (now : TimePoint) : AgentRuntime :=
  { runtime with
    scheduler :=
      if success then (runtime.scheduler.complete id now).1
      else (runtime.scheduler.fail id message now).1 }.setWorker worker .idle

/-! ### Cancellation -/

def setToken (runtime : AgentRuntime) (found : Option TokenId) : AgentRuntime :=
  match found with
  | none => runtime
  | some token => { runtime with tokens := Function.update runtime.tokens token true }

/-- The first critical section of `cancel`. -/
def lookupAndSet (runtime : AgentRuntime) (client : ClientId) (id : AgentId) : AgentRuntime :=
  let found := runtime.cancelTokens.lookup id
  let after := runtime.setToken found
  { after with clients := Function.update after.clients client (.cancelling id found) }

/-- The second critical section of `cancel`, and its return. -/
def schedulerCancel (runtime : AgentRuntime) (client : ClientId) (id : AgentId)
    (now : TimePoint) : AgentRuntime :=
  let result := runtime.scheduler.cancel id now
  { runtime with
    scheduler := result.1
    workers :=
      if result.2.ok then fun worker => (runtime.workers worker).markCancelled id
      else runtime.workers
    clients := Function.update runtime.clients client .idle }

/-! ### Interleavings -/

/-- The scheduler calls that clients make, and those of a worker that only
annotate the agent. -/
def isClientCall : AgentScheduler.Operation → Bool
  | .submit .. | .submitBatch .. | .spawn .. => true
  | .bindContext .. | .bindProcess .. | .recordMetrics .. => true
  | _ => false

/-- The next step of one thread.  An action that does not fit the place where
its thread stands leaves everything as it is. -/
inductive Action where
  | call (operation : AgentScheduler.Operation)
  | dispatch (worker : WorkerId) (resources : MemorySnapshot) (now : TimePoint)
      (order : IterationOrder AgentId) (stillRunning : Bool)
  | insertToken (worker : WorkerId)
  | launch (worker : WorkerId)
  | markRunning (worker : WorkerId) (processId : Int64) (now : TimePoint)
  | poll (worker : WorkerId)
  | leave (worker : WorkerId) (success : Bool)
  | report (worker : WorkerId) (message : StdString) (now : TimePoint)
  | lookup (client : ClientId) (id : AgentId)
  | cancel (client : ClientId) (now : TimePoint)
  /-- `start` stores false and `stop` stores true. -/
  | request (value : Bool)
  /-- The loop of `stop` over the tokens. -/
  | setAllTokens

/-- A step of a worker that is inside `execute`. -/
def within (runtime : AgentRuntime) (worker : WorkerId)
    (next : Execution → AgentRuntime) : AgentRuntime :=
  match runtime.workers worker with
  | .executing execution => next execution
  | _ => runtime

def step (runtime : AgentRuntime) : Action → AgentRuntime
  | .call operation =>
      if isClientCall operation then
        { runtime with scheduler := runtime.scheduler.step operation }
      else runtime
  | .dispatch worker resources now order stillRunning =>
      match runtime.workers worker with
      | .idle => runtime.dispatch worker resources now order stillRunning
      | _ => runtime
  | .insertToken worker =>
      runtime.within worker fun execution =>
        match armedPlace execution with
        | some place => runtime.insertToken worker execution place
        | none => runtime
  | .launch worker =>
      runtime.within worker fun execution =>
        if execution.place = .armed then
          runtime.advance worker execution
            (if runtime.reads execution then .refused else .launching)
        else runtime
  | .markRunning worker processId now =>
      runtime.within worker fun execution =>
        match startedPlace execution with
        | some started => runtime.markRunning worker execution started processId now
        | none => runtime
  | .poll worker =>
      runtime.within worker fun execution =>
        if execution.place = .running ∧ runtime.reads execution then
          runtime.advance worker execution .stopping
        else runtime
  | .leave worker success =>
      runtime.within worker fun execution =>
        match exit execution.place with
        | some mayPass => runtime.leave worker execution (success && mayPass)
        | none => runtime
  | .report worker message now =>
      match runtime.workers worker with
      | .reporting id success => runtime.report worker id success message now
      | _ => runtime
  | .lookup client id =>
      match runtime.clients client with
      | .idle => runtime.lookupAndSet client id
      | _ => runtime
  | .cancel client now =>
      match runtime.clients client with
      | .cancelling id _ => runtime.schedulerCancel client id now
      | _ => runtime
  | .request value => { runtime with cancelRequested := value }
  | .setAllTokens =>
      { runtime with
        tokens := fun token =>
          runtime.tokens token || runtime.cancelTokens.entries.any fun entry => entry.2 == token }

def machine : Machine AgentRuntime Action :=
  { initial := {}
    step := step }

end AgentRuntime

end AgentNucleus.Runtime
