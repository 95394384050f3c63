/-
`AgentDaemon::dispatch` over the runtime: the scheduler and the store of results.
The workers act between two requests.  A cancellation also sets a token of the
execution, which no answer depends on.
-/

import AgentNucleus.Runtime.ControlProtocol
import AgentNucleus.Runtime.InvocationProtocol
import AgentNucleus.Runtime.Scheduler

set_option autoImplicit false

namespace AgentNucleus.Runtime

open AgentNucleus.Library

namespace AgentScheduler

def snapshot (scheduler : AgentScheduler) (id : AgentId) : Option AgentSnapshot :=
  (scheduler.node? id).map Node.snapshot

/-- The snapshots in the order of their ids. -/
def snapshots (scheduler : AgentScheduler) : List AgentSnapshot :=
  (scheduler.nodes.entries.map fun entry => entry.2.snapshot).mergeSort
    fun left right => left.spec.id ≤ right.spec.id

/-- The operations that create agents. -/
def creates : Operation → Bool
  | .submit .. | .submitBatch .. | .spawn .. => true
  | _ => false

end AgentScheduler

open AgentScheduler (Operation)

/-- What a worker calls: a worker creates no agent. -/
abbrev WorkerOperation := { operation : Operation // AgentScheduler.creates operation = false }

structure AgentDaemon where
  scheduler : AgentScheduler := {}
  results : UnorderedMap AgentId SharedBufferRef := ∅
  running : Bool := true

/-- `response.message = response.success ? message : error;` -/
def respond (outcome : Outcome) (message : StdString) : ControlResponse :=
  { success := outcome.ok
    message := if outcome.ok then message else outcome.error.getD [] }

namespace AgentDaemon

/-- What one call meets outside: the clock, the order of the table of agents, and
the error text if the descriptor of a result cannot be duplicated. -/
structure Surroundings where
  now : TimePoint := 0
  order : IterationOrder AgentId
  duplicateError : Option StdString := none

def status (daemon : AgentDaemon) (targetId : AgentId) : ControlResponse :=
  match daemon.scheduler.snapshot targetId with
  | some snapshot =>
      { success := true, agents := [ControlProtocol.makeControlInfo snapshot] }
  | none => { message := text "agent does not exist" }

def result (daemon : AgentDaemon) (targetId : AgentId) (duplicateError : Option StdString) :
    ControlResponse :=
  match daemon.results.lookup targetId with
  | none => { message := text "agent result is not available" }
  | some reference =>
      match duplicateError with
      | some error => { message := error }
      | none => { success := true, resultAvailable := true, result := reference }

def releaseResult (daemon : AgentDaemon) (targetId : AgentId) : AgentDaemon × ControlResponse :=
  if daemon.results.contains targetId then
    ({ daemon with results := daemon.results.erase targetId },
      respond .accepted (text "agent result released"))
  else (daemon, respond (.rejected (text "agent result is not available")) [])

/-- A call of the scheduler, answered by its outcome. -/
def schedule (daemon : AgentDaemon) (call : AgentScheduler × Outcome) (message : StdString) :
    AgentDaemon × ControlResponse :=
  ({ daemon with scheduler := call.1 }, respond call.2 message)

def dispatch (daemon : AgentDaemon) (request : ControlRequest) (around : Surroundings) :
    AgentDaemon × ControlResponse :=
  match request.operation with
  | .ping => (daemon, { success := true, message := text "agentd is ready" })
  | .submit =>
      daemon.schedule (daemon.scheduler.submit request.task around.now around.order)
        (text "agent submitted")
  | .spawn =>
      daemon.schedule
        (daemon.scheduler.spawn request.targetId request.task around.now around.order)
        (text "child agent spawned")
  | .status => (daemon, daemon.status request.targetId)
  | .list =>
      (daemon,
        { success := true
          agents := daemon.scheduler.snapshots.map ControlProtocol.makeControlInfo })
  | .cancel =>
      daemon.schedule (daemon.scheduler.cancel request.targetId around.now)
        (text "agent cancelled")
  | .shutdown =>
      ({ daemon with running := false },
        { success := true, message := text "agentd is stopping" })
  | .result => (daemon, daemon.result request.targetId around.duplicateError)
  | .releaseResult => daemon.releaseResult request.targetId

/-! ### Invocations -/

/-- The dependency results that can be acquired, in the order of the dependencies. -/
def inputs (results : UnorderedMap AgentId SharedBufferRef) (readable : AgentId → Bool)
    (dependencies : List AgentId) : List InvocationInput :=
  dependencies.filterMap fun dependency =>
    if readable dependency then
      (results.lookup dependency).map fun reference => { producerId := dependency, reference }
    else none

/-- The request that `execute_invocation` sends for a dispatched agent; too many
dependency results end the execution before it. -/
def invocationRequest (snapshot : AgentSnapshot)
    (results : UnorderedMap AgentId SharedBufferRef) (readable : AgentId → Bool) :
    Option InvocationRequest :=
  match snapshot.spec.invocation with
  | none => none
  | some spec =>
      let attached := inputs results readable snapshot.spec.dependencies
      if kMaxInvocationInputs < attached.length then none
      else
        some {
          agentId := snapshot.spec.id
          parentId := snapshot.spec.parentId
          kind := spec.kind
          target := spec.target
          operation := spec.operation
          payload := spec.payload
          contextId := spec.contextId
          priority := snapshot.spec.priority
          resources := snapshot.spec.resources
          inputs := attached }

/-! ### Runs -/

inductive Step where
  | dispatch (request : ControlRequest) (around : Surroundings)
  | worker (operation : WorkerOperation)
  | publish (id : AgentId) (reference : SharedBufferRef)
  | discard (id : AgentId)

def step (daemon : AgentDaemon) : Step → AgentDaemon
  | .dispatch request around => (daemon.dispatch request around).1
  | .worker operation =>
      { daemon with scheduler := daemon.scheduler.step operation.val }
  | .publish id reference => { daemon with results := daemon.results.insert id reference }
  | .discard id => { daemon with results := daemon.results.erase id }

def machine : Machine AgentDaemon Step where
  initial := {}
  step := step

end AgentDaemon

end AgentNucleus.Runtime
