/-
`AgentScheduler`: submission into the dependency graph, dispatch against a
resource sample, the lifecycle transitions, and the cascade of a failure.  Each
public operation is one atomic step, as every one of them holds `mutex_`.
-/

import AgentNucleus.Library.DepthFirst
import AgentNucleus.Library.Machine
import AgentNucleus.Library.UnorderedMap
import AgentNucleus.Runtime.Types

set_option autoImplicit false

namespace AgentNucleus.Runtime

open Library

structure Node where
  snapshot : AgentSnapshot
  successors : List AgentId := []
  resourcesReserved : Bool := false

structure AgentScheduler where
  nodes : UnorderedMap AgentId Node := ∅
  ready : UnorderedSet AgentId := ∅
  reservedCpuThreads : UInt64 := 0
  reservedMemoryBytes : UInt64 := 0

/-- The result of a call: its `bool`, and the text assigned to `*error`, if any. -/
structure Outcome where
  ok : Bool
  error : Option StdString := none
deriving DecidableEq, Repr

def Outcome.accepted : Outcome := { ok := true }
def Outcome.rejected (message : StdString) : Outcome := { ok := false, error := some message }
def Outcome.refused : Outcome := { ok := false }

def Node.state (node : Node) : AgentState := node.snapshot.state
def Node.spec (node : Node) : AgentTaskSpec := node.snapshot.spec
def Node.unresolved (node : Node) : UInt32 := node.snapshot.unresolvedDependencies

def Node.setState (node : Node) (state : AgentState) : Node :=
  { node with snapshot := { node.snapshot with state := state } }

def Node.finishAt (node : Node) (now : TimePoint) : Node :=
  { node with snapshot := { node.snapshot with finishedAt := now } }

def Node.finishWith (node : Node) (error : StdString) (now : TimePoint) : Node :=
  { node with snapshot := { node.snapshot with error := error, finishedAt := now } }

def Node.startAs (node : Node) (processId : Int64) (now : TimePoint) : Node :=
  { node with snapshot := { node.snapshot with processId := processId, startedAt := now } }

def Node.retryWith (node : Node) (error : StdString) : Node :=
  { node with snapshot :=
      { node.snapshot with
        retryCount := node.snapshot.retryCount + 1
        error := error
        processId := -1
        state := .ready } }

def AgentScheduler.node? (scheduler : AgentScheduler) (id : AgentId) : Option Node :=
  scheduler.nodes.lookup id

/-- Writing through a `Node &` that refers to the entry of `id`. -/
def AgentScheduler.store (scheduler : AgentScheduler) (id : AgentId) (node : Node) :
    AgentScheduler :=
  { scheduler with nodes := scheduler.nodes.insert id node }

/-- `ready_.insert(id)`. -/
def AgentScheduler.enqueue (scheduler : AgentScheduler) (id : AgentId) : AgentScheduler :=
  { scheduler with ready := UnorderedSet.add scheduler.ready id }

/-- `ready_.erase(id)`. -/
def AgentScheduler.dequeue (scheduler : AgentScheduler) (id : AgentId) : AgentScheduler :=
  { scheduler with ready := UnorderedSet.remove scheduler.ready id }

/-! ### Submission -/

/-- The loop over the successor list of a missing key would throw; no key is
missing in a graph that submission has accepted. -/
def successorsOf (nodes : UnorderedMap AgentId Node) (id : AgentId) : List AgentId :=
  match nodes.lookup id with
  | some node => node.successors
  | none => []

def graphHasCycleLocked (nodes : UnorderedMap AgentId Node)
    (order : IterationOrder AgentId) : Bool :=
  DepthFirst.hasCycle (successorsOf nodes) (nodes.keys.length + 1) (order.visit nodes.keys)

def invalidInvocation (task : AgentTaskSpec) : Bool :=
  match task.invocation with
  | none => false
  | some invocation =>
      invocation.target.isEmpty || invocation.operation.isEmpty ||
        (invocation.kind != .model && invocation.kind != .tool)

def checkTask (nodes : UnorderedMap AgentId Node) (incoming : UnorderedSet AgentId)
    (task : AgentTaskSpec) : Except StdString (UnorderedSet AgentId) :=
  if task.id = kInvalidAgentId then
    .error (text "agent id 0 is reserved")
  else if !task.command.isEmpty && task.invocation.isSome then
    .error (text "agent cannot contain both a command and an invocation")
  else if invalidInvocation task then
    .error (text "invocation kind, target, and operation are invalid")
  else if nodes.contains task.id || UnorderedMap.contains incoming task.id then
    .error (text "duplicate agent id: " ++ toStdString task.id)
  else
    .ok (UnorderedSet.add incoming task.id)

def checkTasks (nodes : UnorderedMap AgentId Node) :
    UnorderedSet AgentId → List AgentTaskSpec → Except StdString (UnorderedSet AgentId)
  | incoming, [] => .ok incoming
  | incoming, task :: rest =>
      match checkTask nodes incoming task with
      | .error message => .error message
      | .ok extended => checkTasks nodes extended rest

def invalidDependency (nodes : UnorderedMap AgentId Node) (incoming : UnorderedSet AgentId)
    (task : AgentTaskSpec) (dependency : AgentId) : Bool :=
  dependency == task.id ||
    (!nodes.contains dependency && !UnorderedMap.contains incoming dependency)

/-- The message of the first invalid dependency, if there is one. -/
def checkDependencies (nodes : UnorderedMap AgentId Node) (incoming : UnorderedSet AgentId)
    (tasks : List AgentTaskSpec) : Option StdString :=
  tasks.findSome? fun task =>
    task.dependencies.findSome? fun dependency =>
      if invalidDependency nodes incoming task dependency then
        some (text "invalid dependency " ++ toStdString dependency ++
          text " for agent " ++ toStdString task.id)
      else none

def newNode (now : TimePoint) (task : AgentTaskSpec) : Node :=
  { snapshot := { spec := task, state := .created, createdAt := now } }

def emplaceTask (now : TimePoint) (nodes : UnorderedMap AgentId Node) (task : AgentTaskSpec) :
    UnorderedMap AgentId Node :=
  nodes.emplace task.id (newNode now task)

/-- One turn of the inner linking loop; the second component is the local
counter `unresolved`. -/
def linkDependency (taskId : AgentId) (linked : UnorderedMap AgentId Node × UInt32)
    (dependency : AgentId) : UnorderedMap AgentId Node × UInt32 :=
  match linked.1.lookup dependency with
  | none => linked
  | some predecessor =>
      (linked.1.insert dependency
          { predecessor with successors := predecessor.successors ++ [taskId] },
        if !isTerminal predecessor.state || predecessor.state != .completed then
          linked.2 + 1
        else linked.2)

def linkTask (nodes : UnorderedMap AgentId Node) (task : AgentTaskSpec) :
    UnorderedMap AgentId Node :=
  let linked := task.dependencies.foldl (linkDependency task.id) (nodes, 0)
  match linked.1.lookup task.id with
  | none => linked.1
  | some node =>
      linked.1.insert task.id
        { node with snapshot := { node.snapshot with unresolvedDependencies := linked.2 } }

namespace AgentScheduler

def enqueueReadyLocked (scheduler : AgentScheduler) (id : AgentId) (node : Node) :
    AgentScheduler :=
  (scheduler.store id (node.setState .ready)).enqueue node.spec.id

def admitTask (scheduler : AgentScheduler) (task : AgentTaskSpec) : AgentScheduler :=
  match scheduler.node? task.id with
  | none => scheduler
  | some node =>
      if node.unresolved = 0 then scheduler.enqueueReadyLocked task.id node
      else scheduler.store task.id (node.setState .waitingDependency)

/-- The graph after the linking loops, before the cycle check. -/
def linkedNodes (scheduler : AgentScheduler) (tasks : List AgentTaskSpec) (now : TimePoint) :
    UnorderedMap AgentId Node :=
  tasks.foldl linkTask (tasks.foldl (emplaceTask now) scheduler.nodes)

/-- The search for a cycle runs over the mutated graph; a rejection restores
the backup of `nodes_` and `ready_`. -/
def submitBatchLocked (scheduler : AgentScheduler) (tasks : List AgentTaskSpec)
    (now : TimePoint) (order : IterationOrder AgentId) : AgentScheduler × Outcome :=
  if tasks.isEmpty then
    (scheduler, .rejected (text "task batch is empty"))
  else
    match checkTasks scheduler.nodes ∅ tasks with
    | .error message => (scheduler, .rejected message)
    | .ok incoming =>
        match checkDependencies scheduler.nodes incoming tasks with
        | some message => (scheduler, .rejected message)
        | none =>
            let nodes := scheduler.linkedNodes tasks now
            if graphHasCycleLocked nodes order then
              (scheduler, .rejected (text "task dependencies contain a cycle"))
            else
              (tasks.foldl admitTask { scheduler with nodes := nodes }, .accepted)

def submitBatch (scheduler : AgentScheduler) (tasks : List AgentTaskSpec)
    (now : TimePoint) (order : IterationOrder AgentId) : AgentScheduler × Outcome :=
  scheduler.submitBatchLocked tasks now order

def submit (scheduler : AgentScheduler) (task : AgentTaskSpec)
    (now : TimePoint) (order : IterationOrder AgentId) : AgentScheduler × Outcome :=
  scheduler.submitBatch [task] now order

def spawn (scheduler : AgentScheduler) (parent : AgentId) (task : AgentTaskSpec)
    (now : TimePoint) (order : IterationOrder AgentId) : AgentScheduler × Outcome :=
  if scheduler.nodes.contains parent then
    scheduler.submitBatchLocked [{ task with parentId := parent }] now order
  else
    (scheduler, .rejected (text "parent agent does not exist"))

/-! ### Dispatch -/

end AgentScheduler

/-- What is left of a resource; the difference is never taken below zero. -/
def allocatable (available reserved : UInt64) : UInt64 :=
  if available > reserved then available - reserved else 0

namespace AgentScheduler

def fits (scheduler : AgentScheduler) (resources : MemorySnapshot) (node : Node) : Bool :=
  !(node.spec.resources.cpuThreads.toUInt64 >
        allocatable resources.availableCpuThreads.toUInt64 scheduler.reservedCpuThreads ||
      node.spec.resources.memoryBytes >
        allocatable resources.availableBytes scheduler.reservedMemoryBytes)

end AgentScheduler

/-- `priority * 1'000'000 + waited`, with the wait truncated to milliseconds. -/
def dispatchScore (now : TimePoint) (node : Node) : Int :=
  node.spec.priority.toInt * 1000000 + (now - node.snapshot.createdAt).tdiv 1000000

/-- The locals of `dispatch_locked` next to the scheduler it mutates. -/
structure Selection where
  scheduler : AgentScheduler
  selected : AgentId := kInvalidAgentId
  bestScore : Int := -9223372036854775808

def considerReady (resources : MemorySnapshot) (now : TimePoint) (selection : Selection)
    (id : AgentId) : Selection :=
  match selection.scheduler.node? id with
  | none => selection
  | some node =>
      if selection.scheduler.fits resources node then
        let fitting :=
          if node.state = .waitingResource then node.setState .ready else node
        let scheduler := selection.scheduler.store id fitting
        let score := dispatchScore now fitting
        if selection.selected = kInvalidAgentId ∨ score > selection.bestScore then
          { scheduler := scheduler, selected := id, bestScore := score }
        else { selection with scheduler := scheduler }
      else
        { selection with
          scheduler := selection.scheduler.store id (node.setState .waitingResource) }

namespace AgentScheduler

def considerAll (scheduler : AgentScheduler) (resources : MemorySnapshot) (now : TimePoint)
    (order : IterationOrder AgentId) : Selection :=
  (order.visit scheduler.ready.keys).foldl (considerReady resources now)
    { scheduler := scheduler }

/-- The reservation made for the selected agent. -/
def reserve (scheduler : AgentScheduler) (id : AgentId) (node : Node) : AgentScheduler :=
  { nodes := scheduler.nodes.insert id
      { node.setState .dispatched with resourcesReserved := true }
    ready := UnorderedSet.remove scheduler.ready id
    reservedCpuThreads :=
      scheduler.reservedCpuThreads + node.spec.resources.cpuThreads.toUInt64
    reservedMemoryBytes :=
      scheduler.reservedMemoryBytes + node.spec.resources.memoryBytes }

def dispatchLocked (scheduler : AgentScheduler) (resources : MemorySnapshot)
    (now : TimePoint) (order : IterationOrder AgentId) : AgentScheduler × Option AgentId :=
  let selection := scheduler.considerAll resources now order
  if selection.selected = kInvalidAgentId then
    (selection.scheduler, none)
  else
    match selection.scheduler.node? selection.selected with
    | none => (selection.scheduler, none)
    | some node =>
        (selection.scheduler.reserve selection.selected node, some selection.selected)

def tryDispatch (scheduler : AgentScheduler) (resources : MemorySnapshot)
    (now : TimePoint) (order : IterationOrder AgentId) : AgentScheduler × Option AgentId :=
  scheduler.dispatchLocked resources now order

/-- The wait for a non-empty `ready_` gives up the mutex, so its effect on the
scheduler is that of the dispatch after it. -/
def waitDispatch (scheduler : AgentScheduler) (resources : MemorySnapshot)
    (now : TimePoint) (order : IterationOrder AgentId) : AgentScheduler × Option AgentId :=
  scheduler.dispatchLocked resources now order

/-! ### Transitions -/

end AgentScheduler

def transitionAllowed (current next : AgentState) : Bool :=
  match next with
  | .running => current == .dispatched
  | .blocked => current == .running
  | .ready => current == .blocked || current == .suspended || current == .waitingResource
  | .completed | .failed => current == .running || current == .blocked || current == .dispatched
  | .cancelled => !isTerminal current
  | _ => false

def transitionLocked (node : Node) (next : AgentState) : Except StdString Node :=
  if transitionAllowed node.state next then .ok (node.setState next)
  else .error (text "invalid transition " ++ node.state.name ++ text " -> " ++ next.name)

namespace AgentScheduler

def markRunning (scheduler : AgentScheduler) (id : AgentId) (processId : Int64)
    (now : TimePoint) : AgentScheduler × Outcome :=
  match scheduler.node? id with
  | none => (scheduler, .rejected (text "agent does not exist"))
  | some node =>
      match transitionLocked node .running with
      | .error message => (scheduler, .rejected message)
      | .ok moved =>
          (scheduler.store id (moved.startAs processId now), .accepted)

def markBlocked (scheduler : AgentScheduler) (id : AgentId) : AgentScheduler × Outcome :=
  match scheduler.node? id with
  | none => (scheduler, .refused)
  | some node =>
      match transitionLocked node .blocked with
      | .error message => (scheduler, .rejected message)
      | .ok moved => (scheduler.store id moved, .accepted)

def wake (scheduler : AgentScheduler) (id : AgentId) : AgentScheduler × Outcome :=
  match scheduler.node? id with
  | none => (scheduler, .refused)
  | some node =>
      match transitionLocked node .ready with
      | .error message => (scheduler, .rejected message)
      | .ok moved =>
          ((scheduler.store id moved).enqueue id, .accepted)

/-! ### Release, completion, failure and cancellation -/

end AgentScheduler

/-- Subtraction that stops at zero, as `release_resources_locked` writes it. -/
def releaseFrom (reserved amount : UInt64) : UInt64 :=
  if amount > reserved then 0 else reserved - amount

namespace AgentScheduler

/-- Returns the counters and the node after the release; the caller stores the
node. -/
def releaseResourcesLocked (scheduler : AgentScheduler) (node : Node) :
    AgentScheduler × Node :=
  if !node.resourcesReserved then (scheduler, node)
  else
    ({ scheduler with
        reservedCpuThreads :=
          releaseFrom scheduler.reservedCpuThreads node.spec.resources.cpuThreads.toUInt64
        reservedMemoryBytes :=
          releaseFrom scheduler.reservedMemoryBytes node.spec.resources.memoryBytes },
      { node with resourcesReserved := false })

end AgentScheduler

def Node.decrementUnresolved (node : Node) : Node :=
  if node.unresolved > 0 then
    { node with snapshot :=
        { node.snapshot with unresolvedDependencies := node.unresolved - 1 } }
  else node

namespace AgentScheduler

/-- One turn of the loop over the successors of a completed agent. -/
def resolveDependency (scheduler : AgentScheduler) (successorId : AgentId) : AgentScheduler :=
  match scheduler.node? successorId with
  | none => scheduler
  | some successor =>
      let resolved := successor.decrementUnresolved
      if resolved.unresolved = 0 ∧ resolved.state = .waitingDependency then
        scheduler.enqueueReadyLocked successorId resolved
      else scheduler.store successorId resolved

def complete (scheduler : AgentScheduler) (id : AgentId) (now : TimePoint) :
    AgentScheduler × Outcome :=
  match scheduler.node? id with
  | none => (scheduler, .refused)
  | some node =>
      match transitionLocked node .completed with
      | .error message => (scheduler, .rejected message)
      | .ok moved =>
          let released := scheduler.releaseResourcesLocked (moved.finishAt now)
          (released.2.successors.foldl resolveDependency (released.1.store id released.2),
            .accepted)

/-- The body of the cascade for a successor that is not terminal, up to the
recursive call. -/
def cancelSuccessor (scheduler : AgentScheduler) (reason : StdString) (now : TimePoint)
    (id successorId : AgentId) (successor : Node) : AgentScheduler :=
  let released := (scheduler.dequeue successorId).releaseResourcesLocked successor
  released.1.store successorId
    ((released.2.setState .cancelled).finishWith (reason ++ text ": " ++ toStdString id) now)

/-- One turn of the loop over the successors of `id`. -/
def cascadeTurn (recurse : AgentScheduler → AgentId → AgentScheduler) (reason : StdString)
    (now : TimePoint) (id : AgentId) (current : AgentScheduler) (successorId : AgentId) :
    AgentScheduler :=
  match current.node? successorId with
  | none => current
  | some successor =>
      if isTerminal successor.state then current
      else recurse (current.cancelSuccessor reason now id successorId successor) successorId

/-- The recursion, with a bound on its depth. -/
def cascade (reason : StdString) (now : TimePoint) :
    Nat → AgentScheduler → AgentId → AgentScheduler
  | 0, scheduler, _ => scheduler
  | depth + 1, scheduler, id =>
      (successorsOf scheduler.nodes id).foldl
        (cascadeTurn (cascade reason now depth) reason now id) scheduler

/-- Every nested call has cancelled one more agent, so the number of agents
bounds the depth. -/
def cancelDescendantsLocked (scheduler : AgentScheduler) (id : AgentId)
    (reason : StdString) (now : TimePoint) : AgentScheduler :=
  cascade reason now (scheduler.nodes.keys.length + 1) scheduler id

/-- Resources are released before the state of the agent is looked at, and the
retry path assigns the state without `transition_locked`. -/
def fail (scheduler : AgentScheduler) (id : AgentId) (message : StdString)
    (now : TimePoint) : AgentScheduler × Outcome :=
  match scheduler.node? id with
  | none => (scheduler, .rejected (text "agent does not exist"))
  | some node =>
      let released := scheduler.releaseResourcesLocked node
      let current := released.2
      if current.snapshot.retryCount < current.spec.retryLimit then
        ((released.1.store id (current.retryWith message)).enqueue id, .accepted)
      else
        match transitionLocked current .failed with
        | .error failure => (released.1.store id current, .rejected failure)
        | .ok moved =>
            ((released.1.store id (moved.finishWith message now)).cancelDescendantsLocked id
                (text "dependency agent failed") now,
              .accepted)

def cancel (scheduler : AgentScheduler) (id : AgentId) (now : TimePoint) :
    AgentScheduler × Outcome :=
  match scheduler.node? id with
  | none => (scheduler, .refused)
  | some node =>
      match transitionLocked node .cancelled with
      | .error message => (scheduler, .rejected message)
      | .ok moved =>
          let released := (scheduler.dequeue id).releaseResourcesLocked moved
          ((released.1.store id (released.2.finishAt now)).cancelDescendantsLocked id
              (text "dependency agent was cancelled") now,
            .accepted)

/-! ### Bindings and metrics -/

/-- The three late writes share their guard: the agent exists and is not
terminal, and the argument is acceptable. -/
def annotate (scheduler : AgentScheduler) (id : AgentId) (acceptable : Bool)
    (message : StdString) (write : AgentSnapshot → AgentSnapshot) :
    AgentScheduler × Outcome :=
  match scheduler.node? id with
  | none => (scheduler, .rejected message)
  | some node =>
      if isTerminal node.state || !acceptable then (scheduler, .rejected message)
      else
        (scheduler.store id { node with snapshot := write node.snapshot }, .accepted)

def bindContext (scheduler : AgentScheduler) (id : AgentId) (contextId : ContextId) :
    AgentScheduler × Outcome :=
  scheduler.annotate id true (text "cannot bind context to agent")
    fun snapshot => { snapshot with contextId := contextId }

def bindProcess (scheduler : AgentScheduler) (id : AgentId) (processId : Int64) :
    AgentScheduler × Outcome :=
  scheduler.annotate id (!decide (processId < 0)) (text "cannot bind process to agent")
    fun snapshot => { snapshot with processId := processId }

def recordMetrics (scheduler : AgentScheduler) (id : AgentId)
    (metrics : AgentPerformanceMetrics) : AgentScheduler × Outcome :=
  scheduler.annotate id true (text "cannot record metrics for agent")
    fun snapshot => { snapshot with metrics := metrics }

def allTerminal (scheduler : AgentScheduler) : Bool :=
  scheduler.nodes.entries.all fun entry => isTerminal entry.2.state

/-! ### Runs -/

/-- The public operations that change the scheduler, with their arguments, the
clock they read and the iteration order of the table they traverse. -/
inductive Operation where
  | submit (task : AgentTaskSpec) (now : TimePoint) (order : IterationOrder AgentId)
  | submitBatch (tasks : List AgentTaskSpec) (now : TimePoint) (order : IterationOrder AgentId)
  | spawn (parent : AgentId) (task : AgentTaskSpec) (now : TimePoint)
      (order : IterationOrder AgentId)
  | tryDispatch (resources : MemorySnapshot) (now : TimePoint) (order : IterationOrder AgentId)
  | waitDispatch (resources : MemorySnapshot) (now : TimePoint) (order : IterationOrder AgentId)
  | markRunning (id : AgentId) (processId : Int64) (now : TimePoint)
  | markBlocked (id : AgentId)
  | wake (id : AgentId)
  | complete (id : AgentId) (now : TimePoint)
  | fail (id : AgentId) (message : StdString) (now : TimePoint)
  | cancel (id : AgentId) (now : TimePoint)
  | bindContext (id : AgentId) (contextId : ContextId)
  | bindProcess (id : AgentId) (processId : Int64)
  | recordMetrics (id : AgentId) (metrics : AgentPerformanceMetrics)

def step (scheduler : AgentScheduler) : Operation → AgentScheduler
  | .submit task now order => (scheduler.submit task now order).1
  | .submitBatch tasks now order => (scheduler.submitBatch tasks now order).1
  | .spawn parent task now order => (scheduler.spawn parent task now order).1
  | .tryDispatch resources now order => (scheduler.tryDispatch resources now order).1
  | .waitDispatch resources now order => (scheduler.waitDispatch resources now order).1
  | .markRunning id processId now => (scheduler.markRunning id processId now).1
  | .markBlocked id => (scheduler.markBlocked id).1
  | .wake id => (scheduler.wake id).1
  | .complete id now => (scheduler.complete id now).1
  | .fail id message now => (scheduler.fail id message now).1
  | .cancel id now => (scheduler.cancel id now).1
  | .bindContext id contextId => (scheduler.bindContext id contextId).1
  | .bindProcess id processId => (scheduler.bindProcess id processId).1
  | .recordMetrics id metrics => (scheduler.recordMetrics id metrics).1

/-- A scheduler starts empty. -/
def machine : Machine AgentScheduler Operation :=
  { initial := {}
    step := step }

abbrev Reachable (scheduler : AgentScheduler) : Prop :=
  machine.Reachable scheduler

end AgentScheduler

end AgentNucleus.Runtime
