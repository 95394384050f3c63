/-
The control protocol of `control_protocol.cpp`, between clients and the daemon.
The two sides do not check the same things: the encoder alone refuses a task
that carries a command and an invocation, and the decoder alone checks a shared
result.  A response is sent with the operation `ping`, and its operation is
ignored when it is read.  Operations and agent states are enumerations: the
repository casts no other value into them than those its decoders accept.
-/

import AgentNucleus.Runtime.WireFormat

set_option autoImplicit false

namespace AgentNucleus.Runtime

open AgentNucleus.Library

def kMaxControlMessageSize : Nat := 1024 * 1024
def kMaxCollectionElements : Nat := 4096

inductive ControlOperation where
  | ping
  | submit
  | spawn
  | status
  | list
  | cancel
  | shutdown
  | result
  | releaseResult
deriving DecidableEq, Repr

namespace ControlOperation

def code : ControlOperation → UInt16
  | .ping => 1
  | .submit => 2
  | .spawn => 3
  | .status => 4
  | .list => 5
  | .cancel => 6
  | .shutdown => 7
  | .result => 8
  | .releaseResult => 9

def all : List ControlOperation :=
  [.ping, .submit, .spawn, .status, .list, .cancel, .shutdown, .result, .releaseResult]

end ControlOperation

namespace AgentState

def code : AgentState → UInt8
  | .created => 0
  | .waitingDependency => 1
  | .ready => 2
  | .waitingResource => 3
  | .dispatched => 4
  | .running => 5
  | .blocked => 6
  | .suspended => 7
  | .completed => 8
  | .failed => 9
  | .cancelled => 10

def all : List AgentState :=
  [.created, .waitingDependency, .ready, .waitingResource, .dispatched, .running, .blocked,
    .suspended, .completed, .failed, .cancelled]

end AgentState

structure ControlRequest where
  operation : ControlOperation := .ping
  targetId : AgentId := kInvalidAgentId
  task : AgentTaskSpec := {}
deriving DecidableEq, Repr

structure ControlAgentInfo where
  id : AgentId := kInvalidAgentId
  parentId : AgentId := kInvalidAgentId
  state : AgentState := .created
  processId : Int64 := -1
  unresolvedDependencies : UInt32 := 0
  retryCount : UInt32 := 0
  contextId : ContextId := kInvalidContextId
  metrics : AgentPerformanceMetrics := {}
  name : StdString := []
  kind : StdString := []
  error : StdString := []
deriving DecidableEq, Repr

structure ControlResponse where
  success : Bool := false
  message : StdString := []
  agents : List ControlAgentInfo := []
  resultAvailable : Bool := false
  result : SharedBufferRef := {}
deriving DecidableEq, Repr

namespace ControlProtocol

def protocol : Protocol where
  magic := 0x41525443
  version := 3
  maxMessageSize := kMaxControlMessageSize
  stringError := text "control string exceeds size limit"
  roomError := text "control message exceeds size limit"
  messageError := text "control message exceeds size limit"

/-- The accepted operation values are exactly those of the named operations. -/
def decodeHeader (data : List UInt8) :
    Except StdString (ControlOperation × UInt32 × List UInt8) := do
  let (header, payload) ← orError (text "truncated control header") (readHeader data)
  ensure (header.magic = protocol.magic ∧ header.version = protocol.version)
    (text "unsupported control protocol")
  let operation ← orError (text "unknown control operation")
    (named ControlOperation.all ControlOperation.code header.messageType)
  pure (operation, header.payloadSize, payload)

/-! ### Tasks -/

def encodeInvocation : Option InvocationSpec → ByteWriter StdString Unit
  | none => ByteWriter.put (bytes8 (flagByte false))
  | some invocation => do
      ByteWriter.put (bytes8 (flagByte true))
      ByteWriter.put (bytes8 invocation.kind.value)
      ByteWriter.put (bytes64 invocation.contextId)
      writeString protocol invocation.target
      writeString protocol invocation.operation
      writeString protocol invocation.payload

/-- A collection behind its size. -/
def writeCollection {α : Type} (write : α → ByteWriter StdString Unit) (items : List α) :
    ByteWriter StdString Unit := do
  ByteWriter.put (bytes32 (UInt32.ofNat items.length))
  ByteWriter.each write items

/-- What the encoder asks of an invocation. -/
def invocationValid (invocation : InvocationSpec) : Prop :=
  invocation.target ≠ [] ∧ invocation.operation ≠ [] ∧
    (invocation.kind = .model ∨ invocation.kind = .tool)

instance (invocation : InvocationSpec) : Decidable (invocationValid invocation) :=
  inferInstanceAs (Decidable (_ ∧ _ ∧ (_ ∨ _)))

/-- Every `int` is in the range that the source checks. -/
def encodeTask (task : AgentTaskSpec) : ByteWriter StdString Unit := do
  ByteWriter.require (0 ≤ task.resources.timeout ∧ (task.command = [] ∨ task.invocation = none) ∧
    ∀ invocation ∈ task.invocation, invocationValid invocation)
    (text "task contains invalid fields")
  ByteWriter.put (bytes64 task.id)
  ByteWriter.put (bytes64 task.parentId)
  ByteWriter.put (bytes32 task.priority.toUInt32)
  ByteWriter.put (bytes32 task.resources.cpuThreads)
  ByteWriter.put (bytes64 task.resources.memoryBytes)
  ByteWriter.put (bytes64 task.resources.timeout.toUInt64)
  ByteWriter.put (bytes32 task.retryLimit)
  writeString protocol task.name
  writeString protocol task.kind
  ByteWriter.require (task.dependencies.length ≤ kMaxCollectionElements ∧
    task.command.length ≤ kMaxCollectionElements)
    (text "control collection exceeds size limit")
  writeCollection (fun dependency => ByteWriter.put (bytes64 dependency)) task.dependencies
  writeCollection (writeString protocol) task.command
  encodeInvocation task.invocation

/-- The invocation is read into a fresh object and then moved into the task. -/
def decodeInvocation : ByteReader (Option InvocationSpec) := do
  let hasInvocation ← readFlag
  if hasInvocation then
    let kind ← ByteReader.u8
    ByteReader.require (InvocationKind.model.value ≤ kind ∧ kind ≤ InvocationKind.tool.value)
    let contextId ← ByteReader.u64
    let target ← readString
    let operation ← readString
    let payload ← readString
    ByteReader.require (target ≠ [] ∧ operation ≠ [])
    pure (some { kind := ⟨kind⟩, target, operation, payload, contextId })
  else
    pure none

def readCollection {α : Type} (read : α → ByteReader α) (old : List α) (filler : α) :
    ByteReader (List α) := do
  let count ← ByteReader.u32
  ByteReader.require (count.toNat ≤ kMaxCollectionElements)
  ByteReader.each read (resized old count.toNat filler)

def decodeTask (task : AgentTaskSpec) : ByteReader AgentTaskSpec := do
  let id ← ByteReader.u64
  let parentId ← ByteReader.u64
  let priority ← ByteReader.u32
  let cpuThreads ← ByteReader.u32
  let memoryBytes ← ByteReader.u64
  let timeoutMs ← ByteReader.u64
  let retryLimit ← ByteReader.u32
  let name ← readString
  let kind ← readString
  ByteReader.require (timeoutMs ≤ maxTimeoutMs)
  let dependencies ← readCollection (fun _ => ByteReader.u64) task.dependencies 0
  let command ← readCollection (fun _ => readString) task.command []
  let invocation ← decodeInvocation
  pure { task with
    id := id
    parentId := parentId
    name := name
    kind := kind
    priority := priority.toInt32
    dependencies := dependencies
    resources := { task.resources with
      cpuThreads := cpuThreads
      memoryBytes := memoryBytes
      timeout := timeoutMs.toInt64 }
    retryLimit := retryLimit
    command := command
    invocation := invocation }

/-! ### Agents -/

def encodeAgent (agent : ControlAgentInfo) : ByteWriter StdString Unit := do
  ByteWriter.put (bytes64 agent.id)
  ByteWriter.put (bytes64 agent.parentId)
  ByteWriter.put (bytes8 agent.state.code)
  ByteWriter.put (bytes64 agent.processId.toUInt64)
  ByteWriter.put (bytes32 agent.unresolvedDependencies)
  ByteWriter.put (bytes32 agent.retryCount)
  ByteWriter.put (bytes64 agent.contextId)
  encodeMetrics agent.metrics
  writeString protocol agent.name
  writeString protocol agent.kind
  writeString protocol agent.error

/-- The accepted state values are exactly those of the named states. -/
def stateOf (value : UInt8) : ByteReader AgentState :=
  fun bytes => (named AgentState.all AgentState.code value).map fun state => (state, bytes)

def decodeAgent (agent : ControlAgentInfo) : ByteReader ControlAgentInfo := do
  let id ← ByteReader.u64
  let parentId ← ByteReader.u64
  let stateValue ← ByteReader.u8
  let processId ← ByteReader.u64
  let unresolvedDependencies ← ByteReader.u32
  let retryCount ← ByteReader.u32
  let contextId ← ByteReader.u64
  let metrics ← decodeMetrics agent.metrics
  let name ← readString
  let kind ← readString
  let error ← readString
  let state ← stateOf stateValue
  pure { agent with
    id := id
    parentId := parentId
    state := state
    processId := processId.toInt64
    unresolvedDependencies := unresolvedDependencies
    retryCount := retryCount
    contextId := contextId
    metrics := metrics
    name := name
    kind := kind
    error := error }

/-! ### Requests and responses -/

def makeControlInfo (snapshot : AgentSnapshot) : ControlAgentInfo where
  id := snapshot.spec.id
  parentId := snapshot.spec.parentId
  state := snapshot.state
  processId := snapshot.processId
  unresolvedDependencies := snapshot.unresolvedDependencies
  retryCount := snapshot.retryCount
  contextId := snapshot.contextId
  metrics := snapshot.metrics
  name := snapshot.spec.name
  kind := snapshot.spec.kind
  error := snapshot.error

def writeRequest (request : ControlRequest) : ByteWriter StdString Unit := do
  ByteWriter.put (bytes64 request.targetId)
  encodeTask request.task

def encodeControlRequest (request : ControlRequest) : Except StdString (List UInt8) :=
  buildMessage protocol request.operation.code (writeRequest request)

def readRequest (request : ControlRequest) : ByteReader (AgentId × AgentTaskSpec) := do
  let targetId ← ByteReader.u64
  let task ← decodeTask request.task
  pure (targetId, task)

def decodeControlRequest (data : List UInt8) (request : ControlRequest) :
    Except StdString ControlRequest := do
  ensure (data.length ≤ kMaxControlMessageSize) (text "invalid control request buffer")
  let (operation, payloadSize, payload) ← decodeHeader data
  ensure (payloadSize.toNat = payload.length) (text "invalid control request")
  let ((targetId, task), remaining) ← orError (text "invalid control request")
    (readRequest request payload)
  ensure (remaining = []) (text "invalid control request")
  pure { request with operation := operation, targetId := targetId, task := task }

def writeResponse (response : ControlResponse) : ByteWriter StdString Unit := do
  ByteWriter.put (bytes8 (flagByte response.success))
  writeString protocol response.message
  writeCollection encodeAgent response.agents
  ByteWriter.put (bytes8 (flagByte response.resultAvailable))
  encodeOptionalReference response.resultAvailable response.result

def encodeControlResponse (response : ControlResponse) : Except StdString (List UInt8) := do
  ensure (response.agents.length ≤ kMaxCollectionElements)
    (text "invalid control response collection")
  buildMessage protocol ControlOperation.ping.code (writeResponse response)

/-- What stands before the agents of a response, as it is read. -/
structure ResponseFields where
  success : Bool
  message : StdString
  count : UInt32

def readResponseFields : ByteReader ResponseFields := do
  let success ← readFlag
  let message ← readString
  let count ← ByteReader.u32
  ByteReader.require (count.toNat ≤ kMaxCollectionElements)
  pure { success, message, count }

def decodeControlResponse (data : List UInt8) (response : ControlResponse) :
    Except StdString ControlResponse := do
  ensure (data.length ≤ kMaxControlMessageSize) (text "invalid control response buffer")
  let (_, payloadSize, payload) ← decodeHeader data
  ensure (payloadSize.toNat = payload.length) (text "invalid control response")
  let (fields, afterFields) ← orError (text "invalid control response")
    (readResponseFields payload)
  let (agents, afterAgents) ← orError (text "invalid agent response")
    (ByteReader.each decodeAgent (resized response.agents fields.count.toNat {}) afterFields)
  let (resultAvailable, afterFlag) ← orError (text "invalid result response")
    (readFlag afterAgents)
  let (result, remaining) ← orError (text "invalid shared result reference")
    (decodeOptionalReference insideRegion resultAvailable afterFlag)
  ensure (remaining = []) (text "trailing control response data")
  pure { response with
    success := fields.success
    message := fields.message
    agents := agents
    resultAvailable := resultAvailable
    result := result }

end ControlProtocol

end AgentNucleus.Runtime
