/-
The output of a command agent: `drain_output`, the loop of `ProcessExecutor::run`
around it, the publication by `AgentRuntime::execute`, and `AgentResultStore`.  The
child's stream and every answer of the kernel are inputs.
-/

import AgentNucleus.Library.UnorderedMap
import AgentNucleus.Runtime.Scheduler
import AgentNucleus.Runtime.WireFormat

set_option autoImplicit false

namespace AgentNucleus.Runtime

open Library

/-! ### `drain_output` -/

/-- The answer of one `read` on the output pipe. -/
inductive ReadAnswer where
  /-- Not more than `limit + 1` of the bytes that the child has written are ready. -/
  | ready (limit : Nat)
  | endOfFile
  /-- `EINTR`. -/
  | interrupted
  /-- `EAGAIN` or `EWOULDBLOCK`. -/
  | wouldBlock
  | failed
deriving DecidableEq, Repr

/-- The memory from `output_buffer` on, also behind the end of the buffer, the two
results, and what is left of the stream.  The last field is not in the program: the
bytes that have been read. -/
structure Capture where
  memory : Nat → UInt8
  outputBytes : UInt64 := 0
  outputTruncated : Bool := false
  pending : List UInt8
  drained : List UInt8 := []

/-- What the kernel does with the bytes it delivers. -/
def writeBytes (memory : Nat → UInt8) (offset : Nat) (bytes : List UInt8) : Nat → UInt8 :=
  fun address =>
    if offset ≤ address then (bytes[address - offset]?).getD (memory address)
    else memory address

namespace Capture

def kDiscardSize : UInt64 := 8192

/-- `destination` is the buffer, not `discard`. -/
def intoBuffer (capture : Capture) (capacity : UInt64) : Bool :=
  capture.outputBytes < capacity

def available (capture : Capture) (capacity : UInt64) : UInt64 :=
  if capture.intoBuffer capacity then min (capacity - capture.outputBytes) kDiscardSize
  else kDiscardSize

/-- The bytes that a `read` delivers. -/
def delivered (capture : Capture) (capacity : UInt64) (limit : Nat) : List UInt8 :=
  capture.pending.take (min (limit + 1) (capture.available capacity).toNat)

/-- `count > 0`. -/
def receive (capture : Capture) (capacity : UInt64) (bytes : List UInt8) : Capture :=
  let after : Capture :=
    { capture with
      pending := capture.pending.drop bytes.length
      drained := capture.drained ++ bytes }
  if capture.intoBuffer capacity then
    { after with
      memory := writeBytes capture.memory capture.outputBytes.toNat bytes
      outputBytes := capture.outputBytes + UInt64.ofNat bytes.length }
  else { after with outputTruncated := true }

/-- One turn of the loop, and the value with which it returns, if it does. -/
def drainTurn (capture : Capture) (capacity : UInt64) : ReadAnswer → Option Bool × Capture
  | .ready limit =>
      let bytes := capture.delivered capacity limit
      if bytes.isEmpty then (some true, capture) else (none, capture.receive capacity bytes)
  | .endOfFile => (some true, capture)
  | .interrupted => (none, capture)
  | .wouldBlock => (some false, capture)
  | .failed => (some true, capture)

/-- The loop over the answers it meets; without a value it has not returned yet. -/
def drainOutput (capacity : UInt64) : List ReadAnswer → Capture → Option Bool × Capture
  | [], capture => (none, capture)
  | answer :: rest, capture =>
      match capture.drainTurn capacity answer with
      | (some closed, after) => (some closed, after)
      | (none, after) => drainOutput capacity rest after

/-- Calls of `drain_output`, one after the other. -/
def drainCalls (capacity : UInt64) (calls : List (List ReadAnswer)) (capture : Capture) :
    Capture :=
  calls.foldl (fun current answers => (drainOutput capacity answers current).2) capture

end Capture

/-! ### `ProcessExecutor::run` -/

inductive ExitStatus where
  | exited (code : Int)
  | signaled (signal : Int)
  | other
deriving DecidableEq, Repr

/-- What a turn of the loop learns about the child. -/
inductive WaitAnswer where
  | nothing
  | gone (status : ExitStatus)
  | interrupted
  | pollFailed
  | waitFailed
deriving DecidableEq, Repr

structure RunTurn where
  reads : List ReadAnswer
  wait : WaitAnswer
  cancelled : Bool := false
  expired : Bool := false
  /-- The status of the last `waitpid` after a kill. -/
  killed : ExitStatus := .other

/-- How far the start of the child comes. -/
inductive StartAnswer where
  | noBarrier
  | noPipe
  | forkFailed
  | notIsolated
  | notConfigured
  /-- `on_started` returns false with this text. -/
  | rejected (error : StdString)
  | notReleased
  | released
deriving DecidableEq, Repr

structure ProcessResult where
  started : Bool := false
  timedOut : Bool := false
  exitCode : Int := -1
  processId : Int64 := -1
  outputBytes : UInt64 := 0
  outputTruncated : Bool := false
  error : StdString := []
deriving DecidableEq, Repr

/-- The answers that one call of `run` meets. -/
structure RunEnvironment where
  cancelledBefore : Bool := false
  start : StartAnswer := .released
  processId : Int64
  turns : List RunTurn
  lastReads : List ReadAnswer := []

namespace ProcessExecutor

open Capture

/-- The failures up to the start token. -/
def startResult (environment : RunEnvironment) : Option ProcessResult :=
  match environment.start with
  | .noBarrier => some { error := text "failed to create process start barrier" }
  | .noPipe => some { error := text "failed to create process output pipe" }
  | .forkFailed => some { error := text "fork failed" }
  | .notIsolated => some { error := text "failed to isolate process group" }
  | .notConfigured => some { error := text "failed to configure process output pipe" }
  | .rejected error =>
      some
        { processId := environment.processId
          error := if error.isEmpty then text "process admission rejected" else error }
  | .notReleased =>
      some
        { processId := environment.processId
          error := text "failed to release process start barrier" }
  | .released => none

/-- How the loop ends. -/
inductive LoopEnd where
  | broken (error : StdString)
  | ended (timedOut : Bool) (status : ExitStatus)

/-- The loop, with `output_closed` and the captured output; without a value it has
not ended. -/
def runLoop (capacity : UInt64) :
    List RunTurn → Bool → Capture → Option (LoopEnd × Bool × Capture)
  | [], _, _ => none
  | turn :: rest, closed, capture =>
      match if closed then (some true, capture) else drainOutput capacity turn.reads capture with
      | (none, _) => none
      | (some nowClosed, after) =>
          match turn.wait with
          | .gone status => some (.ended false status, nowClosed, after)
          | .pollFailed => some (.broken (text "poll on pidfd failed"), nowClosed, after)
          | .waitFailed => some (.broken (text "waitpid failed"), nowClosed, after)
          | .interrupted => runLoop capacity rest nowClosed after
          | .nothing =>
              if turn.cancelled || turn.expired then
                some (.ended turn.expired turn.killed, nowClosed, after)
              else runLoop capacity rest nowClosed after

def exitCode : ExitStatus → Int
  | .exited code => code
  | .signaled signal => 128 + signal
  | .other => -1

def outputResult (processId : Int64) (capture : Capture) : ProcessResult :=
  { started := true
    processId := processId
    outputBytes := capture.outputBytes
    outputTruncated := capture.outputTruncated }

/-- `run` once the child has its start token. -/
def runStarted (environment : RunEnvironment) (capacity : UInt64) (hasBuffer : Bool)
    (capture : Capture) : Option (ProcessResult × Capture) :=
  match runLoop capacity environment.turns (!hasBuffer) capture with
  | none => none
  | some (.broken error, _, after) =>
      some ({ outputResult environment.processId after with error := error }, after)
  | some (.ended timedOut status, closed, after) =>
      match if closed then (some true, after)
        else drainOutput capacity environment.lastReads after with
      | (none, _) => none
      | (some _, last) =>
          some
            ({ outputResult environment.processId last with
                timedOut := timedOut
                exitCode := exitCode status },
              last)

/-- A call that does not return has no value. -/
def run (environment : RunEnvironment) (command : List StdString) (capacity : UInt64)
    (hasBuffer : Bool) (capture : Capture) : Option (ProcessResult × Capture) :=
  if command.isEmpty || (command.head?.map List.isEmpty).getD false then
    some ({ error := text "process command is empty" }, capture)
  else if environment.cancelledBefore then
    some ({ error := text "process was cancelled before start" }, capture)
  else if (!hasBuffer) != (capacity == 0) then
    some ({ error := text "invalid process output buffer" }, capture)
  else
    match startResult environment with
    | some result => some (result, capture)
    | none => runStarted environment capacity hasBuffer capture

end ProcessExecutor

/-! ### Shared results -/

structure SharedMemoryRegion where
  data : Nat → UInt8 := fun _ => 0
  mapped : Bool := false
  size : UInt64 := 0
  regionId : UInt64 := 0
  readOnly : Bool := false

def SharedDataType.textUtf8 : UInt32 := 1

def sharedBufferTruncated : UInt32 := 1
def sharedBufferImmutable : UInt32 := 2
def sharedBufferStdoutStderr : UInt32 := 4

/-- `std::numeric_limits<off_t>::max()`. -/
def kMaxOffset : UInt64 := 9223372036854775807

namespace SharedMemoryRegion

def valid (region : SharedMemoryRegion) : Bool :=
  region.mapped && region.size > 0

/-- The system calls of `create` answer with the id of a region of zero bytes, or
with an error. -/
def create (size : UInt64) (answer : Except StdString UInt64) :
    Except StdString SharedMemoryRegion :=
  if size = 0 ∨ size > kMaxOffset then .error (text "shared memory size must be non-zero")
  else answer.map fun regionId => { mapped := true, size := size, regionId := regionId }

def resize (region : SharedMemoryRegion) (size : UInt64) (answer : Except StdString Unit) :
    Except StdString SharedMemoryRegion :=
  if !region.valid ∨ region.readOnly ∨ size = 0 ∨ size > kMaxOffset then
    .error (text "invalid shared memory resize")
  else if size = region.size then .ok region
  else answer.map fun _ => { region with size := size }

def sealReadOnly (region : SharedMemoryRegion) (answer : Except StdString Unit) :
    Except StdString SharedMemoryRegion :=
  if !region.valid ∨ region.readOnly then
    .error (text "shared memory region is not writable")
  else answer.map fun _ => { region with readOnly := true }

end SharedMemoryRegion

structure StoredResult where
  region : SharedMemoryRegion
  reference : SharedBufferRef

/-- The answers of the system calls under `publish`. -/
structure PublishEnvironment where
  resized : Except StdString Unit := .ok ()
  sealed : Except StdString Unit := .ok ()

namespace AgentResultStore

def retained (length : UInt64) : UInt64 :=
  if length = 0 then 1 else length

def storedResult (region : SharedMemoryRegion) (length : UInt64) (dataType flags : UInt32) :
    StoredResult :=
  { region := region
    reference :=
      { regionId := region.regionId
        regionSize := region.size
        offset := 0
        length := length
        dataType := dataType
        flags := flags ||| sharedBufferImmutable
        version := 1 } }

def publish (results : UnorderedMap AgentId StoredResult) (environment : PublishEnvironment)
    (id : AgentId) (region : SharedMemoryRegion) (length : UInt64) (dataType flags : UInt32) :
    Except StdString (UnorderedMap AgentId StoredResult) :=
  if id = kInvalidAgentId ∨ !region.valid ∨ length > region.size then
    .error (text "invalid agent result")
  else
    match
      if retained length ≠ region.size then region.resize (retained length) environment.resized
      else .ok region with
    | .error error => .error error
    | .ok resized =>
        match resized.sealReadOnly environment.sealed with
        | .error error => .error error
        | .ok sealed => .ok (results.insert id (storedResult sealed length dataType flags))

end AgentResultStore

/-! ### The command branch of `AgentRuntime::execute` -/

structure CommandEnvironment where
  created : Except StdString UInt64
  /-- `create_agent_group`, where cgroups are enabled. -/
  group : Except StdString Unit := .ok ()
  run : RunEnvironment
  stream : List UInt8
  publish : PublishEnvironment := {}

/-- The result of `execute` and the results of all agents.  The last field is not in
the program: the output of the process. -/
structure CommandExecution where
  success : Bool
  message : StdString := []
  results : UnorderedMap AgentId StoredResult
  started : Bool := false
  capture : Option Capture := none

namespace CommandExecution

def refused (results : UnorderedMap AgentId StoredResult) (message : StdString) :
    CommandExecution :=
  { success := false, message := message, results := results }

/-- What `execute` returns after a publication that has not failed. -/
def verdict (result : ProcessResult) : Bool × StdString :=
  if !result.started then (false, result.error)
  else if result.timedOut then (false, text "agent process timed out")
  else if result.exitCode ≠ 0 then
    (false, text "agent process exited with code " ++ text (toString result.exitCode))
  else (true, [])

def outputFlags (result : ProcessResult) : UInt32 :=
  if result.outputTruncated then sharedBufferStdoutStderr ||| sharedBufferTruncated
  else sharedBufferStdoutStderr

/-- From the return of `run` on. -/
def conclude (environment : CommandEnvironment) (results : UnorderedMap AgentId StoredResult)
    (id : AgentId) (region : SharedMemoryRegion) (result : ProcessResult) (capture : Capture) :
    CommandExecution :=
  let filled := { region with data := capture.memory }
  let published :=
    if result.started && region.valid then
      AgentResultStore.publish results environment.publish id filled result.outputBytes
        SharedDataType.textUtf8 (outputFlags result)
    else .ok results
  match published with
  | .error message =>
      { success := false
        message := message
        results := results
        started := result.started
        capture := some capture }
  | .ok after =>
      { success := (verdict result).1
        message := (verdict result).2
        results := after
        started := result.started
        capture := some capture }

/-- A process that never ends leaves no value. -/
def execute (environment : CommandEnvironment) (maxAgentOutputBytes : UInt64)
    (results : UnorderedMap AgentId StoredResult) (id : AgentId) (command : List StdString) :
    Option CommandExecution :=
  let erased := results.erase id
  let created :=
    if maxAgentOutputBytes > 0 then
      SharedMemoryRegion.create maxAgentOutputBytes environment.created
    else .ok {}
  match created with
  | .error message => some (refused erased message)
  | .ok region =>
      match environment.group with
      | .error message => some (refused erased message)
      | .ok _ =>
          match ProcessExecutor.run environment.run command region.size region.valid
              { memory := region.data, pending := environment.stream } with
          | none => none
          | some (result, capture) =>
              some (conclude environment erased id region result capture)

end CommandExecution

end AgentNucleus.Runtime
