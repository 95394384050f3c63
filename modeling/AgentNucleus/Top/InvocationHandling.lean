/-
`TopRuntime::handle` as the handler of an invocation server: what becomes of a request and
its mapped inputs, up to the shared region of the result.
-/

import AgentNucleus.Top.RequestPayload
import AgentNucleus.Top.ToolManager

set_option autoImplicit false

namespace AgentNucleus.Top

open AgentNucleus.Library
open AgentNucleus.Runtime (ContextId InvocationHandler InvocationHandlerResult InvocationKind
  InvocationMappedInput InvocationRequest InvocationStatus MappedRegion SharedDataType.textUtf8
  SharedMemoryRegion.create StdString sharedBufferTruncated text)
open AgentNucleus.Runtime.InvocationProtocol (jsonUtf8)

/-- What one call of `handle` meets outside. -/
structure HandleEnvironment where
  /-- `getpid()`. -/
  process : Int32
  running : 0 < process
  answers : Answers Answer
  order : IterationOrder ContextId := .asStored
  samplingValid : Bool := true
  /-- The text of the `stats` operation. -/
  statistics : StdString := []
  /-- The last value of `next_region_id`. -/
  regionSequence : UInt64 := 1
  /-- What `memfd_create` returns when it succeeds. -/
  descriptor : Int32
  opened : 0 ≤ descriptor
  tool : ToolEnvironment

namespace HandleEnvironment

variable (environment : HandleEnvironment)

/-- `make_region_id`. -/
def regionId : UInt64 :=
  (environment.process.toInt64.toUInt64 <<< 32) ||| (environment.regionSequence &&& 0xffffffff)

/-- The region of `make_text_result`, once its system calls have succeeded. -/
def textRegion (content : StdString) : Except StdString MappedRegion :=
  (SharedMemoryRegion.create (UInt64.ofNat (max 1 content.length))
    (.ok environment.regionId)).map fun region =>
      { region with
        data := fun address => content.getD address 0
        descriptor := environment.descriptor }

/-- A result with its text in a region. -/
def withRegion (outputType : UInt32) (result : HandlerResult) : InvocationHandlerResult :=
  let plain : InvocationHandlerResult :=
    { status := result.status
      message := result.message
      contextId := result.contextId
      metrics := result.metrics }
  if result.status ≠ .ok then plain
  else
    match environment.textRegion result.output with
    | .error message => { plain with status := .failed, message := message }
    | .ok region =>
        { plain with
          output := region
          outputLength := UInt64.ofNat result.output.length
          outputType := outputType }

/-- Only a generated text is no JSON. -/
def modelResult (request : InvocationRequest) (result : HandlerResult) :
    InvocationHandlerResult :=
  environment.withRegion
    (if request.operation = text "generate" then SharedDataType.textUtf8 else jsonUtf8)
    (if request.operation = text "stats" then { result with output := environment.statistics }
      else result)

def toolResult (tool : ToolResult) (stored : HandlerResult) : InvocationHandlerResult :=
  let result := environment.withRegion tool.outputType stored
  { result with
    status := if tool.status ≠ .ok then tool.status else result.status
    message := if tool.status ≠ .ok then tool.message else result.message
    processId := tool.processId
    metrics := { result.metrics with executionTimeUs := tool.executionTimeUs }
    outputFlags :=
      if tool.outputTruncated then result.outputFlags ||| sharedBufferTruncated
      else result.outputFlags }

end HandleEnvironment

/-- Every system call succeeds, and nothing is cancelled. -/
def quietEnvironment : HandleEnvironment where
  process := 7
  running := by decide
  answers := fun _ => {}
  descriptor := 3
  opened := by decide
  tool := { run := { processId := 8, turns := [] }, unconditional := nofun }

/-- A result or an exception; a call that does not return has neither. -/
abbrev Outcome := Option (Except (Option StdString) InvocationHandlerResult)

/-- `TopRuntime` between two calls. -/
structure ServingRuntime where
  config : ServingConfig
  enableShellTool : Bool := false
  initialized : Bool := false
  accepted : initialized = true → config.accepted = true
  stores : RuntimeStores

namespace ServingRuntime

variable (runtime : ServingRuntime) (environment : HandleEnvironment)

/-- The configuration of a runtime that is initialized. -/
def accepting (ready : runtime.initialized = true) : AcceptedServing :=
  ⟨runtime.config, runtime.accepted ready⟩

def tools : ToolManager := .create runtime.enableShellTool

/-- The call with what its payload and inputs are parsed to. -/
def call (request : InvocationRequest) (inputs : List InvocationMappedInput) :
    RuntimeStores.HandleCall where
  request := request
  payload := generatePayload runtime.config environment.samplingValid request inputs
  warmupPrompt := warmupPrompt request.payload
  order := environment.order
  answers := environment.answers

def handleModel (accepted : runtime.config.accepted = true) (request : InvocationRequest)
    (inputs : List InvocationMappedInput) : Serve Outcome := do
  let result ← RuntimeStores.handleModel ⟨runtime.config, accepted⟩
    (runtime.call environment request inputs)
  pure (some (.ok (environment.modelResult request result)))

/-- The text of the tool is stored even if the tool has failed. -/
def handleTool (request : InvocationRequest) (inputs : List InvocationMappedInput) :
    Serve Outcome :=
  match runtime.tools.execute environment.tool request inputs with
  | none => pure none
  | some (.error what) => pure (some (.error (some what)))
  | some (.ok tool) => do
      let stored ← RuntimeStores.makeTextResult tool.output true
      pure (some (.ok (environment.toolResult tool stored)))

def handle (request : InvocationRequest) (inputs : List InvocationMappedInput) :
    Serve Outcome :=
  if ready : runtime.initialized = true then do
    let cancelled ← RuntimeStores.cancelRequested
    if cancelled then
      pure (some (.ok {
        status := .cancelled
        message := text "invocation cancelled before execution" }))
    else if request.kind = InvocationKind.model then
      runtime.handleModel environment (runtime.accepted ready) request inputs
    else if request.kind = InvocationKind.tool then
      runtime.handleTool environment request inputs
    else
      pure (some (.ok { status := .rejected, message := text "unsupported invocation kind" }))
  else
    pure (some (.ok { status := .failed, message := text "top runtime is not initialized" }))

def outcome (request : InvocationRequest) (inputs : List InvocationMappedInput) : Outcome :=
  (runtime.handle environment request inputs runtime.stores environment.answers).1.1

/-- The handler of the server.  What it gives for a call that does not return does not
matter. -/
def handler : InvocationHandler := fun request inputs =>
  (runtime.outcome environment request inputs).getD (.error none)

end ServingRuntime

end AgentNucleus.Top
