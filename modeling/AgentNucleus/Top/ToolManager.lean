/-
`ToolManager`: the registered tools and their execution.  A tool that does not return has no
value, and an exception has the text of its `what`.
-/

import AgentNucleus.Runtime.InvocationChannel
import AgentNucleus.Top.RuntimeStores

set_option autoImplicit false

namespace AgentNucleus.Top

open AgentNucleus.Library
open AgentNucleus.Runtime (Capture ContextId InvocationMappedInput InvocationRequest
  InvocationStatus ProcessExecutor.run ProcessResult RunEnvironment SharedDataType.textUtf8
  StdString inputText kMaxStringSize text)

def kMaxToolOutputBytes : UInt64 := 1048576

structure ToolResult where
  status : InvocationStatus := .ok
  message : StdString := []
  output : StdString := []
  outputType : UInt32 := SharedDataType.textUtf8
  processId : Int64 := -1
  executionTimeUs : UInt64 := 0
  outputTruncated : Bool := false

def ToolResult.rejected (message : StdString) : ToolResult := { status := .rejected, message }
def ToolResult.cancelled (message : StdString) : ToolResult := { status := .cancelled, message }

/-- What one execution meets. -/
structure ToolEnvironment where
  /-- The answers to `cancel_requested`, as far as the calls come one after the other. -/
  cancelled : Nat → Bool := fun _ => false
  /-- Whether the thread of the watcher starts. -/
  watcher : Except StdString Unit := .ok ()
  /-- The watcher has set its flag when the process has ended. -/
  raised : Bool := false
  run : RunEnvironment
  /-- The shell gives `run` no `on_started`. -/
  unconditional : ∀ error, run.start ≠ .rejected error
  /-- What the process writes. -/
  stream : List UInt8 := []
  elapsedUs : UInt64 := 0

abbrev ToolHandler :=
  ToolEnvironment → InvocationRequest → List InvocationMappedInput →
    Option (Except StdString ToolResult)

/-! ### The tools -/

def echoTool : ToolHandler := fun environment request inputs =>
  some <| .ok <|
    if request.operation ≠ text "execute" then
      .rejected (text "echo tool only supports operation=execute")
    else if environment.cancelled 0 then .cancelled (text "echo tool cancelled")
    else
      match request.payload, inputs with
      | [], input :: _ =>
          if kMaxToolOutputBytes < input.reference.length then
            .rejected (text "echo output exceeds size limit")
          else
            let output := (inputText input).getD []
            if kMaxToolOutputBytes.toNat < output.length then
              .rejected (text "echo output exceeds size limit")
            else { output }
      | payload, _ =>
          if kMaxToolOutputBytes.toNat < payload.length then
            .rejected (text "echo output exceeds size limit")
          else { output := payload }

/-- The loop over the inputs, with the number of calls of `cancel_requested`. -/
def concatInputs (environment : ToolEnvironment) :
    Nat → StdString → List InvocationMappedInput → ToolResult
  | _, output, [] => { output }
  | calls, output, input :: inputs =>
      if environment.cancelled calls then .cancelled (text "concat tool cancelled")
      else if kMaxToolOutputBytes.toNat - output.length < input.reference.length.toNat then
        .rejected (text "combined tool input exceeds size limit")
      else
        concatInputs environment (calls + 1) (output ++ (inputText input).getD []) inputs

def concatTool : ToolHandler := fun environment request inputs =>
  some <| .ok <|
    if request.operation ≠ text "execute" then
      .rejected (text "concat tool only supports operation=execute")
    else if kMaxToolOutputBytes.toNat < request.payload.length then
      .rejected (text "combined tool output exceeds size limit")
    else concatInputs environment 0 request.payload inputs

/-- `exit_code` is an `int` of 32 bits. -/
def exitMessage (exitCode : Int) : StdString :=
  text "shell tool exited with code " ++ text (toString (Int32.ofInt exitCode).toInt)

/-- The status and the message of a process that has been run. -/
def shellVerdict (raised : Bool) (process : ProcessResult) : InvocationStatus × StdString :=
  if !process.started then (.failed, process.error)
  else if raised then (.cancelled, text "shell tool cancelled")
  else if process.timedOut then (.failed, text "shell tool timed out")
  else if process.exitCode ≠ 0 then (.failed, exitMessage process.exitCode)
  else (.ok, [])

/-- The flag of the watcher starts with the first answer of `cancel_requested`. -/
def shellTool : ToolHandler := fun environment request _ =>
  if request.operation ≠ text "execute" ∨ request.payload = [] then
    some (.ok (.rejected (text "shell tool requires operation=execute and a command payload")))
  else
    match environment.watcher with
    | .error what => some (.error what)
    | .ok _ =>
        let cancelled := environment.cancelled 0
        match ProcessExecutor.run
            { environment.run with
              cancelledBefore := cancelled || environment.run.cancelledBefore }
            [text "/bin/sh", text "-c", request.payload] kMaxToolOutputBytes true
            { memory := fun _ => 0, pending := environment.stream } with
        | none => none
        | some (process, capture) =>
            let verdict := shellVerdict (cancelled || environment.raised) process
            some (.ok {
              status := verdict.1
              message := verdict.2
              output := (List.range process.outputBytes.toNat).map capture.memory
              processId := process.processId
              outputTruncated := process.outputTruncated })

/-! ### The manager -/

structure ToolManager where
  tools : UnorderedMap StdString ToolHandler := ∅

namespace ToolManager

/-- An empty `std::function` is `none`. -/
def registerTool (manager : ToolManager) (name : StdString) (handler : Option ToolHandler) :
    Except StdString ToolManager :=
  match handler with
  | none => .error (text "tool name and handler are required")
  | some handler =>
      if name = [] then .error (text "tool name and handler are required")
      else if name ∈ manager.tools then .error (text "tool is already registered")
      else .ok { tools := manager.tools.insert name handler }

/-- `(void) register_tool(…)`. -/
def registered (manager : ToolManager) (name : String) (handler : ToolHandler) : ToolManager :=
  match manager.registerTool (text name) (some handler) with
  | .ok after => after
  | .error _ => manager

def create (enableShellTool : Bool) : ToolManager :=
  let manager := (({} : ToolManager).registered "echo" echoTool).registered "concat" concatTool
  if enableShellTool then manager.registered "shell" shellTool else manager

/-- The time is filled in, unless the tool has done so. -/
def timed (elapsedUs : UInt64) (result : ToolResult) : ToolResult :=
  if result.executionTimeUs = 0 then { result with executionTimeUs := elapsedUs } else result

def execute (manager : ToolManager) : ToolHandler := fun environment request inputs =>
  match manager.tools.lookup request.target with
  | none => some (.ok (.rejected (text "tool is not registered: " ++ request.target)))
  | some handler =>
      (handler environment request inputs).map (Except.map (timed environment.elapsedUs))

theorem lookup_registered {manager : ToolManager} {name : String}
    {handler found : ToolHandler} {target : StdString}
    (stored : (manager.registered name handler).tools.lookup target = some found) :
    found = handler ∨ manager.tools.lookup target = some found := by
  unfold registered registerTool at stored
  dsimp only at stored
  split at stored
  · rename_i after registers
    split at registers
    · cases registers
    · split at registers
      · cases registers
      · cases registers
        rw [UnorderedMap.lookup_insert_if] at stored
        split at stored
        · exact Or.inl (Option.some.inj stored).symm
        · exact Or.inr stored
  · exact Or.inr stored

/-- The three tools of the constructor. -/
theorem created_handler {enableShellTool : Bool} {target : StdString} {handler : ToolHandler}
    (stored : (create enableShellTool).tools.lookup target = some handler) :
    handler = echoTool ∨ handler = concatTool ∨ handler = shellTool := by
  have usual (found : (create false).tools.lookup target = some handler) :
      handler = echoTool ∨ handler = concatTool := by
    have concat : ((({} : ToolManager).registered "echo" echoTool).registered "concat"
        concatTool).tools.lookup target = some handler := found
    rcases lookup_registered concat with same | earlier
    · exact Or.inr same
    · rcases lookup_registered earlier with same | none
      · exact Or.inl same
      · cases none
  cases enableShellTool with
  | false =>
      rcases usual stored with echo | concat
      · exact Or.inl echo
      · exact Or.inr (Or.inl concat)
  | true =>
      have shell : ((create false).registered "shell" shellTool).tools.lookup target =
          some handler := stored
      rcases lookup_registered shell with same | earlier
      · exact Or.inr (Or.inr same)
      · rcases usual earlier with echo | concat
        · exact Or.inl echo
        · exact Or.inr (Or.inl concat)

/-- No tool looks at the context of the request. -/
theorem execute_context (enableShellTool : Bool) (environment : ToolEnvironment)
    (request : InvocationRequest) (inputs : List InvocationMappedInput) (contextId : ContextId) :
    (create enableShellTool).execute environment { request with contextId } inputs =
      (create enableShellTool).execute environment request inputs := by
  unfold execute
  dsimp only
  cases stored : (create enableShellTool).tools.lookup request.target with
  | none => rfl
  | some handler =>
      have same : handler environment { request with contextId } inputs =
          handler environment request inputs := by
        rcases created_handler stored with rfl | rfl | rfl
        · rfl
        · rfl
        · rfl
      dsimp only
      rw [same]

end ToolManager

end AgentNucleus.Top
