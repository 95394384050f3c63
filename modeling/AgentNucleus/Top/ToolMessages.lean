/-
What the tools return.  Their messages are literals of the program, an exit code, or an
error of `ProcessExecutor::run`; only the refusal of an unknown tool repeats what it was
asked for.
-/

import AgentNucleus.Top.BoundedMessages
import Mathlib.Data.Nat.Digits.Defs

set_option autoImplicit false

namespace AgentNucleus.Top

open AgentNucleus.Library
open AgentNucleus.Runtime (Capture InvocationMappedInput InvocationRequest InvocationStatus
  ProcessResult SharedDataType.textUtf8 StdString kMaxStringSize text)
open AgentNucleus.Runtime.InvocationProtocol (jsonUtf8)

/-! ### Single tools -/

/-- What a tool may return. -/
structure ToolResult.Sendable (result : ToolResult) : Prop where
  status : result.status.value ≤ InvocationStatus.busy.value
  message : result.message.length ≤ kMaxStringSize
  outputType : result.outputType ≤ jsonUtf8

theorem ToolResult.rejected_sendable {message : StdString}
    (fits : message.length ≤ kMaxStringSize) : (ToolResult.rejected message).Sendable :=
  ⟨show InvocationStatus.rejected.value ≤ InvocationStatus.busy.value by decide, fits,
    show SharedDataType.textUtf8 ≤ jsonUtf8 by decide⟩

theorem ToolResult.cancelled_sendable {message : StdString}
    (fits : message.length ≤ kMaxStringSize) : (ToolResult.cancelled message).Sendable :=
  ⟨show InvocationStatus.cancelled.value ≤ InvocationStatus.busy.value by decide, fits,
    show SharedDataType.textUtf8 ≤ jsonUtf8 by decide⟩

theorem ToolResult.output_sendable (output : StdString) :
    ({ output } : ToolResult).Sendable :=
  ⟨show InvocationStatus.ok.value ≤ InvocationStatus.busy.value by decide, Nat.zero_le _,
    show SharedDataType.textUtf8 ≤ jsonUtf8 by decide⟩

/-- The tool returns what can be sent, unless the exception of its watcher cannot. -/
def ToolHandler.Sendable (handler : ToolHandler) : Prop :=
  ∀ environment request inputs,
    (∀ result, handler environment request inputs = some (.ok result) → result.Sendable) ∧
    (∀ what, handler environment request inputs = some (.error what) →
      environment.watcher = .error what)

theorem echoTool_sendable : ToolHandler.Sendable echoTool := by
  intro environment request inputs
  constructor
  · intro result returned
    cases returned
    have tooLong : (ToolResult.rejected (text "echo output exceeds size limit")).Sendable :=
      ToolResult.rejected_sendable (literal_fits _ (by decide))
    split
    · exact ToolResult.rejected_sendable (literal_fits _ (by decide))
    · split
      · exact ToolResult.cancelled_sendable (literal_fits _ (by decide))
      · split
        · split
          · exact tooLong
          · dsimp only
            split
            · exact tooLong
            · exact ToolResult.output_sendable _
        · split
          · exact tooLong
          · exact ToolResult.output_sendable _
  · intro what returned
    cases returned

theorem concatInputs_sendable (environment : ToolEnvironment) (calls : Nat) (output : StdString)
    (inputs : List InvocationMappedInput) :
    (concatInputs environment calls output inputs).Sendable := by
  induction inputs generalizing calls output with
  | nil => exact ToolResult.output_sendable output
  | cons input inputs ih =>
      unfold concatInputs
      split
      · exact ToolResult.cancelled_sendable (literal_fits _ (by decide))
      · split
        · exact ToolResult.rejected_sendable (literal_fits _ (by decide))
        · exact ih _ _

theorem concatTool_sendable : ToolHandler.Sendable concatTool := by
  intro environment request inputs
  constructor
  · intro result returned
    cases returned
    split
    · exact ToolResult.rejected_sendable (literal_fits _ (by decide))
    · split
      · exact ToolResult.rejected_sendable (literal_fits _ (by decide))
      · exact concatInputs_sendable environment 0 request.payload inputs
  · intro what returned
    cases returned

theorem exitMessage_fits (exitCode : Int) : (exitMessage exitCode).length ≤ kMaxStringSize := by
  have number (value : Nat) (small : value < 10 ^ 10) : (Nat.repr value).length ≤ 10 :=
    Nat.repr_length value 10 (by decide) small
  have short : (toString (Int32.ofInt exitCode).toInt).length ≤ 11 := by
    have above := Int32.le_toInt (Int32.ofInt exitCode)
    have below := Int32.toInt_lt (Int32.ofInt exitCode)
    change (Int.repr _).length ≤ 11
    cases value : (Int32.ofInt exitCode).toInt with
    | ofNat value' =>
        rw [value, Int.ofNat_eq_natCast] at below
        have fits := number value' (by omega)
        change (Nat.repr value').length ≤ 11
        omega
    | negSucc value' =>
        rw [value] at above
        have fits := number (value' + 1) (by omega)
        change ("-" ++ Nat.repr (value' + 1)).length ≤ 11
        have sign : ("-" : String).length = 1 := by decide
        rw [String.length_append, sign]
        omega
  have start : (text "shell tool exited with code ").length = 28 := length_literal _
  have digits : (text (toString (Int32.ofInt exitCode).toInt)).length ≤ 11 := by
    unfold text
    rw [List.length_map, String.length_toList]
    exact short
  unfold exitMessage kMaxStringSize
  rw [List.length_append, start]
  omega

/-- A process that has not been started leaves one of the texts of `run`. -/
theorem run_error_fits {environment : Runtime.RunEnvironment}
    (unconditional : ∀ error, environment.start ≠ .rejected error) (command : List StdString)
    (capacity : UInt64) (hasBuffer : Bool) (capture : Capture) {process : ProcessResult}
    {after : Capture}
    (ran : Runtime.ProcessExecutor.run environment command capacity hasBuffer capture =
      some (process, after))
    (unstarted : process.started = false) : process.error.length ≤ kMaxStringSize := by
  unfold Runtime.ProcessExecutor.run at ran
  split at ran
  · cases ran
    exact literal_fits _ (by decide)
  · split at ran
    · cases ran
      exact literal_fits _ (by decide)
    · split at ran
      · cases ran
        exact literal_fits _ (by decide)
      · unfold Runtime.ProcessExecutor.startResult at ran
        cases start : environment.start with
        | noBarrier =>
            rw [start] at ran
            cases ran
            exact literal_fits _ (by decide)
        | noPipe =>
            rw [start] at ran
            cases ran
            exact literal_fits _ (by decide)
        | forkFailed =>
            rw [start] at ran
            cases ran
            exact literal_fits _ (by decide)
        | notIsolated =>
            rw [start] at ran
            cases ran
            exact literal_fits _ (by decide)
        | notConfigured =>
            rw [start] at ran
            cases ran
            exact literal_fits _ (by decide)
        | rejected error => exact absurd start (unconditional error)
        | notReleased =>
            rw [start] at ran
            cases ran
            exact literal_fits _ (by decide)
        | released =>
            rw [start] at ran
            unfold Runtime.ProcessExecutor.runStarted at ran
            dsimp only at ran
            split at ran
            · cases ran
            · cases ran
              cases unstarted
            · split at ran
              · cases ran
              · cases ran
                cases unstarted

theorem shellTool_sendable : ToolHandler.Sendable shellTool := by
  intro environment request inputs
  constructor
  · intro result returned
    unfold shellTool at returned
    split at returned
    · cases returned
      exact ToolResult.rejected_sendable (literal_fits _ (by decide))
    · split at returned
      · cases returned
      · dsimp only at returned
        split at returned
        · cases returned
        · rename_i process capture ran
          cases returned
          have unstarted : process.started = false → process.error.length ≤ kMaxStringSize := by
            intro missing
            refine run_error_fits ?_ _ _ _ _ ran missing
            exact environment.unconditional
          have verdict (raised : Bool) :
              (shellVerdict raised process).1.value ≤ InvocationStatus.busy.value ∧
                (shellVerdict raised process).2.length ≤ kMaxStringSize := by
            have failed : Runtime.InvocationStatus.failed.value ≤
                InvocationStatus.busy.value := by decide
            unfold shellVerdict
            split
            · rename_i missing
              exact ⟨failed, unstarted (Bool.not_eq_true' _ |>.mp missing)⟩
            · split
              · exact ⟨show InvocationStatus.cancelled.value ≤ InvocationStatus.busy.value by
                  decide, literal_fits _ (by decide)⟩
              · split
                · exact ⟨failed, literal_fits _ (by decide)⟩
                · split
                  · exact ⟨failed, exitMessage_fits _⟩
                  · exact ⟨show InvocationStatus.ok.value ≤ InvocationStatus.busy.value by
                      decide, Nat.zero_le _⟩
          exact ⟨(verdict _).1, (verdict _).2,
            show SharedDataType.textUtf8 ≤ jsonUtf8 by decide⟩
  · intro what returned
    unfold shellTool at returned
    split at returned
    · cases returned
    · split at returned
      · rename_i thrown
        cases returned
        exact thrown
      · dsimp only at returned
        split at returned
        · cases returned
        · cases returned

/-! ### The manager -/

/-- The tools of the constructor. -/
theorem ToolManager.created_sendable (enableShellTool : Bool) (target : StdString)
    (handler : ToolHandler)
    (stored : (create enableShellTool).tools.lookup target = some handler) :
    handler.Sendable := by
  rcases created_handler stored with rfl | rfl | rfl
  · exact echoTool_sendable
  · exact concatTool_sendable
  · exact shellTool_sendable

/-- A tool that is registered returns what can be sent. -/
theorem ToolManager.execute_sendable (enableShellTool : Bool) (environment : ToolEnvironment)
    (request : InvocationRequest) (inputs : List InvocationMappedInput)
    (known : (create enableShellTool).tools.lookup request.target = none →
      (text "tool is not registered: " ++ request.target).length ≤ kMaxStringSize) :
    (∀ result, (create enableShellTool).execute environment request inputs =
      some (.ok result) → result.Sendable) ∧
    (∀ what, (create enableShellTool).execute environment request inputs =
      some (.error what) → environment.watcher = .error what) := by
  unfold execute
  cases stored : (create enableShellTool).tools.lookup request.target with
  | none =>
      constructor
      · intro result returned
        cases returned
        exact ToolResult.rejected_sendable (known stored)
      · intro what returned
        cases returned
  | some handler =>
      obtain ⟨fine, thrown⟩ := created_sendable enableShellTool request.target handler stored
        environment request inputs
      constructor
      · intro result returned
        obtain ⟨outcome, ran, mapped⟩ := Option.map_eq_some_iff.mp returned
        cases outcome with
        | error what => cases mapped
        | ok raw =>
            cases mapped
            have sendable := fine raw ran
            unfold timed
            split
            · exact ⟨sendable.status, sendable.message, sendable.outputType⟩
            · exact sendable
      · intro what returned
        obtain ⟨outcome, ran, mapped⟩ := Option.map_eq_some_iff.mp returned
        cases outcome with
        | error other =>
            cases mapped
            exact thrown what ran
        | ok raw => cases mapped

end AgentNucleus.Top
