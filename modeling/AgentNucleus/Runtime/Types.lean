/-
The data of the lower runtime: `types.h` and the part of a resource sample that
admission reads.  Fixed-width fields keep their width, and a `std::string` is
its sequence of bytes.
-/

import Mathlib.Data.List.TakeWhile

set_option autoImplicit false

namespace AgentNucleus.Runtime

/-- The bytes of a `std::string`. -/
abbrev StdString := List UInt8

/-- The bytes of a message the source writes as an ASCII literal. -/
def text (literal : String) : StdString :=
  literal.toList.map fun character => UInt8.ofNat character.toNat

/-- `std::to_string` of an unsigned 64-bit value. -/
def toStdString (value : UInt64) : StdString :=
  text (toString value.toNat)

/-- What a C function sees of a string: the bytes before the first zero. -/
def cString (bytes : StdString) : StdString :=
  bytes.takeWhile fun byte => byte != 0

theorem cString_of_clean {bytes : StdString} (clean : 0 ∉ bytes) : cString bytes = bytes := by
  apply List.takeWhile_eq_self_iff.mpr
  intro byte member
  simp only [bne_iff_ne, ne_eq]
  intro zero
  rw [zero] at member
  exact clean member

theorem cString_clean (bytes : StdString) : 0 ∉ cString bytes := by
  intro member
  have not_zero := List.mem_takeWhile_imp member
  simp at not_zero

/-- A string of the C library, without the zero that ends it. -/
structure CString where
  bytes : StdString
  terminated : 0 ∉ bytes
deriving DecidableEq

/-- `c_str()` -/
def cStr (bytes : StdString) : CString :=
  ⟨cString bytes, cString_clean bytes⟩

def CString.empty : CString := cStr []

/-- A point of the steady clock, in nanoseconds. -/
abbrev TimePoint := Int

abbrev AgentId := UInt64
abbrev ContextId := UInt64

def kInvalidAgentId : AgentId := 0
def kInvalidContextId : ContextId := 0

inductive AgentState where
  | created
  | waitingDependency
  | ready
  | waitingResource
  | dispatched
  | running
  | blocked
  | suspended
  | completed
  | failed
  | cancelled
deriving DecidableEq, Repr

/-- `to_string(AgentState)`. -/
def AgentState.name : AgentState → StdString
  | .created => text "CREATED"
  | .waitingDependency => text "WAITING_DEPENDENCY"
  | .ready => text "READY"
  | .waitingResource => text "WAITING_RESOURCE"
  | .dispatched => text "DISPATCHED"
  | .running => text "RUNNING"
  | .blocked => text "BLOCKED"
  | .suspended => text "SUSPENDED"
  | .completed => text "COMPLETED"
  | .failed => text "FAILED"
  | .cancelled => text "CANCELLED"

def isTerminal (state : AgentState) : Bool :=
  state == .completed || state == .failed || state == .cancelled

/-- An `enum class : std::uint8_t` holds any byte; two of them have names. -/
structure InvocationKind where
  value : UInt8
deriving DecidableEq, Repr

def InvocationKind.model : InvocationKind := ⟨1⟩
def InvocationKind.tool : InvocationKind := ⟨2⟩

structure ResourceRequest where
  cpuThreads : UInt32 := 1
  memoryBytes : UInt64 := 0
  timeout : Int64 := 0
deriving DecidableEq, Repr

structure InvocationSpec where
  kind : InvocationKind := .model
  target : StdString := []
  operation : StdString := []
  payload : StdString := []
  contextId : ContextId := kInvalidContextId
deriving DecidableEq, Repr

structure AgentPerformanceMetrics where
  queueTimeUs : UInt64 := 0
  executionTimeUs : UInt64 := 0
  inputTokens : UInt64 := 0
  outputTokens : UInt64 := 0
  reusedTokens : UInt64 := 0
  cacheBytes : UInt64 := 0
  cacheHit : Bool := false
deriving DecidableEq, Repr

structure AgentTaskSpec where
  id : AgentId := kInvalidAgentId
  parentId : AgentId := kInvalidAgentId
  name : StdString := []
  kind : StdString := []
  priority : Int32 := 0
  dependencies : List AgentId := []
  resources : ResourceRequest := {}
  retryLimit : UInt32 := 0
  command : List StdString := []
  invocation : Option InvocationSpec := none
deriving DecidableEq, Repr

structure AgentSnapshot where
  spec : AgentTaskSpec
  state : AgentState := .created
  unresolvedDependencies : UInt32 := 0
  retryCount : UInt32 := 0
  contextId : ContextId := kInvalidContextId
  processId : Int64 := -1
  error : StdString := []
  metrics : AgentPerformanceMetrics := {}
  createdAt : TimePoint := 0
  startedAt : TimePoint := 0
  finishedAt : TimePoint := 0
deriving DecidableEq, Repr

/-- `MemorySnapshot`, reduced to the two fields that dispatch compares. -/
structure MemorySnapshot where
  availableCpuThreads : UInt32 := 4294967295
  availableBytes : UInt64 := 0
deriving DecidableEq, Repr

/-! ### Terminal states -/

@[simp] theorem isTerminal_completed : isTerminal .completed = true := rfl
@[simp] theorem isTerminal_failed : isTerminal .failed = true := rfl
@[simp] theorem isTerminal_cancelled : isTerminal .cancelled = true := rfl

theorem isTerminal_iff (state : AgentState) :
    isTerminal state = true ↔
      state = .completed ∨ state = .failed ∨ state = .cancelled := by
  cases state <;> simp [isTerminal]

end AgentNucleus.Runtime
