/-
`ModelEngine`, built with llama.cpp: one model, and contexts that are leased to
agents.  Every call runs under `mutex_`.  llama.cpp, the samples of the memory and
the file system answer as the environment of a call says.
-/

import AgentNucleus.Runtime.MemoryAdmission

set_option autoImplicit false

namespace AgentNucleus.Runtime

open Library

structure ModelEngineConfig where
  modelPath : StdString
  maxContexts : UInt64 := 2
  modelReservationBytes : UInt64 := 0
  contextReservationBytes : UInt64 := 536870912
  safetyMarginBytes : UInt64 := 536870912
deriving DecidableEq, Repr

/-- `std::numeric_limits<AgentId>::max()`. -/
def kModelReservationId : AgentId := 18446744073709551615

def kContextSnapshotMagic : UInt64 := 4706917208710197297
def kContextSnapshotVersion : UInt32 := 1

structure ContextSnapshotHeader where
  magic : UInt64 := kContextSnapshotMagic
  version : UInt32 := kContextSnapshotVersion
  reserved : UInt32 := 0
  stateSize : UInt64 := 0
deriving DecidableEq, Repr

/-- `sizeof(ContextSnapshotHeader)`. -/
def kContextSnapshotHeaderSize : UInt64 := 24

/-- A `llama_context`, without its execution state.  In its place stand the agents
under whose ownership that state has been produced. -/
structure NativeContext where
  producers : List AgentId := []
deriving DecidableEq, Repr

/-- A file, of which `resume` reads the header and the size; the producers of the
state that it holds. -/
structure SnapshotFile where
  header : ContextSnapshotHeader
  size : UInt64
  producers : List AgentId
deriving DecidableEq, Repr

/-- The last field is not in the program: the agent that has acquired the context and
has not released it yet. -/
structure ContextSlot where
  id : ContextId := kInvalidContextId
  owner : AgentId := kInvalidAgentId
  context : Option NativeContext := none
  cancelRequested : Bool := false
  snapshotPath : StdString := []
  lessee : AgentId := kInvalidAgentId
deriving DecidableEq, Repr

namespace ContextSlot

/-- `context != nullptr`. -/
def resident (slot : ContextSlot) : Bool := slot.context.isSome

def free (slot : ContextSlot) : Bool :=
  slot.resident && slot.owner == kInvalidAgentId

/-- A call of llama.cpp on the context extends its state. -/
def produce (slot : ContextSlot) : ContextSlot :=
  if slot.owner = kInvalidAgentId then slot
  else
    { slot with
      context := slot.context.map fun native =>
        { native with producers := slot.owner :: native.producers } }

theorem owner_produce (slot : ContextSlot) : slot.produce.owner = slot.owner := by
  unfold produce
  split
  · rfl
  · rfl

theorem resident_produce (slot : ContextSlot) : slot.produce.resident = slot.resident := by
  unfold produce resident
  split
  · rfl
  · exact Option.isSome_map

end ContextSlot

/-- The engine and the files.  The last field is not in the program: how many ids
have been taken from `next_context_id_`. -/
structure ModelEngine where
  config : ModelEngineConfig
  admission : MemoryAdmissionController
  model : Bool := false
  backendInitialized : Bool := false
  contexts : UnorderedMap ContextId ContextSlot := ∅
  nextContextId : ContextId := 1
  files : UnorderedMap StdString SnapshotFile := ∅
  drawn : Nat := 0

structure InitializeEnvironment where
  /-- Nothing for a `file_error`. -/
  fileSize : Option UInt64
  sample : Except StdString MemorySnapshot
  order : IterationOrder AgentId := .asStored
  loaded : Bool := true

structure AcquireEnvironment where
  scan : IterationOrder ContextId := .asStored
  sample : Except StdString MemorySnapshot
  order : IterationOrder AgentId := .asStored
  created : Bool := true

/-- What a failed write leaves behind. -/
inductive FailedWrite where
  | untouched
  | size (bytes : UInt64)
deriving DecidableEq, Repr

structure SuspendEnvironment where
  stateSize : UInt64
  copied : UInt64
  written : Except FailedWrite Unit := .ok ()

structure ResumeEnvironment where
  sample : Except StdString MemorySnapshot
  order : IterationOrder AgentId := .asStored
  created : Bool := true
  headerRead : Bool := true
  sizeKnown : Bool := true
  stateRead : Bool := true
  restored : UInt64

namespace ModelEngine

def withSlot (engine : ModelEngine) (id : ContextId) (slot : ContextSlot) : ModelEngine :=
  { engine with contexts := engine.contexts.insert id slot }

def residentCount (engine : ModelEngine) : Nat :=
  UnorderedMap.total (fun _ slot => slot.resident.toNat) engine.contexts

/-- The counter of the two loops over `contexts_`. -/
def residentContexts (engine : ModelEngine) : UInt64 :=
  UInt64.ofNat engine.residentCount

/-! ### `initialize` -/

def initializeEngine (engine : ModelEngine) (environment : InitializeEnvironment) :
    ModelEngine × Outcome :=
  if engine.model then (engine, .accepted)
  else if engine.config.modelPath.isEmpty then (engine, .rejected (text "model path is empty"))
  else
    match environment.fileSize with
    | none => (engine, .rejected (text "cannot inspect model file"))
    | some modelFileSize =>
        let modelReservation :=
          if engine.config.modelReservationBytes = 0 then modelFileSize
          else engine.config.modelReservationBytes
        match environment.sample with
        | .error error => (engine, .rejected error)
        | .ok memory =>
            let reserved :=
              engine.admission.tryReserve kModelReservationId modelReservation memory
                environment.order
            if !reserved.2.ok then ({ engine with admission := reserved.1 }, reserved.2)
            else
              let released := reserved.1.release kModelReservationId
              if environment.loaded then
                ({ engine with admission := released, model := true, backendInitialized := true },
                  .accepted)
              else
                ({ engine with admission := released, backendInitialized := false },
                  .rejected (text "llama.cpp failed to load the model"))

/-! ### `acquire` -/

/-- The slot at which the first loop stops. -/
def freeContext (engine : ModelEngine) (scan : IterationOrder ContextId) :
    Option (ContextId × ContextSlot) :=
  (scan.visit engine.contexts.keys).findSome? fun id =>
    (engine.contexts.lookup id).bind fun slot => if slot.free then some (id, slot) else none

/-- `next_context_id_++`. -/
def draw (engine : ModelEngine) : ModelEngine :=
  { engine with
    nextContextId := engine.nextContextId + 1
    drawn := engine.drawn + 1 }

/-- From the reservation on; `engine` is the engine before the id was taken. -/
def create (engine : ModelEngine) (owner : AgentId) (memory : MemorySnapshot)
    (environment : AcquireEnvironment) :
    ModelEngine × Except (Option StdString) ContextId :=
  let id := engine.nextContextId
  let reserved :=
    engine.admission.tryReserve id engine.config.contextReservationBytes memory environment.order
  if !reserved.2.ok then ({ engine.draw with admission := reserved.1 }, .error reserved.2.error)
  else if !environment.created then
    ({ engine.draw with admission := reserved.1.release id },
      .error (some (text "llama.cpp failed to create a context")))
  else
    ({ engine.draw with
        admission := reserved.1
        contexts := engine.contexts.emplace id
          { id := id, owner := owner, context := some {}, lessee := owner } },
      .ok id)

def acquire (engine : ModelEngine) (owner : AgentId) (environment : AcquireEnvironment) :
    ModelEngine × Except (Option StdString) ContextId :=
  if !engine.model then (engine, .error (some (text "model engine is not initialized")))
  else
    match engine.freeContext environment.scan with
    | some (id, slot) =>
        (engine.withSlot id
          { slot with owner := owner, cancelRequested := false, lessee := owner }, .ok id)
    | none =>
        if engine.residentContexts ≥ engine.config.maxContexts then
          (engine, .error (some (text "all model contexts are busy")))
        else
          match environment.sample with
          | .error error => (engine, .error (some error))
          | .ok memory => engine.create owner memory environment

/-! ### `release`, `suspend` -/

def release (engine : ModelEngine) (id : ContextId) : ModelEngine × Outcome :=
  match engine.contexts.lookup id with
  | none => (engine, .rejected (text "model context does not exist"))
  | some slot =>
      (engine.withSlot id
        { slot with
          owner := kInvalidAgentId
          cancelRequested := false
          lessee := kInvalidAgentId },
        .accepted)

def writtenFile (copied : UInt64) (native : NativeContext) : SnapshotFile :=
  { header := { stateSize := copied }
    size := kContextSnapshotHeaderSize + copied
    producers := native.producers }

def failedFiles (engine : ModelEngine) (path : StdString) (file : SnapshotFile) :
    FailedWrite → UnorderedMap StdString SnapshotFile
  | .untouched => engine.files
  | .size bytes => engine.files.insert path { file with size := bytes }

def suspend (engine : ModelEngine) (id : ContextId) (snapshotPath : StdString)
    (environment : SuspendEnvironment) : ModelEngine × Outcome :=
  match engine.contexts.lookup id with
  | none => (engine, .rejected (text "resident model context does not exist"))
  | some slot =>
      match slot.context with
      | none => (engine, .rejected (text "resident model context does not exist"))
      | some native =>
          if environment.copied = 0 ∨ environment.copied > environment.stateSize then
            (engine, .rejected (text "failed to serialize llama context"))
          else
            let file := writtenFile environment.copied native
            match environment.written with
            | .error failure =>
                ({ engine with files := engine.failedFiles snapshotPath file failure },
                  .rejected (text "failed to write context snapshot"))
            | .ok _ =>
                ({ engine.withSlot id
                    { slot with
                      context := none
                      owner := kInvalidAgentId
                      snapshotPath := snapshotPath } with
                    files := engine.files.insert snapshotPath file
                    admission := engine.admission.release id },
                  .accepted)

/-! ### `resume` -/

/-- A `state_size` of 64 bits is never above the maximum of `std::size_t`. -/
def SnapshotFile.accepted (file : SnapshotFile) (sizeKnown : Bool) : Bool :=
  sizeKnown && file.header.magic == kContextSnapshotMagic &&
    file.header.version == kContextSnapshotVersion &&
    !(file.size < kContextSnapshotHeaderSize) &&
    file.header.stateSize == file.size - kContextSnapshotHeaderSize

/-- What `resume` finds behind a path. -/
def snapshotBehind (engine : ModelEngine) (path : StdString) (environment : ResumeEnvironment) :
    Except StdString SnapshotFile :=
  match if environment.headerRead then engine.files.lookup path else none with
  | none => .error (text "invalid context snapshot header")
  | some file =>
      if !SnapshotFile.accepted file environment.sizeKnown then
        .error (text "invalid context snapshot header")
      else if !environment.stateRead || environment.restored != file.header.stateSize then
        .error (text "failed to restore context snapshot")
      else .ok file

/-- From the creation of the context on; `admission` holds its reservation. -/
def restore (engine : ModelEngine) (id : ContextId) (slot : ContextSlot)
    (admission : MemoryAdmissionController) (environment : ResumeEnvironment) :
    ModelEngine × Outcome :=
  if !environment.created then
    ({ engine.withSlot id { slot with context := none } with admission := admission.release id },
      .rejected (text "llama.cpp failed to create a context"))
  else
    match engine.snapshotBehind slot.snapshotPath environment with
    | .error error =>
        ({ engine.withSlot id { slot with context := none } with
            admission := admission.release id },
          .rejected error)
    | .ok file =>
        ({ engine.withSlot id
            { slot with
              context := some { producers := file.producers }
              cancelRequested := false } with
            admission := admission },
          .accepted)

def resume (engine : ModelEngine) (id : ContextId) (environment : ResumeEnvironment) :
    ModelEngine × Outcome :=
  match engine.contexts.lookup id with
  | none => (engine, .rejected (text "suspended model context does not exist"))
  | some slot =>
      if slot.resident || slot.snapshotPath.isEmpty then
        (engine, .rejected (text "suspended model context does not exist"))
      else if engine.residentContexts ≥ engine.config.maxContexts then
        (engine, .rejected (text "model context limit reached"))
      else
        match environment.sample with
        | .error error => (engine, .rejected error)
        | .ok memory =>
            let reserved :=
              engine.admission.tryReserve id engine.config.contextReservationBytes memory
                environment.order
            if !reserved.2.ok then ({ engine with admission := reserved.1 }, reserved.2)
            else engine.restore id slot reserved.1 environment

/-! ### `request_cancel`, and the agents -/

def requestCancel (engine : ModelEngine) (id : ContextId) : ModelEngine × Outcome :=
  match engine.contexts.lookup id with
  | none => (engine, .refused)
  | some slot => (engine.withSlot id { slot with cancelRequested := true }, .accepted)

/-- Somebody runs llama.cpp on `native_context(id)`. -/
def produce (engine : ModelEngine) (id : ContextId) : ModelEngine × Outcome :=
  match engine.contexts.lookup id with
  | none => (engine, .refused)
  | some slot => (engine.withSlot id slot.produce, .accepted)

/-! ### Runs -/

inductive Operation where
  | initializeEngine (environment : InitializeEnvironment)
  | acquire (owner : AgentId) (environment : AcquireEnvironment)
  | release (id : ContextId)
  | suspend (id : ContextId) (snapshotPath : StdString) (environment : SuspendEnvironment)
  | resume (id : ContextId) (environment : ResumeEnvironment)
  | requestCancel (id : ContextId)
  | produce (id : ContextId)

/-- A call, and whether it succeeds. -/
def perform (engine : ModelEngine) : Operation → ModelEngine × Bool
  | .initializeEngine environment =>
      ((engine.initializeEngine environment).1, (engine.initializeEngine environment).2.ok)
  | .acquire owner environment =>
      ((engine.acquire owner environment).1, (engine.acquire owner environment).2.isOk)
  | .release id => ((engine.release id).1, (engine.release id).2.ok)
  | .suspend id snapshotPath environment =>
      ((engine.suspend id snapshotPath environment).1,
        (engine.suspend id snapshotPath environment).2.ok)
  | .resume id environment =>
      ((engine.resume id environment).1, (engine.resume id environment).2.ok)
  | .requestCancel id => ((engine.requestCancel id).1, (engine.requestCancel id).2.ok)
  | .produce id => ((engine.produce id).1, (engine.produce id).2.ok)

def step (engine : ModelEngine) (operation : Operation) : ModelEngine :=
  (engine.perform operation).1

def start (config : ModelEngineConfig) : ModelEngine :=
  { config := config, admission := { safetyMarginBytes := config.safetyMarginBytes } }

def machine (config : ModelEngineConfig) : Machine ModelEngine Operation :=
  { initial := start config
    step := step }

end ModelEngine

end AgentNucleus.Runtime
