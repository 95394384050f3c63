/-
The lifetimes of a `TopRuntime`: the constructor, `initialize`, a history of calls one at a
time, and `shutdown`.  Within a lifetime the context manager loses nothing and no pin is left
between two calls.
-/

import AgentNucleus.Top.InvocationHandling
import AgentNucleus.Top.StoreContexts

set_option autoImplicit false

namespace AgentNucleus.Top

open AgentNucleus.Library
open AgentNucleus.Library.Program (Triple)
open AgentNucleus.Runtime (ContextId InvocationHandlerResult InvocationKind
  InvocationMappedInput InvocationRequest InvocationStatus StdString text)

/-! ### Initialize and shutdown -/

/-- What `initialize` meets outside. -/
structure InitializeAnswers where
  modelPath : StdString := text "model.gguf"
  /-- The path, the threads and the sampling defaults are in range. -/
  modelConfigured : Bool := true
  /-- `llm_manager_init()` returns zero. -/
  managerReady : Bool := true
  /-- llama.cpp can load the model. -/
  modelLoaded : Bool := true
  /-- Why the directory for the snapshots cannot be made. -/
  directoryFailure : Option StdString := none

namespace RuntimeStores

/-- `initialize_snapshot_store` makes a directory that nobody has used before, and
`llm_load_model` clears the tables of the model. -/
def loaded (stores : RuntimeStores) : RuntimeStores :=
  { stores with files := fun _ => none, llm := {} }

/-- `cleanup_snapshots`; a file that cannot be removed stays in the directory. -/
def cleanupSnapshots (removed : ContextId → Bool) (stores : RuntimeStores) : RuntimeStores :=
  { stores with
    files := fun contextId =>
      if (stores.snapshots.lookup contextId).isSome && removed contextId then none
      else stores.files contextId
    snapshots := ∅
    snapshotBytes := 0 }

/-- What `shutdown` clears.  `contexts_` is not among it. -/
def closed (removed : ContextId → Bool) (stores : RuntimeStores) : RuntimeStores :=
  { stores.cleanupSnapshots removed with conversations := ∅ }

end RuntimeStores

namespace ServingRuntime

/-- The constructor. -/
def create (config : ServingConfig) (enableShellTool : Bool) : ServingRuntime where
  config := config
  enableShellTool := enableShellTool
  initialized := false
  accepted := nofun
  stores := { contexts := ContextManager.create config.maxContexts config.logicalContextLimit }

/-- `initialize`; a runtime that is refused stays as it is. -/
def initializeRuntime (runtime : ServingRuntime) (answers : InitializeAnswers) :
    Except StdString ServingRuntime :=
  if runtime.initialized then .error (text "top runtime is already initialized")
  else if accepted : runtime.config.accepted = true then
    if !answers.modelConfigured then
      .error (text "invalid top runtime model/context configuration")
    else if !answers.managerReady then .error (text "cannot initialize the LLM manager")
    else if !answers.modelLoaded then .error (text "cannot load model: " ++ answers.modelPath)
    else
      match if runtime.config.enableContextSwap then answers.directoryFailure else none with
      | some failure => .error failure
      | none =>
          .ok { runtime with
            initialized := true
            accepted := fun _ => accepted
            stores := runtime.stores.loaded }
  else .error (text "invalid top runtime model/context configuration")

/-- What a successful `initialize` leaves. -/
structure Initialized (before after : ServingRuntime) : Prop where
  config : after.config = before.config
  enableShellTool : after.enableShellTool = before.enableShellTool
  ready : after.initialized = true
  stores : after.stores = before.stores.loaded

theorem initializeRuntime_ok {runtime started : ServingRuntime} {answers : InitializeAnswers}
    (result : runtime.initializeRuntime answers = .ok started) : Initialized runtime started := by
  unfold initializeRuntime at result
  split at result
  · cases result
  · split at result
    · split at result
      · cases result
      · split at result
        · cases result
        · split at result
          · cases result
          · split at result
            · cases result
            · cases result
              exact ⟨rfl, rfl, rfl, rfl⟩
    · cases result

def shutdown (runtime : ServingRuntime) (removed : ContextId → Bool) : ServingRuntime :=
  if !runtime.initialized then runtime
  else
    { runtime with
      initialized := false
      accepted := nofun
      stores := runtime.stores.closed removed }

end ServingRuntime

/-! ### Calls -/

structure ServingCall where
  environment : HandleEnvironment
  request : InvocationRequest
  inputs : List InvocationMappedInput := []

namespace ServingRuntime

def serve (runtime : ServingRuntime) (call : ServingCall) : ServingRuntime :=
  { runtime with
    stores := (runtime.handle call.environment call.request call.inputs).after runtime.stores
      call.environment.answers }

def serveAll (runtime : ServingRuntime) (history : List ServingCall) : ServingRuntime :=
  history.foldl serve runtime

/-- Whether the turn is one of a new context; only that moves `next_context_id_`. -/
def createsContext (runtime : ServingRuntime) (call : ServingCall) : Bool :=
  (runtime.serve call).stores.contexts.nextContextId != runtime.stores.contexts.nextContextId

/-- A call that has not reached a result has no status. -/
def returned (outcome : Outcome) : Option InvocationHandlerResult :=
  match outcome with
  | some (.ok result) => some result
  | some (.error _) => none
  | none => none

end ServingRuntime

/-- What a call shows of the contexts. -/
structure Observed where
  status : Option InvocationStatus
  contextId : ContextId
  created : Bool
  /-- Why no context could be given to the agent. -/
  refusal : Option StdString
deriving DecidableEq

namespace ServingRuntime

def observe (runtime : ServingRuntime) (call : ServingCall) : Observed :=
  let result := returned (runtime.outcome call.environment call.request call.inputs)
  { status := result.map InvocationHandlerResult.status
    contextId := (result.map InvocationHandlerResult.contextId).getD 0
    created := runtime.createsContext call
    refusal := (result.filter fun result => result.status == InvocationStatus.busy).map
      InvocationHandlerResult.message }

def observations (runtime : ServingRuntime) : List ServingCall → List Observed
  | [] => []
  | call :: rest => runtime.observe call :: (runtime.serve call).observations rest

/-- How many contexts a history creates. -/
def creations (runtime : ServingRuntime) (history : List ServingCall) : Nat :=
  (runtime.observations history).countP Observed.created

theorem creations_cons (runtime : ServingRuntime) (call : ServingCall)
    (rest : List ServingCall) :
    runtime.creations (call :: rest) =
      (runtime.createsContext call).toNat + (runtime.serve call).creations rest := by
  change (runtime.observe call :: (runtime.serve call).observations rest).countP _ = _
  rw [List.countP_cons, Nat.add_comm]
  change (if runtime.createsContext call = true then 1 else 0) + _ = _
  cases runtime.createsContext call with
  | false => rfl
  | true => rfl

/-! ### What holds between two calls -/

section Calls

variable (runtime : ServingRuntime) (ready : runtime.initialized = true)
  (environment : HandleEnvironment) (request : InvocationRequest)
  (inputs : List InvocationMappedInput)

/-- Only a call of the model changes the stores. -/
theorem handle_triple {before after : RuntimeStores → Prop}
    (nothing : ∀ stores, before stores → after stores)
    (model : Triple before (RuntimeStores.handleModel (runtime.accepting ready)
      (runtime.call environment request inputs)) fun _ => after) :
    Triple before (runtime.handle environment request inputs) fun _ => after := by
  unfold handle
  rw [dif_pos ready]
  apply Triple.bind (RuntimeStores.cancelRequested_keeps before)
  intro cancelled
  apply Triple.ite
  · intro early
    exact Triple.pure _ nothing
  · intro going
    apply Triple.ite
    · intro modelCall
      apply Triple.bind model
      intro result
      exact Triple.pure _ fun _ holds => holds
    · intro other
      apply Triple.ite
      · intro toolCall
        unfold handleTool
        cases runtime.tools.execute environment.tool request inputs with
        | none => exact Triple.pure _ nothing
        | some executed =>
            cases executed with
            | error what => exact Triple.pure _ nothing
            | ok tool =>
                apply Triple.bind (RuntimeStores.makeTextResult_keeps tool.output true before)
                intro stored
                exact Triple.pure _ nothing
      · intro unsupported
        exact Triple.pure _ nothing

end Calls

/-- What holds after `count` contexts have been created. -/
structure Lived (count : Nat) (runtime : ServingRuntime) : Prop where
  ready : runtime.initialized = true
  coherent : RuntimeStores.Coherent runtime.stores
  numbered : ContextManager.Numbered count runtime.stores.contexts
  settled : ContextManager.Settled
    (ContextManager.create runtime.config.maxContexts runtime.config.logicalContextLimit) none
    runtime.stores.contexts

variable {runtime : ServingRuntime} {count : Nat}

theorem Lived.serve (lived : Lived count runtime) (call : ServingCall)
    (few : count + (runtime.createsContext call).toNat < 2 ^ 64) :
    Lived (count + (runtime.createsContext call).toNat) (runtime.serve call) := by
  have fresh := lived.numbered.fresh (by omega)
  have coherent := lived.coherent
  obtain ⟨created, served⟩ := (runtime.handle_triple lived.ready call.environment call.request
    call.inputs (fun stores same => ⟨false, by
      subst same
      exact RuntimeStores.Served.nothing coherent⟩)
    (RuntimeStores.handleModel_spec (runtime.accepting lived.ready) _ coherent fresh)).run
    runtime.stores call.environment.answers rfl
  have settled := (runtime.handle_triple lived.ready call.environment call.request call.inputs
    (fun stores same => same ▸ lived.settled)
    (RuntimeStores.handleModel_settles (runtime.accepting lived.ready)
      (ContextManager.settled_givesBack _) coherent.toTracked lived.settled _
      (lived.settled.acquired coherent.entries fresh))).run
    runtime.stores call.environment.answers rfl
  have event : runtime.createsContext call = created :=
    ContextManager.Advances.moved served.advances
  rw [event] at few ⊢
  exact ⟨lived.ready, served.coherent, lived.numbered.advance served.advances few, settled⟩

theorem Lived.history (lived : Lived count runtime) (history : List ServingCall)
    (few : count + runtime.creations history < 2 ^ 64) :
    Lived (count + runtime.creations history) (runtime.serveAll history) := by
  induction history generalizing runtime count with
  | nil => exact lived
  | cons call rest ih =>
      rw [creations_cons] at few ⊢
      have next := lived.serve call (by omega)
      have last := ih next (by omega)
      rw [Nat.add_assoc] at last
      exact last

theorem create_lived {config : ServingConfig} {enableShellTool : Bool}
    {answers : InitializeAnswers} {fresh : ServingRuntime}
    (started : (create config enableShellTool).initializeRuntime answers = .ok fresh) :
    Lived 0 fresh := by
  have initialized := initializeRuntime_ok started
  have contexts : fresh.stores.contexts =
      ContextManager.create config.maxContexts config.logicalContextLimit := by
    rw [initialized.stores]
    rfl
  refine ⟨initialized.ready, ?_, ?_, ?_⟩
  · rw [initialized.stores]
    refine ⟨⟨nofun, nofun, nofun, nofun, rfl⟩, ?_⟩
    intro id
    exact Iff.rfl
  · rw [contexts]
    exact ContextManager.create_numbered config.maxContexts config.logicalContextLimit
  · rw [contexts, initialized.config]
    refine ⟨rfl, fun _ => rfl, ?_⟩
    intro key
    exact ⟨nofun, fun _ => rfl⟩

end ServingRuntime

end AgentNucleus.Top
