/-
A restart of a `TopRuntime`.  `shutdown` clears everything but `contexts_`, so that the next
lifetime starts clean if and only if no context is left.  If none is left, what remains of the
earlier lifetime are other names: the ids go on, and the free sequences stand in another order.
-/

import AgentNucleus.Top.CallRenaming
import AgentNucleus.Top.Lifetimes
import AgentNucleus.Top.SequenceLayout

set_option autoImplicit false

namespace AgentNucleus.Top

open AgentNucleus.Library
open AgentNucleus.Library.Program (Triple)
open AgentNucleus.Runtime (AgentId ContextId InvocationHandlerResult InvocationKind
  InvocationRequest InvocationStatus StdString TimePoint text)

/-! ### The names of the next lifetime -/

namespace ContextManager

private theorem tallies_eq_count (id : Int) (sequences : List Int32) :
    (sequences.map (tally id)).sum = (sequences.map Int32.toInt).count id := by
  induction sequences with
  | nil => rfl
  | cons sequence rest ih =>
      rw [List.map_cons, List.sum_cons, ih, List.map_cons, List.count_cons, Nat.add_comm]
      unfold tally
      simp only [beq_iff_eq]

private theorem occurrences_eq_count {manager : ContextManager} (empty : manager.contexts = ∅)
    (id : Int) : manager.occurrences id = (manager.freeSequences.map Int32.toInt).count id := by
  unfold occurrences heldOccurrences freeOccurrences
  rw [empty, UnorderedMap.total_empty, Nat.add_zero, tallies_eq_count]

/-- Once all contexts are gone the free list is a rearrangement of the first one. -/
theorem exists_renaming (config : AcceptedServing) {manager : ContextManager}
    (settled : Settled (create config.val.maxContexts config.val.logicalContextLimit) none
      manager) (empty : manager.contexts = ∅) :
    ∃ sequences : LlmModel.Renaming config.loaded,
      List.Forall₂ (fun first second : Int32 => second.toInt = sequences.rename first.toInt)
        (create config.val.maxContexts config.val.logicalContextLimit).freeSequences
        manager.freeSequences := by
  obtain ⟨positive, few⟩ := config.contexts
  have partitioned := create_partitioned config.val.maxContexts config.val.logicalContextLimit
    (max_one_fits config.val.maxContexts (by omega))
  have one : (1 : UInt64) ≤ config.val.maxContexts := UInt64.le_iff_toNat_le.mpr positive
  have limit : (max 1 config.val.maxContexts).toNat = config.val.maxContexts.toNat :=
    congrArg UInt64.toNat (if_pos one)
  have counted (id : Int) := occurrences_eq_count
    (show (create config.val.maxContexts config.val.logicalContextLimit).contexts = ∅ from rfl) id
  have arranged : ((create config.val.maxContexts
      config.val.logicalContextLimit).freeSequences.map Int32.toInt).Perm
      (manager.freeSequences.map Int32.toInt) := by
    rw [List.perm_iff_count]
    intro id
    rw [← counted, ← occurrences_eq_count empty]
    exact (settled.occurrences id).symm
  have distinct : ((create config.val.maxContexts
      config.val.logicalContextLimit).freeSequences.map Int32.toInt).Nodup := by
    rw [List.nodup_iff_count_le_one]
    intro id
    rw [← counted]
    exact partitioned.atMostOnce id
  obtain ⟨rename, same, fixed⟩ := exists_names_of_perm arranged distinct
  refine ⟨⟨rename, ?_⟩, ?_⟩
  · intro seqId outside
    apply fixed
    intro member
    have occurs := List.count_pos_iff.mpr member
    have nothing := partitioned.nothingElse seqId (by
      have bound := config.privateSeqLimit
      rw [limit]
      omega)
    rw [← counted, nothing] at occurs
    exact Nat.lt_irrefl 0 occurs
  · rw [List.map_map] at same
    have equal := congrArg (List.Forall₂ Eq (manager.freeSequences.map Int32.toInt)) same
    have pairs : List.Forall₂ Eq (manager.freeSequences.map Int32.toInt)
        (manager.freeSequences.map Int32.toInt) := List.forall₂_eq_eq_eq ▸ rfl
    rw [equal, List.forall₂_map_left_iff, List.forall₂_map_right_iff] at pairs
    exact pairs.flip

end ContextManager

/-! ### The same calls under other names -/

def ServingCall.renamed (ids : Equiv.Perm ContextId) (call : ServingCall) : ServingCall :=
  { call with
    environment := call.environment.renamed ids
    request := { call.request with contextId := ids call.request.contextId } }

def Observed.renamed (ids : Equiv.Perm ContextId) (observed : Observed) : Observed :=
  { observed with contextId := ids observed.contextId }

theorem created_renamed (ids : Equiv.Perm ContextId) (shown : List Observed) :
    (shown.map (Observed.renamed ids)).map Observed.created = shown.map Observed.created := by
  rw [List.map_map]
  rfl

namespace ServingRuntime

theorem returned_renamed (ids : Equiv.Perm ContextId) (outcome : Outcome) :
    returned (outcome.renamed ids) = (returned outcome).map (renamedResult ids) := by
  cases outcome with
  | none => rfl
  | some finished =>
      cases finished with
      | error what => rfl
      | ok result => rfl

/-- What a call shows, from its result. -/
private theorem observed_renamed {ids : Equiv.Perm ContextId} (zero : ids 0 = 0)
    {first second : ServingRuntime} {call : ServingCall}
    (outcomes : second.outcome (call.renamed ids).environment (call.renamed ids).request
      call.inputs = (first.outcome call.environment call.request call.inputs).renamed ids)
    (created : second.createsContext (call.renamed ids) = first.createsContext call) :
    second.observe (call.renamed ids) = (first.observe call).renamed ids := by
  have results := congrArg returned outcomes
  rw [returned_renamed] at results
  unfold observe Observed.renamed
  change Observed.mk ((returned (second.outcome _ _ call.inputs)).map _)
    (((returned (second.outcome _ _ call.inputs)).map _).getD 0) _
    (((returned (second.outcome _ _ call.inputs)).filter _).map _) = _
  rw [results, created]
  cases returned (first.outcome call.environment call.request call.inputs) with
  | none =>
      simp only [Option.map_none, Option.getD_none, Option.filter_none, zero]
  | some result =>
      simp only [Option.map_some, Option.getD_some, Option.filter_some]
      unfold renamedResult
      split <;> rfl

/-- The same runtime with other stores. -/
def withStores (runtime : ServingRuntime) (stores : RuntimeStores) : ServingRuntime :=
  { runtime with stores }

variable {runtime : ServingRuntime} {ready : runtime.initialized = true}
  {names : ContextNames (runtime.accepting ready).loaded} {count : Nat}
  {first second : RuntimeStores}

private theorem moved_alike (base : UInt64) (before after : ContextId) :
    (after + base != before + base) = (after != before) := by
  by_cases same : after = before
  · rw [same, bne_self_eq_false, bne_self_eq_false]
  · have apart : after + base ≠ before + base :=
      fun equal => same ((shiftedId base).injective equal)
    rw [bne_iff_ne.mpr apart, bne_iff_ne.mpr same]

theorem serve_renamed (lived : Lived count (runtime.withStores first))
    (renamed : RuntimeStores.Renamed names (fun _ => True) first second)
    (few : names.base.toNat + count + 1 < 2 ^ 64) (call : ServingCall) :
    (runtime.withStores second).observe (call.renamed names.id) =
        ((runtime.withStores first).observe call).renamed names.id ∧
      RuntimeStores.Renamed names (fun _ => True) ((runtime.withStores first).serve call).stores
        ((runtime.withStores second).serve (call.renamed names.id)).stores := by
  have next : first.contexts.nextContextId = UInt64.ofNat (count + 1) := lived.numbered.counter
  have value : first.contexts.nextContextId.toNat = count + 1 := by
    rw [next, UInt64.toNat_ofNat_of_lt' (by change _ < 2 ^ 64; omega)]
  have fits : ∀ id, id = first.contexts.nextContextId → IdFits names.base id ∧ True := by
    rintro id rfl
    refine ⟨⟨?_, ?_⟩, trivial⟩
    · intro zero
      rw [zero] at value
      cases value
    · intro zero
      have sum := congrArg UInt64.toNat zero
      rw [UInt64.toNat_add, value, Nat.mod_eq_of_lt (by omega)] at sum
      change count + 1 + names.base.toNat = 0 at sum
      omega
  have started : RuntimeStores.Renamed names (fun id => id = first.contexts.nextContextId)
      first second :=
    ⟨⟨renamed.contexts.maxLogicalContexts, renamed.contexts.contexts,
      renamed.contexts.freeSequences, renamed.contexts.nextContextId, rfl⟩,
      renamed.conversations, renamed.snapshots, renamed.snapshotBytes, renamed.files,
      renamed.llm⟩
  have led : Program.Leads (fun _ => True)
      (RuntimeStores.Renamed names fun id => id = first.contexts.nextContextId)
      (RuntimeStores.Renamed names fun _ => True) _ _ _ :=
    handle_leads runtime ready names call.environment call.request call.inputs fits
      fun _ _ => trivial
  obtain ⟨outcomes, states, _⟩ := led.run first second call.environment.answers
    (fun _ => trivial) started
  have moved : RuntimeStores.Renamed names (fun _ => True)
      ((runtime.withStores first).serve call).stores
      ((runtime.withStores second).serve (call.renamed names.id)).stores := states
  refine ⟨observed_renamed names.id_zero outcomes ?_, moved⟩
  change (((runtime.withStores second).serve (call.renamed names.id)).stores.contexts.nextContextId
      != second.contexts.nextContextId) = _
  rw [moved.contexts.nextContextId, renamed.contexts.nextContextId]
  exact moved_alike names.base _ _

theorem observations_renamed (lived : Lived count (runtime.withStores first))
    (renamed : RuntimeStores.Renamed names (fun _ => True) first second)
    (later : List ServingCall)
    (few : names.base.toNat + count + 1 + (runtime.withStores first).creations later < 2 ^ 64) :
    (runtime.withStores second).observations (later.map (ServingCall.renamed names.id)) =
      ((runtime.withStores first).observations later).map (Observed.renamed names.id) := by
  induction later generalizing first second count with
  | nil => rfl
  | cons call rest ih =>
      rw [creations_cons] at few
      obtain ⟨same, states⟩ := serve_renamed lived renamed (by omega) call
      have next := lived.serve call (by omega)
      have others := ih next states (by
        change names.base.toNat + (count + _) + 1 +
          ((runtime.withStores first).serve call).creations rest < 2 ^ 64
        omega)
      change _ :: _ = _ :: _
      rw [same]
      exact congrArg _ others

end ServingRuntime

/-! ### What a context that is left shows -/

namespace ContextManager

variable {manager : ContextManager}

/-- An owner can give up a context that no call uses. -/
theorem release_owner (agentId parentId : AgentId) (contextId : ContextId) (now : TimePoint)
    (entry : Entry) (found : manager.context? contextId = some entry)
    (member : owned entry agentId = true) (idle : entry.pinCount = 0) :
    (manager.release agentId parentId contextId now).2.released = true := by
  have owner : ownerToRelease entry agentId parentId = agentId := by
    unfold ownerToRelease
    rw [member]
    rfl
  have busy : ¬(entry.owners.keys.length = 1 ∧ entry.pinCount ≠ 0) := by
    intro both
    exact both.2 idle
  unfold release
  rw [found]
  simp only [owner, member, if_neg busy, Bool.not_true, Bool.false_eq_true, if_false]
  split <;> rfl

theorem release_missing (agentId parentId : AgentId) (contextId : ContextId) (now : TimePoint)
    (missing : manager.context? contextId = none) :
    manager.release agentId parentId contextId now =
      (manager, .rejected (text "context does not exist")) := by
  unfold release
  rw [missing]

end ContextManager

namespace RuntimeStores

variable (config : AcceptedServing) {start : RuntimeStores} (request : InvocationRequest)

/-- Whatever happens to the sequence, the release is not refused. -/
theorem releaseContext_owner (named : request.contextId ≠ 0) {entry : Entry}
    (found : start.contexts.context? request.contextId = some entry)
    (member : ContextManager.owned entry request.agentId = true) (idle : entry.pinCount = 0) :
    Triple (fun stores => stores = start) (releaseContext config request)
      fun result _ => result.status ≠ InvocationStatus.rejected := by
  unfold releaseContext
  rw [if_neg named]
  apply Triple.bind (release_leaves request.agentId request.parentId request.contextId start)
  intro outcome
  apply Triple.from_state
  intro left known
  obtain ⟨now, same, _⟩ := known
  have released := ContextManager.release_owner request.agentId request.parentId
    request.contextId now entry found member idle
  rw [← same] at released
  rw [released]
  apply Triple.ite
  · intro refused
    cases refused
  · intro accepted
    have anything {α : Type} (program : Serve α) (before : RuntimeStores → Prop) :
        Triple before program fun _ _ => True := ⟨fun _ _ _ => trivial⟩
    apply Triple.bind (anything _ _)
    intro cleared
    apply Triple.bind (anything _ _)
    intro forgotten
    apply Triple.ask_then
    intro answer
    apply Triple.ite
    · intro written
      exact Triple.pure _ fun _ _ => nofun
    · intro failed
      exact Triple.pure _ fun _ _ => nofun

theorem releaseContext_missing (missing : start.contexts.context? request.contextId = none) :
    Triple (fun stores => stores = start) (releaseContext config request)
      fun result after => result.status = InvocationStatus.rejected ∧
        after.contexts = start.contexts := by
  apply Triple.ite
  · intro unnamed
    apply Triple.pure
    intro after same
    subst same
    exact ⟨rfl, rfl⟩
  · intro named
    apply Triple.bind (release_leaves request.agentId request.parentId request.contextId start)
    intro outcome
    apply Triple.from_state
    intro left known
    obtain ⟨now, same, kept⟩ := known
    rw [ContextManager.release_missing request.agentId request.parentId request.contextId now
      missing] at same kept
    subst same
    apply Triple.pure
    intro after equal
    rw [equal, kept]
    exact ⟨rfl, rfl⟩

end RuntimeStores

theorem HandleEnvironment.modelResult_refused (environment : HandleEnvironment)
    (request : InvocationRequest) (result : HandlerResult) :
    (environment.modelResult request result).status = InvocationStatus.rejected ↔
      result.status = InvocationStatus.rejected := by
  have plain (outputType : UInt32) (shown : HandlerResult) :
      (environment.withRegion outputType shown).status = InvocationStatus.rejected ↔
        shown.status = InvocationStatus.rejected := by
    unfold withRegion
    dsimp only
    by_cases failed : shown.status ≠ .ok
    · rw [if_pos failed]
    · rw [if_neg failed, not_not.mp failed]
      cases environment.textRegion shown.output with
      | error message => exact ⟨nofun, nofun⟩
      | ok region => rfl
  unfold modelResult
  rw [plain]
  split <;> rfl

namespace ServingRuntime

/-- An agent gives a context up, and nothing interferes. -/
def releaseCall (config : ServingConfig) (agentId : AgentId) (contextId : ContextId) :
    ServingCall where
  environment := quietEnvironment
  request :=
    { agentId
      kind := .model
      target := config.modelAlias
      operation := text "release_context"
      contextId }

/-- A call of this operation that is not cancelled before. -/
structure Releases (runtime : ServingRuntime) (call : ServingCall) : Prop where
  model : call.request.kind = InvocationKind.model
  known : call.request.target = runtime.config.modelAlias
  operation : call.request.operation = text "release_context"
  going : (call.environment.answers 0).cancelled = false

theorem Releases.observed {runtime : ServingRuntime} {call : ServingCall}
    (releases : Releases runtime call) (ready : runtime.initialized = true)
    {good : HandlerResult → RuntimeStores → Prop}
    (released : Triple (fun stores => stores = runtime.stores)
      (RuntimeStores.releaseContext (runtime.accepting ready) call.request) good) :
    ∃ result, (runtime.observe call).status =
        some (call.environment.modelResult call.request result).status ∧
      good result (runtime.serve call).stores := by
  have answers := released.run runtime.stores
    (fun index => call.environment.answers (index + 1)) rfl
  generalize ran : RuntimeStores.releaseContext (runtime.accepting ready) call.request
    runtime.stores (fun index => call.environment.answers (index + 1)) = done at answers
  have handled : runtime.handle call.environment call.request call.inputs runtime.stores
      call.environment.answers =
      ((some (.ok (call.environment.modelResult call.request done.1.1)), done.1.2), done.2) := by
    have model : RuntimeStores.handleModel (runtime.accepting ready)
        (runtime.call call.environment call.request call.inputs) =
        RuntimeStores.releaseContext (runtime.accepting ready) call.request := by
      have known : ¬call.request.target ≠ (runtime.accepting ready).val.modelAlias :=
        not_not.mpr releases.known
      exact (if_neg known).trans (if_pos releases.operation)
    unfold handle
    rw [dif_pos ready, Program.run_bind RuntimeStores.cancelRequested _ _ _
      (((call.environment.answers 0).cancelled, runtime.stores),
        fun index => call.environment.answers (index + 1)) rfl]
    simp only [releases.going, Bool.false_eq_true, if_false, if_pos releases.model]
    unfold handleModel
    change (RuntimeStores.handleModel (runtime.accepting ready) _ >>= _) _ _ = _
    rw [model, Program.run_bind _ _ _ _ _ ran]
    rfl
  refine ⟨done.1.1, ?_, ?_⟩
  · unfold observe outcome
    rw [handled]
    rfl
  · unfold serve Program.after
    rw [handled]
    exact answers

/-! ### A lifetime after another -/

/-- `shutdown` after a history of calls, and `initialize` again. -/
def restart (fresh : ServingRuntime) (history : List ServingCall) (removed : ContextId → Bool)
    (answers : InitializeAnswers) : Except StdString ServingRuntime :=
  ((fresh.serveAll history).shutdown removed).initializeRuntime answers

/-- The ids counted from the first new one. -/
def relativeIds (runtime : ServingRuntime) : Equiv.Perm ContextId :=
  absoluteId (runtime.stores.contexts.nextContextId - 1)

/-- Until the ids come round, all calls show the same in both lifetimes. -/
def StartsClean (fresh restarted : ServingRuntime) : Prop :=
  ∀ later, restarted.stores.contexts.nextContextId.toNat + fresh.creations later < 2 ^ 64 →
    restarted.observations (later.map (ServingCall.renamed restarted.relativeIds)) =
      (fresh.observations later).map (Observed.renamed restarted.relativeIds)

theorem serveAll_stores (runtime : ServingRuntime) (history : List ServingCall) :
    runtime.serveAll history = runtime.withStores (runtime.serveAll history).stores := by
  induction history generalizing runtime with
  | nil => rfl
  | cons call rest ih => exact ih (runtime.serve call)

theorem eq_withStores {fresh restarted : ServingRuntime}
    (config : restarted.config = fresh.config)
    (enableShellTool : restarted.enableShellTool = fresh.enableShellTool)
    (initialized : restarted.initialized = fresh.initialized) :
    restarted = fresh.withStores restarted.stores := by
  cases fresh
  cases restarted
  cases config
  cases enableShellTool
  cases initialized
  rfl

theorem restart_stores {fresh restarted : ServingRuntime} {history : List ServingCall}
    {removed : ContextId → Bool} {answers : InitializeAnswers} (ready : fresh.initialized = true)
    (again : fresh.restart history removed answers = .ok restarted) :
    restarted = fresh.withStores ((fresh.serveAll history).stores.closed removed).loaded := by
  unfold restart at again
  rw [serveAll_stores] at again
  have closed : (fresh.withStores (fresh.serveAll history).stores).shutdown removed =
      { fresh with
        initialized := false
        accepted := fun ready => absurd ready Bool.false_ne_true
        stores := (fresh.serveAll history).stores.closed removed } := by
    apply if_neg
    change ¬(!fresh.initialized) = true
    rw [ready]
    exact Bool.false_ne_true
  rw [closed] at again
  have initialized := initializeRuntime_ok again
  have stores : restarted.stores = ((fresh.serveAll history).stores.closed removed).loaded :=
    initialized.stores
  rw [← stores]
  exact eq_withStores initialized.config initialized.enableShellTool
    (initialized.ready.trans ready.symm)

section Restart

variable {config : ServingConfig} {enableShellTool : Bool} {first second : InitializeAnswers}
  {removed : ContextId → Bool} {fresh restarted : ServingRuntime} {history : List ServingCall}
  (started : (create config enableShellTool).initializeRuntime first = .ok fresh)

include started

theorem fresh_contexts : fresh.stores.contexts =
    ContextManager.create fresh.config.maxContexts fresh.config.logicalContextLimit := by
  have initialized := initializeRuntime_ok started
  rw [initialized.stores, initialized.config]
  rfl

/-- Between two calls of the first lifetime. -/
theorem last_lived (few : fresh.creations history + 1 < 2 ^ 64) :
    Lived (fresh.creations history) (fresh.withStores (fresh.serveAll history).stores) := by
  have lived := (create_lived started).history history (by omega)
  rw [serveAll_stores, Nat.zero_add] at lived
  exact lived

/-- What is left of a lifetime without contexts are other names. -/
theorem exists_names (removed : ContextId → Bool) (few : fresh.creations history + 1 < 2 ^ 64)
    (ready : fresh.initialized = true)
    (empty : (fresh.serveAll history).stores.contexts.contexts = ∅) :
    ∃ names : ContextNames (fresh.accepting ready).loaded,
      names.base = (fresh.serveAll history).stores.contexts.nextContextId - 1 ∧
      RuntimeStores.Renamed names (fun _ => True) fresh.stores
        ((fresh.serveAll history).stores.closed removed).loaded := by
  have initialized := initializeRuntime_ok started
  have contexts := fresh_contexts started
  have lived := last_lived started few
  obtain ⟨sequences, free⟩ :=
    ContextManager.exists_renaming (fresh.accepting ready) lived.settled empty
  refine ⟨⟨_, sequences⟩, rfl, ?_⟩
  constructor
  · constructor
    · rw [contexts]
      exact congrArg Prod.snd lived.settled.limits
    · rw [contexts]
      change UnorderedMap.Renamed _ _ ∅ (fresh.serveAll history).stores.contexts.contexts
      rw [empty]
      exact UnorderedMap.Renamed.empty _ _
    · rw [contexts]
      exact free
    · rw [contexts]
      change _ = (1 : UInt64) + _
      rw [UInt64.add_comm, UInt64.sub_add_cancel]
      rfl
    · trivial
  · rw [initialized.stores]
    exact UnorderedMap.Renamed.empty _ _
  · rw [initialized.stores]
    exact UnorderedMap.Renamed.empty _ _
  · rw [initialized.stores]
    rfl
  · intro contextId
    rw [initialized.stores]
    rfl
  · rw [initialized.stores]
    exact LlmModel.Renamed.empty sequences

variable (again : fresh.restart history removed second = .ok restarted)
  (few : fresh.creations history + 1 < 2 ^ 64)

include again few

theorem restarted_next : restarted.stores.contexts.nextContextId =
    UInt64.ofNat (fresh.creations history + 1) := by
  rw [restart_stores (create_lived started).ready again]
  exact (last_lived started few).numbered.counter

theorem clean_of_empty (empty : (fresh.serveAll history).stores.contexts.contexts = ∅) :
    StartsClean fresh restarted := by
  intro later left
  have lived := create_lived started
  have next := restarted_next started again few
  have same := restart_stores lived.ready again
  obtain ⟨names, base, renamed⟩ := exists_names started removed few lived.ready empty
  have ids : restarted.relativeIds = names.id := by
    unfold relativeIds ContextNames.id
    rw [base, same]
    rfl
  have value : restarted.stores.contexts.nextContextId.toNat = fresh.creations history + 1 := by
    rw [next, UInt64.toNat_ofNat_of_lt' (by change _ < 2 ^ 64; omega)]
  have shift : names.base.toNat + 1 = restarted.stores.contexts.nextContextId.toNat := by
    have named : names.base = restarted.stores.contexts.nextContextId - 1 := by
      rw [base, same]
      rfl
    have one : (1 : UInt64) ≤ restarted.stores.contexts.nextContextId := by
      apply UInt64.le_iff_toNat_le.mpr
      rw [value]
      exact Nat.le_add_left 1 _
    rw [named, UInt64.toNat_sub_of_le _ _ one]
    change _ - 1 + 1 = _
    omega
  have begun : Lived 0 (fresh.withStores fresh.stores) := lived
  have shown := observations_renamed begun renamed later (by
    change names.base.toNat + 0 + 1 + fresh.creations later < 2 ^ 64
    omega)
  rw [ids, same]
  exact shown

/-- Its owner can release a context that is left, which a new runtime does not know. -/
theorem empty_of_clean (clean : StartsClean fresh restarted) :
    (fresh.serveAll history).stores.contexts.contexts = ∅ := by
  have begun := create_lived started
  have lived := last_lived started few
  have same := restart_stores begun.ready again
  have value : restarted.stores.contexts.nextContextId.toNat = fresh.creations history + 1 := by
    rw [restarted_next started again few,
      UInt64.toNat_ofNat_of_lt' (by change _ < 2 ^ 64; omega)]
  by_contra left
  obtain ⟨key, entry, found⟩ := UnorderedMap.exists_of_ne_empty left
  obtain ⟨owner, member⟩ := (lived.coherent.entries key entry found).ownedBy
  have idle : entry.pinCount = 0 :=
    UInt64.toNat_inj.mp ((lived.settled.pins key).stored entry found).1
  have positive : key ≠ 0 := by
    intro zero
    have issued := (lived.numbered.issued key entry found).1
    rw [zero] at issued
    cases issued
  have absent (contextId : ContextId) : fresh.stores.contexts.context? contextId = none := by
    rw [fresh_contexts started]
    rfl
  generalize request : releaseCall fresh.config owner (restarted.relativeIds.symm key) = call
  have unknown : Releases fresh call := by
    subst request
    exact ⟨rfl, rfl, rfl, rfl⟩
  have known : Releases restarted (call.renamed restarted.relativeIds) := by
    subst request
    rw [same]
    exact ⟨rfl, rfl, rfl, rfl⟩
  have context : (call.renamed restarted.relativeIds).request.contextId = key := by
    subst request
    exact restarted.relativeIds.apply_symm_apply key
  have agent : (call.renamed restarted.relativeIds).request.agentId = owner := by
    subst request
    rfl
  obtain ⟨_, shown, refused, kept⟩ := unknown.observed begun.ready
    (RuntimeStores.releaseContext_missing (fresh.accepting begun.ready) call.request (absent _))
  have ready : restarted.initialized = true := by
    rw [same]
    exact begun.ready
  have there : restarted.stores.contexts.context?
      (call.renamed restarted.relativeIds).request.contextId = some entry := by
    rw [context, same]
    exact found
  obtain ⟨_, shown', accepted⟩ := known.observed ready
    (RuntimeStores.releaseContext_owner (restarted.accepting ready) _ (by
      rw [context]
      exact positive) there (by
      rw [agent]
      exact member) idle)
  have nothing : fresh.creations [call] = 0 := by
    rw [creations_cons]
    change (_ != fresh.stores.contexts.nextContextId).toNat + 0 = 0
    rw [kept, bne_self_eq_false]
    rfl
  have equal := clean [call] (by
    rw [nothing, value]
    omega)
  have head : restarted.observe (call.renamed restarted.relativeIds) =
      (fresh.observe call).renamed restarted.relativeIds := (List.cons.inj equal).1
  have statuses : (restarted.observe (call.renamed restarted.relativeIds)).status =
      (fresh.observe call).status := by
    rw [head]
    rfl
  rw [shown, shown'] at statuses
  have rejected := (call.environment.modelResult_refused call.request _).mpr refused
  rw [← Option.some.inj statuses] at rejected
  exact accepted ((HandleEnvironment.modelResult_refused _ _ _).mp rejected)

end Restart

/-- A restart starts clean exactly if no context has been left. -/
theorem restart_clean_iff (config : ServingConfig) (enableShellTool : Bool)
    (first second : InitializeAnswers) (removed : ContextId → Bool)
    (fresh restarted : ServingRuntime) (history : List ServingCall)
    (started : (create config enableShellTool).initializeRuntime first = .ok fresh)
    (again : fresh.restart history removed second = .ok restarted)
    (few : fresh.creations history + 1 < 2 ^ 64) :
    StartsClean fresh restarted ↔ (fresh.serveAll history).stores.contexts.contexts = ∅ := by
  constructor
  · intro clean
    exact empty_of_clean started again few clean
  · intro empty
    exact clean_of_empty started again few empty

/-! ### One turn before the restart -/

theorem plainConfig_accepted (_ready : true = true) : ServingConfig.accepted {} = true := rfl

/-- The defaults, initialized. -/
def plainRuntime : ServingRuntime where
  config := {}
  initialized := true
  accepted := plainConfig_accepted
  stores := (create {} false).stores.loaded

/-- The next lifetime of `plainRuntime`, with all snapshots removed. -/
def plainAgain (history : List ServingCall) : ServingRuntime :=
  plainRuntime.withStores ((plainRuntime.serveAll history).stores.closed fun _ => true).loaded

theorem plainRuntime_restarts (history : List ServingCall) :
    plainRuntime.restart history (fun _ => true) {} = .ok (plainAgain history) := by
  unfold restart
  rw [serveAll_stores]
  rfl

/-- An agent asks for one turn, and nothing interferes. -/
def turnCall (agentId : AgentId) (contextId : ContextId) : ServingCall where
  environment := quietEnvironment
  request :=
    { agentId
      kind := .model
      target := text "default"
      operation := text "generate"
      payload := text "x"
      contextId }

/-- The agent gives its context up before the restart. -/
def turnAndRelease : List ServingCall := [turnCall 1 0, releaseCall {} 1 1]

theorem turnAndRelease_clean : StartsClean plainRuntime (plainAgain turnAndRelease) := by
  have none : (plainRuntime.serveAll turnAndRelease).stores.contexts.contexts.keys = [] := by
    decide +kernel
  have few : plainRuntime.creations turnAndRelease + 1 < 2 ^ 64 := by decide +kernel
  exact (restart_clean_iff {} false {} {} (fun _ => true) plainRuntime
    (plainAgain turnAndRelease) turnAndRelease rfl (plainRuntime_restarts turnAndRelease)
    few).mpr (UnorderedMap.eq_empty_of_keys none)

/-- Otherwise its next turn goes on in a context whose conversation is gone. -/
theorem turn_goes_on :
    (create {} false).initializeRuntime {} = .ok plainRuntime ∧
    plainRuntime.restart [turnCall 1 0] (fun _ => true) {} = .ok (plainAgain [turnCall 1 0]) ∧
    (plainRuntime.observations [turnCall 1 0]).map Observed.created = [true] ∧
    ((plainAgain [turnCall 1 0]).observations [turnCall 1 0]).map Observed.created = [false] ∧
    ¬StartsClean plainRuntime (plainAgain [turnCall 1 0]) := by
  have fresh : (plainRuntime.observations [turnCall 1 0]).map Observed.created = [true] := by
    decide +kernel
  have later : ((plainAgain [turnCall 1 0]).observations [turnCall 1 0]).map Observed.created =
      [false] := by
    decide +kernel
  have renamed : ((plainAgain [turnCall 1 0]).observations ([turnCall 1 0].map
      (ServingCall.renamed (plainAgain [turnCall 1 0]).relativeIds))).map Observed.created =
      [false] := by
    decide +kernel
  have left : (plainAgain [turnCall 1 0]).stores.contexts.nextContextId.toNat +
      plainRuntime.creations [turnCall 1 0] < 2 ^ 64 := by
    decide +kernel
  refine ⟨rfl, plainRuntime_restarts [turnCall 1 0], fresh, later, ?_⟩
  intro clean
  have created := congrArg (List.map Observed.created) (clean [turnCall 1 0] left)
  rw [renamed, created_renamed, fresh] at created
  cases created

end ServingRuntime

end AgentNucleus.Top
