/-
The stores of `TopRuntime` in the calls that reach the model: every question may
be answered in any way, and every way out of a turn gives the lease back.
-/

import AgentNucleus.Top.StoreCoherence

set_option autoImplicit false

namespace AgentNucleus.Top.RuntimeStores

open AgentNucleus.Library
open AgentNucleus.Library.Program (Triple)
open AgentNucleus.Runtime (AgentId ContextId InvocationRequest StdString TimePoint)

variable (config : AcceptedServing) {stores start : RuntimeStores}

/-! ### Rendering a turn -/

theorem formatChat_keeps (messages : List (StdString × StdString))
    (before : RuntimeStores → Prop) : Triple before (formatChat messages) fun _ => before := by
  apply Triple.ite
  · intro empty
    exact Triple.pure _ fun _ holds => holds
  · intro something
    exact Triple.asks Answer.rendered

private theorem renderFirst_keeps (systemPrompt formatted : StdString)
    (before : RuntimeStores → Prop) :
    Triple before (renderFirst systemPrompt formatted) fun _ => before := by
  apply Triple.ite
  · intro empty
    exact Triple.pure _ fun _ holds => holds
  · intro something
    apply Triple.bind (formatChat_keeps _ before)
    intro formattedSystem
    cases formattedSystem with
    | none => exact Triple.pure _ fun _ holds => holds
    | some first =>
        apply Triple.ite
        · intro leading
          exact Triple.pure _ fun _ holds => holds
        · intro elsewhere
          exact Triple.pure _ fun _ holds => holds

private theorem renderCreated_keeps (conversation : Conversation) (payload : GeneratePayload)
    (before : RuntimeStores → Prop) :
    Triple before (renderCreated conversation payload) fun _ => before := by
  apply Triple.bind (formatChat_keeps _ before)
  intro formatted
  cases formatted with
  | none => exact Triple.pure _ fun _ holds => holds
  | some formatted =>
      apply Triple.bind (renderFirst_keeps _ _ before)
      intro turn
      exact Triple.pure _ fun _ holds => holds

private theorem renderLater_keeps (conversation : Conversation) (payload : GeneratePayload)
    (before : RuntimeStores → Prop) :
    Triple before (renderLater conversation payload) fun _ => before := by
  apply Triple.bind (formatChat_keeps _ before)
  intro previous
  cases previous with
  | none => exact Triple.pure _ fun _ holds => holds
  | some previous =>
      apply Triple.bind (formatChat_keeps _ before)
      intro formatted
      cases formatted with
      | none => exact Triple.pure _ fun _ holds => holds
      | some formatted =>
          apply Triple.ite
          · intro leading
            exact Triple.pure _ fun _ holds => holds
          · intro inconsistent
            exact Triple.pure _ fun _ holds => holds

/-- The first turn of a new context is always rendered somehow. -/
theorem renderTurn_spec (conversation : Conversation) (created : Bool)
    (payload : GeneratePayload) (before : RuntimeStores → Prop) :
    Triple before (renderTurn conversation created payload) fun rendered stores =>
      before stores ∧ (created = true → ∃ turn, rendered.2 = .ok turn) := by
  apply Triple.ite
  · intro inactive
    apply Triple.pure
    intro stores holds
    exact ⟨holds, fun _ => ⟨_, rfl⟩⟩
  · intro active
    apply Triple.ite
    · intro fresh
      apply Triple.bind (renderCreated_keeps conversation payload before)
      intro rendered
      apply Triple.pure
      intro stores holds
      exact ⟨holds, fun _ => ⟨rendered.2, rfl⟩⟩
    · intro later
      apply (renderLater_keeps conversation payload before).weaken
      intro rendered stores holds
      exact ⟨holds, fun fresh => absurd fresh later⟩

/-! ### The `warmup_prefix` operation -/

theorem renderSystem_keeps (systemPrompt : StdString) (before : RuntimeStores → Prop) :
    Triple before (renderSystem config systemPrompt) fun _ => before := by
  apply Triple.ite
  · intro templated
    apply Triple.bind (formatChat_keeps _ before)
    intro formatted
    exact Triple.pure _ fun _ holds => holds
  · intro plain
    exact Triple.pure _ fun _ holds => holds

theorem cancelledBy_keeps (result : Int) (before : RuntimeStores → Prop) :
    Triple before (cancelledBy result) fun _ => before := by
  apply Triple.ite
  · intro cancelled
    exact Triple.pure _ fun _ holds => holds
  · intro other
    exact cancelRequested_keeps before

theorem warmupPrefix_spec (systemPrompt : StdString) (start : RuntimeStores) :
    Triple (fun stores => stores = start) (warmupPrefix config systemPrompt)
      fun _ after => Untracked start after := by
  apply Triple.ite
  · intro invalid
    apply Triple.pure
    intro after same
    subst same
    exact Untracked.refl after
  · intro valid
    apply Triple.bind (renderSystem_keeps config systemPrompt _)
    intro rendered
    apply Triple.bind (onLlm_untracked _ start)
    intro sequence
    apply Triple.ite
    · intro failed
      apply Triple.bind (cancelledBy_keeps sequence _)
      intro cancelled
      exact Triple.pure _ fun _ holds => holds
    · intro warmed
      exact makeTextResult_keeps _ _ _

/-! ### A turn -/

/-- The stores while a lease is held, or given back: a context that the call has
created belongs to its agent alone and has no snapshot. -/
structure Leasing (start : RuntimeStores) (agentId : AgentId) (lease : ContextLease)
    (pins : UInt64) (stores : RuntimeStores) : Prop extends
    Served start stores lease.created where
  held : lease.contextId ∈ stores.contexts.contexts
  alone : lease.created = true →
    stores.snapshots.lookup lease.contextId = none ∧
      ∃ entry, stores.contexts.context? lease.contextId = some entry ∧
        entry.owners = UnorderedSet.add ∅ agentId ∧ entry.pinCount = pins

variable {agentId : AgentId} {lease : ContextLease} {pins : UInt64}

theorem Leasing.untracked {after : RuntimeStores}
    (leasing : Leasing start agentId lease pins stores) (same : Untracked stores after) :
    Leasing start agentId lease pins after := by
  refine ⟨leasing.toServed.untracked same, ?_, ?_⟩
  · rw [same.contexts]
    exact leasing.held
  · rw [same.contexts, same.snapshots]
    exact leasing.alone

theorem Leasing.storeConversation (leasing : Leasing start agentId lease pins stores)
    (conversation : Conversation) :
    Leasing start agentId lease pins
      (RuntimeStores.storeConversation lease.contextId conversation stores) :=
  ⟨⟨leasing.advances, leasing.coherent.storeConversation lease.contextId conversation
    leasing.held⟩, leasing.held, leasing.alone⟩

/-- The pin of a new context is its only one. -/
theorem Leasing.finish (leasing : Leasing start agentId lease 1 stores) (now : TimePoint) :
    Leasing start agentId lease 0
      (RuntimeStores.setContexts (stores.contexts.finish lease.contextId now).1 stores) := by
  have finished := ContextManager.finish_spec stores.contexts lease.contextId now
  constructor
  · constructor
    · exact leasing.advances.kept finished.advances
    · refine ⟨leasing.coherent.toTracked.finish lease.contextId now, ?_⟩
      intro id
      exact (leasing.coherent.talks id).trans (finished.mem_contexts id).symm
  · exact (finished.mem_contexts lease.contextId).mpr leasing.held
  · intro created
    obtain ⟨unsaved, entry, found, owners, pinned⟩ := leasing.alone created
    refine ⟨unsaved, { entry with pinCount := entry.pinCount - 1, lastAccess := now }, ?_,
      owners, ?_⟩
    · change (stores.contexts.finish lease.contextId now).1.context? lease.contextId = _
      have nonzero : entry.pinCount ≠ 0 := by
        rw [pinned]
        decide
      rw [ContextManager.finish_pinned stores.contexts lease.contextId now entry found nonzero,
        ContextManager.context?_store, if_pos rfl]
    · change entry.pinCount - 1 = 0
      rw [pinned]
      rfl

private theorem finish_leasing (leasing : Leasing start agentId lease 1 stores) :
    Triple (fun state => state = stores) (finish lease.contextId)
      fun _ after => Leasing start agentId lease 0 after := by
  apply (finish_leaves lease.contextId stores).weaken
  intro value after left
  obtain ⟨now, rfl⟩ := left
  exact leasing.finish now

/-- A conversation may be rewritten once more after the lease has been given back. -/
private theorem rewrite_leasing (contextId : ContextId) (applied : Bool)
    (rewritten : Conversation → Conversation) (same : contextId = lease.contextId)
    (leasing : Leasing start agentId lease pins stores) :
    Triple (fun state => state = stores)
      (if applied then
        Program.change fun stores =>
          match stores.conversations.lookup contextId with
          | none => stores
          | some conversation =>
              storeConversation contextId (rewritten conversation) stores
      else pure () : Serve Unit)
      fun _ after => Leasing start agentId lease pins after := by
  subst same
  apply Triple.ite
  · intro templated
    apply Triple.change
    intro after equal
    subst equal
    cases found : after.conversations.lookup lease.contextId with
    | none => exact leasing
    | some conversation => exact leasing.storeConversation (rewritten conversation)
  · intro plain
    apply Triple.pure
    intro after equal
    subst equal
    exact leasing

private theorem clearOutcome_spec (outcome : ContextManager.Release) (start : RuntimeStores) :
    Triple (fun stores => stores = start) (clearOutcome config outcome)
      fun _ after => Untracked start after := by
  apply Triple.ite
  · intro released
    exact clearReleased_spec config outcome.releasedSequence start
  · intro refused
    apply Triple.pure
    intro after same
    subst same
    exact Untracked.refl after

/-- A context whose first turn has failed disappears with its conversation. -/
private theorem abandonContext_spec (request : InvocationRequest)
    (leasing : Leasing start request.agentId lease 0 stores) :
    Triple (fun state => state = stores) (abandonContext config request lease)
      fun _ after => Served start after lease.created := by
  apply Triple.ite
  · intro created
    obtain ⟨unsaved, entry, found, owners, idle⟩ := leasing.alone created
    apply Triple.bind (release_leaves request.agentId request.parentId lease.contextId stores)
    intro outcome
    apply Triple.from_state
    intro middle left
    obtain ⟨now, _, rfl⟩ := left
    apply Triple.bind (clearOutcome_spec config outcome _)
    intro cleared
    apply Triple.change
    intro cleaned same
    have released := ContextManager.release_spec stores.contexts request.agentId
      request.parentId lease.contextId now
    have erased : (stores.contexts.release request.agentId request.parentId lease.contextId
        now).1.contexts = stores.contexts.contexts.erase lease.contextId := by
      rw [ContextManager.release_alone stores.contexts request.agentId request.parentId
        lease.contextId now entry found owners idle, ContextManager.contexts_removeContext,
        ContextManager.contexts_dropOwner]
    have gone := leasing.coherent.removed erased
    rw [eraseSnapshot_missing unsaved] at gone
    have served : Served start (eraseConversation lease.contextId (setContexts
        (stores.contexts.release request.agentId request.parentId lease.contextId now).1
        stores)) lease.created :=
      ⟨leasing.advances.kept released.advances, gone⟩
    exact served.untracked (same.eraseConversation lease.contextId)
  · intro older
    apply Triple.pure
    intro after same
    subst same
    exact leasing.toServed

theorem cancelledDuring_keeps (response : LlmResponse)
    (before : RuntimeStores → Prop) :
    Triple before (cancelledDuring response) fun _ => before := by
  apply Triple.bind (cancelRequested_keeps before)
  intro cancelled
  exact Triple.pure _ fun _ holds => holds

private theorem failTurn_spec (request : InvocationRequest) (previousCount : Nat)
    (applied : Bool) (response : LlmResponse)
    (leasing : Leasing start request.agentId lease 0 stores) :
    Triple (fun state => state = stores)
      (failTurn config request lease previousCount applied response)
      fun _ after => Served start after lease.created := by
  apply Triple.bind (rewrite_leasing lease.contextId applied _ rfl leasing)
  intro dropped
  apply Triple.from_state
  intro middle shorter
  apply Triple.bind (abandonContext_spec config request shorter)
  intro abandoned
  apply Triple.bind (cancelledDuring_keeps response _)
  intro cancelled
  exact Triple.pure _ fun _ holds => holds

private theorem completeTurn_spec (applied : Bool) (response : LlmResponse)
    (leasing : Leasing start agentId lease pins stores) :
    Triple (fun state => state = stores) (completeTurn lease applied response)
      fun _ after => Served start after lease.created := by
  apply Triple.ask_then
  intro generated
  apply Triple.bind (rewrite_leasing lease.contextId applied _ rfl leasing)
  intro recorded
  apply Triple.bind (makeTextResult_keeps _ _ _)
  intro result
  exact Triple.pure _ fun _ holds => holds.toServed

private theorem serveTurn_spec (request : InvocationRequest) (payload : GeneratePayload)
    (previousCount : Nat) (turn : RenderedTurn)
    (leasing : Leasing start request.agentId lease 1 stores) :
    Triple (fun state => state = stores)
      (serveTurn config request payload lease previousCount turn)
      fun _ after => Served start after lease.created := by
  apply Triple.bind (onLlm_untracked _ stores)
  intro outcome
  apply Triple.from_state
  intro inferred same
  apply Triple.bind (finish_leasing (leasing.untracked same))
  intro finished
  apply Triple.from_state
  intro idle given
  apply Triple.ite
  · intro failed
    exact failTurn_spec config request previousCount turn.applied outcome.2 given
  · intro done
    exact completeTurn_spec turn.applied outcome.2 given

/-- An acquire and the conversation that goes with its lease. -/
private theorem Granted.leasing {requestedContext : ContextId} {parentId : AgentId}
    {middle : RuntimeStores} (coherent : Coherent start)
    (fresh : start.contexts.context? start.contexts.nextContextId = none)
    (granted : Granted start agentId parentId requestedContext (some lease) middle)
    (conversation : Conversation) :
    Leasing start agentId lease 1
      (RuntimeStores.storeConversation lease.contextId conversation middle) := by
  obtain ⟨now, acquired⟩ := granted.acquired
  have members := acquired.mem_contexts coherent.entries
  have advances := acquired.advances
  have held : lease.contextId ∈ middle.contexts.contexts :=
    (members lease.contextId).mpr (Or.inl ⟨lease, rfl, rfl⟩)
  have unsaved := granted.unsaved fresh lease rfl
  constructor
  · constructor
    · exact advances
    · have tracked := granted.tracked
      refine ⟨⟨tracked.entries, tracked.live, tracked.parked, tracked.returned,
        tracked.bytes⟩, ?_⟩
      intro id
      change id ∈ middle.conversations.insert lease.contextId conversation ↔
        id ∈ middle.contexts.contexts
      rw [AList.mem_insert, granted.conversations, members, coherent.talks]
      apply or_congr_left
      constructor
      · intro same
        exact ⟨lease, rfl, same⟩
      · intro given
        obtain ⟨_, same, equal⟩ := given
        cases same
        exact equal
  · exact held
  · intro created
    exact ⟨unsaved created, _, acquired.newest fresh created, rfl, rfl⟩

private theorem serveLease_spec {requestedContext : ContextId} {middle : RuntimeStores}
    (request : InvocationRequest) (payload : GeneratePayload) (coherent : Coherent start)
    (fresh : start.contexts.context? start.contexts.nextContextId = none)
    (granted : Granted start request.agentId request.parentId requestedContext (some lease)
      middle) :
    Triple (fun stores => stores = middle) (serveLease config request payload lease)
      fun _ after => Served start after lease.created := by
  apply Triple.inspect_then
  apply Triple.bind (renderTurn_spec _ lease.created payload _)
  intro rendered
  apply Triple.from_state
  intro same held
  obtain ⟨rfl, always⟩ := held
  have leasing := granted.leasing coherent fresh rendered.1
  apply Triple.change_then
  cases result : rendered.2 with
  | error message =>
      apply Triple.bind (finish_leasing leasing)
      intro finished
      exact Triple.pure _ fun _ holds => holds.toServed
  | ok turn => exact serveTurn_spec config request payload _ turn leasing

private theorem served_nothing (coherent : Coherent start) (after : RuntimeStores)
    (same : after = start) : ∃ created, Served start after created := by
  subst same
  exact ⟨false, Served.nothing coherent⟩

theorem generate_spec (request : InvocationRequest)
    (payload : Except StdString GeneratePayload) (order : IterationOrder ContextId)
    (coherent : Coherent start)
    (fresh : start.contexts.context? start.contexts.nextContextId = none) :
    Triple (fun stores => stores = start) (generate config request payload order)
      fun _ after => ∃ created, Served start after created := by
  have nothing := served_nothing coherent
  cases payload with
  | error message => exact Triple.pure _ nothing
  | ok payload =>
      apply Triple.ite
      · intro invalid
        exact Triple.pure _ nothing
      · intro valid
        apply Triple.bind (acquire_spec config coherent.toTracked request.agentId
          request.parentId request.contextId order)
        intro acquired
        apply Triple.from_state
        intro middle granted
        cases result : acquired.2 with
        | none =>
            rw [result] at granted
            obtain ⟨now, failed⟩ := granted.acquired
            have members := failed.mem_contexts coherent.entries
            apply Triple.pure
            intro after same
            subst same
            refine ⟨false, failed.advances, granted.tracked, ?_⟩
            intro id
            rw [granted.conversations, coherent.talks, members]
            constructor
            · exact Or.inr
            · intro either
              obtain ⟨lease, impossible, _⟩ | live := either
              · cases impossible
              · exact live
        | some lease =>
            rw [result] at granted
            apply (serveLease_spec config request payload coherent fresh granted).weaken
            intro value after served
            exact ⟨lease.created, served⟩

/-! ### Any call -/

theorem handleModel_spec (call : HandleCall) (coherent : Coherent start)
    (fresh : start.contexts.context? start.contexts.nextContextId = none) :
    Triple (fun stores => stores = start) (handleModel config call)
      fun _ after => ∃ created, Served start after created := by
  have nothing := served_nothing coherent
  apply Triple.ite
  · intro unknown
    exact Triple.pure _ nothing
  · intro known
    apply Triple.ite
    · intro release
      apply (releaseContext_spec config coherent call.request).weaken
      intro value after served
      exact ⟨false, served⟩
    · intro other
      apply Triple.ite
      · intro stats
        exact (makeTextResult_keeps _ _ _).weaken fun _ => nothing
      · intro other
        apply Triple.ite
        · intro warmup
          apply (warmupPrefix_spec config call.warmupPrompt start).weaken
          intro value after same
          exact ⟨false, (Served.nothing coherent).untracked same⟩
        · intro other
          apply Triple.ite
          · intro generates
            exact generate_spec config call.request call.payload call.order coherent fresh
          · intro unsupported
            exact Triple.pure _ nothing

theorem handle_spec (call : HandleCall) (coherent : Coherent start)
    (fresh : start.contexts.context? start.contexts.nextContextId = none) :
    Triple (fun stores => stores = start) (handle config call)
      fun _ after => ∃ created, Served start after created := by
  have nothing := served_nothing coherent
  apply Triple.bind (cancelRequested_keeps _)
  intro cancelled
  apply Triple.ite
  · intro early
    exact Triple.pure _ nothing
  · intro going
    apply Triple.ite
    · intro model
      exact handleModel_spec config call coherent fresh
    · intro other
      apply Triple.ite
      · intro tool
        exact (makeTextResult_keeps _ _ _).weaken fun _ => nothing
      · intro unsupported
        exact Triple.pure _ nothing

end AgentNucleus.Top.RuntimeStores
