/-
Contexts, conversations and snapshots between two calls of `TopRuntime::handle`.
Every way out of a call leaves a conversation for exactly the live contexts and a
snapshot for every one that is swapped out, until the ids of the contexts have
come round.
-/

import AgentNucleus.Top.LongRuns
import AgentNucleus.Top.SnapshotTracking

set_option autoImplicit false

namespace AgentNucleus.Top.RuntimeStores

open AgentNucleus.Library
open AgentNucleus.Library.Program (Triple)
open AgentNucleus.Runtime (AgentId ContextId InvocationRequest StdString TimePoint)

variable (config : AcceptedServing) {stores start : RuntimeStores}

/-! ### Questions -/

theorem clock_keeps (before : RuntimeStores → Prop) : Triple before clock fun _ => before :=
  Triple.asks Answer.now

theorem cancelRequested_keeps (before : RuntimeStores → Prop) :
    Triple before cancelRequested fun _ => before :=
  Triple.asks Answer.cancelled

/-! ### The three calls of the context manager -/

/-- What an acquire leaves.  The context it creates has no snapshot from before. -/
structure Granted (start : RuntimeStores) (agentId parentId : AgentId)
    (requestedContext : ContextId) (result : Option ContextLease) (after : RuntimeStores) :
    Prop where
  conversations : after.conversations = start.conversations
  tracked : Tracked after
  acquired : ∃ now,
    start.contexts.Acquired agentId parentId requestedContext now after.contexts result
  unsaved : start.contexts.context? start.contexts.nextContextId = none →
    ∀ lease, result = some lease → lease.created = true →
      after.snapshots.lookup lease.contextId = none

theorem Granted.refused (tracked : Tracked start) (agentId parentId : AgentId)
    (requestedContext : ContextId) :
    Granted start agentId parentId requestedContext none start :=
  ⟨rfl, tracked, ⟨0, ContextManager.Acquired.refused⟩, fun _ => nofun⟩

private theorem Tracked.lease (tracked : Tracked stores) (key : ContextId) (entry : Entry)
    (agentId : AgentId) (now : TimePoint) (present : stores.contexts.context? key = some entry)
    (home : entry.resident = true) :
    Tracked (RuntimeStores.setContexts (stores.contexts.lease key entry agentId now) stores) := by
  apply tracked.setContexts
  · exact tracked.entries.lease key entry agentId now present
  · intro id current found
    rw [ContextManager.context?_lease]
    by_cases same : id = key
    · rw [if_pos same]
      exact ⟨_, rfl⟩
    · rw [if_neg same]
      exact ⟨current, found⟩
  · intro id current found gone
    rw [ContextManager.context?_lease] at found
    by_cases same : id = key
    · rw [if_pos same] at found
      cases found
      have still : (stores.contexts.shareWith entry agentId).2.resident = entry.resident := by
        unfold ContextManager.shareWith
        split <;> rfl
      change (stores.contexts.shareWith entry agentId).2.resident = false at gone
      rw [still, home] at gone
      cases gone
    · rw [if_neg same] at found
      exact ⟨current, found, gone⟩

/-- An id that is in use again changes nothing here. -/
private theorem Tracked.insertNew (tracked : Tracked stores) (sequence : Int32)
    (agentId : AgentId) (now : TimePoint) :
    Tracked (RuntimeStores.setContexts (stores.contexts.insertNew sequence agentId now)
      stores) := by
  have entries := tracked.entries.insertNew sequence agentId now
  cases used : stores.contexts.context? stores.contexts.nextContextId with
  | some entry =>
      have same : (stores.contexts.insertNew sequence agentId now).contexts =
          stores.contexts.contexts :=
        ContextManager.contexts_insertNew_used stores.contexts sequence agentId now entry used
      apply tracked.setContexts _ entries
      · intro id current found
        unfold ContextManager.context?
        rw [same]
        exact ⟨current, found⟩
      · intro id current found gone
        unfold ContextManager.context? at found
        rw [same] at found
        exact ⟨current, found, gone⟩
  | none =>
      have lookup (id : ContextId) :
          (stores.contexts.insertNew sequence agentId now).context? id =
            if id = stores.contexts.nextContextId then
              some (ContextManager.newEntry stores.contexts.nextContextId sequence agentId now)
            else stores.contexts.context? id :=
        UnorderedMap.lookup_emplace_fresh _ _ _ _ used
      apply tracked.setContexts _ entries
      · intro id current found
        rw [lookup]
        by_cases same : id = stores.contexts.nextContextId
        · rw [if_pos same]
          exact ⟨_, rfl⟩
        · rw [if_neg same]
          exact ⟨current, found⟩
      · intro id current found gone
        rw [lookup] at found
        by_cases same : id = stores.contexts.nextContextId
        · rw [if_pos same] at found
          cases found
          cases gone
        · rw [if_neg same] at found
          exact ⟨current, found, gone⟩

private theorem leaseEntry_spec (tracked : Tracked start) (agentId parentId : AgentId)
    (requestedContext key : ContextId) (entry : Entry)
    (granted : start.contexts.Grants agentId parentId requestedContext key entry)
    (now : TimePoint) (order : IterationOrder ContextId) :
    Triple (fun stores => stores = start) (leaseEntry config key entry agentId now order)
      fun outcome after =>
        Granted start agentId parentId requestedContext outcome.2 after := by
  apply Triple.bind (makeResidentLocked_spec config tracked key entry granted.1 [] order)
  intro made
  apply Triple.from_state
  intro middle settled
  have outcome := settled.made
  cases returned : made.2 with
  | none =>
      rw [returned] at outcome
      apply Triple.pure
      intro after same
      subst same
      have failed := ContextManager.acquired_of_failure start.contexts agentId parentId
        requestedContext now key entry granted after.contexts outcome
      exact ⟨settled.conversations, settled.tracked, ⟨now, failed⟩, fun _ => nofun⟩
  | some current =>
      rw [returned] at outcome
      have leased := ContextManager.acquired_of_madeResident start.contexts agentId parentId
        requestedContext now key entry granted middle.contexts current outcome
      rw [← ContextManager.leaseOf_shareWith middle.contexts current agentId] at leased
      apply Triple.inspect_then
      apply Triple.change_then
      apply Triple.pure
      intro after same
      subst same
      constructor
      · exact settled.conversations
      · exact settled.tracked.lease key current agentId now (outcome.entry granted.1)
          outcome.home
      · exact ⟨now, leased⟩
      · intro fresh lease same created
        cases same
        cases created

private theorem acquireNew_spec (tracked : Tracked start) (agentId parentId : AgentId)
    (now : TimePoint) (order : IterationOrder ContextId)
    (stranger : ∀ key entry, start.contexts.context? key = some entry →
      ContextManager.owned entry agentId = false) :
    Triple (fun stores => stores = start) (acquireNew config agentId now order)
      fun outcome after => Granted start agentId parentId 0 outcome.2 after := by
  apply Triple.inspect_then
  apply Triple.ite
  · intro full
    apply Triple.pure
    intro after same
    subst same
    exact Granted.refused tracked agentId parentId 0
  · intro room
    apply Triple.bind (obtainSequenceLocked_spec config tracked 0 [] order)
    intro obtained
    apply Triple.from_state
    intro middle sought
    cases outcome : obtained.2 with
    | none =>
        apply Triple.pure
        intro after same
        subst same
        have unchanged := sought.nothing outcome
        refine ⟨sought.conversations, sought.tracked, ⟨now, ?_⟩, fun _ => nofun⟩
        rw [unchanged]
        exact ContextManager.Acquired.refused
    | some sequence =>
        have taken := sought.taken sequence outcome
        apply Triple.inspect_then
        apply Triple.change_then
        apply Triple.pure
        intro after same
        subst same
        constructor
        · exact sought.conversations
        · exact sought.tracked.insertNew sequence agentId now
        · exact ⟨now, ContextManager.Acquired.created middle.contexts sequence rfl stranger
            (not_le.mp room) taken⟩
        · intro fresh lease same created
          cases same
          change middle.snapshots.lookup middle.contexts.nextContextId = none
          rw [taken.nextContextId]
          have absent := (taken.context?_none _).mpr fresh
          cases saved : middle.snapshots.lookup start.contexts.nextContextId with
          | none => rfl
          | some snapshot =>
              obtain ⟨entry, present⟩ := sought.tracked.live _ snapshot saved
              rw [absent] at present
              cases present

theorem acquire_spec (tracked : Tracked start) (agentId parentId : AgentId)
    (requestedContext : ContextId) (order : IterationOrder ContextId) :
    Triple (fun stores => stores = start)
      (acquire config agentId parentId requestedContext order)
      fun outcome after =>
        Granted start agentId parentId requestedContext outcome.2 after := by
  have nothing (after : RuntimeStores) (same : after = start) :
      Granted start agentId parentId requestedContext none after := by
    subst same
    exact Granted.refused tracked agentId parentId requestedContext
  apply Triple.ite
  · intro anonymous
    exact Triple.pure _ nothing
  · intro named
    apply Triple.bind (clock_keeps _)
    intro now
    apply Triple.inspect_then
    apply Triple.ite
    · intro default
      subst default
      cases search : start.contexts.findForAgentLocked agentId order with
      | none =>
          exact acquireNew_spec config tracked agentId parentId now order
            (ContextManager.findForAgentLocked_none start.contexts agentId order search)
      | some existing =>
          obtain ⟨entry, found, owner⟩ :=
            ContextManager.findForAgentLocked_some start.contexts agentId order existing search
          simp only [found]
          exact leaseEntry_spec config tracked agentId parentId 0 existing entry
            ⟨found, Or.inr ⟨rfl, owner⟩⟩ now order
    · intro requested
      cases found : start.contexts.context? requestedContext with
      | none => exact Triple.pure _ nothing
      | some entry =>
          apply Triple.ite
          · intro stranger
            exact Triple.pure _ nothing
          · intro trusted
            have authorized : ContextManager.authorizedLocked entry agentId parentId = true := by
              simpa using trusted
            exact leaseEntry_spec config tracked agentId parentId requestedContext
              requestedContext entry ⟨found, Or.inl ⟨rfl, authorized⟩⟩ now order

theorem Tracked.finish (tracked : Tracked stores) (contextId : ContextId)
    (now : TimePoint) :
    Tracked (RuntimeStores.setContexts (stores.contexts.finish contextId now).1 stores) := by
  have finished := ContextManager.finish_spec stores.contexts contextId now
  apply tracked.setContexts _ (finished.sound tracked.entries)
  · intro id entry found
    obtain ⟨current, present, _⟩ := finished.entry id entry found
    exact ⟨current, present⟩
  · intro id current present gone
    cases found : stores.contexts.context? id with
    | none =>
        rw [finished.stored id found] at present
        cases present
    | some entry =>
        obtain ⟨other, same, what⟩ := finished.entry id entry found
        rw [present] at same
        cases same
        rcases what with ⟨unchanged, _⟩ | ⟨_, _, _, unpinned⟩
        · rw [unchanged] at gone
          exact ⟨entry, rfl, gone⟩
        · rw [unpinned] at gone
          exact ⟨entry, rfl, gone⟩

theorem eraseSnapshot_missing {key : ContextId} (missing : stores.snapshots.lookup key = none) :
    RuntimeStores.eraseSnapshot key stores = stores := by
  unfold RuntimeStores.eraseSnapshot bytesOf
  rw [UnorderedMap.erase_missing stores.snapshots key missing, missing]
  change { stores with snapshotBytes := stores.snapshotBytes - 0 } = stores
  rw [UInt64.sub_zero]

/-! ### Coherence -/

/-- What holds between the stores whenever no call is executed: there is a
conversation for exactly the live contexts, and contexts and snapshots agree. -/
structure Coherent (stores : RuntimeStores) : Prop extends Tracked stores where
  talks : ∀ id, id ∈ stores.conversations ↔ id ∈ stores.contexts.contexts

theorem Coherent.untracked {before after : RuntimeStores} (coherent : Coherent before)
    (same : Untracked before after) : Coherent after := by
  refine ⟨coherent.toTracked.untracked same, ?_⟩
  intro id
  rw [same.conversations, same.contexts]
  exact coherent.talks id

/-- A conversation that exists may be replaced. -/
theorem Coherent.storeConversation (coherent : Coherent stores) (contextId : ContextId)
    (conversation : Conversation) (live : contextId ∈ stores.contexts.contexts) :
    Coherent (RuntimeStores.storeConversation contextId conversation stores) := by
  refine ⟨⟨coherent.entries, coherent.live, coherent.parked, coherent.returned,
    coherent.bytes⟩, ?_⟩
  intro id
  change id ∈ stores.conversations.insert contextId conversation ↔ _
  rw [AList.mem_insert, coherent.talks]
  constructor
  · intro either
    rcases either with same | member
    · rw [same]
      exact live
    · exact member
  · exact Or.inr

/-- What a call leaves. -/
structure Served (start after : RuntimeStores) (created : Bool) : Prop where
  advances : start.contexts.Advances after.contexts created
  coherent : Coherent after

theorem Served.untracked {middle after : RuntimeStores} {created : Bool}
    (served : Served start middle created) (same : Untracked middle after) :
    Served start after created := by
  refine ⟨?_, served.coherent.untracked same⟩
  rw [same.contexts]
  exact served.advances

/-! ### The `release_context` operation -/

theorem Untracked.eraseConversation {before after : RuntimeStores}
    (same : Untracked before after) (contextId : ContextId) :
    Untracked (RuntimeStores.eraseConversation contextId before)
      (RuntimeStores.eraseConversation contextId after) :=
  ⟨same.contexts, congrArg (fun conversations => conversations.erase contextId)
    same.conversations, same.snapshots, same.snapshotBytes, same.parkedAt, same.returns⟩

/-- A question or a call of the model changes nothing that matters here. -/
theorem clearReleased_spec (sequenceId : Int32) (start : RuntimeStores) :
    Triple (fun stores => stores = start) (clearReleased config sequenceId)
      fun _ after => Untracked start after := by
  apply Triple.ite
  · intro real
    exact onLlm_untracked _ start
  · intro missing
    apply Triple.pure
    intro after same
    subst same
    exact Untracked.refl after

private theorem removeSnapshot_spec (contextId : ContextId) (start : RuntimeStores) :
    Triple (fun stores => stores = start) (removeSnapshot contextId)
      fun _ after => Untracked (RuntimeStores.eraseSnapshot contextId start) after := by
  apply Triple.inspect_then
  cases found : start.snapshots.lookup contextId with
  | none =>
      apply Triple.pure
      intro after same
      subst same
      rw [eraseSnapshot_missing found]
      exact Untracked.refl after
  | some snapshot =>
      apply Triple.bind (removeFile_spec contextId start)
      intro removed
      apply Triple.change
      intro after same
      exact same.1.eraseSnapshot contextId

theorem makeTextResult_keeps (output : StdString) (reports : Bool)
    (before : RuntimeStores → Prop) :
    Triple before (makeTextResult output reports) fun _ => before := by
  apply Triple.ask_then
  intro answer
  apply Triple.ite
  · intro written
    exact Triple.pure _ fun _ holds => holds
  · intro failed
    exact Triple.pure _ fun _ holds => holds

section Release

variable {agentId parentId : AgentId} {contextId : ContextId} {now : TimePoint}
  {contexts : ContextManager} {result : ContextManager.Release}

/-- Another owner stays, or nothing has happened. -/
private theorem Coherent.kept (coherent : Coherent start)
    (released : start.contexts.Released agentId parentId contextId now contexts result)
    (stays : result.contextRemoved = false) :
    Coherent (RuntimeStores.setContexts contexts start) := by
  have entries := released.sound coherent.entries
  have members := released.mem_contexts
  cases released with
  | refused message => exact coherent
  | left entry owner found chosen member shared =>
      constructor
      · apply coherent.toTracked.setContexts _ entries
        · intro id current present
          rw [ContextManager.context?_store, ContextManager.context?_dropOwner]
          by_cases same : id = contextId
          · rw [if_pos same]
            exact ⟨_, rfl⟩
          · rw [if_neg same]
            exact ⟨current, present⟩
        · intro id current present gone
          rw [ContextManager.context?_store, ContextManager.context?_dropOwner] at present
          by_cases same : id = contextId
          · rw [if_pos same] at present
            cases present
            rw [same]
            exact ⟨entry, found, gone⟩
          · rw [if_neg same] at present
            exact ⟨current, present, gone⟩
      · intro id
        refine (coherent.talks id).trans ?_
        refine Iff.trans ?_ (members id).symm
        exact ⟨fun live => ⟨nofun, live⟩, And.right⟩
  | removed entry owner found chosen member last idle => cases stays

/-- The last owner has left: snapshot and conversation go with the context. -/
theorem Coherent.removed (coherent : Coherent start)
    (contexts_eq : contexts.contexts = start.contexts.contexts.erase contextId) :
    Coherent (eraseConversation contextId (RuntimeStores.setContexts contexts
      (RuntimeStores.eraseSnapshot contextId start))) := by
  have others (id : ContextId) (different : id ≠ contextId) :
      contexts.context? id = start.contexts.context? id := by
    unfold ContextManager.context?
    rw [contexts_eq]
    exact AList.lookup_erase_ne different
  have absent : contexts.context? contextId = none := by
    unfold ContextManager.context?
    rw [contexts_eq]
    exact AList.lookup_erase ..
  have entries : contexts.Sound := by
    intro id entry present
    by_cases same : id = contextId
    · rw [same, absent] at present
      cases present
    · rw [others id same] at present
      exact coherent.entries id entry present
  have tracked := coherent.toTracked.forget contexts contextId entries others (by
    intro entry present
    rw [absent] at present
    cases present)
  refine ⟨⟨tracked.entries, tracked.live, tracked.parked, tracked.returned, tracked.bytes⟩, ?_⟩
  intro id
  change id ∈ start.conversations.erase contextId ↔ id ∈ contexts.contexts
  rw [contexts_eq, AList.mem_erase, AList.mem_erase, coherent.talks]

end Release

theorem release_leaves (agentId parentId : AgentId) (contextId : ContextId)
    (start : RuntimeStores) :
    Triple (fun stores => stores = start) (release agentId parentId contextId)
      fun outcome after => ∃ now,
        outcome = (start.contexts.release agentId parentId contextId now).2 ∧
          after = setContexts (start.contexts.release agentId parentId contextId now).1 start := by
  apply Triple.bind (clock_keeps _)
  intro now
  apply Triple.inspect_then
  apply Triple.change_then
  apply Triple.pure
  intro after same
  exact ⟨now, rfl, same⟩

theorem finish_leaves (contextId : ContextId) (start : RuntimeStores) :
    Triple (fun stores => stores = start) (finish contextId)
      fun _ after => ∃ now,
        after = setContexts (start.contexts.finish contextId now).1 start := by
  apply Triple.bind (clock_keeps _)
  intro now
  apply Triple.change
  intro after same
  subst same
  exact ⟨now, rfl⟩

theorem Served.nothing (coherent : Coherent start) : Served start start false :=
  ⟨⟨rfl, fun _ missing _ => missing⟩, coherent⟩

private theorem forgetRemoved_spec (removed : Bool) (contextId : ContextId)
    (start : RuntimeStores) :
    Triple (fun stores => stores = start) (forgetRemoved removed contextId)
      fun _ after => Untracked
        (if removed then
          eraseConversation contextId (RuntimeStores.eraseSnapshot contextId start)
        else start) after := by
  apply Triple.ite
  · intro gone
    rw [if_pos gone]
    apply Triple.bind (removeSnapshot_spec contextId start)
    intro erased
    apply Triple.change
    intro middle same
    exact same.eraseConversation contextId
  · intro stays
    rw [if_neg stays]
    apply Triple.pure
    intro after same
    subst same
    exact Untracked.refl after

theorem releaseContext_spec (coherent : Coherent start) (request : InvocationRequest) :
    Triple (fun stores => stores = start) (releaseContext config request)
      fun _ after => Served start after false := by
  apply Triple.ite
  · intro unnamed
    apply Triple.pure
    intro after same
    subst same
    exact Served.nothing coherent
  · intro named
    apply Triple.bind (release_leaves request.agentId request.parentId request.contextId start)
    intro outcome
    apply Triple.from_state
    intro middle left
    obtain ⟨now, rfl, rfl⟩ := left
    have released := ContextManager.release_spec start.contexts request.agentId
      request.parentId request.contextId now
    generalize start.contexts.release request.agentId request.parentId request.contextId now =
      outcome at released
    obtain ⟨contexts, result⟩ := outcome
    have advances := released.advances
    apply Triple.ite
    · intro refused
      have stays : result.contextRemoved = false := by
        cases released with
        | refused message => rfl
        | left entry owner found chosen member shared => rfl
        | removed entry owner found chosen member last idle =>
            exact absurd refused Bool.false_ne_true
      apply Triple.pure
      intro after same
      subst same
      exact ⟨advances, coherent.kept released stays⟩
    · intro success
      apply Triple.bind (clearReleased_spec config result.releasedSequence _)
      intro cleared
      apply Triple.from_state
      intro cleaned same
      apply Triple.bind (forgetRemoved_spec result.contextRemoved request.contextId cleaned)
      intro forgotten
      apply (makeTextResult_keeps _ _ _).weaken
      intro text after last
      cases removed : result.contextRemoved with
      | false =>
          rw [removed] at last
          have served : Served start (setContexts contexts start) false :=
            ⟨advances, coherent.kept released removed⟩
          exact (served.untracked same).untracked last
      | true =>
          rw [removed] at last
          have served : Served start (eraseConversation request.contextId
              (setContexts contexts (RuntimeStores.eraseSnapshot request.contextId start)))
              false :=
            ⟨advances, coherent.removed (released.erased removed)⟩
          have unchanged := (same.eraseSnapshot request.contextId).eraseConversation
            request.contextId
          exact (served.untracked unchanged).untracked last

end AgentNucleus.Top.RuntimeStores
