/-
The default context of an agent.  The manager does not record it: a default
request looks through the table for any context the agent owns.  So it returns
the agent's own context again exactly as long as no other context that the agent
owns can be leased.
-/

import AgentNucleus.Top.ContextIsolation

set_option autoImplicit false

namespace AgentNucleus.Top.ContextManager

open AgentNucleus.Library
open AgentNucleus.Runtime (AgentId ContextId StdString TimePoint)

variable (manager : ContextManager)

/-- Every default request of the agent that succeeds leases this context, under
any callbacks and in any order of the table. -/
def DefaultStable (agentId : AgentId) (contextId : ContextId) : Prop :=
  ∀ parentId swap now order lease,
    (manager.acquire agentId parentId 0 swap now order).2.2 = some lease →
      lease.contextId = contextId

/-- Some sequence is free, or an unpinned context can give up its own. -/
def SequenceObtainable : Prop :=
  manager.freeSequences ≠ [] ∨
    ∃ key entry, manager.context? key = some entry ∧ entry.resident = true ∧ entry.pinCount = 0

/-- The context occupies a sequence or can be restored into one. -/
def Leasable (entry : Entry) : Prop :=
  entry.resident = true ∨ manager.SequenceObtainable

/-- No other context that can be leased belongs to the agent. -/
def SoleChoice (agentId : AgentId) (contextId : ContextId) : Prop :=
  ∀ key entry, manager.context? key = some entry → owned entry agentId = true →
    manager.Leasable entry → key = contextId

/-- The agent asks for another context that it may enter through its parent only. -/
def AsksToJoin (agentId : AgentId) (contextId : ContextId) : Operation → Prop
  | .acquire caller parentId requestedContext _ _ _ =>
      caller = agentId ∧ requestedContext ≠ 0 ∧ requestedContext ≠ contextId ∧
        manager.owns agentId requestedContext = false ∧ parentId ≠ 0 ∧
        manager.owns parentId requestedContext = true
  | .finish _ _ => False
  | .release _ _ _ _ => False

variable {manager}

/-! ### Finding the context and giving it a sequence -/

theorem Obtained.obtainable {excludedContext : ContextId} {obtained : ContextManager}
    {sequence : Int32} (taken : manager.Obtained excludedContext obtained sequence) :
    manager.SequenceObtainable := by
  cases taken with
  | popped sequence rest free =>
      left
      intro empty
      rw [empty] at free
      cases free
  | swappedOut order key entry exhausted candidate =>
      have eligible := skipped_eq_false excludedContext entry candidate.eligible
      exact Or.inr ⟨key, entry, candidate.present, eligible.1, eligible.2.1⟩

/-- A traversal that comes to an owned context first returns it. -/
theorem findForAgentLocked_first (agentId : AgentId) (key : ContextId) (entry : Entry)
    (present : manager.context? key = some entry) (owner : owned entry agentId = true) :
    manager.findForAgentLocked agentId (.startingAt key) = some key := by
  have member : key ∈ manager.contexts.keys :=
    AList.mem_keys.mp ((UnorderedMap.mem_iff_lookup manager.contexts key).mpr ⟨entry, present⟩)
  have visits : manager.traversal (.startingAt key) = key :: manager.contexts.keys.erase key :=
    if_pos member
  unfold findForAgentLocked
  rw [visits, List.find?_cons, present]
  simp only [owner]

/-- Callbacks that never fail. -/
def willingSwap : ContextSwapCallbacks :=
  { save := some fun _ _ error => (true, error)
    load := some fun _ _ error => (true, error) }

theorem obtainSequenceLocked_willing (sound : manager.Sound) (key : ContextId) (entry : Entry)
    (present : manager.context? key = some entry) (away : entry.resident = false)
    (obtainable : manager.SequenceObtainable) (order : IterationOrder ContextId) :
    ∃ obtained written sequence,
      manager.obtainSequenceLocked entry.id (some willingSwap) [] order =
        (obtained, written, some sequence) := by
  unfold obtainSequenceLocked
  cases free : manager.freeSequences with
  | cons sequence rest => exact ⟨_, _, _, rfl⟩
  | nil =>
      have searched := swapOutCandidate_searched manager entry.id order
      cases candidate : manager.swapOutCandidate entry.id order with
      | some best => exact ⟨_, _, _, rfl⟩
      | none =>
          rw [candidate] at searched
          rcases obtainable with some_free | ⟨other, held, found, home, idle⟩
          · exact absurd free some_free
          · have visited : other ∈ manager.traversal order :=
              (mem_traversal manager order other).mpr ⟨held, found⟩
            have skip := searched other visited held found
            have different : held.id ≠ entry.id := by
              intro same
              rw [(sound other held found).ownId, (sound key entry present).ownId] at same
              rw [same, present] at found
              cases found
              rw [away] at home
              cases home
            unfold skipped at skip
            rw [home, idle, beq_eq_false_iff_ne.mpr different] at skip
            cases skip

/-- Some default request of the agent leases any leasable context it owns. -/
theorem acquire_leasable (sound : manager.Sound) (agentId : AgentId) (named : agentId ≠ 0)
    (key : ContextId) (entry : Entry) (present : manager.context? key = some entry)
    (owner : owned entry agentId = true) (leasable : manager.Leasable entry) :
    ∃ lease, (manager.acquire agentId 0 0 (some willingSwap) 0 (.startingAt key)).2.2 = some lease ∧
      lease.contextId = key := by
  have ownId := (sound key entry present).ownId
  have found := findForAgentLocked_first agentId key entry present owner
  unfold acquire
  rw [if_neg named, if_pos rfl, found]
  dsimp only
  unfold acquireExisting
  rw [present]
  dsimp only
  unfold makeResidentLocked
  cases home : entry.resident with
  | true =>
      rw [if_pos rfl]
      exact ⟨_, rfl, ownId⟩
  | false =>
      have obtainable : manager.SequenceObtainable := by
        rcases leasable with resident | obtainable
        · rw [home] at resident
          cases resident
        · exact obtainable
      obtain ⟨obtained, written, sequence, sought⟩ :=
        obtainSequenceLocked_willing sound key entry present home obtainable (.startingAt key)
      rw [if_neg Bool.false_ne_true, sought]
      exact ⟨_, rfl, ownId⟩

/-! ### One state -/

theorem acquire_named {agentId parentId : AgentId} {requestedContext : ContextId}
    {swap : Option ContextSwapCallbacks} {now : TimePoint} {order : IterationOrder ContextId}
    {lease : ContextLease}
    (granted : (manager.acquire agentId parentId requestedContext swap now order).2.2 =
      some lease) : agentId ≠ 0 := by
  intro zero
  unfold acquire at granted
  rw [if_pos zero] at granted
  cases granted

theorem acquireExisting_leases (existing : ContextId) (entry : Entry)
    (present : manager.context? existing = some entry)
    {swap : Option ContextSwapCallbacks} {now : TimePoint} {order : IterationOrder ContextId}
    {lease : ContextLease}
    (granted : (manager.acquireExisting existing swap now order).2.2 = some lease) :
    manager.Leasable entry ∧ lease.contextId = entry.id ∧ lease.created = false := by
  unfold acquireExisting at granted
  rw [present] at granted
  dsimp only at granted
  rcases outcome : manager.makeResidentLocked existing entry swap [] order with
    ⟨after, written, _ | current⟩
  · rw [outcome] at granted
    cases granted
  · have made := makeResidentLocked_spec manager existing entry swap [] order
      after written (some current) outcome
    rw [outcome] at granted
    cases granted
    cases made with
    | already home => exact ⟨Or.inl home, rfl, rfl⟩
    | restored obtained sequence away taken => exact ⟨Or.inr taken.obtainable, rfl, rfl⟩

theorem SoleChoice.stable {agentId : AgentId} {contextId : ContextId}
    (sole : manager.SoleChoice agentId contextId) (sound : manager.Sound)
    (owns : manager.owns agentId contextId = true) : manager.DefaultStable agentId contextId := by
  intro parentId swap now order lease granted
  have named := acquire_named granted
  unfold acquire at granted
  rw [if_neg named, if_pos rfl] at granted
  cases found : manager.findForAgentLocked agentId order with
  | none =>
      cases present : manager.context? contextId with
      | none =>
          rw [owns_of_missing agentId present] at owns
          cases owns
      | some entry =>
          have stranger := findForAgentLocked_none manager agentId order found contextId entry
            present
          rw [owns_of_found agentId present, stranger] at owns
          cases owns
  | some existing =>
      obtain ⟨entry, present, owner⟩ :=
        findForAgentLocked_some manager agentId order existing found
      rw [found] at granted
      have leases := acquireExisting_leases existing entry present granted
      rw [leases.2.1, (sound existing entry present).ownId]
      exact sole existing entry present owner leases.1

theorem DefaultStable.soleChoice {agentId : AgentId} {contextId : ContextId}
    (stable : manager.DefaultStable agentId contextId) (sound : manager.Sound)
    (named : agentId ≠ 0) : manager.SoleChoice agentId contextId := by
  intro key entry present owner leasable
  obtain ⟨lease, granted, leased⟩ :=
    acquire_leasable sound agentId named key entry present owner leasable
  rw [← leased]
  exact stable 0 _ 0 _ lease granted

/-- The default request of an owner is stable exactly if it has no other choice. -/
theorem defaultStable_iff {agentId : AgentId} {contextId : ContextId} (sound : manager.Sound)
    (named : agentId ≠ 0) (owns : manager.owns agentId contextId = true) :
    manager.DefaultStable agentId contextId ↔ manager.SoleChoice agentId contextId := by
  constructor
  · intro stable
    exact stable.soleChoice sound named
  · intro sole
    exact sole.stable sound owns

/-! ### Who comes to own what -/

theorem Obtained.owns {excludedContext : ContextId} {obtained : ContextManager}
    {sequence : Int32} (taken : manager.Obtained excludedContext obtained sequence)
    (agentId : AgentId) (id : ContextId) : obtained.owns agentId id = manager.owns agentId id := by
  cases taken with
  | popped sequence rest free => rfl
  | swappedOut order key entry exhausted candidate =>
      unfold ContextManager.owns
      rw [context?_swapOut]
      by_cases same : id = key
      · rw [if_pos same, same, candidate.present]
        rfl
      · rw [if_neg same]

/-- Writing an entry with the same owners. -/
theorem owns_store {key : ContextId} {entry : Entry}
    (present : manager.context? key = some entry) (current : Entry)
    (owners : current.owners = entry.owners) (agentId : AgentId) (id : ContextId) :
    (manager.store key current).owns agentId id = manager.owns agentId id := by
  unfold owns
  rw [context?_store]
  by_cases same : id = key
  · rw [if_pos same, same, present]
    change UnorderedMap.contains current.owners agentId = UnorderedMap.contains entry.owners agentId
    rw [owners]
  · rw [if_neg same]

theorem MadeResident.owns {key : ContextId} {entry : Entry} {after : ContextManager}
    {outcome : Option Entry} (made : manager.MadeResident key entry after outcome)
    (present : manager.context? key = some entry) (agentId : AgentId) (id : ContextId) :
    after.owns agentId id = manager.owns agentId id := by
  cases made with
  | already home => rfl
  | refused => rfl
  | unrestored obtained sequence away taken => exact taken.owns agentId id
  | restored obtained sequence away taken =>
      have still := taken.context?_away key entry present away
      have stored : (obtained.swapIn key entry sequence).owns agentId id =
          obtained.owns agentId id :=
        owns_store still { entry with sequenceId := sequence, resident := true } rfl agentId id
      exact stored.trans (taken.owns agentId id)

theorem acquireExisting_owns (existing : ContextId) (swap : Option ContextSwapCallbacks)
    (now : TimePoint) (order : IterationOrder ContextId) (agentId : AgentId) (id : ContextId) :
    (manager.acquireExisting existing swap now order).1.owns agentId id =
      manager.owns agentId id := by
  unfold acquireExisting
  cases present : manager.context? existing with
  | none => rfl
  | some entry =>
      dsimp only
      rcases outcome : manager.makeResidentLocked existing entry swap [] order with
        ⟨after, written, result⟩
      have made := makeResidentLocked_spec manager existing entry swap [] order
        after written result outcome
      cases result with
      | none => exact made.owns present agentId id
      | some current =>
          have stored : (after.store existing (pin current now)).owns agentId id =
              after.owns agentId id :=
            owns_store (made.entry present) (pin current now) rfl agentId id
          exact stored.trans (made.owns present agentId id)

/-- A new context belongs to the caller; an id that is in use stays as it is. -/
theorem acquireNew_owns (caller : AgentId) (swap : Option ContextSwapCallbacks)
    (now : TimePoint) (order : IterationOrder ContextId) (agentId : AgentId) (id : ContextId)
    (owns : (manager.acquireNew caller swap now order).1.owns agentId id = true) :
    manager.owns agentId id = true ∨
      agentId = caller ∧ ∃ lease, (manager.acquireNew caller swap now order).2.2 = some lease ∧
        lease.contextId = id := by
  unfold acquireNew at owns ⊢
  by_cases full : manager.maxLogicalContexts.toNat ≤ manager.contexts.keys.length
  · rw [if_pos full] at owns
    exact Or.inl owns
  · rw [if_neg full] at owns ⊢
    rcases sought : manager.obtainSequenceLocked 0 swap [] order with
      ⟨obtained, written, _ | sequence⟩
    · have same := obtainSequenceLocked_none manager 0 swap [] order obtained written sought
      rw [sought, same] at owns
      exact Or.inl owns
    · have taken := obtainSequenceLocked_some manager 0 swap [] order obtained written sequence
        sought
      rw [sought] at owns
      change (obtained.insertNew sequence caller now).owns agentId id = true at owns
      cases used : obtained.context? obtained.nextContextId with
      | some entry =>
          have kept := contexts_insertNew_used obtained sequence caller now entry used
          unfold ContextManager.owns context? at owns
          rw [kept] at owns
          exact Or.inl ((taken.owns agentId id).symm.trans owns)
      | none =>
          have inserted := contexts_insertNew_fresh obtained sequence caller now used
          unfold ContextManager.owns context? at owns
          rw [inserted, UnorderedMap.lookup_insert_if] at owns
          by_cases same : id = obtained.nextContextId
          · rw [if_pos same] at owns
            change UnorderedMap.contains (UnorderedSet.add ∅ caller) agentId = true at owns
            rw [UnorderedMap.contains_iff, UnorderedSet.mem_add] at owns
            have owner : agentId = caller := owns.resolve_right (AList.notMem_empty agentId)
            exact Or.inr ⟨owner, _, rfl, same.symm⟩
          · rw [if_neg same] at owns
            exact Or.inl ((taken.owns agentId id).symm.trans owns)

theorem acquireRequested_owns (caller parentId : AgentId) (requestedContext : ContextId)
    (swap : Option ContextSwapCallbacks) (now : TimePoint) (order : IterationOrder ContextId)
    (agentId : AgentId) (id : ContextId)
    (owns : (manager.acquireRequested caller parentId requestedContext swap now order).1.owns
      agentId id = true) :
    manager.owns agentId id = true ∨
      agentId = caller ∧ id = requestedContext ∧ parentId ≠ 0 ∧
        manager.owns parentId id = true := by
  unfold acquireRequested at owns
  cases present : manager.context? requestedContext with
  | none =>
      rw [present] at owns
      exact Or.inl owns
  | some entry =>
      rw [present] at owns
      dsimp only at owns
      cases authorized : authorizedLocked entry caller parentId with
      | false =>
          rw [authorized] at owns
          exact Or.inl owns
      | true =>
          rw [authorized, Bool.not_true, if_neg Bool.false_ne_true] at owns
          rcases outcome : manager.makeResidentLocked requestedContext entry swap [] order with
            ⟨after, written, result⟩
          have made := makeResidentLocked_spec manager requestedContext entry swap [] order
            after written result outcome
          rw [outcome] at owns
          cases result with
          | none => exact Or.inl ((made.owns present agentId id).symm.trans owns)
          | some current =>
              have leased := leased_pin after caller now current false made.home
              change (after.lease requestedContext current caller now).owns agentId id = true
                at owns
              unfold ContextManager.owns at owns
              rw [context?_lease] at owns
              by_cases same : id = requestedContext
              · rw [if_pos same] at owns
                rcases (leased.owned_iff agentId).mp owns with before | entered
                · left
                  rw [same, ← made.owns present agentId requestedContext,
                    owns_of_found agentId (made.entry present)]
                  exact before
                · unfold authorizedLocked at authorized
                  rw [Bool.or_eq_true, Bool.and_eq_true, bne_iff_ne] at authorized
                  rcases authorized with own | parent
                  · left
                    rw [entered, same, owns_of_found caller present]
                    exact own
                  · right
                    refine ⟨entered, same, parent.1, ?_⟩
                    rw [same, owns_of_found parentId present]
                    exact parent.2
              · rw [if_neg same] at owns
                exact Or.inl ((made.owns present agentId id).symm.trans owns)

theorem finish_owns (contextId : ContextId) (now : TimePoint) (agentId : AgentId)
    (id : ContextId) :
    (manager.finish contextId now).1.owns agentId id = manager.owns agentId id := by
  have finished := finish_spec manager contextId now
  generalize (manager.finish contextId now).1 = after at finished ⊢
  generalize (manager.finish contextId now).2.2 = result at finished
  cases finished with
  | refused => rfl
  | unpinned entry found pinned =>
      exact owns_store found { entry with pinCount := entry.pinCount - 1, lastAccess := now } rfl
        agentId id

theorem release_owns (caller parentId : AgentId) (contextId : ContextId) (now : TimePoint)
    (agentId : AgentId) (id : ContextId)
    (owns : (manager.release caller parentId contextId now).1.owns agentId id = true) :
    manager.owns agentId id = true := by
  have released := release_spec manager caller parentId contextId now
  cases present : manager.context? id with
  | none =>
      rw [owns_of_missing agentId (released.stored id present)] at owns
      cases owns
  | some entry =>
      have loses := released.entry id entry present
      rw [owns_of_found agentId present]
      generalize outcome : (manager.release caller parentId contextId now).1.context? id = left
        at loses
      generalize (manager.release caller parentId contextId now).2 = result at loses
      cases loses with
      | refused message => exact (owns_of_found agentId outcome).symm.trans owns
      | elsewhere different result => exact (owns_of_found agentId outcome).symm.trans owns
      | left owner named chosen member shared =>
          rw [owns_of_found agentId outcome] at owns
          exact ((owned_remove entry owner agentId now).mp owns).1
      | removed owner sequence named chosen member last idle =>
          rw [owns_of_missing agentId outcome] at owns
          cases owns

/-! ### One run -/

/-- The agent owns no context but this one. -/
def OwnsOnly (agentId : AgentId) (contextId : ContextId) (manager : ContextManager) : Prop :=
  ∀ id, manager.owns agentId id = true → id = contextId

theorem OwnsOnly.soleChoice {agentId : AgentId} {contextId : ContextId}
    (only : OwnsOnly agentId contextId manager) : manager.SoleChoice agentId contextId := by
  intro key entry present owner leasable
  apply only key
  rw [owns_of_found agentId present]
  exact owner

/-- An agent that owns a context and asks to join no other comes to own no other. -/
theorem OwnsOnly.step {agentId : AgentId} {contextId : ContextId}
    (only : OwnsOnly agentId contextId manager) (owns : manager.owns agentId contextId = true)
    (operation : Operation) (stays : ¬manager.AsksToJoin agentId contextId operation) :
    OwnsOnly agentId contextId (manager.step operation) := by
  intro id after
  cases operation with
  | finish finished now =>
      apply only id
      rw [← finish_owns finished now agentId id]
      exact after
  | release caller parentId released now =>
      exact only id (release_owns caller parentId released now agentId id after)
  | acquire caller parentId requestedContext swap now order =>
      change (manager.acquire caller parentId requestedContext swap now order).1.owns agentId id =
        true at after
      unfold acquire at after
      by_cases unnamed : caller = 0
      · rw [if_pos unnamed] at after
        exact only id after
      · rw [if_neg unnamed] at after
        by_cases default : requestedContext = 0
        · rw [if_pos default] at after
          cases found : manager.findForAgentLocked caller order with
          | some existing =>
              rw [found] at after
              apply only id
              rw [← acquireExisting_owns existing swap now order agentId id]
              exact after
          | none =>
              rw [found] at after
              rcases acquireNew_owns caller swap now order agentId id after with before | created
              · exact only id before
              · cases present : manager.context? contextId with
                | none =>
                    rw [owns_of_missing agentId present] at owns
                    cases owns
                | some entry =>
                    have stranger := findForAgentLocked_none manager caller order found contextId
                      entry present
                    rw [owns_of_found agentId present, created.1, stranger] at owns
                    cases owns
        · rw [if_neg default] at after
          rcases acquireRequested_owns caller parentId requestedContext swap now order agentId id
            after with before | entered
          · exact only id before
          · by_contra other
            have joined : manager.owns agentId requestedContext = false := by
              by_contra member
              rw [Bool.not_eq_false, ← entered.2.1] at member
              exact other (only id member)
            apply stays
            rw [entered.2.1] at other entered
            exact ⟨entered.1.symm, default, other, joined, entered.2.2.1, entered.2.2.2⟩

/-- What the creation of a context leaves. -/
theorem created_ownsOnly {agentId parentId : AgentId} {swap : Option ContextSwapCallbacks}
    {now : TimePoint} {order : IterationOrder ContextId} {lease : ContextLease}
    (granted : (manager.acquire agentId parentId 0 swap now order).2.2 = some lease)
    (created : lease.created = true) :
    OwnsOnly agentId lease.contextId
      (manager.step (.acquire agentId parentId 0 swap now order)) := by
  have named := acquire_named granted
  intro id after
  change (manager.acquire agentId parentId 0 swap now order).1.owns agentId id = true at after
  unfold acquire at granted after
  rw [if_neg named, if_pos rfl] at granted after
  cases found : manager.findForAgentLocked agentId order with
  | some existing =>
      obtain ⟨entry, present, owner⟩ :=
        findForAgentLocked_some manager agentId order existing found
      rw [found] at granted
      have leases := acquireExisting_leases existing entry present granted
      rw [leases.2.2] at created
      cases created
  | none =>
      rw [found] at granted after
      rcases acquireNew_owns agentId swap now order agentId id after with before | entered
      · cases present : manager.context? id with
        | none =>
            rw [owns_of_missing agentId present] at before
            cases before
        | some entry =>
            have stranger := findForAgentLocked_none manager agentId order found id entry present
            rw [owns_of_found agentId present, stranger] at before
            cases before
      · obtain ⟨_, other, given, leased⟩ := entered
        dsimp only at granted
        rw [granted] at given
        cases given
        exact leased.symm

/-- Unless it asks to join another context, an agent keeps to the one it owns. -/
theorem ownsOnly_throughout (maxResidentContexts maxLogicalContexts : UInt64)
    {agentId : AgentId} {contextId : ContextId} (operations : List Operation)
    (only : OwnsOnly agentId contextId manager)
    (kept : (machine maxResidentContexts maxLogicalContexts).Throughout
      (fun state => state.owns agentId contextId = true) manager operations)
    (stays : (machine maxResidentContexts maxLogicalContexts).Along
      (fun state operation => ¬state.AsksToJoin agentId contextId operation) manager
      operations) :
    (machine maxResidentContexts maxLogicalContexts).Throughout
      (OwnsOnly agentId contextId) manager operations := by
  induction operations generalizing manager with
  | nil => exact only
  | cons operation rest ih =>
      exact ⟨only, ih (only.step kept.1 operation stays.1) kept.2 stays.2⟩

/-- Once an agent has created its default context, and as long as it owns it, its
default requests return that context exactly while no other context it owns can
be leased.  An agent that asks to join no other context keeps to this one. -/
theorem default_context_stable_iff (maxResidentContexts maxLogicalContexts : UInt64)
    (history : List Operation) (agentId parentId : AgentId)
    (swap : Option ContextSwapCallbacks) (now : TimePoint) (order : IterationOrder ContextId)
    (lease : ContextLease)
    (granted : (((machine maxResidentContexts maxLogicalContexts).run history).acquire
      agentId parentId 0 swap now order).2.2 = some lease)
    (created : lease.created = true) (later : List Operation)
    (kept : (machine maxResidentContexts maxLogicalContexts).Throughout
      (fun state => state.owns agentId lease.contextId = true)
      (((machine maxResidentContexts maxLogicalContexts).run history).step
        (.acquire agentId parentId 0 swap now order)) later) :
    ((machine maxResidentContexts maxLogicalContexts).Throughout
        (fun state => state.DefaultStable agentId lease.contextId)
        (((machine maxResidentContexts maxLogicalContexts).run history).step
          (.acquire agentId parentId 0 swap now order)) later ↔
      (machine maxResidentContexts maxLogicalContexts).Throughout
        (fun state => state.SoleChoice agentId lease.contextId)
        (((machine maxResidentContexts maxLogicalContexts).run history).step
          (.acquire agentId parentId 0 swap now order)) later) ∧
    ((machine maxResidentContexts maxLogicalContexts).Along
        (fun state operation => ¬state.AsksToJoin agentId lease.contextId operation)
        (((machine maxResidentContexts maxLogicalContexts).run history).step
          (.acquire agentId parentId 0 swap now order)) later →
      (machine maxResidentContexts maxLogicalContexts).Throughout
        (fun state => state.SoleChoice agentId lease.contextId)
        (((machine maxResidentContexts maxLogicalContexts).run history).step
          (.acquire agentId parentId 0 swap now order)) later) := by
  have named := acquire_named granted
  have before := sound_run maxResidentContexts maxLogicalContexts history
  have sound := (machine maxResidentContexts maxLogicalContexts).throughout_of_invariant Sound
    (fun _ operation => step_sound operation) _ later
    (step_sound (.acquire agentId parentId 0 swap now order) before)
  constructor
  · apply Machine.Throughout.congr _ (sound.and kept)
    intro state both
    exact defaultStable_iff both.1 named both.2
  · intro stays
    have only := ownsOnly_throughout maxResidentContexts maxLogicalContexts later
      (created_ownsOnly granted created) kept stays
    exact only.mono fun state => OwnsOnly.soleChoice

/-! ### A child with a context of its own -/

/-- Agent 2 has a context, in which its child will join it. -/
def parentReady : List Operation := [.acquire 2 0 0 none 0 .asStored, .finish 1 1]

/-- The child, agent 1, takes a turn in its own context. -/
def childStays : List Operation := [.finish 2 3, .acquire 1 2 0 none 4 .asStored]

theorem childStays_stable :
    (machine 2 2).Throughout (fun state => state.DefaultStable 1 2)
      (((machine 2 2).run parentReady).step (.acquire 1 2 0 none 2 .asStored)) childStays := by
  have stable := default_context_stable_iff 2 2 parentReady 1 2 none 2 .asStored
    { contextId := 2, sequenceId := 2, created := true } (by decide) rfl childStays
    ⟨rfl, rfl, rfl⟩
  apply stable.1.mpr
  apply stable.2
  exact ⟨not_false, fun asks => asks.2.1 rfl, trivial⟩

/-- The child joins its parent, and its next default request finds that context
first although it still owns the one it was given. -/
theorem default_context_moves :
    (((machine 2 2).run parentReady).acquire 1 2 0 none 2 .asStored).2.2 =
        some { contextId := 2, sequenceId := 2, created := true } ∧
      (machine 2 2).Throughout (fun state => state.owns 1 2 = true)
        (((machine 2 2).run parentReady).step (.acquire 1 2 0 none 2 .asStored))
        [.acquire 1 2 1 none 3 .asStored] ∧
      (((((machine 2 2).run parentReady).step (.acquire 1 2 0 none 2 .asStored)).step
          (.acquire 1 2 1 none 3 .asStored)).acquire 1 2 0 none 4 (.startingAt 1)).2.2 =
        some { contextId := 1, sequenceId := 1, created := false } ∧
      ¬(machine 2 2).Throughout (fun state => state.DefaultStable 1 2)
        (((machine 2 2).run parentReady).step (.acquire 1 2 0 none 2 .asStored))
        [.acquire 1 2 1 none 3 .asStored] := by
  have moved : (((((machine 2 2).run parentReady).step (.acquire 1 2 0 none 2 .asStored)).step
      (.acquire 1 2 1 none 3 .asStored)).acquire 1 2 0 none 4 (.startingAt 1)).2.2 =
        some { contextId := 1, sequenceId := 1, created := false } := by
    decide
  refine ⟨by decide, ⟨rfl, rfl⟩, moved, ?_⟩
  intro stable
  have same : (1 : ContextId) = 2 := stable.2 2 none 4 (.startingAt 1) _ moved
  exact absurd same (by decide)

end AgentNucleus.Top.ContextManager
