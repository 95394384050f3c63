/-
Who can touch a context.  A call of an agent that does not own it, and whose
parent does not own it either, leaves the context to its owners; the most it can
do is to take the sequence of an unpinned one.
-/

import AgentNucleus.Top.LongRuns

set_option autoImplicit false

namespace AgentNucleus.Top.ContextManager

open AgentNucleus.Library
open AgentNucleus.Runtime (AgentId ContextId TimePoint)

/-- Neither the agent nor the parent it names owns the context. -/
def Stranger (entry : Entry) (agentId parentId : AgentId) : Prop :=
  owned entry agentId = false ∧ (parentId ≠ 0 → owned entry parentId = false)

/-- The context is still there, with its owners and pins. -/
def Untouched (key : ContextId) (entry : Entry) (after : ContextManager) : Prop :=
  ∃ current, after.context? key = some current ∧ current.owners = entry.owners ∧
    current.pinCount = entry.pinCount ∧ Kept entry current

structure Isolated (manager : ContextManager) : Prop where
  acquireByStranger : ∀ key entry agentId parentId requestedContext swap now order,
    manager.context? key = some entry → Stranger entry agentId parentId →
      Untouched key entry
          (manager.acquire agentId parentId requestedContext swap now order).1 ∧
        ∀ lease,
          (manager.acquire agentId parentId requestedContext swap now order).2.2 = some lease →
            lease.contextId ≠ key
  releaseByStranger : ∀ key entry agentId parentId contextId now,
    manager.context? key = some entry → Stranger entry agentId parentId →
      Untouched key entry (manager.release agentId parentId contextId now).1
  /-- One owner leaves, the parent only in place of an agent that owns nothing. -/
  releasesOne : ∀ key entry agentId parentId now, manager.context? key = some entry →
    (manager.release agentId parentId key now).2.released = true →
      ∃ owner, owner = (if owned entry agentId then agentId else parentId) ∧
        owned entry owner = true ∧
        ∀ other, (manager.release agentId parentId key now).1.owns other key = true ↔
          owned entry other = true ∧ other ≠ owner
  acquireAddsCaller : ∀ agentId parentId requestedContext swap now order lease,
    (manager.acquire agentId parentId requestedContext swap now order).2.2 = some lease →
      lease.created = false →
        ∀ other,
          (manager.acquire agentId parentId requestedContext swap now order).1.owns other
              lease.contextId = true ↔
            manager.owns other lease.contextId = true ∨ other = agentId

variable {manager : ContextManager}

theorem Kept.untouched {entry current : Entry} {after : ContextManager} {key : ContextId}
    (kept : Kept entry current) (found : after.context? key = some current) :
    Untouched key entry after := by
  refine ⟨current, found, ?_, ?_, kept⟩
  · cases kept <;> rfl
  · cases kept <;> rfl

/-- A stranger is granted nothing. -/
theorem Stranger.not_granted {entry : Entry} {agentId parentId : AgentId}
    {requestedContext key : ContextId} (stranger : Stranger entry agentId parentId) :
    ¬manager.Grants agentId parentId requestedContext key entry := by
  intro granted
  rcases granted.2 with requested | default
  · have authorized := requested.2
    unfold authorizedLocked at authorized
    rw [stranger.1, Bool.false_or, Bool.and_eq_true, bne_iff_ne] at authorized
    rw [stranger.2 authorized.1] at authorized
    exact Bool.false_ne_true authorized.2
  · rw [stranger.1] at default
    exact Bool.false_ne_true default.2

theorem Stranger.not_owner {entry : Entry} {agentId parentId : AgentId}
    (stranger : Stranger entry agentId parentId) :
    owned entry (ownerToRelease entry agentId parentId) = false := by
  have other : (!owned entry agentId && parentId != 0 && owned entry parentId) = false := by
    by_cases absent : parentId = 0
    · rw [absent]
      rw [bne_self_eq_false, Bool.and_false, Bool.false_and]
    · rw [stranger.2 absent, Bool.and_false]
  unfold ownerToRelease
  rw [other]
  exact stranger.1

theorem ownerToRelease_member (entry : Entry) (agentId parentId : AgentId)
    (member : owned entry (ownerToRelease entry agentId parentId) = true) :
    ownerToRelease entry agentId parentId =
      if owned entry agentId then agentId else parentId := by
  unfold ownerToRelease at member ⊢
  cases owner : owned entry agentId with
  | true => rfl
  | false =>
      rw [owner] at member
      by_cases parent : (!false && parentId != 0 && owned entry parentId) = true
      · rw [if_pos parent]
        rfl
      · rw [if_neg parent] at member
        rw [owner] at member
        cases member

theorem owned_remove (entry : Entry) (owner other : AgentId) (accessed : TimePoint) :
    owned { entry with
      owners := UnorderedSet.remove entry.owners owner, lastAccess := accessed } other = true ↔
        owned entry other = true ∧ other ≠ owner := by
  unfold owned
  rw [UnorderedMap.contains_iff, UnorderedMap.contains_iff, UnorderedSet.mem_remove, and_comm]

theorem owned_remove_last (entry : Entry) (owner other : AgentId)
    (last : UnorderedSet.remove entry.owners owner = ∅) (member : owned entry other = true) :
    other = owner := by
  by_contra different
  have stays : other ∈ UnorderedSet.remove entry.owners owner := by
    rw [UnorderedSet.mem_remove]
    exact ⟨different, (UnorderedMap.contains_iff _ _).mp member⟩
  rw [last] at stays
  exact AList.notMem_empty other stays

theorem Leased.owned_iff {agentId : AgentId} {now : TimePoint} {entry current : Entry}
    {lease : ContextLease} (leased : Leased agentId now entry lease current) (other : AgentId) :
    owned current other = true ↔ owned entry other = true ∨ other = agentId := by
  have owners := leased.owners
  cases owner : owned entry agentId with
  | true =>
      rw [owner, if_pos rfl] at owners
      unfold owned
      rw [owners]
      constructor
      · intro member
        exact Or.inl member
      · intro either
        rcases either with member | rfl
        · exact member
        · exact owner
  | false =>
      rw [owner, if_neg Bool.false_ne_true] at owners
      unfold owned
      rw [owners, UnorderedMap.contains_iff, UnorderedMap.contains_iff, UnorderedSet.mem_add,
        or_comm]

theorem owns_of_found {key : ContextId} {entry : Entry} (other : AgentId)
    (found : manager.context? key = some entry) : manager.owns other key = owned entry other := by
  unfold owns
  rw [found]

theorem owns_of_missing {key : ContextId} (other : AgentId)
    (missing : manager.context? key = none) : manager.owns other key = false := by
  unfold owns
  rw [missing]

/-- The lease of a context that existed is on a context that was granted. -/
theorem Acquired.existing {agentId parentId : AgentId} {requestedContext : ContextId}
    {now : TimePoint} {after : ContextManager} {lease : ContextLease}
    (acquired : manager.Acquired agentId parentId requestedContext now after (some lease))
    (sound : manager.Sound) (old : lease.created = false) :
    ∃ entry, manager.context? lease.contextId = some entry := by
  cases acquired with
  | created obtained sequence default stranger room taken => cases old
  | leased key entry granted home =>
      refine ⟨entry, ?_⟩
      change manager.context? entry.id = some entry
      rw [(sound key entry granted.1).ownId]
      exact granted.1
  | restored key entry obtained sequence granted away taken =>
      refine ⟨entry, ?_⟩
      change manager.context? entry.id = some entry
      rw [(sound key entry granted.1).ownId]
      exact granted.1

/-- Isolation needs only that entries stand under their ids and that the next id
is new. -/
theorem Sound.isolated (sound : manager.Sound)
    (fresh : manager.context? manager.nextContextId = none) : Isolated manager := by
  constructor
  · intro key entry agentId parentId requestedContext swap now order present stranger
    have acquired := acquire_spec manager agentId parentId requestedContext swap now order
    obtain ⟨current, found, kept | leased⟩ := acquired.entry sound fresh key entry present
    · exact ⟨kept.1.untouched found, kept.2⟩
    · obtain ⟨lease, given, named, old, granted, leased⟩ := leased
      exact absurd granted stranger.not_granted
  · intro key entry agentId parentId contextId now present stranger
    have loses := (release_spec manager agentId parentId contextId now).entry key entry present
    have outsider := stranger.not_owner
    generalize outcome :
      (manager.release agentId parentId contextId now).1.context? key = left at loses
    generalize (manager.release agentId parentId contextId now).2 = result at loses
    cases loses with
    | refused message => exact Kept.same.untouched outcome
    | elsewhere different result => exact Kept.same.untouched outcome
    | left owner named chosen member shared =>
        rw [chosen, outsider] at member
        cases member
    | removed owner sequence named chosen member last idle =>
        rw [chosen, outsider] at member
        cases member
  · intro key entry agentId parentId now present succeeded
    have loses := (release_spec manager agentId parentId key now).entry key entry present
    generalize outcome : (manager.release agentId parentId key now).1.context? key = left at loses
    generalize (manager.release agentId parentId key now).2 = result at loses succeeded
    cases loses with
    | refused message => cases succeeded
    | elsewhere different result => exact absurd rfl different
    | left owner named chosen member shared =>
        have source : owner = if owned entry agentId then agentId else parentId := by
          rw [chosen] at member ⊢
          exact ownerToRelease_member entry agentId parentId member
        refine ⟨owner, source, member, ?_⟩
        intro other
        rw [owns_of_found other outcome]
        exact owned_remove entry owner other now
    | removed owner sequence named chosen member last idle =>
        have source : owner = if owned entry agentId then agentId else parentId := by
          rw [chosen] at member ⊢
          exact ownerToRelease_member entry agentId parentId member
        refine ⟨owner, source, member, ?_⟩
        intro other
        rw [owns_of_missing other outcome]
        constructor
        · intro impossible
          cases impossible
        · intro both
          exact absurd (owned_remove_last entry owner other last both.1) both.2
  · intro agentId parentId requestedContext swap now order lease given old other
    have acquired := acquire_spec manager agentId parentId requestedContext swap now order
    have existing := acquired
    rw [given] at existing
    obtain ⟨entry, present⟩ := existing.existing sound old
    obtain ⟨current, found, kept | leased⟩ :=
      acquired.entry sound fresh lease.contextId entry present
    · exact absurd rfl (kept.2 lease given)
    · obtain ⟨same, equal, named, created, granted, leased⟩ := leased
      rw [owns_of_found other found, owns_of_found other present]
      exact leased.owned_iff other

/-- In every run that has created fewer than `2 ^ 64` contexts, no call of a
stranger changes who owns a context or how often it is pinned. -/
theorem strangers_isolated (maxResidentContexts maxLogicalContexts : UInt64)
    (operations : List Operation)
    (few : creations (create maxResidentContexts maxLogicalContexts) operations < 2 ^ 64) :
    Isolated ((machine maxResidentContexts maxLogicalContexts).run operations) := by
  have numbered := numbered_run maxResidentContexts maxLogicalContexts operations few
  have sound := sound_run maxResidentContexts maxLogicalContexts operations
  exact sound.isolated (numbered.fresh few)

/-- A child enters the context of its parent, and the parent leaves it. -/
def handedOver : List Operation :=
  [.acquire 1 0 0 none 0 .asStored, .finish 1 1, .acquire 2 1 1 none 2 .asStored,
    .release 1 0 1 3]

theorem handedOver_isolated : Isolated ((machine 2 2).run handedOver) :=
  strangers_isolated 2 2 handedOver (by decide)

private theorem round_not_isolated
    (waiting : Waiting (AList.insert 1 firstEntry ∅) [2] 1 1 manager) : ¬Isolated manager := by
  intro isolated
  have found : manager.context? 1 = some firstEntry := by
    unfold context?
    rw [waiting.contexts_eq]
    exact AList.lookup_insert ∅
  have given : (manager.acquire 1 0 0 none 0 .asStored).2.2 =
      some { contextId := manager.nextContextId, sequenceId := 2, created := true } := by
    rw [waiting.acquireAgain]
  have elsewhere := (isolated.acquireByStranger 1 firstEntry 1 0 0 none 0 .asStored found
    ⟨by decide, fun absent => absurd rfl absent⟩).2 _ given
  exact elsewhere waiting.next_eq

/-- When the id counter has come round to a context of agent 2, the new context
of agent 1 is dropped and the lease names the one of agent 2. -/
theorem lease_on_foreign_context : ¬Isolated ((machine 2 2).run comingRound) :=
  round_not_isolated comingRound_waiting

end AgentNucleus.Top.ContextManager
