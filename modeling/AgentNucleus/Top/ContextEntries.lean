/-
The entries of a `ContextManager` over its runs: under which key they stand, who
owns them, and which ids have been handed out.
-/

import AgentNucleus.Top.ContextSteps

set_option autoImplicit false

namespace AgentNucleus.Top.ContextManager

open AgentNucleus.Library
open AgentNucleus.Runtime (AgentId ContextId TimePoint)

/-- The counter after the id `count`. -/
theorem id_succ (count : Nat) : UInt64.ofNat count + 1 = UInt64.ofNat (count + 1) :=
  (UInt64.ofNat_add count 1).symm

variable (manager : ContextManager)

/-! ### The entries -/

/-- What holds of every stored entry. -/
structure EntrySound (key : ContextId) (entry : Entry) : Prop where
  ownId : entry.id = key
  ownedBy : ∃ agentId, owned entry agentId = true
  swapped : entry.resident = false → entry.sequenceId = -1

def Sound : Prop :=
  ∀ key entry, manager.context? key = some entry → EntrySound key entry

/-- Every stored id has been handed out by `next_context_id_`. -/
def Issued : Prop :=
  ∀ key entry, manager.context? key = some entry → key < manager.nextContextId

variable {manager}

theorem Sound.store (sound : manager.Sound) (key : ContextId) (entry : Entry)
    (entrySound : EntrySound key entry) : (manager.store key entry).Sound := by
  intro other found present
  rw [context?_store] at present
  by_cases same : other = key
  · rw [if_pos same] at present
    cases present
    rw [same]
    exact entrySound
  · rw [if_neg same] at present
    exact sound other found present

/-- Statistics, free list and id counter do not matter to the entries. -/
theorem Sound.congr (sound : manager.Sound) (other : ContextManager)
    (same : other.contexts = manager.contexts) : other.Sound := by
  intro key entry present
  unfold context? at present
  rw [same] at present
  exact sound key entry present

theorem Sound.swapOut (sound : manager.Sound) (key : ContextId) (entry : Entry)
    (present : manager.context? key = some entry) : (manager.swapOut key entry).Sound := by
  have before := sound key entry present
  have after : EntrySound key { entry with sequenceId := -1, resident := false } :=
    { ownId := before.ownId
      ownedBy := before.ownedBy
      swapped := fun _ => rfl }
  exact (sound.store key _ after).congr _ rfl

theorem Sound.swapIn (sound : manager.Sound) (key : ContextId) (entry : Entry)
    (sequence : Int32) (present : manager.context? key = some entry) :
    (manager.swapIn key entry sequence).Sound := by
  have before := sound key entry present
  have after : EntrySound key { entry with sequenceId := sequence, resident := true } :=
    { ownId := before.ownId
      ownedBy := before.ownedBy
      swapped := nofun }
  exact (sound.store key _ after).congr _ rfl

theorem owned_shareWith (entry : Entry) (agentId : AgentId) (now : TimePoint) :
    owned (pin (manager.shareWith entry agentId).2 now) agentId = true := by
  unfold shareWith
  by_cases member : owned entry agentId = true
  · rw [if_pos member]
    exact member
  · rw [if_neg member]
    change UnorderedMap.contains (UnorderedSet.add entry.owners agentId) agentId = true
    rw [UnorderedMap.contains_iff, UnorderedSet.mem_add]
    exact Or.inl rfl

theorem Sound.lease (sound : manager.Sound) (key : ContextId) (entry : Entry)
    (agentId : AgentId) (now : TimePoint) (present : manager.context? key = some entry) :
    (manager.lease key entry agentId now).Sound := by
  have before := sound key entry present
  have same : (manager.shareWith entry agentId).2.id = entry.id ∧
      (manager.shareWith entry agentId).2.resident = entry.resident ∧
      (manager.shareWith entry agentId).2.sequenceId = entry.sequenceId := by
    unfold shareWith
    split <;> exact ⟨rfl, rfl, rfl⟩
  have after : EntrySound key (pin (manager.shareWith entry agentId).2 now) :=
    { ownId := same.1.trans before.ownId
      ownedBy := ⟨agentId, owned_shareWith entry agentId now⟩
      swapped := by
        intro away
        exact same.2.2.trans (before.swapped (same.2.1.symm.trans away)) }
  refine (sound.store key _ after).congr _ ?_
  change (manager.shareWith entry agentId).1.contexts.insert key _ = _
  rw [contexts_shareWith]
  rfl

theorem Sound.insertNew (sound : manager.Sound) (sequence : Int32) (agentId : AgentId)
    (now : TimePoint) : (manager.insertNew sequence agentId now).Sound := by
  cases fresh : manager.context? manager.nextContextId with
  | some entry =>
      exact sound.congr _ (contexts_insertNew_used manager sequence agentId now entry fresh)
  | none =>
      have after : EntrySound manager.nextContextId
          (newEntry manager.nextContextId sequence agentId now) :=
        { ownId := rfl
          ownedBy := by
            refine ⟨agentId, ?_⟩
            change UnorderedMap.contains (UnorderedSet.add ∅ agentId) agentId = true
            rw [UnorderedMap.contains_iff, UnorderedSet.mem_add]
            exact Or.inl rfl
          swapped := nofun }
      exact (sound.store manager.nextContextId _ after).congr _
        (contexts_insertNew_fresh manager sequence agentId now fresh)

theorem Obtained.sound {excludedContext : ContextId} {obtained : ContextManager}
    {sequence : Int32} (taken : manager.Obtained excludedContext obtained sequence)
    (sound : manager.Sound) : obtained.Sound := by
  cases taken with
  | popped sequence rest free => exact sound.congr _ rfl
  | swappedOut order key entry exhausted candidate =>
      exact sound.swapOut key entry candidate.present

theorem Acquired.sound {agentId parentId : AgentId} {requestedContext : ContextId}
    {now : TimePoint} {after : ContextManager} {result : Option ContextLease}
    (acquired : manager.Acquired agentId parentId requestedContext now after result)
    (sound : manager.Sound) : after.Sound := by
  cases acquired with
  | refused => exact sound
  | unrestored key entry obtained sequence granted away taken =>
      exact (taken.sound sound).congr _ rfl
  | created obtained sequence default stranger room taken =>
      exact (taken.sound sound).insertNew sequence agentId now
  | leased key entry granted home => exact sound.lease key entry agentId now granted.1
  | restored key entry obtained sequence granted away taken =>
      have present := taken.context?_away key entry granted.1 away
      have stored : (obtained.swapIn key entry sequence).context? key =
          some { entry with sequenceId := sequence, resident := true } := by
        rw [context?_swapIn, if_pos rfl]
      exact ((taken.sound sound).swapIn key entry sequence present).lease key _ agentId now stored

/-- A non-empty owner set has a member. -/
private theorem exists_owner (entry : Entry) (owner : AgentId)
    (shared : UnorderedSet.remove entry.owners owner ≠ ∅) :
    ∃ agentId, UnorderedMap.contains (UnorderedSet.remove entry.owners owner) agentId = true := by
  cases items : (UnorderedSet.remove entry.owners owner).entries with
  | nil => exact absurd (AList.ext items) shared
  | cons head rest =>
      refine ⟨head.1, (UnorderedMap.contains_iff _ _).mpr ?_⟩
      rw [AList.mem_keys]
      unfold AList.keys
      rw [items]
      exact List.mem_cons_self ..

theorem Finished.sound {contextId : ContextId} {now : TimePoint} {after : ContextManager}
    {result : Bool} (finished : manager.Finished contextId now after result)
    (sound : manager.Sound) : after.Sound := by
  cases finished with
  | refused => exact sound
  | unpinned entry found pinned =>
      have before := sound contextId entry found
      exact sound.store contextId _
        { ownId := before.ownId
          ownedBy := before.ownedBy
          swapped := before.swapped }

theorem Released.sound {agentId parentId : AgentId} {contextId : ContextId}
    {now : TimePoint} {after : ContextManager} {result : Release}
    (released : manager.Released agentId parentId contextId now after result)
    (sound : manager.Sound) : after.Sound := by
  have dropped : manager.dropOwner.Sound := sound.congr _ (contexts_dropOwner manager)
  cases released with
  | refused message => exact sound
  | left entry owner found chosen member shared =>
      have before := sound contextId entry found
      exact dropped.store contextId _
        { ownId := before.ownId
          ownedBy := exists_owner entry owner shared
          swapped := before.swapped }
  | removed entry owner found chosen member last idle =>
      intro other kept present
      rw [context?_removeContext] at present
      by_cases same : other = contextId
      · rw [if_pos same] at present
        cases present
      · rw [if_neg same] at present
        exact dropped other kept present

theorem step_sound (operation : Operation) (sound : manager.Sound) :
    (manager.step operation).Sound := by
  cases operation with
  | acquire agentId parentId requestedContext swap now order =>
      exact (acquire_spec manager agentId parentId requestedContext swap now order).sound sound
  | finish contextId now => exact (finish_spec manager contextId now).sound sound
  | release agentId parentId contextId now =>
      exact (release_spec manager agentId parentId contextId now).sound sound

/-! ### The id counter -/

/-- The call returns a lease on a context it has created. -/
def creates (manager : ContextManager) : Operation → Bool
  | .acquire agentId parentId requestedContext swap now order =>
      (manager.acquire agentId parentId requestedContext swap now order).2.2.any
        ContextLease.created
  | .finish _ _ => false
  | .release _ _ _ _ => false

/-- How many contexts a run creates. -/
def creations (manager : ContextManager) : List Operation → Nat
  | [] => 0
  | operation :: rest =>
      (manager.creates operation).toNat + creations (manager.step operation) rest

theorem Acquired.nextContextId {agentId parentId : AgentId} {requestedContext : ContextId}
    {now : TimePoint} {after : ContextManager} {result : Option ContextLease}
    (acquired : manager.Acquired agentId parentId requestedContext now after result) :
    after.nextContextId =
      if result.any ContextLease.created then manager.nextContextId + 1
      else manager.nextContextId := by
  cases acquired with
  | refused => rfl
  | unrestored key entry obtained sequence granted away taken => exact taken.nextContextId
  | created obtained sequence default stranger room taken =>
      change obtained.nextContextId + 1 = manager.nextContextId + 1
      rw [taken.nextContextId]
  | leased key entry granted home => exact nextContextId_shareWith manager entry agentId
  | restored key entry obtained sequence granted away taken =>
      exact (nextContextId_shareWith _ _ agentId).trans taken.nextContextId

/-- An acquire stores nothing under a new key but the context it creates. -/
theorem Acquired.stored {agentId parentId : AgentId} {requestedContext : ContextId}
    {now : TimePoint} {after : ContextManager} {result : Option ContextLease}
    (acquired : manager.Acquired agentId parentId requestedContext now after result)
    (key : ContextId) (missing : manager.context? key = none)
    (unissued : result.any ContextLease.created = true → key ≠ manager.nextContextId) :
    after.context? key = none := by
  cases acquired with
  | refused => exact missing
  | unrestored other entry obtained sequence granted away taken =>
      exact (taken.context?_none key).mpr missing
  | created obtained sequence default stranger room taken =>
      have different : key ≠ obtained.nextContextId := by
        rw [taken.nextContextId]
        exact unissued rfl
      have absent : obtained.context? key = none := (taken.context?_none key).mpr missing
      unfold context?
      cases fresh : obtained.context? obtained.nextContextId with
      | some entry =>
          rw [contexts_insertNew_used obtained sequence agentId now entry fresh]
          exact absent
      | none =>
          rw [contexts_insertNew_fresh obtained sequence agentId now fresh,
            UnorderedMap.lookup_insert_if, if_neg different]
          exact absent
  | leased other entry granted home =>
      have different := different_of_missing manager missing granted.1
      rw [context?_lease, if_neg different]
      exact missing
  | restored other entry obtained sequence granted away taken =>
      have different := different_of_missing manager missing granted.1
      rw [context?_lease, if_neg different, context?_swapIn, if_neg different]
      exact (taken.context?_none key).mpr missing

theorem Finished.stored {contextId : ContextId} {now : TimePoint} {after : ContextManager}
    {result : Bool} (finished : manager.Finished contextId now after result) (key : ContextId)
    (missing : manager.context? key = none) : after.context? key = none := by
  cases finished with
  | refused => exact missing
  | unpinned entry found pinned =>
      have different := different_of_missing manager missing found
      rw [context?_store, if_neg different]
      exact missing

theorem Released.stored {agentId parentId : AgentId} {contextId : ContextId}
    {now : TimePoint} {after : ContextManager} {result : Release}
    (released : manager.Released agentId parentId contextId now after result) (key : ContextId)
    (missing : manager.context? key = none) : after.context? key = none := by
  cases released with
  | refused message => exact missing
  | left entry owner found chosen member shared =>
      have different := different_of_missing manager missing found
      rw [context?_store, if_neg different, context?_dropOwner]
      exact missing
  | removed entry owner found chosen member last idle =>
      rw [context?_removeContext, context?_dropOwner, missing]
      split <;> rfl

theorem Finished.nextContextId {contextId : ContextId} {now : TimePoint}
    {after : ContextManager} {result : Bool}
    (finished : manager.Finished contextId now after result) :
    after.nextContextId = manager.nextContextId := by
  cases finished <;> rfl

theorem Released.nextContextId {agentId parentId : AgentId} {contextId : ContextId}
    {now : TimePoint} {after : ContextManager} {result : Release}
    (released : manager.Released agentId parentId contextId now after result) :
    after.nextContextId = manager.nextContextId := by
  cases released with
  | refused message => rfl
  | left entry owner found chosen member shared => exact nextContextId_dropOwner manager
  | removed entry owner found chosen member last idle =>
      rw [nextContextId_removeContext, nextContextId_dropOwner]

theorem step_nextContextId (operation : Operation) :
    (manager.step operation).nextContextId =
      if manager.creates operation then manager.nextContextId + 1
      else manager.nextContextId := by
  cases operation with
  | acquire agentId parentId requestedContext swap now order =>
      exact (acquire_spec manager agentId parentId requestedContext swap now order).nextContextId
  | finish contextId now => exact (finish_spec manager contextId now).nextContextId
  | release agentId parentId contextId now =>
      exact (release_spec manager agentId parentId contextId now).nextContextId

theorem step_stored (operation : Operation) (key : ContextId)
    (missing : manager.context? key = none)
    (unissued : manager.creates operation = true → key ≠ manager.nextContextId) :
    (manager.step operation).context? key = none := by
  cases operation with
  | acquire agentId parentId requestedContext swap now order =>
      exact (acquire_spec manager agentId parentId requestedContext swap now order).stored
        key missing unissued
  | finish contextId now => exact (finish_spec manager contextId now).stored key missing
  | release agentId parentId contextId now =>
      exact (release_spec manager agentId parentId contextId now).stored key missing

/-- A step that creates at most one context moves the counter by that much, as
long as there is an id left. -/
theorem step_counter (operation : Operation)
    (left : manager.nextContextId.toNat + (manager.creates operation).toNat < 2 ^ 64) :
    (manager.step operation).nextContextId.toNat =
      manager.nextContextId.toNat + (manager.creates operation).toNat := by
  rw [step_nextContextId]
  cases created : manager.creates operation with
  | false => rfl
  | true =>
      rw [created] at left
      change manager.nextContextId.toNat + 1 < 2 ^ 64 at left
      change (manager.nextContextId + 1).toNat = manager.nextContextId.toNat + 1
      rw [UInt64.toNat_add]
      exact Nat.mod_eq_of_lt left

theorem step_issued (operation : Operation) (issued : manager.Issued)
    (left : manager.nextContextId.toNat + (manager.creates operation).toNat < 2 ^ 64) :
    (manager.step operation).Issued := by
  have counter := step_counter operation left
  intro key entry present
  rw [UInt64.lt_iff_toNat_lt, counter]
  by_contra beyond
  have missing : manager.context? key = none := by
    cases before : manager.context? key with
    | none => rfl
    | some old =>
        have below := UInt64.lt_iff_toNat_lt.mp (issued key old before)
        omega
  have unissued : manager.creates operation = true → key ≠ manager.nextContextId := by
    intro created same
    rw [created, same] at beyond
    exact beyond (Nat.lt_succ_self _)
  have absent := step_stored operation key missing unissued
  rw [absent] at present
  cases present

/-- The next id is free while the ids have not run out. -/
theorem Issued.fresh (issued : manager.Issued) :
    manager.context? manager.nextContextId = none := by
  cases present : manager.context? manager.nextContextId with
  | none => rfl
  | some entry => exact absurd (issued _ entry present) (UInt64.lt_irrefl _)

end AgentNucleus.Top.ContextManager
