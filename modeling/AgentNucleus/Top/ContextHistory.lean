/-
What a run of a `ContextManager` has handed out, and what one call can do to a
context that is stored before it.
-/

import AgentNucleus.Top.ContextEntries

set_option autoImplicit false

namespace AgentNucleus.Top.ContextManager

open AgentNucleus.Library
open AgentNucleus.Runtime (AgentId ContextId StdString TimePoint)

variable (manager : ContextManager)

/-! ### The results of a run -/

/-- The lease a call returns. -/
def leaseGiven : Operation → Option ContextLease
  | .acquire agentId parentId requestedContext swap now order =>
      (manager.acquire agentId parentId requestedContext swap now order).2.2
  | .finish _ _ => none
  | .release _ _ _ _ => none

/-! ### The ids that are in use -/

/-- After `count` creations the ids `1` to `count` have been issued. -/
structure Numbered (count : Nat) (manager : ContextManager) : Prop where
  counter : manager.nextContextId = UInt64.ofNat (count + 1)
  issued : ∀ key entry, manager.context? key = some entry → 1 ≤ key.toNat ∧ key.toNat ≤ count

variable {manager}

/-- The next id is new as long as fewer than `2 ^ 64` contexts have been created;
the last one of them takes the id zero. -/
theorem Numbered.fresh {count : Nat} (numbered : Numbered count manager)
    (few : count < 2 ^ 64) : manager.context? manager.nextContextId = none := by
  cases present : manager.context? manager.nextContextId with
  | none => rfl
  | some entry =>
      have issued := numbered.issued _ entry present
      rw [numbered.counter, UInt64.toNat_ofNat'] at issued
      omega

/-- How a call moves the id counter and which ids it may put to use. -/
structure Advances (manager after : ContextManager) (created : Bool) : Prop where
  counter : after.nextContextId =
    if created then manager.nextContextId + 1 else manager.nextContextId
  stored : ∀ key, manager.context? key = none →
    (created = true → key ≠ manager.nextContextId) → after.context? key = none

variable (manager) in
theorem step_advances (operation : Operation) :
    Advances manager (manager.step operation) (manager.creates operation) :=
  ⟨step_nextContextId operation, fun key => step_stored operation key⟩

theorem Advances.moved {after : ContextManager} {created : Bool}
    (advances : Advances manager after created) :
    (after.nextContextId != manager.nextContextId) = created := by
  rw [advances.counter]
  cases created with
  | false => exact bne_self_eq_false ..
  | true =>
      apply bne_iff_ne.mpr
      intro same
      have one : (1 : UInt64) = 0 := UInt64.left_eq_add.mp same.symm
      cases one

/-- A later call that creates nothing may follow. -/
theorem Advances.kept {middle after : ContextManager} {created : Bool}
    (first : Advances manager middle created) (second : Advances middle after false) :
    Advances manager after created :=
  ⟨second.counter.trans first.counter,
    fun key missing unissued => second.stored key (first.stored key missing unissued) nofun⟩

theorem Acquired.advances {agentId parentId : AgentId} {requestedContext : ContextId}
    {now : TimePoint} {after : ContextManager} {result : Option ContextLease}
    (acquired : manager.Acquired agentId parentId requestedContext now after result) :
    Advances manager after (result.any ContextLease.created) :=
  ⟨acquired.nextContextId, acquired.stored⟩

theorem Finished.advances {contextId : ContextId} {now : TimePoint} {after : ContextManager}
    {result : Bool} (finished : manager.Finished contextId now after result) :
    Advances manager after false :=
  ⟨finished.nextContextId, fun key missing _ => finished.stored key missing⟩

theorem Released.advances {agentId parentId : AgentId} {contextId : ContextId}
    {now : TimePoint} {after : ContextManager} {result : Release}
    (released : manager.Released agentId parentId contextId now after result) :
    Advances manager after false :=
  ⟨released.nextContextId, fun key missing _ => released.stored key missing⟩

theorem Numbered.advance {count : Nat} {after : ContextManager} {created : Bool}
    (numbered : Numbered count manager) (advances : Advances manager after created)
    (few : count + created.toNat < 2 ^ 64) : Numbered (count + created.toNat) after := by
  constructor
  · rw [advances.counter, numbered.counter]
    cases created with
    | false => rfl
    | true => exact id_succ (count + 1)
  · intro key entry present
    by_contra outside
    have missing : manager.context? key = none := by
      cases before : manager.context? key with
      | none => rfl
      | some old =>
          have issued := numbered.issued key old before
          omega
    have unissued : created = true → key ≠ manager.nextContextId := by
      intro one same
      rw [one] at outside few
      change count + 1 < 2 ^ 64 at few
      change ¬(1 ≤ key.toNat ∧ key.toNat ≤ count + 1) at outside
      rw [same, numbered.counter, UInt64.toNat_ofNat'] at outside
      omega
    rw [advances.stored key missing unissued] at present
    cases present

theorem Numbered.step {count : Nat} (numbered : Numbered count manager) (operation : Operation)
    (few : count + (manager.creates operation).toNat < 2 ^ 64) :
    Numbered (count + (manager.creates operation).toNat) (manager.step operation) :=
  numbered.advance (step_advances manager operation) few

theorem create_numbered (maxResidentContexts maxLogicalContexts : UInt64) :
    Numbered 0 (create maxResidentContexts maxLogicalContexts) :=
  ⟨rfl, nofun⟩

/-- Every run keeps the ids apart as long as they do not come round. -/
theorem Numbered.runFrom {count : Nat} (maxResidentContexts maxLogicalContexts : UInt64)
    (operations : List Operation) (numbered : Numbered count manager)
    (few : count + creations manager operations < 2 ^ 64) :
    Numbered (count + creations manager operations)
      ((machine maxResidentContexts maxLogicalContexts).runFrom manager operations) := by
  induction operations generalizing manager count with
  | nil => exact numbered
  | cons operation rest ih =>
      change count + ((manager.creates operation).toNat +
        creations (manager.step operation) rest) < _ at few
      have next := numbered.step operation (by omega)
      have later := ih next (by omega)
      change Numbered (count + ((manager.creates operation).toNat +
        creations (manager.step operation) rest)) _
      rw [← Nat.add_assoc]
      exact later

theorem numbered_run (maxResidentContexts maxLogicalContexts : UInt64)
    (operations : List Operation)
    (few : creations (create maxResidentContexts maxLogicalContexts) operations < 2 ^ 64) :
    Numbered (creations (create maxResidentContexts maxLogicalContexts) operations)
      ((machine maxResidentContexts maxLogicalContexts).run operations) := by
  have started := create_numbered maxResidentContexts maxLogicalContexts
  have after := started.runFrom maxResidentContexts maxLogicalContexts operations (by omega)
  rw [Nat.zero_add] at after
  exact after

theorem sound_run (maxResidentContexts maxLogicalContexts : UInt64)
    (operations : List Operation) :
    ((machine maxResidentContexts maxLogicalContexts).run operations).Sound :=
  (machine maxResidentContexts maxLogicalContexts).runFrom_invariant Sound
    (fun _ operation => step_sound operation) _ operations nofun

/-! ### Which contexts are live -/

theorem Obtained.mem_contexts {excludedContext : ContextId} {obtained : ContextManager}
    {sequence : Int32} (taken : manager.Obtained excludedContext obtained sequence)
    (id : ContextId) : id ∈ obtained.contexts ↔ id ∈ manager.contexts := by
  rw [← not_iff_not, ← AList.lookup_eq_none, ← AList.lookup_eq_none]
  exact taken.context?_none id

private theorem mem_lease (key : ContextId) (entry : Entry) (agentId : AgentId)
    (now : TimePoint) (id : ContextId) :
    id ∈ (manager.lease key entry agentId now).contexts ↔ id = key ∨ id ∈ manager.contexts := by
  change id ∈ (manager.shareWith entry agentId).1.contexts.insert key _ ↔ _
  rw [AList.mem_insert, contexts_shareWith]

/-- After an acquire the leased context is live, and every other one is if it was. -/
theorem Acquired.mem_contexts {agentId parentId : AgentId} {requestedContext : ContextId}
    {now : TimePoint} {after : ContextManager} {result : Option ContextLease}
    (acquired : manager.Acquired agentId parentId requestedContext now after result)
    (sound : manager.Sound) (id : ContextId) :
    id ∈ after.contexts ↔
      (∃ lease, result = some lease ∧ id = lease.contextId) ∨ id ∈ manager.contexts := by
  have nothing : (∃ lease : ContextLease, (none : Option ContextLease) = some lease ∧
      id = lease.contextId) ↔ False := by
    constructor
    · intro given
      obtain ⟨lease, same, _⟩ := given
      cases same
    · exact False.elim
  have one (given : ContextLease) : (∃ lease, some given = some lease ∧
      id = lease.contextId) ↔ id = given.contextId := by
    constructor
    · intro granted
      obtain ⟨lease, same, equal⟩ := granted
      cases same
      exact equal
    · intro equal
      exact ⟨given, rfl, equal⟩
  cases acquired with
  | refused => rw [nothing, false_or]
  | unrestored key entry obtained sequence granted away taken =>
      rw [nothing, false_or]
      exact taken.mem_contexts id
  | created obtained sequence default stranger room taken =>
      rw [one, ← taken.mem_contexts id]
      exact UnorderedMap.mem_emplace obtained.contexts obtained.nextContextId id _
  | leased key entry granted home =>
      rw [one, mem_lease]
      change _ ↔ id = entry.id ∨ _
      rw [(sound key entry granted.1).ownId]
  | restored key entry obtained sequence granted away taken =>
      rw [one, mem_lease]
      change _ ∨ id ∈ obtained.contexts.insert key _ ↔ id = entry.id ∨ _
      rw [AList.mem_insert, taken.mem_contexts id, (sound key entry granted.1).ownId]
      constructor
      · intro either
        rcases either with same | same | member
        · exact Or.inl same
        · exact Or.inl same
        · exact Or.inr member
      · intro either
        exact either.elim Or.inl fun member => Or.inr (Or.inr member)

private theorem mem_of_context? {key : ContextId} {entry : Entry}
    (found : manager.context? key = some entry) : key ∈ manager.contexts :=
  (UnorderedMap.mem_iff_lookup manager.contexts key).mpr ⟨entry, found⟩

private theorem insert_live {key : ContextId} {entry : Entry}
    (found : manager.context? key = some entry) (current : Entry) (id : ContextId) :
    id ∈ manager.contexts.insert key current ↔ id ∈ manager.contexts := by
  rw [AList.mem_insert]
  constructor
  · intro either
    rcases either with same | member
    · rw [same]
      exact mem_of_context? found
    · exact member
  · exact Or.inr

theorem Finished.mem_contexts {contextId : ContextId} {now : TimePoint} {after : ContextManager}
    {result : Bool} (finished : manager.Finished contextId now after result) (id : ContextId) :
    id ∈ after.contexts ↔ id ∈ manager.contexts := by
  cases finished with
  | refused => rfl
  | unpinned entry found pinned => exact insert_live found _ id

theorem Released.mem_contexts {agentId parentId : AgentId} {contextId : ContextId} {now : TimePoint}
    {after : ContextManager} {result : Release}
    (released : manager.Released agentId parentId contextId now after result) (id : ContextId) :
    id ∈ after.contexts ↔
      (result.contextRemoved = true → id ≠ contextId) ∧ id ∈ manager.contexts := by
  cases released with
  | refused message => exact ⟨fun member => ⟨nofun, member⟩, And.right⟩
  | left entry owner found chosen member shared =>
      change id ∈ manager.dropOwner.contexts.insert contextId _ ↔ _
      rw [contexts_dropOwner, insert_live found]
      exact ⟨fun member => ⟨nofun, member⟩, And.right⟩
  | removed entry owner found chosen member last idle =>
      rw [contexts_removeContext, contexts_dropOwner, AList.mem_erase]
      exact and_congr_left fun _ => ⟨fun different _ => different, fun all => all rfl⟩

theorem Released.erased {agentId parentId : AgentId} {contextId : ContextId} {now : TimePoint}
    {after : ContextManager} {result : Release}
    (released : manager.Released agentId parentId contextId now after result)
    (removed : result.contextRemoved = true) :
    after.contexts = manager.contexts.erase contextId := by
  cases released with
  | refused message => cases removed
  | left entry owner found chosen member shared => cases removed
  | removed entry owner found chosen member last idle =>
      rw [contexts_removeContext, contexts_dropOwner]

/-! ### One context in one call -/

/-- What a call does to a context that it does not name: nothing, or it takes the
sequence of an unpinned one. -/
inductive Kept (entry : Entry) : Entry → Prop where
  | same : Kept entry entry
  | evicted (home : entry.resident = true) (unpinned : entry.pinCount = 0) :
      Kept entry { entry with sequenceId := -1, resident := false }

/-- What a successful acquire does to the context it leases. -/
structure Leased (agentId : AgentId) (now : TimePoint) (entry : Entry) (lease : ContextLease)
    (current : Entry) : Prop where
  id_eq : current.id = entry.id
  resident : current.resident = true
  sequence : current.sequenceId = lease.sequenceId
  stays : entry.resident = true → lease.sequenceId = entry.sequenceId
  pinned : current.pinCount = entry.pinCount + 1
  owners : current.owners =
    if owned entry agentId then entry.owners else UnorderedSet.add entry.owners agentId
  accessed : current.lastAccess = now

variable (manager) in
theorem leased_pin (agentId : AgentId) (now : TimePoint) (entry : Entry) (wasSwapped : Bool)
    (home : entry.resident = true) :
    Leased agentId now entry (leaseOf entry wasSwapped)
      (pin (manager.shareWith entry agentId).2 now) := by
  unfold shareWith
  cases owner : owned entry agentId with
  | true =>
      rw [if_pos rfl]
      exact ⟨rfl, home, rfl, fun _ => rfl, rfl, by rw [owner]; rfl, rfl⟩
  | false =>
      rw [if_neg Bool.false_ne_true]
      exact ⟨rfl, home, rfl, fun _ => rfl, rfl, by rw [owner]; rfl, rfl⟩

theorem Obtained.kept {excludedContext : ContextId} {obtained : ContextManager}
    {sequence : Int32} (taken : manager.Obtained excludedContext obtained sequence)
    (key : ContextId) (entry : Entry) (present : manager.context? key = some entry) :
    ∃ current, obtained.context? key = some current ∧ Kept entry current := by
  cases taken with
  | popped sequence rest free => exact ⟨entry, present, Kept.same⟩
  | swappedOut order victimKey victim exhausted candidate =>
      rw [context?_swapOut]
      by_cases same : key = victimKey
      · subst same
        have equal := present.symm.trans candidate.present
        cases equal
        have eligible := skipped_eq_false excludedContext victim candidate.eligible
        rw [if_pos rfl]
        exact ⟨_, rfl, Kept.evicted eligible.1 eligible.2.1⟩
      · rw [if_neg same]
        exact ⟨entry, present, Kept.same⟩

/-- A call leases the context it was granted, and every other one is kept. -/
theorem Acquired.entry {agentId parentId : AgentId} {requestedContext : ContextId}
    {now : TimePoint} {after : ContextManager} {result : Option ContextLease}
    (acquired : manager.Acquired agentId parentId requestedContext now after result)
    (sound : manager.Sound) (fresh : manager.context? manager.nextContextId = none)
    (key : ContextId) (entry : Entry) (present : manager.context? key = some entry) :
    ∃ current, after.context? key = some current ∧
      (Kept entry current ∧ (∀ lease, result = some lease → lease.contextId ≠ key) ∨
        ∃ lease, result = some lease ∧ lease.contextId = key ∧ lease.created = false ∧
          manager.Grants agentId parentId requestedContext key entry ∧
          Leased agentId now entry lease current) := by
  cases acquired with
  | refused => exact ⟨entry, present, Or.inl ⟨Kept.same, nofun⟩⟩
  | unrestored other waiting obtained sequence granted away taken =>
      obtain ⟨current, found, kept⟩ := taken.kept key entry present
      exact ⟨current, found, Or.inl ⟨kept, nofun⟩⟩
  | created obtained sequence default stranger room taken =>
      obtain ⟨current, found, kept⟩ := taken.kept key entry present
      have different : key ≠ obtained.nextContextId := by
        rw [taken.nextContextId]
        exact (different_of_missing manager fresh present).symm
      have absent : obtained.context? obtained.nextContextId = none := by
        rw [taken.nextContextId]
        exact (taken.context?_none _).mpr fresh
      have still : (obtained.insertNew sequence agentId now).context? key = some current := by
        unfold context?
        rw [contexts_insertNew_fresh obtained sequence agentId now absent,
          UnorderedMap.lookup_insert_if, if_neg different]
        exact found
      refine ⟨current, still, Or.inl ⟨kept, ?_⟩⟩
      intro lease same
      cases same
      exact different.symm
  | leased other granted found home =>
      rw [context?_lease]
      by_cases same : key = other
      · subst same
        have equal := present.symm.trans found.1
        cases equal
        rw [if_pos rfl]
        exact ⟨_, rfl, Or.inr ⟨_, rfl, (sound key entry present).ownId, rfl, found,
          leased_pin manager agentId now entry false home⟩⟩
      · rw [if_neg same]
        refine ⟨entry, present, Or.inl ⟨Kept.same, ?_⟩⟩
        intro lease equal
        cases equal
        change granted.id ≠ key
        rw [(sound other granted found.1).ownId]
        exact fun equal => same equal.symm
  | restored other waiting obtained sequence granted away taken =>
      rw [context?_lease, context?_swapIn]
      by_cases same : key = other
      · subst same
        have equal := present.symm.trans granted.1
        cases equal
        rw [if_pos rfl]
        have leased := leased_pin (obtained.swapIn key entry sequence) agentId now
          { entry with sequenceId := sequence, resident := true } true rfl
        have result : Leased agentId now entry
            (leaseOf { entry with sequenceId := sequence, resident := true } true)
            (pin ((obtained.swapIn key entry sequence).shareWith
              { entry with sequenceId := sequence, resident := true } agentId).2 now) :=
          { leased with
            stays := by
              intro home
              rw [away] at home
              cases home }
        exact ⟨_, rfl, Or.inr ⟨_, rfl, (sound key entry present).ownId, rfl, granted, result⟩⟩
      · rw [if_neg same, if_neg same]
        obtain ⟨current, found, kept⟩ := taken.kept key entry present
        refine ⟨current, found, Or.inl ⟨kept, ?_⟩⟩
        intro lease equal
        cases equal
        change waiting.id ≠ key
        rw [(sound other waiting granted.1).ownId]
        exact fun equal => same equal.symm

/-- A context that has just been created belongs to the caller alone. -/
theorem Acquired.newest {agentId parentId : AgentId} {requestedContext : ContextId}
    {now : TimePoint} {after : ContextManager} {lease : ContextLease}
    (acquired : manager.Acquired agentId parentId requestedContext now after (some lease))
    (fresh : manager.context? manager.nextContextId = none) (created : lease.created = true) :
    after.context? lease.contextId =
      some (newEntry lease.contextId lease.sequenceId agentId now) := by
  cases acquired with
  | created obtained sequence default stranger room taken =>
      have absent : obtained.context? obtained.nextContextId = none := by
        rw [taken.nextContextId]
        exact (taken.context?_none _).mpr fresh
      unfold context?
      rw [contexts_insertNew_fresh obtained sequence agentId now absent]
      exact AList.lookup_insert obtained.contexts
  | leased key entry granted home => cases created
  | restored key entry obtained sequence granted away taken => cases created

theorem Finished.entry {contextId : ContextId} {now : TimePoint} {after : ContextManager}
    {result : Bool} (finished : manager.Finished contextId now after result)
    (key : ContextId) (entry : Entry) (present : manager.context? key = some entry) :
    ∃ current, after.context? key = some current ∧
      (current = entry ∧ ¬(contextId = key ∧ result = true) ∨
        contextId = key ∧ result = true ∧ entry.pinCount ≠ 0 ∧
          current = { entry with pinCount := entry.pinCount - 1, lastAccess := now }) := by
  cases finished with
  | refused => exact ⟨entry, present, Or.inl ⟨rfl, fun both => Bool.false_ne_true both.2⟩⟩
  | unpinned found held pinned =>
      rw [context?_store]
      by_cases same : key = contextId
      · subst same
        have equal := present.symm.trans held
        cases equal
        rw [if_pos rfl]
        exact ⟨_, rfl, Or.inr ⟨rfl, rfl, pinned, rfl⟩⟩
      · rw [if_neg same]
        exact ⟨entry, present, Or.inl ⟨rfl, fun both => same both.1.symm⟩⟩

/-- What `release` does to a context that is stored before the call. -/
inductive Loses (agentId parentId : AgentId) (contextId key : ContextId) (now : TimePoint)
    (entry : Entry) : Option Entry → Release → Prop where
  | refused (message : StdString) :
      Loses agentId parentId contextId key now entry (some entry) (.rejected message)
  | elsewhere (different : contextId ≠ key) (result : Release) :
      Loses agentId parentId contextId key now entry (some entry) result
  | left (owner : AgentId) (named : contextId = key)
      (chosen : owner = ownerToRelease entry agentId parentId)
      (member : owned entry owner = true)
      (shared : UnorderedSet.remove entry.owners owner ≠ ∅) :
      Loses agentId parentId contextId key now entry
        (some { entry with owners := UnorderedSet.remove entry.owners owner, lastAccess := now })
        { released := true }
  | removed (owner : AgentId) (sequence : Int32) (named : contextId = key)
      (chosen : owner = ownerToRelease entry agentId parentId)
      (member : owned entry owner = true)
      (last : UnorderedSet.remove entry.owners owner = ∅)
      (idle : entry.owners.keys.length = 1 → entry.pinCount = 0) :
      Loses agentId parentId contextId key now entry none
        { released := true, releasedSequence := sequence, contextRemoved := true }

theorem Released.entry {agentId parentId : AgentId} {contextId : ContextId}
    {now : TimePoint} {after : ContextManager} {result : Release}
    (released : manager.Released agentId parentId contextId now after result)
    (key : ContextId) (entry : Entry) (present : manager.context? key = some entry) :
    Loses agentId parentId contextId key now entry (after.context? key) result := by
  cases released with
  | refused message =>
      rw [present]
      exact Loses.refused message
  | left found owner held chosen member shared =>
      rw [context?_store, context?_dropOwner]
      by_cases same : key = contextId
      · subst same
        have equal := present.symm.trans held
        cases equal
        rw [if_pos rfl]
        exact Loses.left owner rfl chosen member shared
      · rw [if_neg same, present]
        exact Loses.elsewhere (fun equal => same equal.symm) _
  | removed found owner held chosen member last idle =>
      rw [context?_removeContext, context?_dropOwner]
      by_cases same : key = contextId
      · subst same
        have equal := present.symm.trans held
        cases equal
        rw [if_pos rfl]
        exact Loses.removed owner _ rfl chosen member last idle
      · rw [if_neg same, present]
        exact Loses.elsewhere (fun equal => same equal.symm) _

end AgentNucleus.Top.ContextManager
