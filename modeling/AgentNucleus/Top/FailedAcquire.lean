/-
Acquires that return no lease.  All they can leave behind is one eviction: the least
recently used context was saved for a restore that then failed.
-/

import AgentNucleus.Top.ContextHistory

set_option autoImplicit false

namespace AgentNucleus.Top

open AgentNucleus.Library
open AgentNucleus.Runtime (AgentId ContextId StdString TimePoint)

/-- An entry without its residency. -/
def Entry.permanent (entry : Entry) : Entry :=
  { entry with sequenceId := -1, resident := false }

/-- The statistics without those that follow residency. -/
def ContextManagerStats.permanent (stats : ContextManagerStats) : ContextManagerStats :=
  { stats with residentContexts := 0, swappedContexts := 0, swapOuts := 0 }

namespace ContextManager

/-- The unpinned resident context that was accessed least recently. -/
structure LeastUsed (manager : ContextManager) (key : ContextId) (entry : Entry) : Prop where
  present : manager.context? key = some entry
  resident : entry.resident = true
  unpinned : entry.pinCount = 0
  least : ∀ other stored, manager.context? other = some stored → stored.resident = true →
    stored.pinCount = 0 → entry.lastAccess ≤ stored.lastAccess

/-- The callback saves the entry. -/
def Saves (swap : Option ContextSwapCallbacks) (entry : Entry) : Prop :=
  ∃ save written, saveCallback swap = some save ∧
    save entry.id entry.sequenceId [] = (true, written)

/-- The call has to find a sequence for the context that it would lease. -/
def NeedsSequence (manager : ContextManager) (agentId parentId : AgentId)
    (requestedContext : ContextId) : Prop :=
  ∃ key target, manager.Grants agentId parentId requestedContext key target ∧
    target.resident = false

/-- The context that the call would swap out for the one that it has to restore. -/
def WouldEvict (manager : ContextManager) (agentId parentId : AgentId)
    (requestedContext : ContextId) (order : IterationOrder ContextId) (key : ContextId)
    (entry : Entry) : Prop :=
  ∃ targetKey target, manager.Grants agentId parentId requestedContext targetKey target ∧
    target.resident = false ∧ manager.swapOutCandidate target.id order = some (key, entry)

/-- What a call without a lease may leave behind: nothing, or the eviction of one
context. -/
inductive Residue (manager : ContextManager) (agentId parentId : AgentId)
    (requestedContext : ContextId) (swap : Option ContextSwapCallbacks)
    (order : IterationOrder ContextId) : ContextManager → Prop where
  | nothing : Residue manager agentId parentId requestedContext swap order manager
  | eviction (key : ContextId) (entry : Entry)
      (chosen : manager.WouldEvict agentId parentId requestedContext order key entry)
      (saved : Saves swap entry) (exhausted : manager.freeSequences = []) :
      Residue manager agentId parentId requestedContext swap order
        ((manager.swapOut key entry).pushFree entry.sequenceId)

/-! ### The exits of a restore -/

section Exits

variable {manager : ContextManager}

/-- A search that has skipped a context which is not resident has skipped nothing
that could be swapped out. -/
theorem WouldEvict.leastUsed (sound : manager.Sound) {agentId parentId : AgentId}
    {requestedContext key : ContextId} {order : IterationOrder ContextId} {entry : Entry}
    (chosen : manager.WouldEvict agentId parentId requestedContext order key entry) :
    manager.LeastUsed key entry := by
  obtain ⟨targetKey, target, ⟨stored, _⟩, away, search⟩ := chosen
  have recent := swapOutCandidate_some manager target.id order (key, entry) search
  obtain ⟨resident, unpinned, _⟩ := skipped_eq_false target.id entry recent.eligible
  refine ⟨recent.present, resident, unpinned, ?_⟩
  intro other found present home free
  have visited : other ∈ manager.traversal order :=
    (mem_traversal manager order other).mpr ⟨found, present⟩
  have different : found.id ≠ target.id := by
    intro same
    rw [(sound other found present).ownId, (sound targetKey target stored).ownId] at same
    rw [same, stored, Option.some.injEq] at present
    rw [← present, away] at home
    cases home
  refine recent.oldest other visited found present ?_
  unfold skipped
  simp only [home, free, bne_self_eq_false, Bool.not_true, Bool.false_or]
  exact beq_false_of_ne different

/-- A sequence comes off the free list, or from a context that has been saved. -/
theorem obtainSequenceLocked_taken {excludedContext : ContextId}
    {swap : Option ContextSwapCallbacks} {order : IterationOrder ContextId}
    {obtained : ContextManager} {written : StdString} {sequence : Int32}
    (result : manager.obtainSequenceLocked excludedContext swap [] order =
      (obtained, written, some sequence)) :
    obtained.pushFree sequence = manager ∨
      ∃ key entry, manager.freeSequences = [] ∧
        manager.swapOutCandidate excludedContext order = some (key, entry) ∧
        Saves swap entry ∧ entry.sequenceId = sequence ∧
        obtained = manager.swapOut key entry := by
  unfold obtainSequenceLocked at result
  cases free : manager.freeSequences with
  | cons head rest =>
      rw [free] at result
      cases result
      refine Or.inl ?_
      unfold pushFree
      rw [← free]
  | nil =>
      simp only [free] at result
      cases saving : saveCallback swap with
      | none =>
          rw [saving] at result
          cases result
      | some save =>
          simp only [saving] at result
          cases search : manager.swapOutCandidate excludedContext order with
          | none =>
              rw [search] at result
              cases result
          | some candidate =>
              obtain ⟨key, entry⟩ := candidate
              simp only [search] at result
              rcases saved : save entry.id entry.sequenceId [] with ⟨_ | _, later⟩
              · rw [saved] at result
                cases result
              · rw [saved] at result
                cases result
                exact Or.inr ⟨key, entry, rfl, rfl, ⟨save, _, saving, saved⟩, rfl, rfl⟩

/-- A restore that fails has obtained nothing, has given its sequence back, or has
given back the sequence of the context it evicted. -/
theorem makeResidentLocked_failed {agentId parentId : AgentId}
    {requestedContext key : ContextId} {target : Entry}
    (granted : manager.Grants agentId parentId requestedContext key target)
    {swap : Option ContextSwapCallbacks} {order : IterationOrder ContextId}
    {after : ContextManager} {written : StdString}
    (result : manager.makeResidentLocked key target swap [] order = (after, written, none)) :
    manager.Residue agentId parentId requestedContext swap order after := by
  unfold makeResidentLocked at result
  cases home : target.resident with
  | true =>
      rw [if_pos home] at result
      cases result
  | false =>
      rw [if_neg (Bool.eq_false_iff.mp home)] at result
      cases loading : loadCallback swap with
      | none =>
          rw [loading] at result
          cases result
          exact Residue.nothing
      | some load =>
          simp only [loading] at result
          rcases sought : manager.obtainSequenceLocked target.id swap [] order with
            ⟨obtained, middle, _ | sequence⟩
          · rw [sought] at result
            cases result
            rw [obtainSequenceLocked_none manager target.id swap [] order _ _ sought]
            exact Residue.nothing
          · simp only [sought] at result
            rcases loaded : load target.id sequence middle with ⟨_ | _, final⟩
            · rw [loaded] at result
              cases result
              rcases obtainSequenceLocked_taken sought with
                restored | ⟨evicted, entry, free, search, saves, same, rfl⟩
              · rw [restored]
                exact Residue.nothing
              · subst same
                exact Residue.eviction evicted entry ⟨key, target, granted, home, search⟩ saves
                  free
            · rw [loaded] at result
              cases result

end Exits

/-! ### The exits of `acquire` -/

section Acquire

variable {manager : ContextManager}

private theorem acquireNew_failed (agentId parentId : AgentId)
    (swap : Option ContextSwapCallbacks) (now : TimePoint) (order : IterationOrder ContextId)
    (failed : (manager.acquireNew agentId swap now order).2.2 = none) :
    manager.Residue agentId parentId 0 swap order
      (manager.acquireNew agentId swap now order).1 := by
  unfold acquireNew at failed ⊢
  by_cases full : manager.maxLogicalContexts.toNat ≤ manager.contexts.keys.length
  · rw [if_pos full]
    exact Residue.nothing
  · rw [if_neg full] at failed ⊢
    rcases sought : manager.obtainSequenceLocked 0 swap [] order with
      ⟨obtained, middle, _ | sequence⟩
    · have same := obtainSequenceLocked_none manager 0 swap [] order obtained middle sought
      subst same
      exact Residue.nothing
    · rw [sought] at failed
      cases failed

private theorem acquireExisting_failed (agentId parentId : AgentId)
    (existing : ContextId) (swap : Option ContextSwapCallbacks) (now : TimePoint)
    (order : IterationOrder ContextId)
    (owner : ∃ entry, manager.context? existing = some entry ∧ owned entry agentId = true)
    (failed : (manager.acquireExisting existing swap now order).2.2 = none) :
    manager.Residue agentId parentId 0 swap order
      (manager.acquireExisting existing swap now order).1 := by
  obtain ⟨entry, found, owns⟩ := owner
  unfold acquireExisting at failed ⊢
  simp only [found] at failed ⊢
  rcases outcome : manager.makeResidentLocked existing entry swap [] order with
    ⟨after, written, _ | current⟩
  · exact makeResidentLocked_failed ⟨found, Or.inr ⟨rfl, owns⟩⟩ outcome
  · rw [outcome] at failed
    cases failed

private theorem acquireRequested_failed (agentId parentId : AgentId)
    (requestedContext : ContextId) (swap : Option ContextSwapCallbacks) (now : TimePoint)
    (order : IterationOrder ContextId)
    (failed : (manager.acquireRequested agentId parentId requestedContext swap now order).2.2 =
      none) :
    manager.Residue agentId parentId requestedContext swap order
      (manager.acquireRequested agentId parentId requestedContext swap now order).1 := by
  unfold acquireRequested at failed ⊢
  cases found : manager.context? requestedContext with
  | none => exact Residue.nothing
  | some entry =>
      simp only [found] at failed
      cases authorized : authorizedLocked entry agentId parentId with
      | false =>
          simp only [authorized, Bool.not_false, if_true]
          exact Residue.nothing
      | true =>
          simp only [authorized, Bool.not_true, Bool.false_eq_true, if_false] at failed ⊢
          rcases outcome : manager.makeResidentLocked requestedContext entry swap [] order with
            ⟨after, written, _ | current⟩
          · exact makeResidentLocked_failed ⟨found, Or.inl ⟨rfl, authorized⟩⟩ outcome
          · rw [outcome] at failed
            cases failed

theorem acquire_failed (agentId parentId : AgentId) (requestedContext : ContextId)
    (swap : Option ContextSwapCallbacks) (now : TimePoint)
    (order : IterationOrder ContextId)
    (failed : (manager.acquire agentId parentId requestedContext swap now order).2.2 = none) :
    manager.Residue agentId parentId requestedContext swap order
      (manager.acquire agentId parentId requestedContext swap now order).1 := by
  unfold acquire at failed ⊢
  by_cases anonymous : agentId = 0
  · rw [if_pos anonymous]
    exact Residue.nothing
  · rw [if_neg anonymous] at failed ⊢
    by_cases default : requestedContext = 0
    · rw [if_pos default] at failed ⊢
      subst default
      cases search : manager.findForAgentLocked agentId order with
      | none =>
          rw [search] at failed
          exact acquireNew_failed agentId parentId swap now order failed
      | some existing =>
          rw [search] at failed
          exact acquireExisting_failed agentId parentId existing swap now order
            (findForAgentLocked_some manager agentId order existing search) failed
    · rw [if_neg default] at failed ⊢
      exact acquireRequested_failed agentId parentId requestedContext swap now order failed

end Acquire

/-! ### What stays, and what may have moved -/

/-- The one change of residency: the least recently used context has been saved and
swapped out, and its sequence is free. -/
structure EvictedOne (before after : ContextManager) (swap : Option ContextSwapCallbacks)
    (key : ContextId) (entry : Entry) : Prop where
  chosen : before.LeastUsed key entry
  saved : Saves swap entry
  swapped : after.context? key = some { entry with sequenceId := -1, resident := false }
  others : ∀ other, other ≠ key → after.context? other = before.context? other
  exhausted : before.freeSequences = []
  returned : after.freeSequences = [entry.sequenceId]

/-- The side effects of an acquire that returns no lease. -/
structure FailedAcquire (before after : ContextManager) (agentId parentId : AgentId)
    (requestedContext : ContextId) (swap : Option ContextSwapCallbacks)
    (order : IterationOrder ContextId) : Prop where
  entries : ∀ key, (after.context? key).map Entry.permanent =
    (before.context? key).map Entry.permanent
  nextContextId : after.nextContextId = before.nextContextId
  limits : after.maxResidentContexts = before.maxResidentContexts ∧
    after.maxLogicalContexts = before.maxLogicalContexts
  counters : after.stats.permanent = before.stats.permanent
  residency : after = before ∨ ∃ key entry, before.EvictedOne after swap key entry
  unsaved : (∀ key entry, before.WouldEvict agentId parentId requestedContext order key entry →
    ¬Saves swap entry) → after = before
  unneeded : ¬before.NeedsSequence agentId parentId requestedContext → after = before

theorem Residue.failedAcquire {before after : ContextManager} (sound : before.Sound)
    {agentId parentId : AgentId} {requestedContext : ContextId}
    {swap : Option ContextSwapCallbacks} {order : IterationOrder ContextId}
    (residue : before.Residue agentId parentId requestedContext swap order after) :
    before.FailedAcquire after agentId parentId requestedContext swap order := by
  cases residue with
  | nothing =>
      exact ⟨fun _ => rfl, rfl, ⟨rfl, rfl⟩, rfl, Or.inl rfl, fun _ => rfl, fun _ => rfl⟩
  | eviction key entry chosen saved exhausted =>
      have leastUsed := chosen.leastUsed sound
      have contexts : ∀ other,
          ((before.swapOut key entry).pushFree entry.sequenceId).context? other =
            if other = key then some { entry with sequenceId := -1, resident := false }
            else before.context? other := by
        intro other
        rw [context?_pushFree, context?_swapOut]
      refine ⟨?_, rfl, ⟨rfl, rfl⟩, rfl,
        Or.inr ⟨key, entry, leastUsed, saved, ?_, ?_, exhausted, ?_⟩,
        fun unsaved => absurd saved (unsaved key entry chosen), ?_⟩
      · intro other
        rw [contexts other]
        by_cases same : other = key
        · rw [if_pos same, same, leastUsed.present]
          rfl
        · rw [if_neg same]
      · rw [contexts key, if_pos rfl]
      · intro other different
        rw [contexts other, if_neg different]
      · change entry.sequenceId :: before.freeSequences = _
        rw [exhausted]
      · intro unneeded
        obtain ⟨targetKey, target, granted, away, _⟩ := chosen
        exact absurd ⟨targetKey, target, granted, away⟩ unneeded

/-- In every reachable state, an acquire that fails has at most this one effect. -/
theorem failed_acquire_effect (maxResidentContexts maxLogicalContexts : UInt64)
    (operations : List Operation) (agentId parentId : AgentId) (requestedContext : ContextId)
    (swap : Option ContextSwapCallbacks) (now : TimePoint) (order : IterationOrder ContextId)
    (failed : (((machine maxResidentContexts maxLogicalContexts).run operations).acquire agentId
      parentId requestedContext swap now order).2.2 = none) :
    ((machine maxResidentContexts maxLogicalContexts).run operations).FailedAcquire
      (((machine maxResidentContexts maxLogicalContexts).run operations).acquire agentId
        parentId requestedContext swap now order).1
      agentId parentId requestedContext swap order :=
  (acquire_failed agentId parentId requestedContext swap now order failed).failedAcquire
    (sound_run maxResidentContexts maxLogicalContexts operations)

/-- Agents 1 and 2 take turns on the only sequence; agent 2 has it. -/
def secondHoldsSequence : List Operation :=
  [ .acquire 1 0 0 none 0 .asStored,
    .finish 1 1,
    .acquire 2 0 0 (some { save := some fun _ _ error => (true, error) }) 2 .asStored,
    .finish 2 3 ]

/-- The context is saved, but nothing can be loaded. -/
def savingOnly : ContextSwapCallbacks :=
  { save := some fun _ _ error => (true, error)
    load := some fun _ _ error => (false, error) }

/-- Agent 1 comes back: the context of agent 2 is saved, the load fails, and the
sequence stays free. -/
theorem failed_load_frees_sequence :
    ((machine 1 2).run secondHoldsSequence).freeSequences = [] ∧
      (((machine 1 2).run secondHoldsSequence).acquire 1 0 0 (some savingOnly) 4
        .asStored).1.freeSequences = [1] ∧
      ((machine 1 2).run secondHoldsSequence).FailedAcquire
        (((machine 1 2).run secondHoldsSequence).acquire 1 0 0 (some savingOnly) 4 .asStored).1
        1 0 0 (some savingOnly) .asStored := by
  refine ⟨by decide, by decide, ?_⟩
  refine failed_acquire_effect 1 2 secondHoldsSequence 1 0 0 (some savingOnly) 4 .asStored ?_
  decide

end ContextManager

end AgentNucleus.Top
