/-
What one call can do to a `ContextManager`.  Every operation is inverted once,
so that the facts about runs need not open the bodies again.
-/

import AgentNucleus.Top.ContextManager

set_option autoImplicit false

namespace AgentNucleus.Top.ContextManager

open AgentNucleus.Library
open AgentNucleus.Runtime (AgentId ContextId StdString TimePoint text)

variable (manager : ContextManager)

/-! ### Reading and writing -/

@[simp] theorem context?_store (id other : ContextId) (entry : Entry) :
    (manager.store id entry).context? other =
      if other = id then some entry else manager.context? other :=
  UnorderedMap.lookup_insert_if manager.contexts id other entry

@[simp] theorem context?_pushFree (sequence : Int32) (id : ContextId) :
    (manager.pushFree sequence).context? id = manager.context? id := rfl

theorem context?_swapOut (key other : ContextId) (entry : Entry) :
    (manager.swapOut key entry).context? other =
      if other = key then some { entry with sequenceId := -1, resident := false }
      else manager.context? other :=
  context?_store manager key other { entry with sequenceId := -1, resident := false }

theorem context?_swapIn (key other : ContextId) (entry : Entry) (sequence : Int32) :
    (manager.swapIn key entry sequence).context? other =
      if other = key then some { entry with sequenceId := sequence, resident := true }
      else manager.context? other :=
  context?_store manager key other { entry with sequenceId := sequence, resident := true }

theorem contexts_insertNew_fresh (sequence : Int32) (agentId : AgentId) (now : TimePoint)
    (fresh : manager.context? manager.nextContextId = none) :
    (manager.insertNew sequence agentId now).contexts =
      manager.contexts.insert manager.nextContextId
        (newEntry manager.nextContextId sequence agentId now) :=
  UnorderedMap.emplace_fresh manager.contexts manager.nextContextId _ fresh

theorem contexts_insertNew_used (sequence : Int32) (agentId : AgentId) (now : TimePoint)
    (entry : Entry) (used : manager.context? manager.nextContextId = some entry) :
    (manager.insertNew sequence agentId now).contexts = manager.contexts :=
  UnorderedMap.emplace_present manager.contexts manager.nextContextId _ entry used

theorem mem_traversal (order : IterationOrder ContextId) (id : ContextId) :
    id ∈ manager.traversal order ↔ ∃ entry, manager.context? id = some entry := by
  unfold traversal
  rw [IterationOrder.mem_visit, ← AList.mem_keys]
  exact UnorderedMap.mem_iff_lookup manager.contexts id

theorem different_of_missing {key other : ContextId} {entry : Entry}
    (missing : manager.context? key = none) (present : manager.context? other = some entry) :
    key ≠ other := by
  rintro rfl
  rw [missing] at present
  cases present

/-! ### Searching the table -/

theorem findForAgentLocked_some (agentId : AgentId) (order : IterationOrder ContextId)
    (id : ContextId) (found : manager.findForAgentLocked agentId order = some id) :
    ∃ entry, manager.context? id = some entry ∧ owned entry agentId = true := by
  have holds := List.find?_some found
  cases present : manager.context? id with
  | none =>
      rw [present] at holds
      cases holds
  | some entry =>
      rw [present] at holds
      exact ⟨entry, rfl, holds⟩

theorem findForAgentLocked_none (agentId : AgentId) (order : IterationOrder ContextId)
    (missing : manager.findForAgentLocked agentId order = none)
    (id : ContextId) (entry : Entry) (present : manager.context? id = some entry) :
    owned entry agentId = false := by
  have visited : id ∈ manager.traversal order :=
    (mem_traversal manager order id).mpr ⟨entry, present⟩
  have fails := List.find?_eq_none.mp missing id visited
  rw [present] at fails
  exact Bool.eq_false_iff.mpr fails

/-- `best` is an entry that may be swapped out, and none of the visited keys has
an older one. -/
structure LeastRecent (excludedContext : ContextId) (visited : List ContextId)
    (best : ContextId × Entry) : Prop where
  present : manager.context? best.1 = some best.2
  eligible : skipped excludedContext best.2 = false
  oldest : ∀ id ∈ visited, ∀ entry, manager.context? id = some entry →
    skipped excludedContext entry = false → best.2.lastAccess ≤ entry.lastAccess

/-- The state of the search after the visited keys. -/
def Searched (excludedContext : ContextId) (visited : List ContextId) :
    Option (ContextId × Entry) → Prop
  | none => ∀ id ∈ visited, ∀ entry, manager.context? id = some entry →
      skipped excludedContext entry = true
  | some best => manager.LeastRecent excludedContext visited best

private theorem searched_step (excludedContext : ContextId) (visited : List ContextId)
    (candidate : Option (ContextId × Entry)) (current : ContextId)
    (before : manager.Searched excludedContext visited candidate) :
    manager.Searched excludedContext (visited ++ [current])
      (manager.considerCandidate excludedContext candidate current) := by
  have split : ∀ id, id ∈ visited ++ [current] → id ∈ visited ∨ id = current := by
    intro id member
    rw [List.mem_append, List.mem_singleton] at member
    exact member
  unfold considerCandidate
  cases present : manager.context? current with
  | none =>
      have absent : ∀ entry, manager.context? current ≠ some entry := by
        intro entry
        rw [present]
        exact nofun
      cases candidate with
      | none =>
          intro id member entry found
          rcases split id member with earlier | rfl
          · exact before id earlier entry found
          · exact absurd found (absent entry)
      | some best =>
          refine ⟨before.present, before.eligible, ?_⟩
          intro id member entry found allowed
          rcases split id member with earlier | rfl
          · exact before.oldest id earlier entry found allowed
          · exact absurd found (absent entry)
  | some entry =>
      change manager.Searched excludedContext _ (if skipped excludedContext entry then _ else _)
      cases skip : skipped excludedContext entry with
      | true =>
          rw [if_pos rfl]
          cases candidate with
          | none =>
              intro id member other found
              rcases split id member with earlier | rfl
              · exact before id earlier other found
              · rw [present] at found
                cases found
                exact skip
          | some best =>
              refine ⟨before.present, before.eligible, ?_⟩
              intro id member other found allowed
              rcases split id member with earlier | rfl
              · exact before.oldest id earlier other found allowed
              · rw [present] at found
                cases found
                rw [skip] at allowed
                cases allowed
      | false =>
          rw [if_neg Bool.false_ne_true]
          cases candidate with
          | none =>
              refine ⟨present, skip, ?_⟩
              intro id member other found allowed
              rcases split id member with earlier | rfl
              · rw [before id earlier other found] at allowed
                cases allowed
              · rw [present] at found
                cases found
                exact le_refl _
          | some best =>
              change manager.Searched excludedContext _
                (if entry.lastAccess < best.2.lastAccess then _ else _)
              by_cases older : entry.lastAccess < best.2.lastAccess
              · rw [if_pos older]
                refine ⟨present, skip, ?_⟩
                intro id member other found allowed
                rcases split id member with earlier | rfl
                · exact le_trans (le_of_lt older) (before.oldest id earlier other found allowed)
                · rw [present] at found
                  cases found
                  exact le_refl _
              · rw [if_neg older]
                refine ⟨before.present, before.eligible, ?_⟩
                intro id member other found allowed
                rcases split id member with earlier | rfl
                · exact before.oldest id earlier other found allowed
                · rw [present] at found
                  cases found
                  exact not_lt.mp older

private theorem searched_foldl (excludedContext : ContextId) (pending visited : List ContextId)
    (candidate : Option (ContextId × Entry))
    (before : manager.Searched excludedContext visited candidate) :
    manager.Searched excludedContext (visited ++ pending)
      (pending.foldl (manager.considerCandidate excludedContext) candidate) := by
  induction pending generalizing visited candidate with
  | nil =>
      rw [List.append_nil]
      exact before
  | cons current rest ih =>
      have next := searched_step manager excludedContext visited candidate current before
      have later := ih (visited ++ [current]) _ next
      rw [List.append_assoc] at later
      exact later

theorem swapOutCandidate_searched (excludedContext : ContextId)
    (order : IterationOrder ContextId) :
    manager.Searched excludedContext (manager.traversal order)
      (manager.swapOutCandidate excludedContext order) := by
  have start : manager.Searched excludedContext [] none := by
    intro id member
    cases member
  exact searched_foldl manager excludedContext (manager.traversal order) [] none start

theorem swapOutCandidate_some (excludedContext : ContextId) (order : IterationOrder ContextId)
    (best : ContextId × Entry)
    (found : manager.swapOutCandidate excludedContext order = some best) :
    manager.LeastRecent excludedContext (manager.traversal order) best := by
  have searched := swapOutCandidate_searched manager excludedContext order
  rw [found] at searched
  exact searched

theorem skipped_eq_false (excludedContext : ContextId) (entry : Entry)
    (eligible : skipped excludedContext entry = false) :
    entry.resident = true ∧ entry.pinCount = 0 ∧ entry.id ≠ excludedContext := by
  unfold skipped at eligible
  simp only [Bool.or_eq_false_iff, Bool.not_eq_false', bne_eq_false_iff_eq,
    beq_eq_false_iff_ne] at eligible
  exact ⟨eligible.1.1, eligible.1.2, eligible.2⟩

/-! ### Obtaining a sequence -/

/-- A sequence comes from the free list or, if that is empty, from the least
recently used context; the caller holds it outside the tables. -/
inductive Obtained (excludedContext : ContextId) : ContextManager → Int32 → Prop where
  | popped (sequence : Int32) (rest : List Int32)
      (free : manager.freeSequences = sequence :: rest) :
      Obtained excludedContext { manager with freeSequences := rest } sequence
  | swappedOut (order : IterationOrder ContextId) (key : ContextId) (entry : Entry)
      (exhausted : manager.freeSequences = [])
      (candidate : manager.LeastRecent excludedContext (manager.traversal order) (key, entry)) :
      Obtained excludedContext (manager.swapOut key entry) entry.sequenceId

theorem obtainSequenceLocked_none (excludedContext : ContextId)
    (swap : Option ContextSwapCallbacks) (error : StdString) (order : IterationOrder ContextId)
    (after : ContextManager) (written : StdString)
    (result : manager.obtainSequenceLocked excludedContext swap error order =
      (after, written, none)) :
    after = manager := by
  unfold obtainSequenceLocked at result
  split at result
  · cases result
  · split at result
    · cases result
      rfl
    · split at result
      · cases result
        rfl
      · split at result
        · cases result
          rfl
        · cases result

theorem obtainSequenceLocked_some (excludedContext : ContextId)
    (swap : Option ContextSwapCallbacks) (error : StdString) (order : IterationOrder ContextId)
    (after : ContextManager) (written : StdString) (sequence : Int32)
    (result : manager.obtainSequenceLocked excludedContext swap error order =
      (after, written, some sequence)) :
    manager.Obtained excludedContext after sequence := by
  unfold obtainSequenceLocked at result
  split at result
  case h_1 head rest free =>
    cases result
    exact Obtained.popped _ _ free
  case h_2 exhausted =>
    split at result
    · cases result
    · split at result
      · cases result
      · split at result
        · cases result
        · rename_i candidate found _ _ _
          cases result
          exact Obtained.swappedOut order candidate.1 candidate.2 exhausted
            (swapOutCandidate_some manager excludedContext order candidate found)

/-- The outcomes of `make_resident_locked` for the entry of a key. -/
inductive MadeResident (key : ContextId) (entry : Entry) :
    ContextManager → Option Entry → Prop where
  | already (home : entry.resident = true) : MadeResident key entry manager (some entry)
  | refused : MadeResident key entry manager none
  | unrestored (obtained : ContextManager) (sequence : Int32) (away : entry.resident = false)
      (taken : manager.Obtained entry.id obtained sequence) :
      MadeResident key entry (obtained.pushFree sequence) none
  | restored (obtained : ContextManager) (sequence : Int32) (away : entry.resident = false)
      (taken : manager.Obtained entry.id obtained sequence) :
      MadeResident key entry (obtained.swapIn key entry sequence)
        (some { entry with sequenceId := sequence, resident := true })

theorem makeResidentLocked_spec (key : ContextId) (entry : Entry)
    (swap : Option ContextSwapCallbacks) (error : StdString)
    (order : IterationOrder ContextId) (after : ContextManager) (written : StdString)
    (outcome : Option Entry)
    (result : manager.makeResidentLocked key entry swap error order =
      (after, written, outcome)) :
    manager.MadeResident key entry after outcome := by
  unfold makeResidentLocked at result
  cases home : entry.resident with
  | true =>
      rw [if_pos home] at result
      cases result
      exact MadeResident.already home
  | false =>
      rw [if_neg (Bool.eq_false_iff.mp home)] at result
      cases loading : loadCallback swap with
      | none =>
          rw [loading] at result
          cases result
          exact MadeResident.refused
      | some load =>
          simp only [loading] at result
          rcases sought : manager.obtainSequenceLocked entry.id swap error order with
            ⟨obtained, middle, _ | sequence⟩
          · rw [sought] at result
            cases result
            have same := obtainSequenceLocked_none manager entry.id swap error order
              after written sought
            subst same
            exact MadeResident.refused
          · have taken := obtainSequenceLocked_some manager entry.id swap error order
              obtained middle sequence sought
            simp only [sought] at result
            rcases loaded : load entry.id sequence middle with ⟨_ | _, final⟩
            · rw [loaded] at result
              cases result
              exact MadeResident.unrestored obtained sequence home taken
            · rw [loaded] at result
              cases result
              exact MadeResident.restored obtained sequence home taken

/-! ### The three operations -/

/-- The writes of a successful acquire to the entry it found. -/
def lease (key : ContextId) (entry : Entry) (agentId : AgentId) (now : TimePoint) :
    ContextManager :=
  let shared := manager.shareWith entry agentId
  shared.1.store key (pin shared.2 now)

/-- The entry that a call may lease: the requested one, if the caller is
authorized, or for the default request one the agent owns. -/
def Grants (agentId parentId : AgentId) (requestedContext key : ContextId) (entry : Entry) :
    Prop :=
  manager.context? key = some entry ∧
    (requestedContext = key ∧ authorizedLocked entry agentId parentId = true ∨
      requestedContext = 0 ∧ owned entry agentId = true)

inductive Acquired (agentId parentId : AgentId) (requestedContext : ContextId)
    (now : TimePoint) : ContextManager → Option ContextLease → Prop where
  | refused : Acquired agentId parentId requestedContext now manager none
  | unrestored (key : ContextId) (entry : Entry) (obtained : ContextManager)
      (sequence : Int32)
      (granted : manager.Grants agentId parentId requestedContext key entry)
      (away : entry.resident = false)
      (taken : manager.Obtained entry.id obtained sequence) :
      Acquired agentId parentId requestedContext now (obtained.pushFree sequence) none
  | created (obtained : ContextManager) (sequence : Int32)
      (default : requestedContext = 0)
      (stranger : ∀ key entry, manager.context? key = some entry → owned entry agentId = false)
      (room : manager.contexts.keys.length < manager.maxLogicalContexts.toNat)
      (taken : manager.Obtained 0 obtained sequence) :
      Acquired agentId parentId requestedContext now
        (obtained.insertNew sequence agentId now)
        (some { contextId := obtained.nextContextId, sequenceId := sequence, created := true })
  | leased (key : ContextId) (entry : Entry)
      (granted : manager.Grants agentId parentId requestedContext key entry)
      (home : entry.resident = true) :
      Acquired agentId parentId requestedContext now (manager.lease key entry agentId now)
        (some (leaseOf entry false))
  | restored (key : ContextId) (entry : Entry) (obtained : ContextManager) (sequence : Int32)
      (granted : manager.Grants agentId parentId requestedContext key entry)
      (away : entry.resident = false)
      (taken : manager.Obtained entry.id obtained sequence) :
      Acquired agentId parentId requestedContext now
        ((obtained.swapIn key entry sequence).lease key
          { entry with sequenceId := sequence, resident := true } agentId now)
        (some (leaseOf { entry with sequenceId := sequence, resident := true } true))

/-- Sharing changes only the owners. -/
theorem leaseOf_shareWith (entry : Entry) (agentId : AgentId) (wasSwapped : Bool) :
    leaseOf (manager.shareWith entry agentId).2 wasSwapped = leaseOf entry wasSwapped := by
  unfold shareWith
  split <;> rfl

private theorem shareWith_owner (entry : Entry) (agentId : AgentId)
    (owner : owned entry agentId = true) :
    manager.shareWith entry agentId = (manager, entry) := by
  unfold shareWith
  rw [if_pos owner]

/-- The common tail of both branches that lease an existing context. -/
theorem acquired_of_madeResident (agentId parentId : AgentId)
    (requestedContext : ContextId) (now : TimePoint) (key : ContextId) (entry : Entry)
    (granted : manager.Grants agentId parentId requestedContext key entry)
    (after : ContextManager) (current : Entry)
    (made : manager.MadeResident key entry after (some current)) :
    manager.Acquired agentId parentId requestedContext now
      (after.lease key current agentId now) (some (leaseOf current (!entry.resident))) := by
  cases made with
  | already home =>
      rw [home]
      exact Acquired.leased key entry granted home
  | restored obtained sequence away taken =>
      rw [away]
      exact Acquired.restored key entry obtained sequence granted away taken

theorem acquired_of_failure (agentId parentId : AgentId)
    (requestedContext : ContextId) (now : TimePoint) (key : ContextId) (entry : Entry)
    (granted : manager.Grants agentId parentId requestedContext key entry)
    (after : ContextManager) (made : manager.MadeResident key entry after none) :
    manager.Acquired agentId parentId requestedContext now after none := by
  cases made with
  | refused => exact Acquired.refused
  | unrestored obtained sequence away taken =>
      exact Acquired.unrestored key entry obtained sequence granted away taken

theorem acquireNew_spec (agentId parentId : AgentId) (swap : Option ContextSwapCallbacks)
    (now : TimePoint) (order : IterationOrder ContextId)
    (stranger : ∀ key entry, manager.context? key = some entry → owned entry agentId = false) :
    manager.Acquired agentId parentId 0 now (manager.acquireNew agentId swap now order).1
      (manager.acquireNew agentId swap now order).2.2 := by
  unfold acquireNew
  by_cases full : manager.maxLogicalContexts.toNat ≤ manager.contexts.keys.length
  · rw [if_pos full]
    exact Acquired.refused
  · rw [if_neg full]
    rcases sought : manager.obtainSequenceLocked 0 swap [] order with
      ⟨obtained, middle, _ | sequence⟩
    · have same := obtainSequenceLocked_none manager 0 swap [] order obtained middle sought
      subst same
      exact Acquired.refused
    · have taken := obtainSequenceLocked_some manager 0 swap [] order
        obtained middle sequence sought
      exact Acquired.created obtained sequence rfl stranger (not_le.mp full) taken

theorem acquireExisting_spec (agentId parentId : AgentId) (existing : ContextId)
    (entry : Entry) (swap : Option ContextSwapCallbacks) (now : TimePoint)
    (order : IterationOrder ContextId) (found : manager.context? existing = some entry)
    (owner : owned entry agentId = true) :
    manager.Acquired agentId parentId 0 now
      (manager.acquireExisting existing swap now order).1
      (manager.acquireExisting existing swap now order).2.2 := by
  have granted : manager.Grants agentId parentId 0 existing entry :=
    ⟨found, Or.inr ⟨rfl, owner⟩⟩
  unfold acquireExisting
  simp only [found]
  rcases outcome : manager.makeResidentLocked existing entry swap [] order with
    ⟨after, written, _ | current⟩
  · have made := makeResidentLocked_spec manager existing entry swap [] order
      after written none outcome
    exact acquired_of_failure manager agentId parentId 0 now existing entry granted after made
  · have made := makeResidentLocked_spec manager existing entry swap [] order
      after written (some current) outcome
    have still : owned current agentId = true := by
      cases made with
      | already home => exact owner
      | restored obtained sequence away taken => exact owner
    have result := acquired_of_madeResident manager agentId parentId 0 now existing entry
      granted after current made
    unfold lease at result
    rw [shareWith_owner after current agentId still] at result
    exact result

theorem acquireRequested_spec (agentId parentId : AgentId) (requestedContext : ContextId)
    (swap : Option ContextSwapCallbacks) (now : TimePoint)
    (order : IterationOrder ContextId) :
    manager.Acquired agentId parentId requestedContext now
      (manager.acquireRequested agentId parentId requestedContext swap now order).1
      (manager.acquireRequested agentId parentId requestedContext swap now order).2.2 := by
  unfold acquireRequested
  cases found : manager.context? requestedContext with
  | none => exact Acquired.refused
  | some entry =>
      cases authorized : authorizedLocked entry agentId parentId with
      | false =>
          simp only [authorized, Bool.not_false, if_true]
          exact Acquired.refused
      | true =>
          have granted :
              manager.Grants agentId parentId requestedContext requestedContext entry :=
            ⟨found, Or.inl ⟨rfl, authorized⟩⟩
          simp only [authorized, Bool.not_true, Bool.false_eq_true, if_false]
          rcases outcome : manager.makeResidentLocked requestedContext entry swap [] order with
            ⟨after, written, _ | current⟩
          · have made := makeResidentLocked_spec manager requestedContext entry swap [] order
              after written none outcome
            exact acquired_of_failure manager agentId parentId requestedContext now
              requestedContext entry granted after made
          · have made := makeResidentLocked_spec manager requestedContext entry swap [] order
              after written (some current) outcome
            have result := acquired_of_madeResident manager agentId parentId requestedContext
              now requestedContext entry granted after current made
            simp only [leaseOf_shareWith]
            exact result

theorem acquire_spec (agentId parentId : AgentId) (requestedContext : ContextId)
    (swap : Option ContextSwapCallbacks) (now : TimePoint)
    (order : IterationOrder ContextId) :
    manager.Acquired agentId parentId requestedContext now
      (manager.acquire agentId parentId requestedContext swap now order).1
      (manager.acquire agentId parentId requestedContext swap now order).2.2 := by
  unfold acquire
  by_cases anonymous : agentId = 0
  · rw [if_pos anonymous]
    exact Acquired.refused
  · rw [if_neg anonymous]
    by_cases default : requestedContext = 0
    · rw [if_pos default]
      subst default
      cases search : manager.findForAgentLocked agentId order with
      | none =>
          exact acquireNew_spec manager agentId parentId swap now order
            (findForAgentLocked_none manager agentId order search)
      | some existing =>
          obtain ⟨entry, found, owner⟩ :=
            findForAgentLocked_some manager agentId order existing search
          exact acquireExisting_spec manager agentId parentId existing entry swap now order
            found owner
    · rw [if_neg default]
      exact acquireRequested_spec manager agentId parentId requestedContext swap now order

/-- The outcomes of `finish`. -/
inductive Finished (contextId : ContextId) (now : TimePoint) : ContextManager → Bool → Prop where
  | refused : Finished contextId now manager false
  | unpinned (entry : Entry) (found : manager.context? contextId = some entry)
      (pinned : entry.pinCount ≠ 0) :
      Finished contextId now
        (manager.store contextId
          { entry with pinCount := entry.pinCount - 1, lastAccess := now }) true

theorem finish_spec (contextId : ContextId) (now : TimePoint) :
    manager.Finished contextId now (manager.finish contextId now).1
      (manager.finish contextId now).2.2 := by
  unfold finish
  cases found : manager.context? contextId with
  | none => exact Finished.refused
  | some entry =>
      by_cases unpinned : entry.pinCount = 0
      · simp only [if_pos unpinned]
        exact Finished.refused
      · simp only [if_neg unpinned]
        exact Finished.unpinned entry found unpinned

/-- The outcomes of `release`. -/
inductive Released (agentId parentId : AgentId) (contextId : ContextId) (now : TimePoint) :
    ContextManager → Release → Prop where
  | refused (message : StdString) :
      Released agentId parentId contextId now manager (.rejected message)
  | left (entry : Entry) (owner : AgentId) (found : manager.context? contextId = some entry)
      (chosen : owner = ownerToRelease entry agentId parentId)
      (member : owned entry owner = true)
      (shared : UnorderedSet.remove entry.owners owner ≠ ∅) :
      Released agentId parentId contextId now
        (manager.dropOwner.store contextId
          { entry with owners := UnorderedSet.remove entry.owners owner, lastAccess := now })
        { released := true }
  | removed (entry : Entry) (owner : AgentId) (found : manager.context? contextId = some entry)
      (chosen : owner = ownerToRelease entry agentId parentId)
      (member : owned entry owner = true)
      (last : UnorderedSet.remove entry.owners owner = ∅)
      (idle : entry.owners.keys.length = 1 → entry.pinCount = 0) :
      Released agentId parentId contextId now
        (manager.dropOwner.removeContext contextId
          { entry with owners := UnorderedSet.remove entry.owners owner }).1
        { released := true
          releasedSequence := if entry.resident then entry.sequenceId else -1
          contextRemoved := true }

private theorem keys_isEmpty {items : UnorderedSet AgentId} :
    items.keys.isEmpty = true ↔ items = ∅ := by
  rw [List.isEmpty_iff]
  constructor
  · intro nothing
    apply AList.ext
    exact List.map_eq_nil_iff.mp nothing
  · rintro rfl
    rfl

theorem release_spec (agentId parentId : AgentId) (contextId : ContextId) (now : TimePoint) :
    manager.Released agentId parentId contextId now
      (manager.release agentId parentId contextId now).1
      (manager.release agentId parentId contextId now).2 := by
  unfold release
  cases found : manager.context? contextId with
  | none => exact Released.refused _
  | some entry =>
      cases member : owned entry (ownerToRelease entry agentId parentId) with
      | false =>
          simp only [member, Bool.not_false, if_true]
          exact Released.refused _
      | true =>
          simp only [member, Bool.not_true, Bool.false_eq_true, if_false]
          by_cases busy : entry.owners.keys.length = 1 ∧ entry.pinCount ≠ 0
          · rw [if_pos busy]
            exact Released.refused _
          · rw [if_neg busy]
            by_cases last :
                UnorderedSet.remove entry.owners (ownerToRelease entry agentId parentId) = ∅
            · rw [if_pos (keys_isEmpty.mpr last)]
              refine Released.removed entry _ found rfl member last ?_
              intro single
              exact not_not.mp fun pinned => busy ⟨single, pinned⟩
            · rw [if_neg (fun empty => last (keys_isEmpty.mp empty))]
              exact Released.left entry _ found rfl member last

/-! ### What the parts of an operation leave alone -/

theorem contexts_shareWith (entry : Entry) (agentId : AgentId) :
    (manager.shareWith entry agentId).1.contexts = manager.contexts := by
  unfold shareWith
  split <;> rfl

theorem freeSequences_shareWith (entry : Entry) (agentId : AgentId) :
    (manager.shareWith entry agentId).1.freeSequences = manager.freeSequences := by
  unfold shareWith
  split <;> rfl

theorem nextContextId_shareWith (entry : Entry) (agentId : AgentId) :
    (manager.shareWith entry agentId).1.nextContextId = manager.nextContextId := by
  unfold shareWith
  split <;> rfl

theorem context?_lease (key other : ContextId) (entry : Entry) (agentId : AgentId)
    (now : TimePoint) :
    (manager.lease key entry agentId now).context? other =
      if other = key then some (pin (manager.shareWith entry agentId).2 now)
      else manager.context? other := by
  change ((manager.shareWith entry agentId).1.store key _).context? other = _
  rw [context?_store]
  congr 1
  unfold context?
  rw [contexts_shareWith]

theorem contexts_dropOwner : manager.dropOwner.contexts = manager.contexts := by
  unfold dropOwner
  split <;> rfl

theorem freeSequences_dropOwner : manager.dropOwner.freeSequences = manager.freeSequences := by
  unfold dropOwner
  split <;> rfl

theorem nextContextId_dropOwner :
    manager.dropOwner.nextContextId = manager.nextContextId := by
  unfold dropOwner
  split <;> rfl

theorem context?_dropOwner (key : ContextId) :
    manager.dropOwner.context? key = manager.context? key := by
  unfold context?
  rw [contexts_dropOwner]

theorem contexts_removeContext (key : ContextId) (left : Entry) :
    (manager.removeContext key left).1.contexts = manager.contexts.erase key := by
  unfold removeContext
  cases left.resident <;> rfl

/-- A resident context gives its sequence back. -/
theorem freeSequences_removeContext (key : ContextId) (left : Entry) :
    (manager.removeContext key left).1.freeSequences =
      if left.resident then left.sequenceId :: manager.freeSequences
      else manager.freeSequences := by
  unfold removeContext
  cases left.resident <;> rfl

theorem nextContextId_removeContext (key : ContextId) (left : Entry) :
    (manager.removeContext key left).1.nextContextId = manager.nextContextId := by
  unfold removeContext
  cases left.resident <;> rfl

theorem context?_removeContext (key other : ContextId) (left : Entry) :
    (manager.removeContext key left).1.context? other =
      if other = key then none else manager.context? other := by
  unfold context?
  rw [contexts_removeContext]
  by_cases same : other = key
  · subst same
    rw [if_pos rfl]
    exact AList.lookup_erase other manager.contexts
  · rw [if_neg same]
    exact AList.lookup_erase_ne same

variable {manager}

theorem Obtained.nextContextId {excludedContext : ContextId} {obtained : ContextManager}
    {sequence : Int32} (taken : manager.Obtained excludedContext obtained sequence) :
    obtained.nextContextId = manager.nextContextId := by
  cases taken <;> rfl

/-- An entry that waits for a sequence is not the one that is swapped out. -/
theorem Obtained.context?_away {excludedContext : ContextId} {obtained : ContextManager}
    {sequence : Int32} (taken : manager.Obtained excludedContext obtained sequence)
    (key : ContextId) (entry : Entry) (present : manager.context? key = some entry)
    (away : entry.resident = false) : obtained.context? key = some entry := by
  cases taken with
  | popped sequence rest free => exact present
  | swappedOut order victimKey victim exhausted candidate =>
      have eligible := skipped_eq_false excludedContext victim candidate.eligible
      rw [context?_swapOut]
      by_cases same : key = victimKey
      · subst same
        have equal := present.symm.trans candidate.present
        cases equal
        rw [away] at eligible
        cases eligible.1
      · rw [if_neg same]
        exact present

theorem Obtained.context?_none {excludedContext : ContextId} {obtained : ContextManager}
    {sequence : Int32} (taken : manager.Obtained excludedContext obtained sequence)
    (key : ContextId) : obtained.context? key = none ↔ manager.context? key = none := by
  cases taken with
  | popped sequence rest free => exact Iff.rfl
  | swappedOut order victimKey victim exhausted candidate =>
      rw [context?_swapOut]
      by_cases same : key = victimKey
      · subst same
        rw [if_pos rfl, candidate.present]
        exact ⟨nofun, nofun⟩
      · rw [if_neg same]

theorem MadeResident.entry {key : ContextId} {entry current : Entry} {after : ContextManager}
    (made : manager.MadeResident key entry after (some current))
    (found : manager.context? key = some entry) : after.context? key = some current := by
  cases made with
  | already home => exact found
  | restored obtained sequence away taken => rw [context?_swapIn, if_pos rfl]

theorem MadeResident.home {key : ContextId} {entry current : Entry} {after : ContextManager}
    (made : manager.MadeResident key entry after (some current)) : current.resident = true := by
  cases made with
  | already home => exact home
  | restored obtained sequence away taken => rfl

end AgentNucleus.Top.ContextManager
