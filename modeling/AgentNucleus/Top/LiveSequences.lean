/-
Which sequences belong to stored contexts, and how the three operations of the
manager move them.
-/

import AgentNucleus.Top.SequenceOwnership

set_option autoImplicit false

namespace AgentNucleus.Top.ContextManager

open AgentNucleus.Library
open AgentNucleus.Runtime (AgentId ContextId StdString TimePoint)

/-- Some stored context has this sequence. -/
def Live (manager : ContextManager) (sequence : Int32) : Prop :=
  ∃ key entry, manager.context? key = some entry ∧ entry.sequenceId = sequence

/-- The entry waits for a sequence, and the load into this one succeeds. -/
def restores (entry : Entry) (swap : Option ContextSwapCallbacks) (sequence : Int32) : Bool :=
  !entry.resident &&
    match loadCallback swap with
    | none => false
    | some load => (load entry.id sequence []).1

/-- The call would give this free sequence to a context. -/
def wants (manager : ContextManager) (agentId parentId : AgentId)
    (requestedContext : ContextId) (swap : Option ContextSwapCallbacks)
    (order : IterationOrder ContextId) (sequence : Int32) : Bool :=
  if agentId = 0 then false
  else if requestedContext = 0 then
    match manager.findForAgentLocked agentId order with
    | some existing =>
        match manager.context? existing with
        | none => false
        | some entry => restores entry swap sequence
    | none =>
        decide (manager.contexts.keys.length < manager.maxLogicalContexts.toNat) &&
          (manager.context? manager.nextContextId).isNone
  else
    match manager.context? requestedContext with
    | none => false
    | some entry => authorizedLocked entry agentId parentId && restores entry swap sequence

/-- The call gives this sequence, the back of `free_sequences_`, to a context. -/
def HandsOut (manager : ContextManager) (agentId parentId : AgentId)
    (requestedContext : ContextId) (swap : Option ContextSwapCallbacks)
    (order : IterationOrder ContextId) (sequence : Int32) : Prop :=
  manager.freeSequences.head? = some sequence ∧
    manager.wants agentId parentId requestedContext swap order sequence = true

variable {manager : ContextManager}

/-! ### The parts of an operation -/

theorem Live.congr {other : ContextManager} {sequence : Int32} (live : other.Live sequence)
    (same : other.contexts = manager.contexts) : manager.Live sequence := by
  obtain ⟨key, entry, present, holder⟩ := live
  refine ⟨key, entry, ?_, holder⟩
  unfold context? at present ⊢
  rw [← same]
  exact present

theorem live_store_same (key : ContextId) (old new : Entry) (sequence : Int32)
    (present : manager.context? key = some old) (same : new.sequenceId = old.sequenceId) :
    (manager.store key new).Live sequence ↔ manager.Live sequence := by
  constructor
  · rintro ⟨other, entry, found, holder⟩
    rw [context?_store] at found
    by_cases here : other = key
    · rw [if_pos here] at found
      cases found
      exact ⟨key, old, present, same.symm.trans holder⟩
    · rw [if_neg here] at found
      exact ⟨other, entry, found, holder⟩
  · rintro ⟨other, entry, found, holder⟩
    by_cases here : other = key
    · subst here
      have equal := present.symm.trans found
      cases equal
      refine ⟨other, new, ?_, same.trans holder⟩
      rw [context?_store, if_pos rfl]
    · refine ⟨other, entry, ?_, holder⟩
      rw [context?_store, if_neg here]
      exact found

theorem sequenceId_shareWith (manager : ContextManager) (entry : Entry) (agentId : AgentId)
    (now : TimePoint) :
    (pin (manager.shareWith entry agentId).2 now).sequenceId = entry.sequenceId := by
  unfold shareWith
  split <;> rfl

theorem live_lease (key : ContextId) (entry : Entry) (agentId : AgentId) (now : TimePoint)
    (sequence : Int32) (present : manager.context? key = some entry) :
    (manager.lease key entry agentId now).Live sequence ↔ manager.Live sequence := by
  have stored := live_store_same key entry (pin (manager.shareWith entry agentId).2 now)
    sequence present (sequenceId_shareWith manager entry agentId now)
  have same : (manager.lease key entry agentId now).contexts =
      (manager.store key (pin (manager.shareWith entry agentId).2 now)).contexts := by
    change (manager.shareWith entry agentId).1.contexts.insert key _ = _
    rw [contexts_shareWith]
    rfl
  constructor
  · intro live
    exact stored.mp (live.congr same)
  · intro live
    exact (stored.mpr live).congr same.symm

/-- Taking a sequence makes none live. -/
theorem Obtained.live {excludedContext : ContextId} {obtained : ContextManager}
    {taken sequence : Int32} (step : manager.Obtained excludedContext obtained taken)
    (live : obtained.Live sequence) (real : sequence ≠ -1) : manager.Live sequence := by
  cases step with
  | popped taken rest free => exact live.congr rfl
  | swappedOut order key entry exhausted candidate =>
      obtain ⟨other, held, present, holder⟩ := live
      rw [context?_swapOut] at present
      by_cases here : other = key
      · rw [if_pos here] at present
        cases present
        exact absurd holder.symm real
      · rw [if_neg here] at present
        exact ⟨other, held, present, holder⟩

/-- A sequence that is not taken from the free list was the victim's. -/
theorem Obtained.source {excludedContext : ContextId} {obtained : ContextManager}
    {sequence : Int32} (step : manager.Obtained excludedContext obtained sequence) :
    manager.freeSequences.head? = some sequence ∨ manager.Live sequence := by
  cases step with
  | popped sequence rest free =>
      rw [free]
      exact Or.inl rfl
  | swappedOut order key entry exhausted candidate =>
      exact Or.inr ⟨key, entry, candidate.present, rfl⟩

theorem live_swapIn (key : ContextId) (entry : Entry) (given sequence : Int32)
    (live : (manager.swapIn key entry given).Live sequence) :
    sequence = given ∨ manager.Live sequence := by
  obtain ⟨other, held, present, holder⟩ := live
  rw [context?_swapIn] at present
  by_cases here : other = key
  · rw [if_pos here] at present
    cases present
    exact Or.inl holder.symm
  · rw [if_neg here] at present
    exact Or.inr ⟨other, held, present, holder⟩

/-! ### Making a context resident -/

/-- With a free sequence at hand only the load decides. -/
theorem makeResidentLocked_free (key : ContextId) (entry : Entry)
    (swap : Option ContextSwapCallbacks) (order : IterationOrder ContextId)
    (load : SwapCallback) (sequence : Int32) (rest : List Int32)
    (away : entry.resident = false) (loading : loadCallback swap = some load)
    (free : manager.freeSequences = sequence :: rest) :
    manager.makeResidentLocked key entry swap [] order =
      match load entry.id sequence [] with
      | (false, failure) =>
          (({ manager with freeSequences := rest } : ContextManager).pushFree sequence,
            orMessage failure (Runtime.text "cannot restore swapped context"), none)
      | (true, loaded) =>
          (({ manager with freeSequences := rest } : ContextManager).swapIn key entry sequence,
            loaded, some { entry with sequenceId := sequence, resident := true }) := by
  unfold makeResidentLocked obtainSequenceLocked
  rcases loaded : load entry.id sequence [] with ⟨_ | _, written⟩
  · simp only [away, loading, free, loaded, Bool.false_eq_true, if_false]
  · simp only [away, loading, free, loaded, Bool.false_eq_true, if_false]

/-- A sequence that becomes live here comes from the free list and is loaded. -/
theorem makeResidentLocked_live (key : ContextId) (entry : Entry)
    (swap : Option ContextSwapCallbacks) (order : IterationOrder ContextId)
    (after : ContextManager) (written : StdString) (outcome : Option Entry)
    (sequence : Int32)
    (result : manager.makeResidentLocked key entry swap [] order = (after, written, outcome))
    (live : after.Live sequence) (real : sequence ≠ -1) :
    manager.Live sequence ∨
      manager.freeSequences.head? = some sequence ∧ restores entry swap sequence = true := by
  have made := makeResidentLocked_spec manager key entry swap [] order after written outcome
    result
  cases made with
  | already home => exact Or.inl live
  | refused => exact Or.inl live
  | unrestored obtained given away taken =>
      exact Or.inl (taken.live (live.congr rfl) real)
  | restored obtained given away taken =>
      rcases live_swapIn key entry given sequence live with here | before
      · subst here
        rcases taken.source with head | victim
        · refine Or.inr ⟨head, ?_⟩
          obtain ⟨rest, free⟩ : ∃ rest, manager.freeSequences = sequence :: rest :=
            ⟨manager.freeSequences.tail, List.eq_cons_of_mem_head? head⟩
          cases loading : loadCallback swap with
          | none =>
              unfold makeResidentLocked at result
              simp only [away, loading, Bool.false_eq_true, if_false] at result
              cases result
          | some load =>
              rw [makeResidentLocked_free key entry swap order load sequence rest away loading
                free] at result
              unfold restores
              rw [away, loading]
              change (load entry.id sequence []).1 = true
              rcases loaded : load entry.id sequence [] with ⟨_ | _, text⟩
              · rw [loaded] at result
                have impossible := congrArg (fun triple => triple.2.2) result
                cases impossible
              · rfl
        · exact Or.inl victim
      · exact Or.inl (taken.live before real)

theorem makeResidentLocked_restores (key : ContextId) (entry : Entry)
    (swap : Option ContextSwapCallbacks) (order : IterationOrder ContextId)
    (sequence : Int32) (free : manager.freeSequences.head? = some sequence)
    (restored : restores entry swap sequence = true) :
    ∃ after written current,
      manager.makeResidentLocked key entry swap [] order = (after, written, some current) ∧
        after.Live sequence := by
  have rest := List.eq_cons_of_mem_head? free
  unfold restores at restored
  rw [Bool.and_eq_true, Bool.not_eq_true'] at restored
  obtain ⟨away, loads⟩ := restored
  cases loading : loadCallback swap with
  | none =>
      rw [loading] at loads
      cases loads
  | some load =>
      rw [loading] at loads
      change (load entry.id sequence []).1 = true at loads
      have result := makeResidentLocked_free key entry swap order load sequence
        manager.freeSequences.tail away loading rest
      rcases loaded : load entry.id sequence [] with ⟨success, text⟩
      rw [loaded] at loads result
      change success = true at loads
      subst loads
      refine ⟨_, _, _, result, key, { entry with sequenceId := sequence, resident := true }, ?_,
        rfl⟩
      rw [context?_swapIn, if_pos rfl]

/-! ### Acquire -/

theorem live_insertNew (given sequence : Int32) (agentId : AgentId) (now : TimePoint)
    (live : (manager.insertNew given agentId now).Live sequence) :
    manager.Live sequence ∨
      sequence = given ∧ manager.context? manager.nextContextId = none := by
  cases fresh : manager.context? manager.nextContextId with
  | some entry =>
      exact Or.inl (live.congr (contexts_insertNew_used manager given agentId now entry fresh))
  | none =>
      obtain ⟨key, entry, present, holder⟩ := live
      unfold context? at present
      rw [contexts_insertNew_fresh manager given agentId now fresh,
        UnorderedMap.lookup_insert_if] at present
      by_cases here : key = manager.nextContextId
      · rw [if_pos here] at present
        cases present
        exact Or.inr ⟨holder.symm, rfl⟩
      · rw [if_neg here] at present
        exact Or.inl ⟨key, entry, present, holder⟩

theorem acquireNew_live (agentId : AgentId) (swap : Option ContextSwapCallbacks)
    (now : TimePoint) (order : IterationOrder ContextId) (sequence : Int32)
    (live : (manager.acquireNew agentId swap now order).1.Live sequence)
    (real : sequence ≠ -1) :
    manager.Live sequence ∨
      manager.freeSequences.head? = some sequence ∧
        manager.contexts.keys.length < manager.maxLogicalContexts.toNat ∧
          manager.context? manager.nextContextId = none := by
  unfold acquireNew at live
  by_cases full : manager.maxLogicalContexts.toNat ≤ manager.contexts.keys.length
  · rw [if_pos full] at live
    exact Or.inl live
  · rw [if_neg full] at live
    rcases sought : manager.obtainSequenceLocked 0 swap [] order with
      ⟨obtained, middle, _ | given⟩
    · rw [sought] at live
      have same := obtainSequenceLocked_none manager 0 swap [] order obtained middle sought
      subst same
      exact Or.inl live
    · rw [sought] at live
      have taken := obtainSequenceLocked_some manager 0 swap [] order obtained middle given
        sought
      rcases live_insertNew given sequence agentId now live with before | ⟨here, fresh⟩
      · exact Or.inl (taken.live before real)
      · subst here
        rw [taken.nextContextId, taken.context?_none] at fresh
        rcases taken.source with head | victim
        · exact Or.inr ⟨head, not_le.mp full, fresh⟩
        · exact Or.inl victim

theorem acquireExisting_live (existing : ContextId) (entry : Entry)
    (swap : Option ContextSwapCallbacks) (now : TimePoint) (order : IterationOrder ContextId)
    (sequence : Int32) (found : manager.context? existing = some entry)
    (live : (manager.acquireExisting existing swap now order).1.Live sequence)
    (real : sequence ≠ -1) :
    manager.Live sequence ∨
      manager.freeSequences.head? = some sequence ∧ restores entry swap sequence = true := by
  unfold acquireExisting at live
  simp only [found] at live
  rcases outcome : manager.makeResidentLocked existing entry swap [] order with
    ⟨after, written, _ | current⟩
  · rw [outcome] at live
    exact makeResidentLocked_live existing entry swap order after written none sequence
      outcome live real
  · rw [outcome] at live
    have made := makeResidentLocked_spec manager existing entry swap [] order after written
      (some current) outcome
    have before := (live_store_same existing current (pin current now) sequence
      (made.entry found) rfl).mp live
    exact makeResidentLocked_live existing entry swap order after written (some current)
      sequence outcome before real

theorem acquireRequested_live (agentId parentId : AgentId) (requestedContext : ContextId)
    (entry : Entry) (swap : Option ContextSwapCallbacks) (now : TimePoint)
    (order : IterationOrder ContextId) (sequence : Int32)
    (found : manager.context? requestedContext = some entry)
    (live : (manager.acquireRequested agentId parentId requestedContext swap now
      order).1.Live sequence) (real : sequence ≠ -1) :
    manager.Live sequence ∨
      manager.freeSequences.head? = some sequence ∧
        authorizedLocked entry agentId parentId = true ∧
          restores entry swap sequence = true := by
  unfold acquireRequested at live
  simp only [found] at live
  cases authorized : authorizedLocked entry agentId parentId with
  | false =>
      simp only [authorized, Bool.not_false, if_true] at live
      exact Or.inl live
  | true =>
      simp only [authorized, Bool.not_true, Bool.false_eq_true, if_false] at live
      rcases outcome : manager.makeResidentLocked requestedContext entry swap [] order with
        ⟨after, written, _ | current⟩
      · rw [outcome] at live
        rcases makeResidentLocked_live requestedContext entry swap order after written none
            sequence outcome live real with before | ⟨head, restored⟩
        · exact Or.inl before
        · exact Or.inr ⟨head, rfl, restored⟩
      · rw [outcome] at live
        have made := makeResidentLocked_spec manager requestedContext entry swap [] order
          after written (some current) outcome
        have before : after.Live sequence :=
          (live_lease requestedContext current agentId now sequence (made.entry found)).mp live
        rcases makeResidentLocked_live requestedContext entry swap order after written
            (some current) sequence outcome before real with earlier | ⟨head, restored⟩
        · exact Or.inl earlier
        · exact Or.inr ⟨head, rfl, restored⟩

/-- An acquire makes a sequence live only by handing it out of the free list. -/
theorem acquire_live (agentId parentId : AgentId) (requestedContext : ContextId)
    (swap : Option ContextSwapCallbacks) (now : TimePoint) (order : IterationOrder ContextId)
    (sequence : Int32)
    (live : (manager.acquire agentId parentId requestedContext swap now order).1.Live sequence)
    (real : sequence ≠ -1) :
    manager.Live sequence ∨
      manager.HandsOut agentId parentId requestedContext swap order sequence := by
  unfold acquire at live
  unfold HandsOut wants
  by_cases anonymous : agentId = 0
  · rw [if_pos anonymous] at live
    exact Or.inl live
  · rw [if_neg anonymous] at live ⊢
    by_cases default : requestedContext = 0
    · rw [if_pos default] at live ⊢
      cases search : manager.findForAgentLocked agentId order with
      | none =>
          rw [search] at live
          rcases acquireNew_live agentId swap now order sequence live real with
            before | ⟨head, room, fresh⟩
          · exact Or.inl before
          · refine Or.inr ⟨head, ?_⟩
            change (decide _ && (manager.context? manager.nextContextId).isNone) = true
            rw [decide_eq_true room, fresh]
            rfl
      | some existing =>
          rw [search] at live
          obtain ⟨entry, found, owner⟩ :=
            findForAgentLocked_some manager agentId order existing search
          rcases acquireExisting_live existing entry swap now order sequence found live real with
            before | ⟨head, restored⟩
          · exact Or.inl before
          · refine Or.inr ⟨head, ?_⟩
            simp only [found]
            exact restored
    · rw [if_neg default] at live ⊢
      cases found : manager.context? requestedContext with
      | none =>
          unfold acquireRequested at live
          rw [found] at live
          exact Or.inl live
      | some entry =>
          rcases acquireRequested_live agentId parentId requestedContext entry swap now order
              sequence found live real with before | ⟨head, authorized, restored⟩
          · exact Or.inl before
          · refine Or.inr ⟨head, ?_⟩
            change (authorizedLocked entry agentId parentId && _) = true
            rw [authorized, restored]
            rfl

/-- A sequence that is handed out is live afterwards. -/
theorem HandsOut.live {agentId parentId : AgentId} {requestedContext : ContextId}
    {swap : Option ContextSwapCallbacks} {order : IterationOrder ContextId}
    {sequence : Int32}
    (hands : manager.HandsOut agentId parentId requestedContext swap order sequence)
    (now : TimePoint) :
    (manager.acquire agentId parentId requestedContext swap now order).1.Live sequence := by
  obtain ⟨head, wanted⟩ := hands
  unfold wants at wanted
  unfold acquire
  by_cases anonymous : agentId = 0
  · rw [if_pos anonymous] at wanted
    cases wanted
  · rw [if_neg anonymous] at wanted ⊢
    by_cases default : requestedContext = 0
    · rw [if_pos default] at wanted ⊢
      cases search : manager.findForAgentLocked agentId order with
      | none =>
          rw [search] at wanted
          change (decide _ && (manager.context? manager.nextContextId).isNone) = true at wanted
          rw [Bool.and_eq_true, decide_eq_true_iff, Option.isNone_iff_eq_none] at wanted
          obtain ⟨room, fresh⟩ := wanted
          have free := List.eq_cons_of_mem_head? head
          have sought : manager.obtainSequenceLocked 0 swap [] order =
              ({ manager with freeSequences := manager.freeSequences.tail }, [],
                some sequence) := by
            unfold obtainSequenceLocked
            rw [free]
            rfl
          change (manager.acquireNew agentId swap now order).1.Live sequence
          unfold acquireNew
          rw [if_neg (not_le.mpr room), sought]
          refine ⟨manager.nextContextId,
            newEntry manager.nextContextId sequence agentId now, ?_, rfl⟩
          change (UnorderedMap.emplace manager.contexts manager.nextContextId _).lookup _ = _
          rw [UnorderedMap.lookup_emplace_fresh _ _ _ _ fresh, if_pos rfl]
      | some existing =>
          obtain ⟨entry, found, owner⟩ :=
            findForAgentLocked_some manager agentId order existing search
          simp only [search, found] at wanted
          obtain ⟨after, written, current, outcome, live⟩ :=
            makeResidentLocked_restores existing entry swap order sequence head wanted
          have made := makeResidentLocked_spec manager existing entry swap [] order after
            written (some current) outcome
          change (manager.acquireExisting existing swap now order).1.Live sequence
          unfold acquireExisting
          simp only [found, outcome]
          exact (live_store_same existing current (pin current now) sequence
            (made.entry found) rfl).mpr live
    · rw [if_neg default] at wanted ⊢
      unfold acquireRequested
      cases found : manager.context? requestedContext with
      | none =>
          rw [found] at wanted
          cases wanted
      | some entry =>
          simp only [found, Bool.and_eq_true] at wanted
          obtain ⟨authorized, restored⟩ := wanted
          obtain ⟨after, written, current, outcome, live⟩ :=
            makeResidentLocked_restores requestedContext entry swap order sequence head restored
          have made := makeResidentLocked_spec manager requestedContext entry swap [] order
            after written (some current) outcome
          simp only [authorized, outcome, Bool.not_true, Bool.false_eq_true, if_false]
          exact (live_lease requestedContext current agentId now sequence
            (made.entry found)).mpr live

/-! ### Finish and release -/

theorem Finished.live {contextId : ContextId} {now : TimePoint} {after : ContextManager}
    {result : Bool} (finished : manager.Finished contextId now after result)
    (sequence : Int32) (live : after.Live sequence) : manager.Live sequence := by
  cases finished with
  | refused => exact live
  | unpinned entry found pinned =>
      have same := live_store_same contextId entry
        { entry with pinCount := entry.pinCount - 1, lastAccess := now } sequence found rfl
      exact same.mp live

theorem Released.live {agentId parentId : AgentId} {contextId : ContextId} {now : TimePoint}
    {after : ContextManager} {result : Release}
    (released : manager.Released agentId parentId contextId now after result)
    (sequence : Int32) (live : after.Live sequence) : manager.Live sequence := by
  cases released with
  | refused message => exact live
  | left entry owner found chosen member shared =>
      have present : manager.dropOwner.context? contextId = some entry := by
        rw [context?_dropOwner]
        exact found
      have same := live_store_same contextId entry
        { entry with owners := UnorderedSet.remove entry.owners owner, lastAccess := now }
        sequence present rfl
      exact (same.mp live).congr (contexts_dropOwner manager)
  | removed entry owner found chosen member last idle =>
      obtain ⟨key, held, present, holder⟩ := live
      rw [context?_removeContext, context?_dropOwner] at present
      by_cases here : key = contextId
      · rw [if_pos here] at present
        cases present
      · rw [if_neg here] at present
        exact ⟨key, held, present, holder⟩

/-- Where no sequence occurs twice, a free one is not live. -/
theorem not_live_of_free (sequence : Int32) (sound : manager.Sound)
    (once : manager.occurrences sequence.toInt ≤ 1) (real : sequence ≠ -1)
    (free : sequence ∈ manager.freeSequences) : ¬manager.Live sequence := by
  rintro ⟨key, entry, present, holder⟩
  have one : tally sequence.toInt sequence = 1 := by
    unfold tally
    rw [if_pos rfl]
  have home : entry.resident = true := by
    cases resident : entry.resident with
    | true => rfl
    | false =>
        have nowhere := (sound key entry present).swapped resident
        exact absurd (holder.symm.trans nowhere) real
  have listed : 1 ≤ manager.freeOccurrences sequence.toInt := by
    rw [← one]
    exact List.single_le_sum (fun _ _ => Nat.zero_le _) _ (List.mem_map_of_mem free)
  have held : 1 ≤ manager.heldOccurrences sequence.toInt := by
    have weight := UnorderedMap.weight_le_total (fun _ entry => holds sequence.toInt entry)
      manager.contexts key entry present
    rw [holds_resident _ entry home, holder, one] at weight
    exact weight
  unfold occurrences at once
  omega

/-- The sequence that a release returns is in the free list. -/
theorem Released.returned {agentId parentId : AgentId} {contextId : ContextId}
    {now : TimePoint} {after : ContextManager} {result : Release}
    (released : manager.Released agentId parentId contextId now after result)
    (real : result.releasedSequence ≠ -1) :
    result.releasedSequence ∈ after.freeSequences := by
  cases released with
  | refused message => exact absurd rfl real
  | left entry owner found chosen member shared => exact absurd rfl real
  | removed entry owner found chosen member last idle =>
      rw [freeSequences_removeContext]
      cases home : entry.resident with
      | false =>
          rw [home] at real
          exact absurd rfl real
      | true => exact List.mem_cons_self ..

end AgentNucleus.Top.ContextManager
