/-
Where the sequences of the KV cache are.  A call moves a sequence between the
free list and the resident contexts and never makes one appear twice; it loses
one only if the id counter has come round to an id that is still in use.
-/

import AgentNucleus.Top.ContextEntries

set_option autoImplicit false

namespace AgentNucleus.Top.ContextManager

open AgentNucleus.Library
open AgentNucleus.Runtime (AgentId ContextId StdString TimePoint)

/-! ### Counting the occurrences of a sequence -/

/-- One if the sequence is the given id, else zero. -/
def tally (id : Int) (sequence : Int32) : Nat :=
  if sequence.toInt = id then 1 else 0

/-- What an entry contributes: only a resident one holds its sequence. -/
def holds (id : Int) (entry : Entry) : Nat :=
  if entry.resident then tally id entry.sequenceId else 0

def freeOccurrences (manager : ContextManager) (id : Int) : Nat :=
  (manager.freeSequences.map (tally id)).sum

def heldOccurrences (manager : ContextManager) (id : Int) : Nat :=
  UnorderedMap.total (fun _ entry => holds id entry) manager.contexts

def occurrences (manager : ContextManager) (id : Int) : Nat :=
  manager.freeOccurrences id + manager.heldOccurrences id

variable (manager : ContextManager) (id : Int)

theorem holds_resident (entry : Entry) (home : entry.resident = true) :
    holds id entry = tally id entry.sequenceId := by
  unfold holds
  rw [if_pos home]

theorem holds_swapped (entry : Entry) (away : entry.resident = false) : holds id entry = 0 := by
  unfold holds
  rw [if_neg (Bool.eq_false_iff.mp away)]

theorem freeOccurrences_cons (sequence : Int32) (rest : List Int32)
    (free : manager.freeSequences = sequence :: rest) :
    manager.freeOccurrences id = tally id sequence + (rest.map (tally id)).sum := by
  unfold freeOccurrences
  rw [free, List.map_cons, List.sum_cons]

@[simp] theorem occurrences_pushFree (sequence : Int32) :
    (manager.pushFree sequence).occurrences id = manager.occurrences id + tally id sequence := by
  change tally id sequence + manager.freeOccurrences id + manager.heldOccurrences id = _
  unfold occurrences
  omega

theorem occurrences_store (key : ContextId) (old new : Entry)
    (present : manager.context? key = some old) :
    (manager.store key new).occurrences id + holds id old =
      manager.occurrences id + holds id new := by
  have moved := UnorderedMap.total_insert_over (fun _ entry => holds id entry)
    manager.contexts key old new present
  change manager.freeOccurrences id +
    UnorderedMap.total (fun _ entry => holds id entry) (manager.contexts.insert key new) +
      holds id old = _
  unfold occurrences heldOccurrences
  omega

theorem occurrences_store_same (key : ContextId) (old new : Entry)
    (present : manager.context? key = some old) (same : holds id new = holds id old) :
    (manager.store key new).occurrences id = manager.occurrences id := by
  have moved := occurrences_store manager id key old new present
  omega

/-- Only the two tables count. -/
theorem occurrences_congr (left right : ContextManager)
    (contexts : left.contexts = right.contexts)
    (free : left.freeSequences = right.freeSequences) :
    left.occurrences id = right.occurrences id := by
  unfold occurrences freeOccurrences heldOccurrences
  rw [contexts, free]

/-! ### One step -/

theorem occurrences_swapOut (key : ContextId) (entry : Entry)
    (present : manager.context? key = some entry) (home : entry.resident = true) :
    (manager.swapOut key entry).occurrences id + tally id entry.sequenceId =
      manager.occurrences id := by
  have moved := occurrences_store manager id key entry
    { entry with sequenceId := -1, resident := false } present
  rw [holds_resident id entry home, holds_swapped id _ rfl] at moved
  exact moved

theorem occurrences_swapIn (key : ContextId) (entry : Entry) (sequence : Int32)
    (present : manager.context? key = some entry) (away : entry.resident = false) :
    (manager.swapIn key entry sequence).occurrences id =
      manager.occurrences id + tally id sequence := by
  have moved := occurrences_store manager id key entry
    { entry with sequenceId := sequence, resident := true } present
  rw [holds_swapped id entry away, holds_resident id _ rfl] at moved
  exact moved

/-- The new entry takes the sequence, unless `emplace` drops it. -/
theorem occurrences_insertNew (sequence : Int32) (agentId : AgentId) (now : TimePoint) :
    (manager.insertNew sequence agentId now).occurrences id =
      manager.occurrences id +
        if manager.context? manager.nextContextId = none then tally id sequence else 0 := by
  cases fresh : manager.context? manager.nextContextId with
  | some entry =>
      exact occurrences_congr id _ _ (contexts_insertNew_used manager sequence agentId now
        entry fresh) rfl
  | none =>
      have free : (manager.insertNew sequence agentId now).freeOccurrences id =
          manager.freeOccurrences id := rfl
      have inserted := UnorderedMap.total_insert_fresh (fun _ entry => holds id entry)
        manager.contexts manager.nextContextId
        (newEntry manager.nextContextId sequence agentId now) fresh
      have weight : holds id (newEntry manager.nextContextId sequence agentId now) =
          tally id sequence := holds_resident id _ rfl
      unfold occurrences heldOccurrences
      rw [free, contexts_insertNew_fresh manager sequence agentId now fresh, inserted, weight,
        if_pos rfl]
      omega

theorem holds_shareWith (entry : Entry) (agentId : AgentId) (now : TimePoint) :
    holds id (pin (manager.shareWith entry agentId).2 now) = holds id entry := by
  unfold shareWith
  split <;> rfl

theorem occurrences_lease (key : ContextId) (entry : Entry) (agentId : AgentId)
    (now : TimePoint) (present : manager.context? key = some entry) :
    (manager.lease key entry agentId now).occurrences id = manager.occurrences id := by
  have same : (manager.lease key entry agentId now).occurrences id =
      (manager.store key (pin (manager.shareWith entry agentId).2 now)).occurrences id := by
    refine occurrences_congr id _ _ ?_ (freeSequences_shareWith manager entry agentId)
    change (manager.shareWith entry agentId).1.contexts.insert key _ = _
    rw [contexts_shareWith]
    rfl
  rw [same]
  exact occurrences_store_same manager id key entry _ present
    (holds_shareWith manager id entry agentId now)

theorem occurrences_dropOwner : manager.dropOwner.occurrences id = manager.occurrences id :=
  occurrences_congr id _ _ (contexts_dropOwner manager) (freeSequences_dropOwner manager)

/-- `left` is the entry as it is without its last owner. -/
theorem occurrences_removeContext (key : ContextId) (entry left : Entry)
    (present : manager.context? key = some entry) (resident : left.resident = entry.resident)
    (sequence : left.sequenceId = entry.sequenceId) :
    (manager.removeContext key left).1.occurrences id = manager.occurrences id := by
  have erased := UnorderedMap.total_erase (fun _ entry => holds id entry)
    manager.contexts key entry present
  have free := freeSequences_removeContext manager key left
  rw [resident, sequence] at free
  unfold occurrences heldOccurrences freeOccurrences
  rw [contexts_removeContext, free]
  cases home : entry.resident with
  | true =>
      rw [holds_resident id entry home] at erased
      rw [if_pos rfl, List.map_cons, List.sum_cons]
      omega
  | false =>
      rw [holds_swapped id entry home] at erased
      rw [if_neg Bool.false_ne_true]
      omega

variable {manager}

/-- A sequence that a call holds is missing from the tables. -/
theorem Obtained.occurrences {excludedContext : ContextId} {obtained : ContextManager}
    {sequence : Int32} (taken : manager.Obtained excludedContext obtained sequence) :
    obtained.occurrences id + tally id sequence = manager.occurrences id := by
  cases taken with
  | popped sequence rest free =>
      have counted := freeOccurrences_cons manager id sequence rest free
      unfold ContextManager.occurrences
      rw [counted]
      change (rest.map (tally id)).sum + manager.heldOccurrences id + tally id sequence = _
      omega
  | swappedOut order key entry exhausted candidate =>
      have eligible := skipped_eq_false excludedContext entry candidate.eligible
      exact occurrences_swapOut manager id key entry candidate.present eligible.1

/-- An acquire loses a sequence only if the next id is in use. -/
theorem Acquired.occurrences {agentId parentId : AgentId} {requestedContext : ContextId}
    {now : TimePoint} {after : ContextManager} {result : Option ContextLease}
    (acquired : manager.Acquired agentId parentId requestedContext now after result) :
    ∃ lost, after.occurrences id + lost = manager.occurrences id ∧
      (manager.context? manager.nextContextId = none → lost = 0) := by
  cases acquired with
  | refused => exact ⟨0, rfl, fun _ => rfl⟩
  | unrestored key entry obtained sequence granted away taken =>
      refine ⟨0, ?_, fun _ => rfl⟩
      rw [occurrences_pushFree]
      exact taken.occurrences id
  | created obtained sequence default stranger room taken =>
      have conserved := taken.occurrences id
      have inserted := occurrences_insertNew obtained id sequence agentId now
      have next := taken.context?_none manager.nextContextId
      rw [taken.nextContextId] at inserted
      by_cases fresh : manager.context? manager.nextContextId = none
      · rw [if_pos (next.mpr fresh)] at inserted
        exact ⟨0, by omega, fun _ => rfl⟩
      · rw [if_neg (fun missing => fresh (next.mp missing))] at inserted
        exact ⟨tally id sequence, by omega, fun missing => absurd missing fresh⟩
  | leased key entry granted home =>
      exact ⟨0, occurrences_lease manager id key entry agentId now granted.1, fun _ => rfl⟩
  | restored key entry obtained sequence granted away taken =>
      refine ⟨0, ?_, fun _ => rfl⟩
      have present := taken.context?_away key entry granted.1 away
      have stored : (obtained.swapIn key entry sequence).context? key =
          some { entry with sequenceId := sequence, resident := true } := by
        rw [context?_swapIn, if_pos rfl]
      have leased := occurrences_lease (obtained.swapIn key entry sequence) id key
        { entry with sequenceId := sequence, resident := true } agentId now stored
      have swapped := occurrences_swapIn obtained id key entry sequence present away
      have conserved := taken.occurrences id
      omega

theorem Finished.occurrences {contextId : ContextId} {now : TimePoint} {after : ContextManager}
    {result : Bool} (finished : manager.Finished contextId now after result) :
    after.occurrences id = manager.occurrences id := by
  cases finished with
  | refused => rfl
  | unpinned entry found pinned =>
      exact occurrences_store_same manager id contextId entry _ found rfl

theorem Released.occurrences {agentId parentId : AgentId} {contextId : ContextId}
    {now : TimePoint} {after : ContextManager} {result : Release}
    (released : manager.Released agentId parentId contextId now after result) :
    after.occurrences id = manager.occurrences id := by
  cases released with
  | refused message => rfl
  | left entry owner found chosen member shared =>
      rw [← occurrences_dropOwner manager id]
      refine occurrences_store_same manager.dropOwner id contextId entry _ ?_ rfl
      rw [context?_dropOwner]
      exact found
  | removed entry owner found chosen member last idle =>
      rw [← occurrences_dropOwner manager id]
      refine occurrences_removeContext manager.dropOwner id contextId entry _ ?_ rfl rfl
      rw [context?_dropOwner]
      exact found

variable (manager)

theorem step_occurrences (operation : Operation) :
    ∃ lost, (manager.step operation).occurrences id + lost = manager.occurrences id ∧
      (manager.context? manager.nextContextId = none → lost = 0) := by
  cases operation with
  | acquire agentId parentId requestedContext swap now order =>
      exact (acquire_spec manager agentId parentId requestedContext swap now order).occurrences id
  | finish contextId now =>
      exact ⟨0, (finish_spec manager contextId now).occurrences id, fun _ => rfl⟩
  | release agentId parentId contextId now =>
      exact ⟨0, (release_spec manager agentId parentId contextId now).occurrences id,
        fun _ => rfl⟩

/-! ### The partition -/

/-- Each id up to the limit occurs once, in the free list or as the sequence of a
resident context, and no other id occurs. -/
structure SequencesPartitioned (limit : Nat) (manager : ContextManager) : Prop where
  once : ∀ id : Int, 1 ≤ id → id ≤ limit → manager.occurrences id = 1
  nothingElse : ∀ id : Int, ¬(1 ≤ id ∧ id ≤ limit) → manager.occurrences id = 0
  entries : manager.Sound
  issued : manager.Issued

variable {manager} in
/-- No id occurs twice. -/
theorem SequencesPartitioned.atMostOnce {limit : Nat}
    (partitioned : SequencesPartitioned limit manager) (id : Int) :
    manager.occurrences id ≤ 1 := by
  by_cases inside : 1 ≤ id ∧ id ≤ limit
  · exact le_of_eq (partitioned.once id inside.1 inside.2)
  · rw [partitioned.nothingElse id inside]
    exact Nat.zero_le 1

theorem max_one_fits (maxResidentContexts : UInt64)
    (fits : maxResidentContexts.toNat < 2 ^ 31) :
    (max 1 maxResidentContexts).toNat < 2 ^ 31 := by
  change (if 1 ≤ maxResidentContexts then maxResidentContexts else 1).toNat < 2 ^ 31
  split_ifs
  · exact fits
  · decide

/-- While every number fits an `int`, the constructor adds each one once. -/
theorem pushSequences_tally (limit : Nat) (free : List Int32) (fits : limit < 2 ^ 31) :
    ((pushSequences limit free).map (tally id)).sum =
      (free.map (tally id)).sum + if 1 ≤ id ∧ id ≤ limit then 1 else 0 := by
  induction limit generalizing free with
  | zero =>
      have none : ¬(1 ≤ id ∧ id ≤ (0 : Nat)) := by omega
      rw [if_neg none]
      rfl
  | succ limit ih =>
      have value : (Int32.ofNat (limit + 1)).toInt = (limit : Int) + 1 :=
        Int32.toInt_ofNat_of_lt fits
      have head : tally id (Int32.ofNat (limit + 1)) = if (limit : Int) + 1 = id then 1 else 0 := by
        unfold tally
        rw [value]
      change ((pushSequences limit (Int32.ofNat (limit + 1) :: free)).map (tally id)).sum = _
      rw [ih (Int32.ofNat (limit + 1) :: free) (by omega), List.map_cons, List.sum_cons, head]
      split_ifs <;> omega

theorem create_partitioned (maxResidentContexts maxLogicalContexts : UInt64)
    (fits : (max 1 maxResidentContexts).toNat < 2 ^ 31) :
    SequencesPartitioned (max 1 maxResidentContexts).toNat
      (create maxResidentContexts maxLogicalContexts) := by
  have counted : ∀ id, (create maxResidentContexts maxLogicalContexts).occurrences id =
      if 1 ≤ id ∧ id ≤ (max 1 maxResidentContexts).toNat then 1 else 0 := by
    intro id
    have pushed := pushSequences_tally id (max 1 maxResidentContexts).toNat [] fits
    rw [List.map_nil, List.sum_nil, Nat.zero_add] at pushed
    exact pushed
  exact
    { once := by
        intro id low high
        rw [counted, if_pos ⟨low, high⟩]
      nothingElse := by
        intro id outside
        rw [counted, if_neg outside]
      entries := nofun
      issued := nofun }

theorem step_partitioned (limit : Nat) (operation : Operation)
    (before : SequencesPartitioned limit manager)
    (left : manager.nextContextId.toNat + (manager.creates operation).toNat < 2 ^ 64) :
    SequencesPartitioned limit (manager.step operation) := by
  have conserved : ∀ id, (manager.step operation).occurrences id = manager.occurrences id := by
    intro id
    obtain ⟨lost, balance, kept⟩ := step_occurrences manager id operation
    rw [kept before.issued.fresh] at balance
    exact balance
  exact
    { once := by
        intro id low high
        rw [conserved]
        exact before.once id low high
      nothingElse := by
        intro id outside
        rw [conserved]
        exact before.nothingElse id outside
      entries := step_sound operation before.entries
      issued := step_issued operation before.issued left }

private theorem partitioned_runFrom (maxResidentContexts maxLogicalContexts : UInt64)
    (limit : Nat) (operations : List Operation) (before : SequencesPartitioned limit manager)
    (left : manager.nextContextId.toNat + creations manager operations < 2 ^ 64) :
    SequencesPartitioned limit
      ((machine maxResidentContexts maxLogicalContexts).runFrom manager operations) := by
  induction operations generalizing manager with
  | nil => exact before
  | cons operation rest ih =>
      change manager.nextContextId.toNat +
        ((manager.creates operation).toNat + creations (manager.step operation) rest) < _ at left
      have here : manager.nextContextId.toNat + (manager.creates operation).toNat < 2 ^ 64 := by
        omega
      refine ih (manager.step operation) (step_partitioned manager limit operation before here) ?_
      rw [step_counter operation here]
      omega

/-- In every state of a run the sequences are partitioned, provided that their
numbers fit an `int` and the ids of the contexts do not run out. -/
theorem sequences_partitioned (maxResidentContexts maxLogicalContexts : UInt64)
    (operations : List Operation) (fits : maxResidentContexts.toNat < 2 ^ 31)
    (few : creations (create maxResidentContexts maxLogicalContexts) operations < 2 ^ 64 - 1) :
    SequencesPartitioned (max 1 maxResidentContexts).toNat
      ((machine maxResidentContexts maxLogicalContexts).run operations) := by
  have limit := max_one_fits maxResidentContexts fits
  refine partitioned_runFrom _ maxResidentContexts maxLogicalContexts _ operations
    (create_partitioned maxResidentContexts maxLogicalContexts limit) ?_
  change 1 + creations (create maxResidentContexts maxLogicalContexts) operations < 2 ^ 64
  omega

/-- One resident context for two logical ones: the second agent takes the sequence
of the first, which then takes it back. -/
def takingTurns : List Operation :=
  let always : SwapCallback := fun _ _ error => (true, error)
  let swap : ContextSwapCallbacks := { save := some always, load := some always }
  [.acquire 1 0 0 swap 1 .asStored, .finish 1 2, .acquire 2 0 0 swap 3 .asStored, .finish 2 4,
    .acquire 1 0 0 swap 5 .asStored]

theorem takingTurns_partitioned : SequencesPartitioned 1 ((machine 1 2).run takingTurns) :=
  sequences_partitioned 1 2 takingTurns (by decide) (by decide)

/-! ### Both bounds are needed -/

/-- A manager with room for one context, up to its statistics. -/
private structure Alone (contexts : UnorderedMap ContextId Entry) (free : List Int32)
    (next : ContextId) (manager : ContextManager) : Prop where
  contexts_eq : manager.contexts = contexts
  free_eq : manager.freeSequences = free
  next_eq : manager.nextContextId = next
  room : manager.maxLogicalContexts = 1

/-- One context comes and goes. -/
def visit (contextId : ContextId) : List Operation :=
  [.acquire 1 0 0 none 0 .asStored, .finish contextId 0, .release 1 0 contextId 0]

def visits : Nat → List Operation
  | 0 => []
  | count + 1 => visits count ++ visit (UInt64.ofNat (count + 1))

private theorem alone_acquire (next : ContextId) (before : Alone ∅ [1] next manager) :
    Alone (AList.insert next (newEntry next 1 1 0) ∅) [] (next + 1)
      (manager.step (.acquire 1 0 0 none 0 .asStored)) := by
  obtain ⟨maxResident, maxLogical, contexts, free, counter, stats⟩ := manager
  obtain ⟨rfl, rfl, rfl, rfl⟩ := before
  exact ⟨rfl, rfl, rfl, rfl⟩

private theorem alone_finish (key next : ContextId) (entry : Entry)
    (pinned : entry.pinCount = 1) (before : Alone (AList.insert key entry ∅) [] next manager) :
    Alone (AList.insert key { entry with pinCount := 0, lastAccess := 0 } ∅) [] next
      (manager.step (.finish key 0)) := by
  have found : manager.context? key = some entry := by
    unfold context?
    rw [before.contexts_eq]
    exact AList.lookup_insert ∅
  have result : manager.step (.finish key 0) =
      manager.store key { entry with pinCount := 0, lastAccess := 0 } := by
    simp only [step, finish, found, pinned]
    rfl
  rw [result]
  exact
    { contexts_eq := by
        change manager.contexts.insert key _ = _
        rw [before.contexts_eq, AList.insert_insert]
      free_eq := before.free_eq
      next_eq := before.next_eq
      room := before.room }

private theorem alone_release (key next : ContextId) (entry : Entry)
    (idle : entry.pinCount = 0) (owners : entry.owners = UnorderedSet.add ∅ 1)
    (home : entry.resident = true) (sequence : entry.sequenceId = 1)
    (before : Alone (AList.insert key entry ∅) [] next manager) :
    Alone ∅ [1] next (manager.step (.release 1 0 key 0)) := by
  have found : manager.context? key = some entry := by
    unfold context?
    rw [before.contexts_eq]
    exact AList.lookup_insert ∅
  have owner : owned entry 1 = true := by
    unfold owned
    rw [owners]
    rfl
  have chosen : ownerToRelease entry 1 0 = 1 := by
    unfold ownerToRelease
    rw [owner]
    rfl
  have last : UnorderedSet.remove entry.owners 1 = ∅ := by
    rw [owners]
    rfl
  have result : manager.step (.release 1 0 key 0) =
      (manager.dropOwner.removeContext key
        { entry with owners := UnorderedSet.remove entry.owners 1 }).1 := by
    simp only [step, release, found, chosen, owner, idle, last, Bool.not_true,
      Bool.false_eq_true, if_false, ne_eq, not_true, and_false]
    rfl
  have room : (manager.step (.release 1 0 key 0)).maxLogicalContexts =
      manager.maxLogicalContexts := by
    rw [result]
    unfold removeContext dropOwner
    split <;> split <;> rfl
  refine ⟨?_, ?_, ?_, room.trans before.room⟩
  · rw [result, contexts_removeContext, contexts_dropOwner, before.contexts_eq]
    exact AList.ext (List.kerase_cons_eq rfl)
  · rw [result, freeSequences_removeContext, freeSequences_dropOwner, before.free_eq]
    change (if entry.resident then [entry.sequenceId] else []) = [1]
    rw [if_pos home, sequence]
  · rw [result, nextContextId_removeContext, nextContextId_dropOwner, before.next_eq]

private theorem alone_visits (count : Nat) :
    Alone ∅ [1] (UInt64.ofNat (count + 1)) ((machine 1 1).run (visits count)) := by
  induction count with
  | zero => exact ⟨rfl, rfl, rfl, rfl⟩
  | succ count ih =>
      have acquired := alone_acquire _ (UInt64.ofNat (count + 1)) ih
      have finished := alone_finish _ (UInt64.ofNat (count + 1)) _
        (newEntry (UInt64.ofNat (count + 1)) 1 1 0) rfl acquired
      have released := alone_release _ (UInt64.ofNat (count + 1)) _
        { newEntry (UInt64.ofNat (count + 1)) 1 1 0 with pinCount := 0, lastAccess := 0 }
        rfl rfl rfl rfl finished
      rw [id_succ (count + 1)] at released
      unfold Machine.run at released ⊢
      change Alone ∅ [1] _ ((machine 1 1).runFrom _
        (visits count ++ visit (UInt64.ofNat (count + 1))))
      rw [Machine.runFrom_append]
      exact released

private theorem last_id_wraps (count : Nat) (last : UInt64.ofNat (count + 1) + 1 = 0) :
    ¬SequencesPartitioned 1
      ((machine 1 1).run (visits count ++ [.acquire 1 0 0 none 0 .asStored])) := by
  intro partitioned
  have acquired := alone_acquire _ (UInt64.ofNat (count + 1)) (alone_visits count)
  unfold Machine.run at partitioned acquired
  rw [Machine.runFrom_append] at partitioned
  have present : (((machine 1 1).runFrom (machine 1 1).initial (visits count)).step
      (.acquire 1 0 0 none 0 .asStored)).context? (UInt64.ofNat (count + 1)) =
        some (newEntry (UInt64.ofNat (count + 1)) 1 1 0) := by
    unfold context?
    rw [acquired.contexts_eq]
    exact AList.lookup_insert ∅
  have below := partitioned.issued _ _ present
  change _ < (((machine 1 1).runFrom (machine 1 1).initial (visits count)).step
      (.acquire 1 0 0 none 0 .asStored)).nextContextId at below
  rw [acquired.next_eq, last] at below
  exact UInt64.not_lt_zero below

/-- No `int` is 2³¹. -/
private theorem large_number_missing (empty : manager.contexts = ∅) :
    ¬SequencesPartitioned (2 ^ 31) manager := by
  intro partitioned
  have once := partitioned.once ((2 ^ 31 : Nat) : Int) (by decide) (le_refl _)
  have absent : ∀ sequence : Int32, tally ((2 ^ 31 : Nat) : Int) sequence = 0 := by
    intro sequence
    have bound := sequence.toInt_lt
    unfold tally
    rw [if_neg (by omega)]
  have free : manager.freeOccurrences ((2 ^ 31 : Nat) : Int) = 0 := by
    refine List.sum_eq_zero ?_
    intro count member
    obtain ⟨sequence, _, rfl⟩ := List.mem_map.mp member
    exact absent sequence
  have held : manager.heldOccurrences ((2 ^ 31 : Nat) : Int) = 0 := by
    unfold heldOccurrences
    rw [empty]
    rfl
  unfold occurrences at once
  rw [free, held] at once
  cases once

/-- With 2³¹ resident contexts the last number does not fit an `int`, and the
context that takes the last id leaves the counter at zero. -/
theorem partition_bounds_needed :
    ¬SequencesPartitioned (2 ^ 31) ((machine (UInt64.ofNat (2 ^ 31)) 0).run []) ∧
      ¬SequencesPartitioned 1
        ((machine 1 1).run (visits (2 ^ 64 - 2) ++ [.acquire 1 0 0 none 0 .asStored])) := by
  have start : ∀ limit : UInt64, ((machine limit 0).run []).contexts = ∅ := fun _ => rfl
  have last : (UInt64.ofNat (2 ^ 64 - 2 + 1) + 1 : UInt64) = 0 := by decide
  exact ⟨large_number_missing _ (start (UInt64.ofNat (2 ^ 31))), last_id_wraps (2 ^ 64 - 2) last⟩

end AgentNucleus.Top.ContextManager
