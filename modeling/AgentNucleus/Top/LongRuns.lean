/-
Runs that go round the id counter.  An agent that owns nothing can create a
context, finish and release it any number of times; every visit uses up one id
and leaves the rest of the manager as it was.
-/

import AgentNucleus.Top.ContextHistory

set_option autoImplicit false

namespace AgentNucleus.Top.ContextManager

open AgentNucleus.Library
open AgentNucleus.Runtime (AgentId ContextId TimePoint)

variable (manager : ContextManager)

/-! ### The three calls of a visit -/

theorem findForAgentLocked_stranger (agentId : AgentId) (order : IterationOrder ContextId)
    (stranger : ∀ key entry, manager.context? key = some entry → owned entry agentId = false) :
    manager.findForAgentLocked agentId order = none := by
  cases search : manager.findForAgentLocked agentId order with
  | none => rfl
  | some key =>
      obtain ⟨entry, found, owner⟩ := findForAgentLocked_some manager agentId order key search
      rw [stranger key entry found] at owner
      cases owner

/-- With room and a free sequence a stranger gets a new context. -/
theorem acquire_stranger (agentId parentId : AgentId) (swap : Option ContextSwapCallbacks)
    (now : TimePoint) (order : IterationOrder ContextId) (sequence : Int32) (rest : List Int32)
    (named : agentId ≠ 0)
    (stranger : ∀ key entry, manager.context? key = some entry → owned entry agentId = false)
    (room : manager.contexts.keys.length < manager.maxLogicalContexts.toNat)
    (free : manager.freeSequences = sequence :: rest) :
    manager.acquire agentId parentId 0 swap now order =
      (({ manager with freeSequences := rest } : ContextManager).insertNew sequence agentId now,
        [], some {
          contextId := manager.nextContextId
          sequenceId := sequence
          created := true }) := by
  unfold acquire
  rw [if_neg named, if_pos rfl, findForAgentLocked_stranger manager agentId order stranger]
  change manager.acquireNew agentId swap now order = _
  unfold acquireNew obtainSequenceLocked
  rw [if_neg (not_le.mpr room), free]

theorem finish_pinned (contextId : ContextId) (now : TimePoint) (entry : Entry)
    (found : manager.context? contextId = some entry) (pinned : entry.pinCount ≠ 0) :
    (manager.finish contextId now).1 =
      manager.store contextId
        { entry with pinCount := entry.pinCount - 1, lastAccess := now } := by
  unfold finish
  rw [found]
  simp only [if_neg pinned]

/-- The only owner of an idle context releases it. -/
theorem release_alone (agentId parentId : AgentId) (contextId : ContextId) (now : TimePoint)
    (entry : Entry) (found : manager.context? contextId = some entry)
    (only : entry.owners = UnorderedSet.add ∅ agentId) (idle : entry.pinCount = 0) :
    (manager.release agentId parentId contextId now).1 =
      (manager.dropOwner.removeContext contextId { entry with owners := ∅ }).1 := by
  have member : owned entry agentId = true := by
    unfold owned
    rw [only, UnorderedMap.contains_iff, UnorderedSet.mem_add]
    exact Or.inl rfl
  have owner : ownerToRelease entry agentId parentId = agentId := by
    unfold ownerToRelease
    rw [member]
    rfl
  have busy : ¬(entry.owners.keys.length = 1 ∧ entry.pinCount ≠ 0) := by
    intro both
    exact both.2 idle
  have emptied : UnorderedSet.remove entry.owners agentId = ∅ := by
    rw [only]
    apply AList.ext
    exact List.kerase_cons_eq rfl
  unfold release
  rw [found]
  simp only [owner, member, emptied, if_neg busy, Bool.not_true, Bool.false_eq_true, if_false]
  rfl

/-! ### A visit -/

/-- The agent comes and goes once; the context it creates has the given id. -/
def passage (agentId : AgentId) (swap : Option ContextSwapCallbacks) (contextId : ContextId) :
    List Operation :=
  [.acquire agentId 0 0 swap 0 .asStored, .finish contextId 0, .release agentId 0 contextId 0]

/-- `count` visits, the first of which creates the context `first + 1`. -/
def passages (agentId : AgentId) (swap : Option ContextSwapCallbacks) (first : Nat) :
    Nat → List Operation
  | 0 => []
  | count + 1 =>
      passages agentId swap first count ++
        passage agentId swap (UInt64.ofNat (first + count + 1))

/-- What a visit finds and leaves. -/
structure Waiting (contexts : UnorderedMap ContextId Entry) (free : List Int32)
    (next : ContextId) (active : UInt64) (manager : ContextManager) : Prop where
  contexts_eq : manager.contexts = contexts
  free_eq : manager.freeSequences = free
  next_eq : manager.nextContextId = next
  active_eq : manager.stats.activeContexts = active
  room : contexts.keys.length < manager.maxLogicalContexts.toNat

/-- The context of a visitor whose lease is finished. -/
def idleEntry (id : ContextId) (sequence : Int32) (agentId : AgentId) : Entry :=
  { newEntry id sequence agentId 0 with pinCount := 0 }

/-- The visitor has finished its lease and not yet released the context. -/
structure Entered (contexts : UnorderedMap ContextId Entry) (agentId : AgentId)
    (sequence : Int32) (free : List Int32) (key : ContextId) (active maxLogical : UInt64)
    (manager : ContextManager) : Prop where
  contexts_eq : manager.contexts = AList.insert key (idleEntry key sequence agentId) contexts
  free_eq : manager.freeSequences = free
  next_eq : manager.nextContextId = key + 1
  active_eq : manager.stats.activeContexts = active + 1
  limit_eq : manager.maxLogicalContexts = maxLogical

private theorem active_leaving (key : ContextId) (left : Entry) :
    (manager.dropOwner.removeContext key left).1.stats.activeContexts =
      manager.stats.activeContexts - 1 := by
  unfold removeContext dropOwner
  split <;> split <;> rfl

private theorem room_leaving (key : ContextId) (left : Entry) :
    (manager.dropOwner.removeContext key left).1.maxLogicalContexts =
      manager.maxLogicalContexts := by
  unfold removeContext dropOwner
  split <;> split <;> rfl

variable {manager}

/-- What the visitor's first two calls answer, and what they leave. -/
theorem Waiting.enter {contexts : UnorderedMap ContextId Entry} {sequence : Int32}
    {rest : List Int32} {next : ContextId} {active : UInt64} (agentId : AgentId)
    (swap : Option ContextSwapCallbacks)
    (waiting : Waiting contexts (sequence :: rest) next active manager) (named : agentId ≠ 0)
    (stranger : ∀ key entry, contexts.lookup key = some entry → owned entry agentId = false)
    (fresh : contexts.lookup next = none) :
    (manager.acquire agentId 0 0 swap 0 .asStored).2.2 =
        some { contextId := next, sequenceId := sequence, created := true } ∧
      ((manager.acquire agentId 0 0 swap 0 .asStored).1.finish next 0).2.2 = true ∧
      Entered contexts agentId sequence rest next active manager.maxLogicalContexts
        ((manager.acquire agentId 0 0 swap 0 .asStored).1.finish next 0).1 := by
  obtain ⟨maxResident, maxLogical, table, free, counter, stats⟩ := manager
  obtain ⟨rfl, rfl, rfl, rfl, room⟩ := waiting
  have first := acquire_stranger
    { maxResidentContexts := maxResident, maxLogicalContexts := maxLogical, contexts := table,
      freeSequences := sequence :: rest, nextContextId := counter, stats := stats }
    agentId 0 swap 0 .asStored sequence rest named stranger room rfl
  rw [first]
  refine ⟨rfl, ?_⟩
  have created := contexts_insertNew_fresh
    { maxResidentContexts := maxResident, maxLogicalContexts := maxLogical, contexts := table,
      freeSequences := rest, nextContextId := counter, stats := stats }
    sequence agentId 0 fresh
  generalize acquired_eq :
    ({ maxResidentContexts := maxResident, maxLogicalContexts := maxLogical, contexts := table,
       freeSequences := rest, nextContextId := counter, stats := stats } :
      ContextManager).insertNew sequence agentId 0 = acquired at created
  have found : acquired.context? counter = some (newEntry counter sequence agentId 0) := by
    unfold context?
    rw [created]
    exact AList.lookup_insert table
  have pinned : (newEntry counter sequence agentId 0).pinCount ≠ 0 := by
    change (1 : UInt64) ≠ 0
    decide
  have unpinned : (newEntry counter sequence agentId 0).pinCount - 1 = 0 := by
    change (1 : UInt64) - 1 = 0
    decide
  have second : acquired.finish counter 0 =
      (acquired.store counter (idleEntry counter sequence agentId), [], true) := by
    unfold finish
    rw [found]
    simp only [if_neg pinned, unpinned]
    rfl
  rw [second]
  refine ⟨rfl, ?_, ?_, ?_, ?_, ?_⟩
  · change acquired.contexts.insert counter (idleEntry counter sequence agentId) = _
    rw [created]
    exact AList.insert_insert ..
  · rw [← acquired_eq]
    rfl
  · rw [← acquired_eq]
    rfl
  · rw [← acquired_eq]
    rfl
  · rw [← acquired_eq]
    rfl

/-- The release gives everything back but the id. -/
theorem Entered.leave {contexts : UnorderedMap ContextId Entry} {agentId : AgentId}
    {sequence : Int32} {rest : List Int32} {key : ContextId} {active maxLogical : UInt64}
    (entered : Entered contexts agentId sequence rest key active maxLogical manager)
    (room : contexts.keys.length < maxLogical.toNat) (fresh : contexts.lookup key = none) :
    Waiting contexts (sequence :: rest) (key + 1) active
      (manager.release agentId 0 key 0).1 := by
  have absent : key ∉ contexts := AList.lookup_eq_none.mp fresh
  have found : manager.context? key = some (idleEntry key sequence agentId) := by
    unfold context?
    rw [entered.contexts_eq]
    exact AList.lookup_insert contexts
  rw [release_alone manager agentId 0 key 0 (idleEntry key sequence agentId) found rfl rfl]
  constructor
  · rw [contexts_removeContext, contexts_dropOwner, entered.contexts_eq]
    apply AList.ext
    change List.kerase key (AList.insert key _ contexts).entries = contexts.entries
    rw [AList.entries_insert_of_notMem absent]
    exact List.kerase_cons_eq rfl
  · rw [freeSequences_removeContext, freeSequences_dropOwner, entered.free_eq]
    rfl
  · rw [nextContextId_removeContext, nextContextId_dropOwner]
    exact entered.next_eq
  · rw [active_leaving, entered.active_eq]
    exact UInt64.add_sub_cancel ..
  · rw [room_leaving, entered.limit_eq]
    exact room

/-- A visit gives everything back but the id. -/
theorem Waiting.passage {contexts : UnorderedMap ContextId Entry} {sequence : Int32}
    {rest : List Int32} {next : ContextId} {active : UInt64}
    (maxResidentContexts maxLogicalContexts : UInt64) (agentId : AgentId)
    (swap : Option ContextSwapCallbacks)
    (waiting : Waiting contexts (sequence :: rest) next active manager) (named : agentId ≠ 0)
    (stranger : ∀ key entry, contexts.lookup key = some entry → owned entry agentId = false)
    (fresh : contexts.lookup next = none) :
    Waiting contexts (sequence :: rest) (next + 1) active
      ((machine maxResidentContexts maxLogicalContexts).runFrom manager
        (passage agentId swap next)) :=
  (waiting.enter agentId swap named stranger fresh).2.2.leave waiting.room fresh

/-- So do any number of visits, as long as no id is one of the stored contexts. -/
theorem Waiting.passages {contexts : UnorderedMap ContextId Entry} {sequence : Int32}
    {rest : List Int32} {first : Nat} {active : UInt64}
    (maxResidentContexts maxLogicalContexts : UInt64) (agentId : AgentId)
    (swap : Option ContextSwapCallbacks) (count : Nat)
    (waiting : Waiting contexts (sequence :: rest) (UInt64.ofNat (first + 1)) active manager)
    (named : agentId ≠ 0)
    (stranger : ∀ key entry, contexts.lookup key = some entry → owned entry agentId = false)
    (fresh : ∀ visited < count, contexts.lookup (UInt64.ofNat (first + visited + 1)) = none) :
    Waiting contexts (sequence :: rest) (UInt64.ofNat (first + count + 1)) active
      ((machine maxResidentContexts maxLogicalContexts).runFrom manager
        (passages agentId swap first count)) := by
  induction count with
  | zero => exact waiting
  | succ count ih =>
      have before := ih fun visited below => fresh visited (Nat.lt_succ_of_lt below)
      have after := before.passage maxResidentContexts maxLogicalContexts agentId swap named
        stranger (fresh count (Nat.lt_succ_self count))
      rw [id_succ (first + count + 1)] at after
      change Waiting _ _ _ _ ((machine maxResidentContexts maxLogicalContexts).runFrom manager
        (ContextManager.passages agentId swap first count ++
          ContextManager.passage agentId swap (UInt64.ofNat (first + count + 1))))
      rw [Machine.runFrom_append]
      exact after

/-! ### Back to an id in use -/

/-- The context 1 of agent 2. -/
def firstEntry : Entry := newEntry 1 1 2 0

/-- Agent 2 keeps context 1 while agent 1 uses up all other ids. -/
def comingRound : List Operation :=
  .acquire 2 0 0 none 0 .asStored :: passages 1 none 1 (2 ^ 64 - 1)

theorem firstEntry_only {key : ContextId} {entry : Entry}
    (found : (AList.insert 1 firstEntry ∅ : UnorderedMap ContextId Entry).lookup key = some entry) :
    key = 1 ∧ entry = firstEntry := by
  rw [UnorderedMap.lookup_insert_if] at found
  by_cases same : key = 1
  · rw [if_pos same] at found
    cases found
    exact ⟨same, rfl⟩
  · rw [if_neg same] at found
    cases found

theorem comingRound_waiting :
    Waiting (AList.insert 1 firstEntry ∅) [2] 1 1 ((machine 2 2).run comingRound) := by
  have start : Waiting (AList.insert 1 firstEntry ∅) [2] (UInt64.ofNat (1 + 1)) 1
      ((machine 2 2).step (machine 2 2).initial (.acquire 2 0 0 none 0 .asStored)) :=
    ⟨rfl, rfl, rfl, rfl, by decide⟩
  have stranger : ∀ key entry,
      (AList.insert 1 firstEntry ∅ : UnorderedMap ContextId Entry).lookup key = some entry →
        owned entry 1 = false := by
    intro key entry found
    rw [(firstEntry_only found).2]
    decide
  have fresh : ∀ visited < 2 ^ 64 - 1,
      (AList.insert 1 firstEntry ∅ : UnorderedMap ContextId Entry).lookup
        (UInt64.ofNat (1 + visited + 1)) = none := by
    intro visited below
    cases found : (AList.insert 1 firstEntry ∅ : UnorderedMap ContextId Entry).lookup
        (UInt64.ofNat (1 + visited + 1)) with
    | none => rfl
    | some entry =>
        have same := congrArg UInt64.toNat (firstEntry_only found).1
        rw [UInt64.toNat_ofNat'] at same
        change (1 + visited + 1) % 2 ^ 64 = 1 at same
        omega
  have after := start.passages 2 2 1 none (2 ^ 64 - 1) (by decide) stranger fresh
  have round : UInt64.ofNat (1 + (2 ^ 64 - 1) + 1) = 1 := by decide
  rw [round] at after
  unfold Machine.run comingRound
  rw [Machine.runFrom_cons]
  exact after

/-- By then the next id is that of the context which agent 2 has kept. -/
theorem Waiting.nextUsed {manager : ContextManager}
    (waiting : Waiting (AList.insert 1 firstEntry ∅) [2] 1 1 manager) :
    manager.context? manager.nextContextId = some firstEntry := by
  unfold context?
  rw [waiting.contexts_eq, waiting.next_eq]
  exact AList.lookup_insert ∅

/-- Agent 1 gets a lease with that id nevertheless. -/
theorem Waiting.acquireAgain {manager : ContextManager}
    (waiting : Waiting (AList.insert 1 firstEntry ∅) [2] 1 1 manager) :
    manager.acquire 1 0 0 none 0 .asStored =
      (({ manager with freeSequences := [] } : ContextManager).insertNew 2 1 0, [],
        some { contextId := manager.nextContextId, sequenceId := 2, created := true }) := by
  have stranger : ∀ key entry, manager.context? key = some entry → owned entry 1 = false := by
    intro key entry present
    unfold context? at present
    rw [waiting.contexts_eq] at present
    rw [(firstEntry_only present).2]
    decide
  have room : manager.contexts.keys.length < manager.maxLogicalContexts.toNat := by
    rw [waiting.contexts_eq]
    exact waiting.room
  exact acquire_stranger manager 1 0 none 0 .asStored 2 [] (by decide) stranger room
    waiting.free_eq

/-! ### One agent leasing its context again and again -/

/-- A context that is home is leased without touching anything else. -/
theorem acquire_owner (manager : ContextManager) (agentId parentId : AgentId)
    (swap : Option ContextSwapCallbacks) (now : TimePoint) (order : IterationOrder ContextId)
    (key : ContextId) (entry : Entry) (named : agentId ≠ 0)
    (search : manager.findForAgentLocked agentId order = some key)
    (found : manager.context? key = some entry) (home : entry.resident = true) :
    manager.acquire agentId parentId 0 swap now order =
      (manager.store key (pin entry now), [], some (leaseOf entry false)) := by
  unfold acquire
  rw [if_neg named, if_pos rfl, search]
  change manager.acquireExisting key swap now order = _
  unfold acquireExisting makeResidentLocked
  simp only [found, home, if_true, Bool.not_true]

/-- Context 1 of agent 1 is alone and home. -/
structure AloneAtHome (entry : Entry) (manager : ContextManager) : Prop where
  contexts_eq : manager.contexts = AList.insert 1 entry ∅
  id_eq : entry.id = 1
  home : entry.resident = true
  owner : owned entry 1 = true

/-- Agent 1 asks for its context. -/
def leaseAgain : Operation := .acquire 1 0 0 none 0 .asStored

theorem AloneAtHome.acquire {entry : Entry} (alone : AloneAtHome entry manager) :
    manager.acquire 1 0 0 none 0 .asStored =
      (manager.store 1 (pin entry 0), [], some (leaseOf entry false)) := by
  have found : manager.context? 1 = some entry := by
    unfold context?
    rw [alone.contexts_eq]
    exact AList.lookup_insert ∅
  have search : manager.findForAgentLocked 1 .asStored = some 1 := by
    unfold findForAgentLocked traversal
    rw [alone.contexts_eq]
    change List.find? _ [1] = some 1
    rw [List.find?_cons, found]
    change (match owned entry 1 with | true => some (1 : ContextId) | false => _) = _
    rw [alone.owner]
  exact acquire_owner manager 1 0 none 0 .asStored 1 entry (by decide) search found alone.home

theorem AloneAtHome.step {entry : Entry} (alone : AloneAtHome entry manager) :
    AloneAtHome (pin entry 0) (manager.step leaseAgain) := by
  have acquired := alone.acquire
  change AloneAtHome (pin entry 0) (manager.acquire 1 0 0 none 0 .asStored).1
  rw [acquired]
  constructor
  · change manager.contexts.insert 1 (pin entry 0) = _
    rw [alone.contexts_eq]
    exact AList.insert_insert ..
  · exact alone.id_eq
  · exact alone.home
  · exact alone.owner

/-! ### Agents filling a manager -/

/-- Agents `1` to `count` take a context each. -/
def crowd : Nat → List Operation
  | 0 => []
  | count + 1 => crowd count ++ [.acquire (UInt64.ofNat (count + 1)) 0 0 none 0 .asStored]

theorem crowd_succ (count : Nat) :
    ∃ later, crowd (count + 1) = .acquire 1 0 0 none 0 .asStored :: later ∧
      ∀ operation ∈ later, ∃ agentId, operation = .acquire agentId 0 0 none 0 .asStored := by
  induction count with
  | zero => exact ⟨[], rfl, nofun⟩
  | succ count ih =>
      obtain ⟨later, same, acquires⟩ := ih
      refine ⟨later ++ [.acquire (UInt64.ofNat (count + 1 + 1)) 0 0 none 0 .asStored], ?_, ?_⟩
      · change crowd (count + 1) ++ _ = _
        rw [same]
        rfl
      · intro operation member
        rcases List.mem_append.mp member with inside | last
        · exact acquires operation inside
        · exact ⟨_, List.mem_singleton.mp last⟩

/-- Every one of them has a context, and the context of agent `n + 1` is on the
`n`-th of the sequences that were free at the start. -/
structure Filled (sequences : List Int32) (count : Nat) (manager : ContextManager) : Prop where
  free_eq : manager.freeSequences = sequences.drop count
  next_eq : manager.nextContextId = UInt64.ofNat (count + 1)
  stored : manager.contexts.keys.length = count
  owners : ∀ key entry, manager.context? key = some entry →
    ∃ index < count, key = UInt64.ofNat (index + 1) ∧
      entry.owners = UnorderedSet.add ∅ (UInt64.ofNat (index + 1))
  taken : ∀ index < count, ∃ entry sequence,
    manager.context? (UInt64.ofNat (index + 1)) = some entry ∧
      entry.resident = true ∧ sequences[index]? = some sequence ∧
      entry.sequenceId = sequence
  limit : sequences.length ≤ manager.maxLogicalContexts.toNat

private theorem ofNat_succ_ne {first second : Nat} (low : first < 2 ^ 64 - 1)
    (high : second < 2 ^ 64 - 1) (different : first ≠ second) :
    UInt64.ofNat (first + 1) ≠ UInt64.ofNat (second + 1) := by
  intro same
  have equal := congrArg UInt64.toNat same
  rw [UInt64.toNat_ofNat', UInt64.toNat_ofNat'] at equal
  omega

private theorem ofNat_succ_ne_zero {index : Nat} (low : index < 2 ^ 64 - 1) :
    UInt64.ofNat (index + 1) ≠ 0 := by
  intro same
  have equal := congrArg UInt64.toNat same
  rw [UInt64.toNat_ofNat'] at equal
  change (index + 1) % 2 ^ 64 = 0 at equal
  omega

/-- The next agent takes the next sequence. -/
theorem Filled.step {sequences : List Int32} {count : Nat}
    (filled : Filled sequences count manager) (more : count < sequences.length) :
    Filled sequences (count + 1)
      (manager.step (.acquire (UInt64.ofNat (count + 1)) 0 0 none 0 .asStored)) := by
  have limit := filled.limit
  have below := UInt64.toNat_lt manager.maxLogicalContexts
  have stranger : ∀ key entry, manager.context? key = some entry →
      owned entry (UInt64.ofNat (count + 1)) = false := by
    intro key entry present
    obtain ⟨index, small, named, owners⟩ := filled.owners key entry present
    unfold owned
    rw [owners, Bool.eq_false_iff]
    intro member
    rw [UnorderedMap.contains_iff, UnorderedSet.mem_add] at member
    rcases member with same | absent
    · exact ofNat_succ_ne (by omega) (by omega) (by omega) same
    · exact absurd absent (AList.notMem_empty _)
  have missing : manager.context? manager.nextContextId = none := by
    cases present : manager.context? manager.nextContextId with
    | none => rfl
    | some entry =>
        obtain ⟨index, small, named, owners⟩ := filled.owners _ entry present
        rw [filled.next_eq] at named
        exact absurd named (ofNat_succ_ne (by omega) (by omega) (by omega))
  have room : manager.contexts.keys.length < manager.maxLogicalContexts.toNat := by
    rw [filled.stored]
    omega
  have free := filled.free_eq
  rw [List.drop_eq_getElem_cons more] at free
  have acquired := acquire_stranger manager (UInt64.ofNat (count + 1)) 0 none 0 .asStored
    sequences[count] (sequences.drop (count + 1)) (ofNat_succ_ne_zero (by omega)) stranger room
    free
  change Filled sequences (count + 1)
    (manager.acquire (UInt64.ofNat (count + 1)) 0 0 none 0 .asStored).1
  rw [acquired]
  have contexts := contexts_insertNew_fresh
    { manager with freeSequences := sequences.drop (count + 1) } sequences[count]
    (UInt64.ofNat (count + 1)) 0 missing
  have lookup : ∀ key, (({ manager with
        freeSequences := sequences.drop (count + 1) } : ContextManager).insertNew
          sequences[count] (UInt64.ofNat (count + 1)) 0).context? key =
      if key = manager.nextContextId then
        some (newEntry manager.nextContextId sequences[count] (UInt64.ofNat (count + 1)) 0)
      else manager.context? key := by
    intro key
    unfold context?
    rw [contexts, UnorderedMap.lookup_insert_if]
  constructor
  · rfl
  · change manager.nextContextId + 1 = _
    rw [filled.next_eq]
    exact id_succ (count + 1)
  · rw [contexts, ← UnorderedMap.total_one, UnorderedMap.total_insert_fresh _ _ _ _ missing,
      UnorderedMap.total_one, filled.stored, Nat.add_comm]
  · intro key entry present
    rw [lookup] at present
    by_cases same : key = manager.nextContextId
    · rw [if_pos same] at present
      cases present
      exact ⟨count, Nat.lt_succ_self count, same.trans filled.next_eq, rfl⟩
    · rw [if_neg same] at present
      obtain ⟨index, small, rest⟩ := filled.owners key entry present
      exact ⟨index, Nat.lt_succ_of_lt small, rest⟩
  · intro index small
    rw [lookup]
    by_cases last : index = count
    · subst last
      rw [if_pos filled.next_eq.symm]
      exact ⟨_, sequences[index], rfl, rfl, List.getElem?_eq_getElem more, rfl⟩
    · have earlier : UInt64.ofNat (index + 1) ≠ manager.nextContextId := by
        rw [filled.next_eq]
        exact ofNat_succ_ne (by omega) (by omega) last
      rw [if_neg earlier]
      exact filled.taken index (by omega)
  · exact limit

theorem crowd_filled (maxResidentContexts maxLogicalContexts : UInt64) (count : Nat)
    (below : count ≤ (create maxResidentContexts maxLogicalContexts).freeSequences.length)
    (limit : (create maxResidentContexts maxLogicalContexts).freeSequences.length ≤
      (create maxResidentContexts maxLogicalContexts).maxLogicalContexts.toNat) :
    Filled (create maxResidentContexts maxLogicalContexts).freeSequences count
      ((machine maxResidentContexts maxLogicalContexts).run (crowd count)) := by
  induction count with
  | zero => exact ⟨rfl, rfl, rfl, nofun, nofun, limit⟩
  | succ count ih =>
      have before := ih (by omega)
      have after := before.step (by omega)
      change Filled _ (count + 1) ((machine maxResidentContexts maxLogicalContexts).runFrom _
        (crowd count ++ [_]))
      rw [Machine.runFrom_append]
      exact after

end AgentNucleus.Top.ContextManager
