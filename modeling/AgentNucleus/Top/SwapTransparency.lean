/-
Swapping does not show.  A manager with few sequences whose swap callbacks always
succeed and one that has a sequence for every context answer alike, as long as no
acquire meets an open lease.
-/

import AgentNucleus.Top.LogicalContexts
import AgentNucleus.Top.LongRuns
import AgentNucleus.Top.SequenceBalance

set_option autoImplicit false

namespace AgentNucleus.Top.ContextManager

open AgentNucleus.Library
open AgentNucleus.Runtime (AgentId ContextId StdString TimePoint text)

variable {manager : ContextManager} {logical : LogicalContexts}

/-! ### A manager with a sequence for every context -/

/-- Every context is home, and the free sequences suffice for all others. -/
structure AtHome (manager : ContextManager) : Prop where
  balanced : Balanced 0 manager
  home : ∀ key entry, manager.context? key = some entry → entry.resident = true
  ample : manager.maxResidentContexts = manager.maxLogicalContexts

/-- A free sequence is left as long as there is room for a context. -/
theorem AtHome.free (home : AtHome manager)
    (room : manager.contexts.keys.length < manager.maxLogicalContexts.toNat) :
    ∃ sequence rest, manager.freeSequences = sequence :: rest := by
  have split := resident_add_swapped manager
  have swapped : entryTotal swappedCount manager = 0 := by
    apply UnorderedMap.total_eq_zero
    intro key entry present
    exact (counts_home entry (home.home key entry present)).2
  have balanced := home.balanced
  unfold Balanced at balanced
  rw [home.ample] at balanced
  unfold storedContexts at split
  cases free : manager.freeSequences with
  | cons sequence rest => exact ⟨sequence, rest, rfl⟩
  | nil =>
      rw [free] at balanced
      change 0 + _ + 0 = _ at balanced
      omega

theorem AtHome.serving (home : AtHome manager) (order : IterationOrder ContextId) :
    Serving manager none order := by
  constructor
  · intro room
    obtain ⟨sequence, rest, free⟩ := home.free room
    refine ⟨{ manager with freeSequences := rest }, [], sequence, ?_⟩
    unfold obtainSequenceLocked
    rw [free]
  · intro key entry present
    refine ⟨manager, [], entry, ?_, rfl⟩
    unfold makeResidentLocked
    rw [if_pos (home.home key entry present)]

private theorem AtHome.acquired {agentId parentId : AgentId} {requestedContext : ContextId}
    {now : TimePoint} {after : ContextManager} {result : Option ContextLease}
    (acquired : manager.Acquired agentId parentId requestedContext now after result)
    (home : AtHome manager) (fresh : manager.context? manager.nextContextId = none)
    (key : ContextId) (current : Entry) (found : after.context? key = some current) :
    current.resident = true := by
  cases acquired with
  | refused => exact home.home key current found
  | unrestored other entry obtained sequence granted away taken =>
      rw [home.home other entry granted.1] at away
      cases away
  | restored other entry obtained sequence granted away taken =>
      rw [home.home other entry granted.1] at away
      cases away
  | created obtained sequence default stranger room taken =>
      obtain ⟨first, rest, free⟩ := home.free room
      cases taken with
      | swappedOut order victim entry exhausted candidate =>
          rw [free] at exhausted
          cases exhausted
      | popped sequence rest free =>
          unfold context? at found
          rw [contexts_insertNew_fresh { manager with freeSequences := rest } sequence agentId now
            fresh, UnorderedMap.lookup_insert_if] at found
          by_cases same : key = manager.nextContextId
          · rw [if_pos same] at found
            cases found
            rfl
          · rw [if_neg same] at found
            exact home.home key current found
  | leased other entry granted resident =>
      rw [context?_lease] at found
      by_cases same : key = other
      · rw [if_pos same] at found
        cases found
        exact (leased_pin manager agentId now entry false resident).resident
      · rw [if_neg same] at found
        exact home.home key current found

/-- Without callbacks every context stays home. -/
theorem AtHome.step (home : AtHome manager)
    (fresh : manager.context? manager.nextContextId = none) (operation : Operation) :
    AtHome (manager.step operation) := by
  have limits := @step_limits manager operation
  refine ⟨step_balanced operation home.balanced fresh, ?_, ?_⟩
  · intro key current found
    cases operation with
    | acquire agentId parentId requestedContext swap now order =>
        exact AtHome.acquired
          (acquire_spec manager agentId parentId requestedContext swap now order)
          home fresh key current found
    | finish contextId now =>
        cases present : manager.context? key with
        | none =>
            have gone := (finish_spec manager contextId now).stored key present
            exact absurd (found.symm.trans gone) nofun
        | some entry =>
            obtain ⟨after, left, same | finished⟩ :=
              (finish_spec manager contextId now).entry key entry present
            · cases found.symm.trans left
              rw [same.1]
              exact home.home key entry present
            · cases found.symm.trans left
              rw [finished.2.2.2]
              exact home.home key entry present
    | release agentId parentId contextId now =>
        cases present : manager.context? key with
        | none =>
            have gone := (release_spec manager agentId parentId contextId now).stored key present
            exact absurd (found.symm.trans gone) nofun
        | some entry =>
            have loses :=
              (release_spec manager agentId parentId contextId now).entry key entry present
            change (manager.release agentId parentId contextId now).1.context? key = _ at found
            rw [found] at loses
            have resident := home.home key entry present
            generalize (manager.release agentId parentId contextId now).2 = result at loses
            cases loses with
            | refused message => exact resident
            | elsewhere different result => exact resident
            | left owner named chosen member shared => exact resident
  · exact (congrArg Prod.fst limits).trans (home.ample.trans (congrArg Prod.snd limits).symm)

/-! ### A manager that can always swap -/

/-- Callbacks that always succeed. -/
structure AlwaysSwap where
  save : SwapCallback
  load : SwapCallback
  saves : ∀ contextId sequence error, (save contextId sequence error).1 = true
  loads : ∀ contextId sequence error, (load contextId sequence error).1 = true

def AlwaysSwap.callbacks (swap : AlwaysSwap) : ContextSwapCallbacks :=
  { save := some swap.save, load := some swap.load }

private theorem AlwaysSwap.saveCallback_eq (swap : AlwaysSwap) :
    saveCallback (some swap.callbacks) = some swap.save := rfl

private theorem AlwaysSwap.loadCallback_eq (swap : AlwaysSwap) :
    loadCallback (some swap.callbacks) = some swap.load := rfl

/-- With an unpinned context in every sequence, one of them can be taken. -/
theorem obtain_idle (balanced : Balanced 0 manager)
    (positive : 0 < manager.maxResidentContexts.toNat)
    (idle : ∀ key entry, manager.context? key = some entry → entry.pinCount = 0)
    (excludedContext : ContextId)
    (other : ∀ key entry, manager.context? key = some entry → entry.resident = true →
      entry.id ≠ excludedContext)
    (swap : AlwaysSwap) (order : IterationOrder ContextId) :
    ∃ after written sequence,
      manager.obtainSequenceLocked excludedContext (some swap.callbacks) [] order =
        (after, written, some sequence) := by
  unfold obtainSequenceLocked
  cases free : manager.freeSequences with
  | cons sequence rest => exact ⟨_, _, _, rfl⟩
  | nil =>
      have searched := swapOutCandidate_searched manager excludedContext order
      cases candidate : manager.swapOutCandidate excludedContext order with
      | some best =>
          have saved := swap.saves best.2.id best.2.sequenceId []
          dsimp only
          rw [swap.saveCallback_eq]
          dsimp only
          rcases outcome : swap.save best.2.id best.2.sequenceId [] with ⟨_ | _, written⟩
          · rw [outcome] at saved
            cases saved
          · exact ⟨_, _, _, rfl⟩
      | none =>
          rw [candidate] at searched
          have nobody : entryTotal residentCount manager = 0 := by
            apply UnorderedMap.total_eq_zero
            intro key entry present
            have visited : key ∈ manager.traversal order :=
              (mem_traversal manager order key).mpr ⟨entry, present⟩
            have skip := searched key visited entry present
            cases home : entry.resident with
            | false => exact (counts_away entry home).1
            | true =>
                have different := beq_eq_false_iff_ne.mpr (other key entry present home)
                unfold skipped at skip
                rw [home, idle key entry present, different] at skip
                cases skip
          unfold Balanced at balanced
          rw [free, nobody] at balanced
          change 0 = _ at balanced
          omega

theorem serving_idle (balanced : Balanced 0 manager)
    (positive : 0 < manager.maxResidentContexts.toNat) (sound : manager.Sound)
    (idle : ∀ key entry, manager.context? key = some entry → entry.pinCount = 0)
    (issued : ∀ key entry, manager.context? key = some entry → key ≠ 0)
    (swap : AlwaysSwap) (order : IterationOrder ContextId) :
    Serving manager (some swap.callbacks) order := by
  constructor
  · intro room
    apply obtain_idle balanced positive idle 0
    intro key entry present home
    rw [(sound key entry present).ownId]
    exact issued key entry present
  · intro key entry present
    unfold makeResidentLocked
    cases home : entry.resident with
    | true => exact ⟨manager, [], entry, rfl, rfl⟩
    | false =>
        have other : ∀ rival held, manager.context? rival = some held → held.resident = true →
            held.id ≠ entry.id := by
          intro rival held found rivalHome same
          rw [(sound rival held found).ownId, (sound key entry present).ownId] at same
          subst same
          cases found.symm.trans present
          rw [home] at rivalHome
          cases rivalHome
        obtain ⟨obtained, written, sequence, sought⟩ :=
          obtain_idle balanced positive idle entry.id other swap order
        have loaded := swap.loads entry.id sequence written
        rw [if_neg Bool.false_ne_true, sought]
        dsimp only
        rw [swap.loadCallback_eq]
        dsimp only
        rcases outcome : swap.load entry.id sequence written with ⟨_ | _, final⟩
        · rw [outcome] at loaded
          cases loaded
        · exact ⟨_, _, _, rfl, rfl⟩

/-! ### Two managers side by side -/

/-- A call as both managers receive it; they have clocks and tables of their own. -/
inductive Call where
  | acquire (agentId parentId : AgentId) (requestedContext : ContextId) (swap : AlwaysSwap)
      (now plainNow : TimePoint) (order plainOrder : IterationOrder ContextId)
  | finish (contextId : ContextId) (now plainNow : TimePoint)
  | release (agentId parentId : AgentId) (contextId : ContextId) (now plainNow : TimePoint)

def Call.swapping : Call → Operation
  | .acquire agentId parentId requestedContext swap now _ order _ =>
      .acquire agentId parentId requestedContext (some swap.callbacks) now order
  | .finish contextId now _ => .finish contextId now
  | .release agentId parentId contextId now _ => .release agentId parentId contextId now

def Call.plain : Call → Operation
  | .acquire agentId parentId requestedContext _ _ plainNow _ plainOrder =>
      .acquire agentId parentId requestedContext none plainNow plainOrder
  | .finish contextId _ plainNow => .finish contextId plainNow
  | .release agentId parentId contextId _ plainNow =>
      .release agentId parentId contextId plainNow

/-- The context whose lease is open after a call. -/
def openLease (pending : Option ContextId) : LogicalContexts.Request →
    LogicalContexts.Answer → Option ContextId
  | .acquire _ _ _ _, .acquired (.ok target) => some target.1
  | .finish contextId, .finished (.ok ()) =>
      if pending = some contextId then none else pending
  | _, _ => pending

structure Twins where
  swapping : ContextManager
  plain : ContextManager
  pending : Option ContextId

def twins (maxResidentContexts maxLogicalContexts : UInt64) : Machine Twins Call :=
  { initial :=
      { swapping := create maxResidentContexts maxLogicalContexts
        plain := create maxLogicalContexts maxLogicalContexts
        pending := none }
    step := fun state call =>
      { swapping := state.swapping.step call.swapping
        plain := state.plain.step call.plain
        pending := openLease state.pending (state.swapping.request call.swapping)
          (state.swapping.answer call.swapping) } }

/-- No lease is open when an acquire comes, and both tables are traversed in the
same order. -/
def Sequential (state : Twins) : Call → Prop
  | .acquire _ _ _ _ _ _ order plainOrder =>
      state.pending = none ∧
        state.swapping.traversal order = state.plain.traversal plainOrder
  | .finish _ _ _ => True
  | .release _ _ _ _ _ => True

def SameAnswer (state : Twins) (call : Call) : Prop :=
  state.swapping.answer call.swapping = state.plain.answer call.plain

/-- The same contexts with the same owners and pins, and the same statistics but
for residency and swaps. -/
structure SameContexts (state : Twins) : Prop where
  contexts : ∀ key,
    (state.swapping.context? key).map view = (state.plain.context? key).map view
  stats : logicalStats state.swapping.stats = logicalStats state.plain.stats

/-! ### Pins in a sequential trace -/

/-- Only the context with the open lease is pinned, and only once. -/
def OnlyPinned (pending : Option ContextId) (logical : LogicalContexts) : Prop :=
  ∀ key context, logical.contexts.lookup key = some context →
    context.pinCount = if pending = some key then 1 else 0

theorem OnlyPinned.insert {pending later : Option ContextId} (pinned : OnlyPinned pending logical)
    (key : ContextId) (context : LogicalContext)
    (here : context.pinCount = if later = some key then 1 else 0)
    (elsewhere : ∀ other, other ≠ key → (later = some other ↔ pending = some other))
    (changed : LogicalContexts) (same : changed.contexts = logical.contexts.insert key context) :
    OnlyPinned later changed := by
  intro other found present
  rw [same, UnorderedMap.lookup_insert_if] at present
  by_cases equal : other = key
  · rw [if_pos equal] at present
    cases present
    rw [equal]
    exact here
  · rw [if_neg equal] at present
    rw [pinned other found present]
    simp only [elsewhere other equal]

private theorem lease_contexts (logical : LogicalContexts) (key : ContextId)
    (context : LogicalContext) (agentId : AgentId) :
    ∃ owners, (logical.lease key context agentId).contexts =
      logical.contexts.insert key { owners := owners, pinCount := context.pinCount + 1 } := by
  unfold LogicalContexts.lease
  cases LogicalContexts.hasOwner context agentId with
  | true => exact ⟨_, rfl⟩
  | false => exact ⟨_, rfl⟩

private theorem OnlyPinned.letIn (pinned : OnlyPinned none logical) (agentId : AgentId)
    (target : ContextId × Bool)
    (new : target.2 = true → target.1 = logical.nextContextId) :
    OnlyPinned (some target.1) (logical.letIn agentId target) := by
  have elsewhere : ∀ other, other ≠ target.1 →
      (some target.1 = some other ↔ (none : Option ContextId) = some other) := by
    intro other different
    constructor
    · intro same
      cases same
      exact absurd rfl different
    · exact nofun
  unfold LogicalContexts.letIn
  cases created : target.2 with
  | true =>
      rw [if_pos rfl]
      apply pinned.insert target.1 { owners := UnorderedSet.add ∅ agentId, pinCount := 1 }
        (by rw [if_pos rfl]) elsewhere
      rw [new created]
      rfl
  | false =>
      rw [if_neg Bool.false_ne_true]
      cases present : logical.contexts.lookup target.1 with
      | none =>
          intro other found stored
          have different : other ≠ target.1 := by
            rintro rfl
            rw [present] at stored
            cases stored
          rw [pinned other found stored]
          simp only [elsewhere other different]
      | some context =>
          have idle := pinned target.1 context present
          rw [if_neg nofun] at idle
          have once : context.pinCount + 1 = if some target.1 = some target.1 then 1 else 0 := by
            rw [idle, if_pos rfl]
            rfl
          obtain ⟨owners, leased⟩ := lease_contexts logical target.1 context agentId
          exact pinned.insert target.1 { owners := owners, pinCount := context.pinCount + 1 } once
            elsewhere (logical.lease target.1 context agentId) leased

/-- A new context gets the next id. -/
private theorem granted_new (agentId parentId : AgentId) (requestedContext : ContextId)
    (visited : List ContextId) (target : ContextId × Bool)
    (granted : logical.granted agentId parentId requestedContext visited = .ok target)
    (created : target.2 = true) : target.1 = logical.nextContextId := by
  unfold LogicalContexts.granted at granted
  split at granted
  · cases granted
  · split at granted
    · split at granted
      · cases granted
        cases created
      · split at granted
        · cases granted
        · cases granted
          rfl
    · split at granted
      · cases granted
      · split at granted
        · cases granted
          cases created
        · cases granted

theorem OnlyPinned.acquire {pending : Option ContextId} (pinned : OnlyPinned pending logical)
    (agentId parentId : AgentId) (requestedContext : ContextId) (visited : List ContextId)
    (closed : pending = none) :
    OnlyPinned
      (openLease pending (.acquire agentId parentId requestedContext visited)
        (.acquired (logical.acquire agentId parentId requestedContext visited).2))
      (logical.acquire agentId parentId requestedContext visited).1 := by
  subst closed
  unfold LogicalContexts.acquire
  cases granted : logical.granted agentId parentId requestedContext visited with
  | error message => exact pinned
  | ok target =>
      exact pinned.letIn agentId target
        (granted_new agentId parentId requestedContext visited target granted)

theorem OnlyPinned.finish {pending : Option ContextId} (pinned : OnlyPinned pending logical)
    (contextId : ContextId) :
    OnlyPinned
      (openLease pending (.finish contextId) (.finished (logical.finish contextId).2))
      (logical.finish contextId).1 := by
  unfold LogicalContexts.finish
  cases present : logical.contexts.lookup contextId with
  | none => exact pinned
  | some context =>
      have count := pinned contextId context present
      by_cases held : pending = some contextId
      · rw [if_pos held] at count
        have leased : ¬context.pinCount = 0 := by
          rw [count]
          decide
        simp only [if_neg leased]
        change OnlyPinned (if pending = some contextId then none else pending) _
        rw [if_pos held]
        apply pinned.insert contextId { context with pinCount := context.pinCount - 1 } _ _ _ rfl
        · change context.pinCount - 1 = _
          rw [count, if_neg nofun]
          rfl
        · intro other different
          rw [held]
          constructor
          · exact nofun
          · intro same
            cases same
            exact absurd rfl different
      · rw [if_neg held] at count
        simp only [if_pos count]
        exact pinned

theorem OnlyPinned.release {pending : Option ContextId} (pinned : OnlyPinned pending logical)
    (agentId parentId : AgentId) (contextId : ContextId) :
    OnlyPinned pending (logical.release agentId parentId contextId).1 := by
  have dropped : logical.dropOwner.contexts = logical.contexts := by
    unfold LogicalContexts.dropOwner
    split <;> rfl
  unfold LogicalContexts.release
  cases present : logical.contexts.lookup contextId with
  | none => exact pinned
  | some context =>
      change OnlyPinned pending (if _ then _ else _ : LogicalContexts × Except StdString Bool).1
      split
      · exact pinned
      · split
        · exact pinned
        · change OnlyPinned pending
            (if _ then _ else _ : LogicalContexts × Except StdString Bool).1
          split
          · intro key kept stored
            change (logical.dropOwner.contexts.erase contextId).lookup key = _ at stored
            rw [dropped] at stored
            by_cases same : key = contextId
            · rw [same, AList.lookup_erase] at stored
              cases stored
            · rw [AList.lookup_erase_ne same] at stored
              exact pinned key kept stored
          · have count := pinned contextId context present
            apply pinned.insert contextId
              { context with
                owners := UnorderedSet.remove context.owners
                  (LogicalContexts.ownerToRelease context agentId parentId) } count
              (fun _ _ => Iff.rfl)
            change logical.dropOwner.contexts.insert contextId _ = _
            rw [dropped]

/-! ### Both represent the same contexts -/

structure Aligned (issued : Nat) (state : Twins) (logical : LogicalContexts) : Prop where
  swapping : Represents state.swapping logical
  plain : Represents state.plain logical
  pinned : OnlyPinned state.pending logical
  numbered : Numbered issued state.swapping
  soundSwapping : state.swapping.Sound
  soundPlain : state.plain.Sound
  balanced : Balanced 0 state.swapping
  positive : 0 < state.swapping.maxResidentContexts.toNat
  home : AtHome state.plain

theorem Aligned.sameContexts {issued : Nat} {state : Twins}
    (aligned : Aligned issued state logical) : SameContexts state :=
  { contexts := fun key =>
      (aligned.swapping.contexts key).trans (aligned.plain.contexts key).symm
    stats := aligned.swapping.stats.trans aligned.plain.stats.symm }

private theorem same_request {state : Twins} (call : Call) (sequential : Sequential state call) :
    state.plain.request call.plain = state.swapping.request call.swapping := by
  cases call with
  | acquire agentId parentId requestedContext swap now plainNow order plainOrder =>
      change LogicalContexts.Request.acquire _ _ _ (state.plain.traversal plainOrder) = _
      rw [← sequential.2]
      rfl
  | finish contextId now plainNow => rfl
  | release agentId parentId contextId now plainNow => rfl

/-- An idle manager with callbacks and one at home both serve every call. -/
private theorem Aligned.served {issued : Nat} {state : Twins}
    (aligned : Aligned issued state logical) (call : Call) (sequential : Sequential state call) :
    Served state.swapping call.swapping ∧ Served state.plain call.plain := by
  cases call with
  | acquire agentId parentId requestedContext swap now plainNow order plainOrder =>
      refine ⟨?_, aligned.home.serving plainOrder⟩
      apply serving_idle aligned.balanced aligned.positive aligned.soundSwapping
      · intro key entry present
        have count := aligned.pinned key (view entry) (aligned.swapping.lookup present)
        rw [sequential.1, if_neg nofun] at count
        exact count
      · intro key entry present zero
        have issued := aligned.numbered.issued key entry present
        rw [zero] at issued
        exact absurd issued.1 (by decide)
  | finish contextId now plainNow => exact ⟨trivial, trivial⟩
  | release agentId parentId contextId now plainNow => exact ⟨trivial, trivial⟩

private theorem Aligned.pinned_step {issued : Nat} {state : Twins}
    (aligned : Aligned issued state logical) (call : Call) (sequential : Sequential state call) :
    OnlyPinned
      (openLease state.pending (state.swapping.request call.swapping)
        (logical.step (state.swapping.request call.swapping)).2)
      (logical.step (state.swapping.request call.swapping)).1 := by
  cases call with
  | acquire agentId parentId requestedContext swap now plainNow order plainOrder =>
      exact aligned.pinned.acquire agentId parentId requestedContext _ sequential.1
  | finish contextId now plainNow => exact aligned.pinned.finish contextId
  | release agentId parentId contextId now plainNow =>
      exact aligned.pinned.release agentId parentId contextId

/-- A call that both managers serve leaves them aligned. -/
theorem Aligned.step {issued : Nat} {state : Twins}
    (maxResidentContexts maxLogicalContexts : UInt64)
    (aligned : Aligned issued state logical) (call : Call) (sequential : Sequential state call)
    (few : issued + (state.swapping.creates call.swapping).toNat < 2 ^ 64) :
    SameAnswer state call ∧
      Aligned (issued + (state.swapping.creates call.swapping).toNat)
        ((twins maxResidentContexts maxLogicalContexts).step state call)
        (logical.step (state.swapping.request call.swapping)).1 := by
  have fresh := aligned.numbered.fresh (by omega)
  have freshPlain : state.plain.context? state.plain.nextContextId = none := by
    have missing := aligned.swapping.missing fresh
    rw [aligned.swapping.next, ← aligned.plain.next, ← aligned.plain.contexts] at missing
    exact Option.map_eq_none_iff.mp missing
  have served := aligned.served call sequential
  have swapping := aligned.swapping.step aligned.soundSwapping fresh call.swapping served.1
  have plain := aligned.plain.step aligned.soundPlain freshPlain call.plain served.2
  rw [same_request call sequential] at plain
  refine ⟨swapping.2.symm.trans plain.2, ?_⟩
  have pinned := aligned.pinned_step call sequential
  rw [swapping.2] at pinned
  constructor
  · exact swapping.1
  · exact plain.1
  · exact pinned
  · exact aligned.numbered.step call.swapping few
  · exact step_sound call.swapping aligned.soundSwapping
  · exact step_sound call.plain aligned.soundPlain
  · exact step_balanced call.swapping aligned.balanced fresh
  · have limits := congrArg Prod.fst (@step_limits state.swapping call.swapping)
    change (state.swapping.step call.swapping).maxResidentContexts =
      state.swapping.maxResidentContexts at limits
    change 0 < (state.swapping.step call.swapping).maxResidentContexts.toNat
    rw [limits]
    exact aligned.positive
  · exact aligned.home.step freshPlain call.plain

theorem Aligned.trace {issued : Nat} {state : Twins}
    (maxResidentContexts maxLogicalContexts : UInt64) (trace : List Call)
    (aligned : Aligned issued state logical)
    (sequential : (twins maxResidentContexts maxLogicalContexts).Along Sequential state trace)
    (few : issued + creations state.swapping (trace.map Call.swapping) < 2 ^ 64) :
    (twins maxResidentContexts maxLogicalContexts).Along SameAnswer state trace ∧
      (twins maxResidentContexts maxLogicalContexts).Throughout SameContexts state trace := by
  induction trace generalizing state logical issued with
  | nil => exact ⟨trivial, aligned.sameContexts⟩
  | cons call rest ih =>
      change issued + ((state.swapping.creates call.swapping).toNat +
        creations (state.swapping.step call.swapping) (rest.map Call.swapping)) < _ at few
      obtain ⟨answer, next⟩ := aligned.step maxResidentContexts maxLogicalContexts call
        sequential.1 (by omega)
      have later := ih next sequential.2 (by
        rw [Nat.add_assoc]
        exact few)
      exact ⟨⟨answer, later.1⟩, ⟨aligned.sameContexts, later.2⟩⟩

private theorem max_of_le {first second : UInt64} (ordered : first ≤ second) :
    max first second = second :=
  if_pos ordered

theorem create_aligned (maxResidentContexts maxLogicalContexts : UInt64)
    (positive : 1 ≤ maxResidentContexts) (ordered : maxResidentContexts ≤ maxLogicalContexts) :
    Aligned 0 (twins maxResidentContexts maxLogicalContexts).initial
      { maxLogicalContexts := maxLogicalContexts } := by
  have large := UInt64.le_trans positive ordered
  have nonzero : maxLogicalContexts ≠ 0 := by
    rintro rfl
    exact absurd large (by decide)
  have limits : create maxResidentContexts maxLogicalContexts =
      { maxResidentContexts := maxResidentContexts
        maxLogicalContexts := maxLogicalContexts
        freeSequences := pushSequences maxResidentContexts.toNat [] } := by
    unfold create
    simp only [max_of_le positive, if_neg nonzero, max_of_le ordered]
  have plainLimits : create maxLogicalContexts maxLogicalContexts =
      { maxResidentContexts := maxLogicalContexts
        maxLogicalContexts := maxLogicalContexts
        freeSequences := pushSequences maxLogicalContexts.toNat [] } := by
    unfold create
    simp only [max_of_le large, if_neg nonzero, max_of_le (UInt64.le_refl maxLogicalContexts)]
  constructor
  · change Represents (create maxResidentContexts maxLogicalContexts) _
    rw [limits]
    exact ⟨fun _ => rfl, rfl, rfl, rfl⟩
  · change Represents (create maxLogicalContexts maxLogicalContexts) _
    rw [plainLimits]
    exact ⟨fun _ => rfl, rfl, rfl, rfl⟩
  · exact nofun
  · exact create_numbered maxResidentContexts maxLogicalContexts
  · exact nofun
  · exact nofun
  · exact create_balanced maxResidentContexts maxLogicalContexts
  · change 0 < (create maxResidentContexts maxLogicalContexts).maxResidentContexts.toNat
    rw [limits]
    exact UInt64.le_iff_toNat_le.mp positive
  · refine ⟨create_balanced maxLogicalContexts maxLogicalContexts, nofun, ?_⟩
    change (create maxLogicalContexts maxLogicalContexts).maxResidentContexts =
      (create maxLogicalContexts maxLogicalContexts).maxLogicalContexts
    rw [plainLimits]

/-- In every sequential trace that creates fewer than `2 ^ 64` contexts, the
manager that swaps and the one that has no need to answer every call alike and
have the same contexts at every moment. -/
theorem swap_transparent (maxResidentContexts maxLogicalContexts : UInt64) (trace : List Call)
    (positive : 1 ≤ maxResidentContexts) (ordered : maxResidentContexts ≤ maxLogicalContexts)
    (sequential : (twins maxResidentContexts maxLogicalContexts).Along Sequential
      (twins maxResidentContexts maxLogicalContexts).initial trace)
    (few : creations (create maxResidentContexts maxLogicalContexts)
      (trace.map Call.swapping) < 2 ^ 64) :
    (twins maxResidentContexts maxLogicalContexts).Along SameAnswer
        (twins maxResidentContexts maxLogicalContexts).initial trace ∧
      (twins maxResidentContexts maxLogicalContexts).Throughout SameContexts
        (twins maxResidentContexts maxLogicalContexts).initial trace := by
  have aligned := create_aligned maxResidentContexts maxLogicalContexts positive ordered
  apply aligned.trace maxResidentContexts maxLogicalContexts trace sequential
  rw [Nat.zero_add]
  exact few

/-- Callbacks that do nothing and succeed. -/
def noSwapCost : AlwaysSwap :=
  { save := fun _ _ error => (true, error)
    load := fun _ _ error => (true, error)
    saves := fun _ _ _ => rfl
    loads := fun _ _ _ => rfl }

/-- Two agents take turns on one sequence; the second shares with the first. -/
def takeTurns : List Call :=
  [.acquire 1 0 0 noSwapCost 0 0 .asStored .asStored, .finish 1 1 1,
    .acquire 2 0 0 noSwapCost 2 2 .asStored .asStored, .finish 2 3 3,
    .acquire 3 1 1 noSwapCost 4 4 .asStored .asStored, .release 1 0 1 5 5]

theorem takeTurns_transparent :
    (twins 1 2).Along SameAnswer (twins 1 2).initial takeTurns ∧
      (twins 1 2).Throughout SameContexts (twins 1 2).initial takeTurns := by
  apply swap_transparent 1 2 takeTurns (by decide) (by decide)
  · exact ⟨⟨rfl, rfl⟩, trivial, ⟨rfl, rfl⟩, trivial, ⟨rfl, rfl⟩, trivial, trivial⟩
  · decide

/-! ### The context with the id zero -/

/-- Agent 1 creates a context and finishes its lease. -/
def enterCalls (contextId : ContextId) : List Call :=
  [.acquire 1 0 0 noSwapCost 0 0 .asStored .asStored, .finish contextId 0 0]

/-- Agent 1 comes and goes `count` times. -/
def visitCalls : Nat → List Call
  | 0 => []
  | count + 1 =>
      visitCalls count ++
        (enterCalls (UInt64.ofNat (count + 1)) ++
          [.release 1 0 (UInt64.ofNat (count + 1)) 0 0])

/-- When the next id is zero, the context with that id keeps the only sequence. -/
def zeroCalls (count : Nat) : List Call :=
  visitCalls count ++ (enterCalls 0 ++ [.acquire 2 0 0 noSwapCost 0 0 .asStored .asStored])

/-- Both managers are empty and no lease is open. -/
structure Visiting (next : ContextId) (state : Twins) : Prop where
  swapping : Waiting ∅ [1] next 0 state.swapping
  plain : Waiting ∅ [1, 2] next 0 state.plain
  closed : state.pending = none
  limits : state.swapping.maxLogicalContexts = 2 ∧ state.plain.maxLogicalContexts = 2

private theorem visiting_enter {next : ContextId} {state : Twins}
    (visiting : Visiting next state) :
    (twins 1 2).Along Sequential state (enterCalls next) ∧
      Entered ∅ 1 1 [] next 0 2 ((twins 1 2).runFrom state (enterCalls next)).swapping ∧
      Entered ∅ 1 1 [2] next 0 2 ((twins 1 2).runFrom state (enterCalls next)).plain ∧
      ((twins 1 2).runFrom state (enterCalls next)).pending = none := by
  have swapping := visiting.swapping.enter 1 (some noSwapCost.callbacks) (by decide) nofun rfl
  have plain := visiting.plain.enter 1 none (by decide) nofun rfl
  rw [visiting.limits.1] at swapping
  rw [visiting.limits.2] at plain
  refine ⟨⟨⟨visiting.closed, ?_⟩, trivial, trivial⟩, swapping.2.2, plain.2.2, ?_⟩
  · unfold traversal
    rw [visiting.swapping.contexts_eq, visiting.plain.contexts_eq]
  · change openLease
      (openLease state.pending (.acquire 1 0 0 (state.swapping.traversal .asStored))
        (.acquired (answerOfAcquire
          (state.swapping.acquire 1 0 0 (some noSwapCost.callbacks) 0 .asStored))))
      (.finish next)
      (.finished (if ((state.swapping.acquire 1 0 0 (some noSwapCost.callbacks) 0
        .asStored).1.finish next 0).2.2 then .ok () else .error _)) = none
    unfold answerOfAcquire
    rw [swapping.1, swapping.2.1]
    change (if some next = some next then none else some next) = none
    rw [if_pos rfl]

private theorem visiting_leave {next : ContextId} {state : Twins}
    (visiting : Visiting next state) :
    (twins 1 2).Along Sequential state
        (enterCalls next ++ [.release 1 0 next 0 0]) ∧
      Visiting (next + 1)
        ((twins 1 2).runFrom state (enterCalls next ++ [.release 1 0 next 0 0])) := by
  obtain ⟨sequential, swapping, plain, closed⟩ := visiting_enter visiting
  rw [Machine.runFrom_append]
  refine ⟨sequential.append ⟨trivial, trivial⟩, ?_⟩
  constructor
  · exact swapping.leave (by decide) rfl
  · exact plain.leave (by decide) rfl
  · exact closed
  · constructor
    · exact (congrArg Prod.snd (@step_limits _ (.release 1 0 next 0))).trans swapping.limit_eq
    · exact (congrArg Prod.snd (@step_limits _ (.release 1 0 next 0))).trans plain.limit_eq

private theorem visiting_run (count : Nat) :
    (twins 1 2).Along Sequential (twins 1 2).initial (visitCalls count) ∧
      Visiting (UInt64.ofNat (count + 1))
        ((twins 1 2).runFrom (twins 1 2).initial (visitCalls count)) := by
  induction count with
  | zero =>
      refine ⟨trivial, ?_⟩
      constructor
      · exact ⟨rfl, rfl, rfl, rfl, by decide⟩
      · exact ⟨rfl, rfl, rfl, rfl, by decide⟩
      · rfl
      · exact ⟨rfl, rfl⟩
  | succ count ih =>
      obtain ⟨sequential, visiting⟩ := ih
      obtain ⟨later, next⟩ := visiting_leave visiting
      unfold visitCalls
      rw [Machine.runFrom_append]
      refine ⟨sequential.append later, ?_⟩
      rw [id_succ (count + 1)] at next
      exact next

private theorem stranger_entered {sequence : Int32} {free : List Int32} {active limit : UInt64}
    (entered : Entered ∅ 1 sequence free 0 active limit manager) (key : ContextId)
    (entry : Entry) (present : manager.context? key = some entry) :
    owned entry 2 = false ∧ entry.id = 0 := by
  unfold context? at present
  rw [entered.contexts_eq, UnorderedMap.lookup_insert_if] at present
  by_cases same : key = 0
  · rw [if_pos same] at present
    cases present
    exact ⟨rfl, rfl⟩
  · rw [if_neg same] at present
    cases present

/-- The new context would have to displace context zero, which is excluded. -/
private theorem zero_blocks {sequence : Int32} {active : UInt64}
    (entered : Entered ∅ 1 sequence [] 0 active 2 manager) :
    (manager.acquire 2 0 0 (some noSwapCost.callbacks) 0 .asStored).2.2 = none := by
  have search := findForAgentLocked_stranger manager 2 .asStored
    fun key entry present => (stranger_entered entered key entry present).1
  have room : ¬manager.maxLogicalContexts.toNat ≤ manager.contexts.keys.length := by
    rw [entered.limit_eq, entered.contexts_eq]
    change ¬2 ≤ 1
    decide
  have nobody : manager.swapOutCandidate 0 .asStored = none := by
    cases candidate : manager.swapOutCandidate 0 .asStored with
    | none => rfl
    | some best =>
        have recent := swapOutCandidate_some manager 0 .asStored best candidate
        have eligible := skipped_eq_false 0 best.2 recent.eligible
        exact absurd (stranger_entered entered best.1 best.2 recent.present).2 eligible.2.2
  unfold acquire
  rw [if_neg (by decide), if_pos rfl, search]
  change (manager.acquireNew 2 (some noSwapCost.callbacks) 0 .asStored).2.2 = none
  unfold acquireNew obtainSequenceLocked
  rw [if_neg room, entered.free_eq, nobody]
  rfl

private theorem zero_differs {swapping plain : ContextManager} {active : UInt64}
    (pending : Option ContextId) (blocked : Entered ∅ 1 1 [] 0 active 2 swapping)
    (free : Entered ∅ 1 1 [2] 0 active 2 plain) :
    ¬SameAnswer { swapping := swapping, plain := plain, pending := pending }
      (.acquire 2 0 0 noSwapCost 0 0 .asStored .asStored) := by
  intro same
  have refused := zero_blocks blocked
  have room : plain.contexts.keys.length < plain.maxLogicalContexts.toNat := by
    rw [free.limit_eq, free.contexts_eq]
    decide
  have given := acquire_stranger plain 2 0 none 0 .asStored 2 [] (by decide)
    (fun key entry present => (stranger_entered free key entry present).1) room free.free_eq
  change LogicalContexts.Answer.acquired (answerOfAcquire
      (swapping.acquire 2 0 0 (some noSwapCost.callbacks) 0 .asStored)) =
    .acquired (answerOfAcquire (plain.acquire 2 0 0 none 0 .asStored)) at same
  unfold answerOfAcquire at same
  rw [refused, given] at same
  cases same

private theorem zero_trace_differs (count : Nat) (round : UInt64.ofNat (count + 1) = 0) :
    (twins 1 2).Along Sequential (twins 1 2).initial (zeroCalls count) ∧
      ¬(twins 1 2).Along SameAnswer (twins 1 2).initial (zeroCalls count) := by
  obtain ⟨sequential, visiting⟩ := visiting_run count
  rw [round] at visiting
  obtain ⟨later, swapping, plain, closed⟩ := visiting_enter visiting
  unfold zeroCalls
  constructor
  · apply sequential.append
    apply later.append
    refine ⟨⟨closed, ?_⟩, trivial⟩
    unfold traversal
    rw [swapping.contexts_eq, plain.contexts_eq]
  · intro same
    have last := (Machine.Along.after_segment _ _ (Machine.Along.after_segment _ _ same)).1
    exact zero_differs _ swapping plain last

/-- After `2 ^ 64 - 1` contexts the next one has the id zero, which the search for
a context to swap out skips: only the manager without callbacks has room left. -/
theorem zero_context_differs :
    (twins 1 2).Along Sequential (twins 1 2).initial (zeroCalls (2 ^ 64 - 1)) ∧
      ¬(twins 1 2).Along SameAnswer (twins 1 2).initial (zeroCalls (2 ^ 64 - 1)) :=
  zero_trace_differs (2 ^ 64 - 1) (by decide)

end AgentNucleus.Top.ContextManager
