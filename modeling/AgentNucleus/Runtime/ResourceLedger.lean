/-
The two reservation counters against the requests of the agents that hold a
reservation.  Releases keep the difference; only a second dispatch of an agent that
never gave its reservation back moves it.
-/

import AgentNucleus.Runtime.SchedulerLifecycle

set_option autoImplicit false

namespace AgentNucleus.Runtime

open Library

/-- The two resources that admission accounts for in the same way. -/
inductive Resource where
  | cpuThreads
  | memoryBytes
deriving DecidableEq, Repr

namespace Resource

def requested : Resource → Node → UInt64
  | .cpuThreads, node => node.spec.resources.cpuThreads.toUInt64
  | .memoryBytes, node => node.spec.resources.memoryBytes

def available : Resource → MemorySnapshot → UInt64
  | .cpuThreads, resources => resources.availableCpuThreads.toUInt64
  | .memoryBytes, resources => resources.availableBytes

def counter : Resource → AgentScheduler → UInt64
  | .cpuThreads, scheduler => scheduler.reservedCpuThreads
  | .memoryBytes, scheduler => scheduler.reservedMemoryBytes

def heldBy (resource : Resource) (node : Node) : Nat :=
  if node.resourcesReserved then (resource.requested node).toNat else 0

def usedBy (resource : Resource) (node : Node) : Nat :=
  if isActive node.state then (resource.requested node).toNat else 0

/-- The requests of the agents whose `resources_reserved` is set. -/
def held (resource : Resource) (scheduler : AgentScheduler) : Nat :=
  UnorderedMap.total (fun _ node => resource.heldBy node) scheduler.nodes

/-- The requests of the agents that are dispatched, running or blocked. -/
def used (resource : Resource) (scheduler : AgentScheduler) : Nat :=
  UnorderedMap.total (fun _ node => resource.usedBy node) scheduler.nodes

theorem requested_congr (resource : Resource) {left right : Node}
    (spec : left.spec = right.spec) : resource.requested left = resource.requested right := by
  cases resource with
  | cpuThreads => exact congrArg (fun task => task.resources.cpuThreads.toUInt64) spec
  | memoryBytes => exact congrArg (fun task => task.resources.memoryBytes) spec

theorem heldBy_congr (resource : Resource) {left right : Node} (spec : left.spec = right.spec)
    (flag : left.resourcesReserved = right.resourcesReserved) :
    resource.heldBy left = resource.heldBy right := by
  unfold heldBy
  rw [flag, resource.requested_congr spec]

theorem heldBy_free (resource : Resource) {node : Node}
    (free : node.resourcesReserved = false) : resource.heldBy node = 0 := by
  unfold heldBy
  rw [free, if_neg Bool.false_ne_true]

theorem heldBy_reserved (resource : Resource) {node : Node}
    (flag : node.resourcesReserved = true) :
    resource.heldBy node = (resource.requested node).toNat := by
  unfold heldBy
  rw [flag, if_pos rfl]

theorem heldBy_le_held (resource : Resource) {scheduler : AgentScheduler} {id : AgentId}
    {node : Node} (found : scheduler.node? id = some node) :
    resource.heldBy node ≤ resource.held scheduler :=
  UnorderedMap.weight_le_total (fun _ node => resource.heldBy node) scheduler.nodes id node found

/-- Storing one agent replaces its part of the sum. -/
theorem held_store (resource : Resource) {before current : AgentScheduler} {id : AgentId}
    {old : Node} (new : Node) (found : before.node? id = some old)
    (nodes : current.nodes = before.nodes) :
    resource.held (current.store id new) + resource.heldBy old =
      resource.held before + resource.heldBy new := by
  unfold held AgentScheduler.store
  rw [nodes]
  exact UnorderedMap.total_insert_over (fun _ node => resource.heldBy node) before.nodes id old
    new found

/-- The sum only looks at what every agent holds. -/
theorem held_congr (resource : Resource) {before after : AgentScheduler}
    (same : ∀ id, (after.node? id).elim 0 resource.heldBy =
      (before.node? id).elim 0 resource.heldBy) :
    resource.held after = resource.held before :=
  UnorderedMap.total_eq_of_weightAt after.nodes before.nodes _ _ same

/-- What the agent holds in this state of the scheduler. -/
def heldAt (resource : Resource) (scheduler : AgentScheduler) (id : AgentId) : Nat :=
  (scheduler.node? id).elim 0 resource.heldBy

def heldByAll (resource : Resource) (scheduler : AgentScheduler) (ids : List AgentId) : Nat :=
  (ids.map (resource.heldAt scheduler)).sum

theorem heldAt_some (resource : Resource) {scheduler : AgentScheduler} {id : AgentId}
    {node : Node} (found : scheduler.node? id = some node) :
    resource.heldAt scheduler id = resource.heldBy node := by
  unfold heldAt
  rw [found]
  rfl

theorem heldByAll_cons (resource : Resource) (scheduler : AgentScheduler) (id : AgentId)
    (rest : List AgentId) : resource.heldByAll scheduler (id :: rest) =
      resource.heldAt scheduler id + resource.heldByAll scheduler rest := by
  unfold heldByAll
  rw [List.map_cons, List.sum_cons]

theorem heldByAll_append (resource : Resource) (scheduler : AgentScheduler)
    (left right : List AgentId) : resource.heldByAll scheduler (left ++ right) =
      resource.heldByAll scheduler left + resource.heldByAll scheduler right := by
  unfold heldByAll
  rw [List.map_append, List.sum_append]

theorem heldAt_congr (resource : Resource) {left right : AgentScheduler} {id : AgentId}
    (same : left.node? id = right.node? id) :
    resource.heldAt left id = resource.heldAt right id := by
  unfold heldAt
  rw [same]

theorem heldByAll_congr (resource : Resource) {left right : AgentScheduler} {ids : List AgentId}
    (same : ∀ id ∈ ids, resource.heldAt left id = resource.heldAt right id) :
    resource.heldByAll left ids = resource.heldByAll right ids := by
  unfold heldByAll
  rw [List.map_congr_left same]

end Resource

/-! ### Subtraction and admission on the counters -/

theorem releaseFrom_toNat {reserved amount : UInt64} (enough : amount.toNat ≤ reserved.toNat) :
    (releaseFrom reserved amount).toNat + amount.toNat = reserved.toNat := by
  unfold releaseFrom
  have below : ¬amount > reserved := by
    rw [gt_iff_lt, UInt64.lt_iff_toNat_lt]
    omega
  rw [if_neg below, UInt64.toNat_sub_of_le _ _ (UInt64.le_iff_toNat_le.mpr enough)]
  omega

/-- A request that fits is nothing, or leaves the counter within the snapshot. -/
theorem fits_allocatable {available reserved amount : UInt64}
    (fitting : ¬amount > allocatable available reserved) :
    amount.toNat = 0 ∨ reserved.toNat + amount.toNat ≤ available.toNat := by
  unfold allocatable at fitting
  rw [gt_iff_lt, UInt64.lt_iff_toNat_lt, Nat.not_lt] at fitting
  by_cases room : available > reserved
  · rw [if_pos room, UInt64.toNat_sub_of_le _ _ (UInt64.le_of_lt room)] at fitting
    rw [gt_iff_lt, UInt64.lt_iff_toNat_lt] at room
    omega
  · rw [if_neg room] at fitting
    exact Or.inl (Nat.le_zero.mp fitting)

namespace AgentScheduler

theorem fits_requested {scheduler : AgentScheduler} {resources : MemorySnapshot} {node : Node}
    (fitting : scheduler.fits resources node = true) (resource : Resource) :
    (resource.requested node).toNat = 0 ∨
      (resource.counter scheduler).toNat + (resource.requested node).toNat ≤
        (resource.available resources).toNat := by
  unfold fits at fitting
  rw [Bool.not_eq_true', Bool.or_eq_false_iff, decide_eq_false_iff_not,
    decide_eq_false_iff_not] at fitting
  cases resource with
  | cpuThreads => exact fits_allocatable fitting.1
  | memoryBytes => exact fits_allocatable fitting.2

theorem counter_release {scheduler : AgentScheduler} (resource : Resource) (node : Node)
    (covered : resource.heldBy node ≤ (resource.counter scheduler).toNat) :
    (resource.counter (scheduler.releaseResourcesLocked node).1).toNat + resource.heldBy node =
      (resource.counter scheduler).toNat := by
  unfold releaseResourcesLocked
  cases flag : node.resourcesReserved with
  | false =>
      rw [resource.heldBy_free flag]
      rfl
  | true =>
      rw [resource.heldBy_reserved flag] at covered ⊢
      simp only [Bool.not_true, Bool.false_eq_true, if_false]
      cases resource with
      | cpuThreads => exact releaseFrom_toNat covered
      | memoryBytes => exact releaseFrom_toNat covered

/-! ### The slack between counter and sum -/

/-- The step moves each counter exactly as it moves the sum behind it, provided the
counter covers the sum. -/
def KeepsSlack (before after : AgentScheduler) : Prop :=
  ∀ resource : Resource, resource.held before ≤ (resource.counter before).toNat →
    (resource.counter after).toNat + resource.held before =
      (resource.counter before).toNat + resource.held after

theorem KeepsSlack.refl (scheduler : AgentScheduler) : scheduler.KeepsSlack scheduler :=
  fun _ _ => rfl

theorem KeepsSlack.trans {first second third : AgentScheduler}
    (left : first.KeepsSlack second) (right : second.KeepsSlack third) :
    first.KeepsSlack third := by
  intro resource covered
  have early := left resource covered
  have late := right resource (by omega)
  omega

theorem keepsSlack_of_same {before after : AgentScheduler}
    (counters : ∀ resource : Resource, resource.counter after = resource.counter before)
    (held : ∀ (resource : Resource) (id : AgentId),
      (after.node? id).elim 0 resource.heldBy = (before.node? id).elim 0 resource.heldBy) :
    before.KeepsSlack after := by
  intro resource _
  rw [counters resource, resource.held_congr (held resource)]

/-- Writing an agent that holds what it held. -/
theorem keepsSlack_store {before : AgentScheduler} {id : AgentId} {old : Node} (new : Node)
    (found : before.node? id = some old) (spec : new.spec = old.spec)
    (flag : new.resourcesReserved = old.resourcesReserved) :
    before.KeepsSlack (before.store id new) := by
  intro resource _
  have moved := resource.held_store new found rfl
  rw [resource.heldBy_congr spec flag] at moved
  have counter : resource.counter (before.store id new) = resource.counter before := by
    cases resource with
    | cpuThreads => rfl
    | memoryBytes => rfl
  rw [counter]
  omega

/-- Releasing an agent and writing it back without its reservation. -/
theorem keepsSlack_release {before : AgentScheduler} {id : AgentId} {old : Node} (new : Node)
    (found : before.node? id = some old) (free : new.resourcesReserved = false) :
    before.KeepsSlack ((before.releaseResourcesLocked old).1.store id new) := by
  intro resource covered
  have moved := resource.held_store new found (release_nodes before old)
  rw [resource.heldBy_free free] at moved
  have released := counter_release resource old
    (Nat.le_trans (resource.heldBy_le_held found) covered)
  have counter : resource.counter ((before.releaseResourcesLocked old).1.store id new) =
      resource.counter (before.releaseResourcesLocked old).1 := by
    cases resource with
    | cpuThreads => rfl
    | memoryBytes => rfl
  rw [counter]
  omega

theorem keepsSlack_queue {before after : AgentScheduler} (nodes : after.nodes = before.nodes)
    (cpu : after.reservedCpuThreads = before.reservedCpuThreads)
    (memory : after.reservedMemoryBytes = before.reservedMemoryBytes) :
    before.KeepsSlack after := by
  refine keepsSlack_of_same ?_ ?_
  · intro resource
    cases resource with
    | cpuThreads => exact cpu
    | memoryBytes => exact memory
  · intro resource id
    unfold node?
    rw [nodes]

theorem keepsSlack_cascade (reason : StdString) (now : TimePoint) (scheduler : AgentScheduler)
    (id : AgentId) : scheduler.KeepsSlack (scheduler.cancelDescendantsLocked id reason now) := by
  refine cascade_induction reason now KeepsSlack KeepsSlack.refl
    (fun _ _ _ => KeepsSlack.trans) ?_ _ scheduler id
  intro current source successorId successor found _
  have dequeued : current.KeepsSlack (current.dequeue successorId) :=
    keepsSlack_queue rfl rfl rfl
  refine dequeued.trans ?_
  unfold cancelSuccessor
  refine keepsSlack_release _ found ?_
  rw [release_node]
  rfl

theorem keepsSlack_resolveAll (scheduler : AgentScheduler) (ids : List AgentId) :
    scheduler.KeepsSlack (ids.foldl resolveDependency scheduler) := by
  obtain ⟨cpu, memory⟩ := counters_resolveAll scheduler ids
  refine keepsSlack_of_same ?_ ?_
  · intro resource
    cases resource with
    | cpuThreads => exact cpu
    | memoryBytes => exact memory
  · intro resource id
    rw [node?_resolveAll]
    cases scheduler.node? id with
    | none => rfl
    | some node => exact resource.heldBy_congr rfl rfl

theorem keepsSlack_relabelled (scheduler : AgentScheduler) (resources : MemorySnapshot)
    (now : TimePoint) (order : IterationOrder AgentId) :
    scheduler.KeepsSlack (scheduler.relabelled resources now order) := by
  refine keepsSlack_of_same ?_ ?_
  · intro resource
    cases resource with
    | cpuThreads => exact relabelled_cpu scheduler resources now order
    | memoryBytes => exact relabelled_memory scheduler resources now order
  · intro resource id
    rw [node?_relabelled]
    split
    · cases scheduler.node? id with
      | none => rfl
      | some node =>
          exact resource.heldBy_congr (Node.relabel_spec node _) (Node.relabel_reserved node _)
    · rfl

theorem Submitted.keepsSlack {tasks : List AgentTaskSpec} {now : TimePoint}
    {before after : AgentScheduler} (submitted : Submitted tasks now before after) :
    before.KeepsSlack after := by
  refine keepsSlack_of_same ?_ ?_
  · intro resource
    cases resource with
    | cpuThreads => exact submitted.cpu
    | memoryBytes => exact submitted.memory
  · intro resource id
    cases known : before.node? id with
    | some node =>
        rw [submitted.old id node known]
        exact resource.heldBy_congr rfl rfl
    | none =>
        rw [submitted.fresh id known]
        cases taskOf tasks id with
        | none => rfl
        | some task => exact resource.heldBy_free rfl

/-- Outside a dispatch every release subtracts its whole request: a saturated
subtraction would leave a counter above what this balance allows. -/
theorem Effect.keepsSlack {before after : AgentScheduler} {operation : Operation}
    (effect : Effect before operation after)
    (undispatched : ∀ resources now order, ¬Dispatches operation resources now order) :
    before.KeepsSlack after := by
  cases effect with
  | idle quiet => exact KeepsSlack.refl before
  | submitted tasks now order quiet offered admissible loopFree submitted =>
      exact submitted.keepsSlack
  | relabelled dispatches nothing => exact absurd dispatches (undispatched _ _ _)
  | reserved id old dispatches chosen queued found fitting =>
      exact absurd dispatches (undispatched _ _ _)
  | moved id old new quiet found moved =>
      exact keepsSlack_store new found moved.spec moved.reserved
  | woken id old found asleep =>
      exact (keepsSlack_store (old.setState .ready) found rfl rfl).trans
        (keepsSlack_queue rfl rfl rfl)
  | completed id old now found active =>
      exact (keepsSlack_release _ found rfl).trans (keepsSlack_resolveAll _ _)
  | retried id old message now found left =>
      exact (keepsSlack_release (old.unreserved.retryWith message) found rfl).trans
        (keepsSlack_queue rfl rfl rfl)
  | released id old message now found exhausted inactive =>
      exact keepsSlack_release _ found rfl
  | failed id old message now found exhausted active =>
      exact (keepsSlack_release _ found rfl).trans (keepsSlack_cascade _ now _ id)
  | cancelled id old now found live =>
      have dequeued : before.KeepsSlack (before.dequeue id) := keepsSlack_queue rfl rfl rfl
      exact (dequeued.trans (keepsSlack_release _ found rfl)).trans
        (keepsSlack_cascade _ now _ id)

/-! ### Dispatch -/

/-- What the dispatch of one agent does to a counter and to the sum behind it. -/
structure Admits (resource : Resource) (resources : MemorySnapshot) (before : AgentScheduler)
    (old : Node) (after : AgentScheduler) : Prop where
  counter : (resource.counter after).toNat =
    (resource.counter before).toNat + (resource.requested old).toNat
  held : resource.held after + resource.heldBy old =
    resource.held before + (resource.requested old).toNat
  within : (resource.requested old).toNat = 0 ∨
    (resource.counter after).toNat ≤ (resource.available resources).toNat

theorem admits_reserve {before : AgentScheduler} {resources : MemorySnapshot} {now : TimePoint}
    {order : IterationOrder AgentId} {id : AgentId} {old : Node} (queued : id ∈ before.ready)
    (found : before.node? id = some old) (fitting : before.fits resources old = true)
    (resource : Resource) :
    Admits resource resources before old
      ((before.relabelled resources now order).reserve id (old.relabel true)) := by
  have relabelledHeld : resource.held (before.relabelled resources now order) =
      resource.held before := by
    refine resource.held_congr fun other => ?_
    rw [node?_relabelled]
    split
    · cases before.node? other with
      | none => rfl
      | some node =>
          exact resource.heldBy_congr (Node.relabel_spec node _) (Node.relabel_reserved node _)
    · rfl
  have stored : (before.relabelled resources now order).node? id = some (old.relabel true) := by
    rw [node?_relabelled, if_pos queued, found, Option.map_some, fitting]
  have sum : resource.counter
      ((before.relabelled resources now order).reserve id (old.relabel true)) =
        resource.counter before + resource.requested old := by
    rw [← resource.requested_congr (Node.relabel_spec old true)]
    cases resource with
    | cpuThreads =>
        exact congrArg (· + _) (relabelled_cpu before resources now order)
    | memoryBytes =>
        exact congrArg (· + _) (relabelled_memory before resources now order)
  have room := fits_requested fitting resource
  have width := (resource.available resources).toNat_lt
  have old64 := (resource.counter before).toNat_lt
  have added : (resource.counter
      ((before.relabelled resources now order).reserve id (old.relabel true))).toNat =
        (resource.counter before).toNat + (resource.requested old).toNat := by
    rw [sum, UInt64.toNat_add, Nat.mod_eq_of_lt]
    omega
  let admitted : Node :=
    { (old.relabel true).setState .dispatched with resourcesReserved := true }
  have flagged : resource.heldBy admitted = (resource.requested old).toNat := by
    have spec : admitted.spec = old.spec := Node.relabel_spec old true
    rw [resource.heldBy_reserved (show admitted.resourcesReserved = true from rfl),
      resource.requested_congr spec]
  have written := resource.held_store admitted stored rfl
  rw [relabelledHeld, resource.heldBy_congr (Node.relabel_spec old true)
    (Node.relabel_reserved old true), flagged] at written
  refine ⟨added, written, ?_⟩
  rw [added]
  omega

/-- A counter never falls below the requests that it stands for. -/
def Covered (scheduler : AgentScheduler) : Prop :=
  ∀ resource : Resource, resource.held scheduler ≤ (resource.counter scheduler).toNat

theorem step_dispatch {scheduler : AgentScheduler} {operation : Operation}
    {resources : MemorySnapshot} {now : TimePoint} {order : IterationOrder AgentId}
    (dispatches : Dispatches operation resources now order) :
    scheduler.step operation = (scheduler.dispatchLocked resources now order).1 := by
  cases dispatches with
  | tryDispatch _ _ _ => rfl
  | waitDispatch _ _ _ => rfl

theorem Dispatches.unique {operation : Operation} {resources other : MemorySnapshot}
    {now time : TimePoint} {order turn : IterationOrder AgentId}
    (left : Dispatches operation resources now order)
    (right : Dispatches operation other time turn) :
    other = resources ∧ time = now ∧ turn = order := by
  cases left with
  | tryDispatch _ _ _ =>
      cases right
      exact ⟨rfl, rfl, rfl⟩
  | waitDispatch _ _ _ =>
      cases right
      exact ⟨rfl, rfl, rfl⟩

/-- A step keeps the slack, or it admits one agent. -/
theorem Sound.slack_cases {before : AgentScheduler} (sound : before.Sound)
    (operation : Operation) :
    (before.KeepsSlack (before.step operation) ∧ ∀ resources now order,
        Dispatches operation resources now order →
          (before.dispatchLocked resources now order).2 = none) ∨
      ∃ resources now order id old, Dispatches operation resources now order ∧
        (before.dispatchLocked resources now order).2 = some id ∧
        before.node? id = some old ∧
        ∀ resource, Admits resource resources before old (before.step operation) := by
  by_cases dispatching : ∃ resources now order, Dispatches operation resources now order
  · obtain ⟨resources, now, order, dispatches⟩ := dispatching
    rw [step_dispatch dispatches]
    rcases dispatchLocked_cases before resources now order with
      nothing | ⟨id, old, queued, found, fitting, result⟩
    · refine Or.inl ⟨?_, ?_⟩
      · rw [nothing]
        exact keepsSlack_relabelled before resources now order
      · intro other time turn again
        obtain ⟨rfl, rfl, rfl⟩ := dispatches.unique again
        rw [nothing]
    · refine Or.inr ⟨resources, now, order, id, old, dispatches, ?_, found, ?_⟩
      · rw [result]
      · rw [result]
        exact admits_reserve queued found fitting
  · have undispatched : ∀ resources now order, ¬Dispatches operation resources now order :=
      fun resources now order dispatches => dispatching ⟨resources, now, order, dispatches⟩
    exact Or.inl ⟨(sound.effect operation).keepsSlack undispatched,
      fun resources now order dispatches => absurd dispatches (undispatched resources now order)⟩

theorem Covered.step {before : AgentScheduler} (covered : before.Covered) (sound : before.Sound)
    (operation : Operation) : (before.step operation).Covered := by
  intro resource
  have enough := covered resource
  rcases sound.slack_cases operation with ⟨keeps, _⟩ | ⟨_, _, _, _, old, _, _, _, admits⟩
  · have balance := keeps resource enough
    omega
  · have counter := (admits resource).counter
    have held := (admits resource).held
    omega

theorem covered_initial : ({} : AgentScheduler).Covered := by
  intro resource
  exact Nat.zero_le _

theorem Reachable.covered {scheduler : AgentScheduler} (reached : Reachable scheduler) :
    scheduler.Covered := by
  have both := machine.reachable_invariant (fun state => state.Sound ∧ state.Covered)
    ⟨sound_initial, covered_initial⟩
    (fun _ operation held => ⟨held.1.step operation, held.2.step held.1 operation⟩)
    scheduler reached
  exact both.2

/-! ### Exactness -/

/-- Each counter is the sum over the agents that hold a reservation, and both are
zero once all agents are terminal. -/
structure LedgerExact (scheduler : AgentScheduler) : Prop where
  sum : ∀ resource : Resource, (resource.counter scheduler).toNat = resource.held scheduler
  idle : scheduler.allTerminal = true →
    scheduler.reservedCpuThreads = 0 ∧ scheduler.reservedMemoryBytes = 0

/-- The dispatch selects an agent that still holds the reservation of an earlier
dispatch, with a request that is not zero. -/
def RedispatchesReserved (scheduler : AgentScheduler) (operation : Operation) : Prop :=
  ∃ resources now order id node, Dispatches operation resources now order ∧
    (scheduler.dispatchLocked resources now order).2 = some id ∧
    scheduler.node? id = some node ∧ node.resourcesReserved = true ∧
    ∃ resource : Resource, 0 < (resource.requested node).toNat

/-- A ledger of which every reservation has been given back is empty. -/
theorem counters_zero_of_sum {scheduler : AgentScheduler}
    (sum : ∀ resource : Resource,
      (resource.counter scheduler).toNat = resource.held scheduler)
    (free : ∀ id node, scheduler.node? id = some node → node.resourcesReserved = false) :
    scheduler.reservedCpuThreads = 0 ∧ scheduler.reservedMemoryBytes = 0 := by
  have nothing : ∀ resource : Resource, resource.held scheduler = 0 := by
    intro resource
    apply UnorderedMap.total_eq_zero
    intro id node found
    exact resource.heldBy_free (free id node found)
  have cpu := sum .cpuThreads
  have memory := sum .memoryBytes
  rw [nothing] at cpu memory
  exact ⟨UInt64.toNat_inj.mp cpu, UInt64.toNat_inj.mp memory⟩

theorem ledgerExact_of_sum {scheduler : AgentScheduler} (sound : scheduler.Sound)
    (sum : ∀ resource : Resource,
      (resource.counter scheduler).toNat = resource.held scheduler) :
    scheduler.LedgerExact := by
  refine ⟨sum, fun finished => ?_⟩
  apply counters_zero_of_sum sum
  intro id node found
  unfold allTerminal at finished
  have terminal := List.all_eq_true.mp finished ⟨id, node⟩ (AList.mem_lookup_iff.mp found)
  exact (sound.coherent id node found).terminal terminal

/-- One step keeps the ledger exact unless it reserves for an agent twice. -/
theorem LedgerExact.step_iff {before : AgentScheduler} (exactLedger : before.LedgerExact)
    (sound : before.Sound) (operation : Operation) :
    (before.step operation).LedgerExact ↔ ¬before.RedispatchesReserved operation := by
  rcases sound.slack_cases operation with
    ⟨keeps, nothing⟩ | ⟨resources, now, order, id, old, dispatches, chosen, found, admits⟩
  · refine ⟨fun _ => ?_, fun _ => ledgerExact_of_sum (sound.step operation) fun resource => ?_⟩
    · rintro ⟨resources, now, order, id, node, dispatches, chosen, _⟩
      rw [nothing resources now order dispatches] at chosen
      cases chosen
    · have start := exactLedger.sum resource
      have balance := keeps resource (Nat.le_of_eq start.symm)
      omega
  · constructor
    · rintro next ⟨otherResources, time, turn, other, node, again, selected, present, flag,
        resource, positive⟩
      obtain ⟨rfl, rfl, rfl⟩ := dispatches.unique again
      rw [chosen, Option.some.injEq] at selected
      subst selected
      rw [found, Option.some.injEq] at present
      subst present
      have start := exactLedger.sum resource
      have counter := (admits resource).counter
      have held := (admits resource).held
      rw [resource.heldBy_reserved flag] at held
      have finish := next.sum resource
      omega
    · intro single
      refine ledgerExact_of_sum (sound.step operation) fun resource => ?_
      have start := exactLedger.sum resource
      have counter := (admits resource).counter
      have held := (admits resource).held
      have free : resource.heldBy old = 0 := by
        cases flag : old.resourcesReserved with
        | false => exact resource.heldBy_free flag
        | true =>
            rw [resource.heldBy_reserved flag]
            by_contra positive
            exact single ⟨resources, now, order, id, old, dispatches, chosen, found, flag,
              resource, Nat.pos_of_ne_zero positive⟩
      omega

theorem ledgerExact_initial : ({} : AgentScheduler).LedgerExact := by
  refine ledgerExact_of_sum sound_initial fun resource => ?_
  cases resource with
  | cpuThreads => rfl
  | memoryBytes => rfl

/-- The ledger is exact along exactly those runs that never dispatch an agent which
still holds a reservation. -/
theorem resource_ledger_exact_iff (operations : List Operation) :
    machine.Throughout LedgerExact machine.initial operations ↔
      machine.Along (fun scheduler operation => ¬scheduler.RedispatchesReserved operation)
        machine.initial operations :=
  machine.throughout_iff_along Sound LedgerExact _ (fun _ => True)
    (fun _ operation sound _ => sound.step operation)
    (fun _ operation sound exactLedger _ => exactLedger.step_iff sound operation)
    machine.initial operations sound_initial ledgerExact_initial (fun _ _ => trivial)

/-- Agent 1 blocks, wakes up, is dispatched again and completes. -/
def blockedAndWoken : List Operation :=
  [ .submit { id := 1 } 0 IterationOrder.asStored,
    .tryDispatch { availableCpuThreads := 2 } 0 IterationOrder.asStored,
    .markRunning 1 7 0,
    .markBlocked 1,
    .wake 1,
    .tryDispatch { availableCpuThreads := 2 } 0 IterationOrder.asStored,
    .complete 1 0 ]

/-- One thread stays reserved for nobody. -/
theorem blocked_agent_leaks_reservation :
    ¬∀ operations : List Operation,
      machine.Throughout LedgerExact machine.initial operations := by
  intro always
  have holds := always blockedAndWoken
  rw [← List.append_nil blockedAndWoken] at holds
  have exactLedger := Machine.Throughout.at_segment blockedAndWoken [] holds
  have finished : (machine.run blockedAndWoken).allTerminal = true := by decide
  have leaked : (machine.run blockedAndWoken).reservedCpuThreads = 1 := by decide
  have nothing := (exactLedger.idle finished).1
  change (machine.run blockedAndWoken).reservedCpuThreads = 0 at nothing
  rw [leaked] at nothing
  cases nothing

/-! ### Admission -/

theorem used_le_held (resource : Resource) {scheduler : AgentScheduler}
    (sound : scheduler.Sound) : resource.used scheduler ≤ resource.held scheduler := by
  apply UnorderedMap.total_le_total
  intro id node found
  unfold Resource.usedBy
  split
  · rename_i active
    rw [resource.heldBy_reserved ((sound.coherent id node found).active active)]
  · exact Nat.zero_le _

/-- Admission against a snapshot, and the arithmetic of the counters. -/
structure AdmissionSafe (scheduler : AgentScheduler) : Prop where
  withinSnapshot : ∀ resources now order id,
    (scheduler.tryDispatch resources now order).2 = some id →
    ∃ node, (scheduler.tryDispatch resources now order).1.node? id = some node ∧
      ∀ resource : Resource, 0 < (resource.requested node).toNat →
        resource.used (scheduler.tryDispatch resources now order).1 ≤
          (resource.available resources).toNat
  withoutWrap : ∀ resources now order id node,
    (scheduler.tryDispatch resources now order).2 = some id →
    scheduler.node? id = some node → ∀ resource : Resource,
      (resource.counter (scheduler.tryDispatch resources now order).1).toNat =
        (resource.counter scheduler).toNat + (resource.requested node).toNat
  withoutSaturation : ∀ id node, scheduler.node? id = some node →
    node.resourcesReserved = true → ∀ resource : Resource,
      resource.requested node ≤ resource.counter scheduler
  releasesExactly : ∀ operation,
    (∀ resources now order, ¬Dispatches operation resources now order) →
    ∀ resource : Resource,
      (resource.counter (scheduler.step operation)).toNat + resource.held scheduler =
        (resource.counter scheduler).toNat + resource.held (scheduler.step operation)

theorem admission_safe (history : List Operation) : (machine.run history).AdmissionSafe := by
  have reached : Reachable (machine.run history) := machine.reachable_run history
  have sound := reached.sound
  have covered := reached.covered
  generalize machine.run history = scheduler at sound covered
  have admitted : ∀ resources now order id,
      (scheduler.tryDispatch resources now order).2 = some id →
      ∃ old, scheduler.node? id = some old ∧ ∀ resource,
        Admits resource resources scheduler old
          (scheduler.tryDispatch resources now order).1 := by
    intro resources now order id chosen
    unfold tryDispatch at chosen ⊢
    rcases dispatchLocked_cases scheduler resources now order with
      nothing | ⟨other, old, queued, found, fitting, result⟩
    · rw [nothing] at chosen
      cases chosen
    · rw [result, Option.some.injEq] at chosen
      subst chosen
      rw [result]
      exact ⟨old, found, admits_reserve queued found fitting⟩
  refine ⟨?_, ?_, ?_, ?_⟩
  · intro resources now order id chosen
    obtain ⟨old, found, admits⟩ := admitted resources now order id chosen
    have nextSound := sound.step (.tryDispatch resources now order)
    have nextCovered := covered.step sound (.tryDispatch resources now order)
    obtain ⟨new, newFound, spec, _⟩ :=
      (sound.effect (.tryDispatch resources now order)).skeleton.elim
        (fun same => same.forward found) (fun batch => by
          obtain ⟨_, _, _, offered, _⟩ := batch
          cases offered)
    refine ⟨new, newFound, fun resource positive => ?_⟩
    rw [resource.requested_congr spec] at positive
    have within := (admits resource).within.resolve_left (Nat.pos_iff_ne_zero.mp positive)
    calc resource.used (scheduler.tryDispatch resources now order).1
        ≤ resource.held (scheduler.tryDispatch resources now order).1 :=
          used_le_held resource nextSound
      _ ≤ (resource.counter (scheduler.tryDispatch resources now order).1).toNat :=
          nextCovered resource
      _ ≤ (resource.available resources).toNat := within
  · intro resources now order id node chosen found resource
    obtain ⟨old, oldFound, admits⟩ := admitted resources now order id chosen
    rw [found, Option.some.injEq] at oldFound
    subst oldFound
    exact (admits resource).counter
  · intro id node found flag resource
    rw [UInt64.le_iff_toNat_le, ← resource.heldBy_reserved flag]
    exact Nat.le_trans (resource.heldBy_le_held found) (covered resource)
  · intro operation undispatched resource
    exact (sound.effect operation).keepsSlack undispatched resource (covered resource)

end AgentScheduler

end AgentNucleus.Runtime
