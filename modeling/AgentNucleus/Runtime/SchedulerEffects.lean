/-
Writing one agent, releasing its reservation, and the loop over the successors of
a completed agent, each read off agent by agent.
-/

import AgentNucleus.Runtime.Scheduler

set_option autoImplicit false

namespace AgentNucleus.Runtime

open Library

/-! ### Writing one agent -/

@[simp] theorem Node.setState_state (node : Node) (state : AgentState) :
    (node.setState state).state = state := rfl

@[simp] theorem Node.setState_spec (node : Node) (state : AgentState) :
    (node.setState state).spec = node.spec := rfl

@[simp] theorem Node.setState_unresolved (node : Node) (state : AgentState) :
    (node.setState state).unresolved = node.unresolved := rfl

@[simp] theorem Node.setState_successors (node : Node) (state : AgentState) :
    (node.setState state).successors = node.successors := rfl

@[simp] theorem Node.setState_reserved (node : Node) (state : AgentState) :
    (node.setState state).resourcesReserved = node.resourcesReserved := rfl

namespace AgentScheduler

def HasState (id : AgentId) (state : AgentState) (scheduler : AgentScheduler) : Prop :=
  ∃ node, scheduler.node? id = some node ∧ node.state = state

theorem node?_store (scheduler : AgentScheduler) (id other : AgentId) (node : Node) :
    (scheduler.store id node).node? other =
      if other = id then some node else scheduler.node? other :=
  UnorderedMap.lookup_insert_if scheduler.nodes id other node

@[simp] theorem node?_store_self (scheduler : AgentScheduler) (id : AgentId) (node : Node) :
    (scheduler.store id node).node? id = some node := by
  rw [node?_store, if_pos rfl]

theorem node?_store_other (scheduler : AgentScheduler) {id other : AgentId} (node : Node)
    (different : other ≠ id) :
    (scheduler.store id node).node? other = scheduler.node? other := by
  rw [node?_store, if_neg different]

@[simp] theorem store_ready (scheduler : AgentScheduler) (id : AgentId) (node : Node) :
    (scheduler.store id node).ready = scheduler.ready := rfl

@[simp] theorem node?_enqueue (scheduler : AgentScheduler) (id other : AgentId) :
    (scheduler.enqueue id).node? other = scheduler.node? other := rfl

@[simp] theorem node?_dequeue (scheduler : AgentScheduler) (id other : AgentId) :
    (scheduler.dequeue id).node? other = scheduler.node? other := rfl

@[simp] theorem mem_ready_enqueue (scheduler : AgentScheduler) (id other : AgentId) :
    other ∈ (scheduler.enqueue id).ready ↔ other = id ∨ other ∈ scheduler.ready :=
  UnorderedSet.mem_add scheduler.ready id other

@[simp] theorem mem_ready_dequeue (scheduler : AgentScheduler) (id other : AgentId) :
    other ∈ (scheduler.dequeue id).ready ↔ other ≠ id ∧ other ∈ scheduler.ready :=
  UnorderedSet.mem_remove scheduler.ready id other

theorem mem_keys_iff (scheduler : AgentScheduler) (id : AgentId) :
    id ∈ scheduler.nodes.keys ↔ ∃ node, scheduler.node? id = some node := by
  rw [← AList.mem_keys]
  exact UnorderedMap.mem_iff_lookup scheduler.nodes id

theorem successorsOf_some {scheduler : AgentScheduler} {id : AgentId} {node : Node}
    (found : scheduler.node? id = some node) :
    successorsOf scheduler.nodes id = node.successors := by
  unfold successorsOf
  unfold node? at found
  rw [found]

theorem successorsOf_none {scheduler : AgentScheduler} {id : AgentId}
    (missing : scheduler.node? id = none) : successorsOf scheduler.nodes id = [] := by
  unfold successorsOf
  unfold node? at missing
  rw [missing]

/-! ### Releasing a reservation -/

@[simp] theorem release_nodes (scheduler : AgentScheduler) (node : Node) :
    (scheduler.releaseResourcesLocked node).1.nodes = scheduler.nodes := by
  unfold releaseResourcesLocked
  split <;> rfl

@[simp] theorem release_ready (scheduler : AgentScheduler) (node : Node) :
    (scheduler.releaseResourcesLocked node).1.ready = scheduler.ready := by
  unfold releaseResourcesLocked
  split <;> rfl

@[simp] theorem release_node? (scheduler : AgentScheduler) (node : Node) (id : AgentId) :
    (scheduler.releaseResourcesLocked node).1.node? id = scheduler.node? id := by
  unfold node?
  rw [release_nodes]

end AgentScheduler

def Node.unreserved (node : Node) : Node :=
  { node with resourcesReserved := false }

/-- The released node differs from the given one in the flag alone. -/
theorem AgentScheduler.release_node (scheduler : AgentScheduler) (node : Node) :
    (scheduler.releaseResourcesLocked node).2 = node.unreserved := by
  unfold AgentScheduler.releaseResourcesLocked
  cases node with
  | mk snapshot successors reserved => cases reserved <;> rfl

/-- The agent after the transition into a terminal state. -/
def Node.ended (node : Node) (state : AgentState) (error : StdString) (now : TimePoint) :
    Node :=
  (node.unreserved.setState state).finishWith error now

@[simp] theorem Node.ended_state (node : Node) (state : AgentState) (error : StdString)
    (now : TimePoint) : (node.ended state error now).state = state := rfl

@[simp] theorem Node.ended_spec (node : Node) (state : AgentState) (error : StdString)
    (now : TimePoint) : (node.ended state error now).spec = node.spec := rfl

@[simp] theorem Node.ended_successors (node : Node) (state : AgentState) (error : StdString)
    (now : TimePoint) : (node.ended state error now).successors = node.successors := rfl

@[simp] theorem Node.ended_unresolved (node : Node) (state : AgentState) (error : StdString)
    (now : TimePoint) : (node.ended state error now).unresolved = node.unresolved := rfl

@[simp] theorem Node.ended_reserved (node : Node) (state : AgentState) (error : StdString)
    (now : TimePoint) : (node.ended state error now).resourcesReserved = false := rfl

/-- A release reads the flag and the request of its agent. -/
theorem AgentScheduler.release_congr (scheduler : AgentScheduler) (left right : Node)
    (flag : left.resourcesReserved = right.resourcesReserved)
    (spec : left.spec = right.spec) :
    (scheduler.releaseResourcesLocked left).1 = (scheduler.releaseResourcesLocked right).1 := by
  unfold AgentScheduler.releaseResourcesLocked
  rw [flag, spec]
  split <;> rfl

/-! ### The loop over the successors of a completed agent -/

/-- The agent leaves the waiting state during `count` turns of the loop. -/
def Node.Wakes (node : Node) (count : Nat) : Prop :=
  node.state = .waitingDependency ∧ 0 < count ∧ node.unresolved.toNat ≤ count

instance (node : Node) (count : Nat) : Decidable (node.Wakes count) :=
  inferInstanceAs (Decidable (_ ∧ _ ∧ _))

/-- `count` turns of the loop body on the same successor. -/
def Node.resolve (node : Node) (count : Nat) : Node :=
  { node with snapshot :=
      { node.snapshot with
        unresolvedDependencies := UInt32.ofNat (node.unresolved.toNat - count)
        state := if node.Wakes count then .ready else node.state } }

theorem Node.resolve_zero (node : Node) : node.resolve 0 = node := by
  unfold Node.resolve
  have idle : ¬node.Wakes 0 := fun impossible => absurd impossible.2.1 (Nat.lt_irrefl 0)
  rw [if_neg idle, Nat.sub_zero, UInt32.ofNat_toNat]
  rfl

@[simp] theorem Node.resolve_spec (node : Node) (count : Nat) :
    (node.resolve count).spec = node.spec := rfl

@[simp] theorem Node.resolve_successors (node : Node) (count : Nat) :
    (node.resolve count).successors = node.successors := rfl

@[simp] theorem Node.resolve_reserved (node : Node) (count : Nat) :
    (node.resolve count).resourcesReserved = node.resourcesReserved := rfl

theorem Node.resolve_unresolved (node : Node) (count : Nat) :
    (node.resolve count).unresolved.toNat = node.unresolved.toNat - count := by
  have bounded := node.unresolved.toNat_lt
  change (UInt32.ofNat (node.unresolved.toNat - count)).toNat = _
  rw [UInt32.toNat_ofNat_of_lt']
  exact Nat.lt_of_le_of_lt (Nat.sub_le _ _) bounded

theorem Node.resolve_state_of_wakes {node : Node} {count : Nat} (wakes : node.Wakes count) :
    (node.resolve count).state = .ready :=
  if_pos wakes

theorem Node.resolve_state_of_not_wakes {node : Node} {count : Nat}
    (sleeps : ¬node.Wakes count) : (node.resolve count).state = node.state :=
  if_neg sleeps

theorem Node.wakes_add (node : Node) (first second : Nat) :
    node.Wakes (first + second) ↔ node.Wakes first ∨ (node.resolve first).Wakes second := by
  have counter := node.resolve_unresolved first
  constructor
  · rintro ⟨waiting, positive, below⟩
    by_cases early : node.Wakes first
    · exact Or.inl early
    · have kept := Node.resolve_state_of_not_wakes early
      have late : ¬(0 < first ∧ node.unresolved.toNat ≤ first) :=
        fun both => early ⟨waiting, both⟩
      exact Or.inr ⟨kept.trans waiting, by omega, by omega⟩
  · rintro (⟨waiting, positive, below⟩ | ⟨waiting, positive, below⟩)
    · exact ⟨waiting, by omega, by omega⟩
    · by_cases early : node.Wakes first
      · rw [Node.resolve_state_of_wakes early] at waiting
        cases waiting
      · rw [Node.resolve_state_of_not_wakes early] at waiting
        exact ⟨waiting, by omega, by omega⟩

theorem Node.resolve_add (node : Node) (first second : Nat) :
    (node.resolve first).resolve second = node.resolve (first + second) := by
  have counter : (node.resolve first).unresolved.toNat - second =
      node.unresolved.toNat - (first + second) := by
    rw [node.resolve_unresolved first]
    omega
  have state : ((node.resolve first).resolve second).state =
      (node.resolve (first + second)).state := by
    by_cases both : node.Wakes (first + second)
    · rw [Node.resolve_state_of_wakes both]
      by_cases late : (node.resolve first).Wakes second
      · exact Node.resolve_state_of_wakes late
      · have early := ((node.wakes_add first second).mp both).resolve_right late
        rw [Node.resolve_state_of_not_wakes late]
        exact Node.resolve_state_of_wakes early
    · have neither := fun either => both ((node.wakes_add first second).mpr either)
      rw [Node.resolve_state_of_not_wakes both,
        Node.resolve_state_of_not_wakes (fun late => neither (Or.inr late)),
        Node.resolve_state_of_not_wakes (fun early => neither (Or.inl early))]
  have snapshot : ((node.resolve first).resolve second).snapshot =
      (node.resolve (first + second)).snapshot := by
    change ({ node.snapshot with
      unresolvedDependencies := UInt32.ofNat ((node.resolve first).unresolved.toNat - second)
      state := ((node.resolve first).resolve second).state } : AgentSnapshot) = _
    rw [counter, state]
    rfl
  change ({ node with snapshot := ((node.resolve first).resolve second).snapshot } : Node) = _
  rw [snapshot]
  rfl

namespace AgentScheduler

/-- Every agent is stored under its own id. -/
def Keyed (scheduler : AgentScheduler) : Prop :=
  ∀ id node, scheduler.node? id = some node → node.spec.id = id

private theorem decrementUnresolved_eq (node : Node) :
    node.decrementUnresolved =
      { node with snapshot :=
          { node.snapshot with
            unresolvedDependencies := UInt32.ofNat (node.unresolved.toNat - 1) } } := by
  unfold Node.decrementUnresolved
  have bounded := node.unresolved.toNat_lt
  by_cases positive : node.unresolved > 0
  · have one : (1 : UInt32) ≤ node.unresolved := by
      rw [UInt32.le_iff_toNat_le]
      exact UInt32.lt_iff_toNat_lt.mp positive
    have counter : node.unresolved - 1 = UInt32.ofNat (node.unresolved.toNat - 1) := by
      apply UInt32.toNat_inj.mp
      rw [UInt32.toNat_sub_of_le _ _ one, UInt32.toNat_ofNat_of_lt']
      · rfl
      · change _ < 4294967296
        omega
    rw [if_pos positive, counter]
  · have zero : node.unresolved.toNat - 1 = node.unresolved.toNat := by
      have none : ¬0 < node.unresolved.toNat := fun below =>
        positive (UInt32.lt_iff_toNat_lt.mpr below)
      omega
    rw [if_neg positive, zero, UInt32.ofNat_toNat]
    rfl

private theorem wakes_one_iff (node : Node) :
    UInt32.ofNat (node.unresolved.toNat - 1) = 0 ∧ node.state = .waitingDependency ↔
      node.Wakes 1 := by
  have bounded := node.unresolved.toNat_lt
  have counter : (UInt32.ofNat (node.unresolved.toNat - 1)).toNat =
      node.unresolved.toNat - 1 := by
    rw [UInt32.toNat_ofNat_of_lt']
    change _ < 4294967296
    omega
  constructor
  · rintro ⟨zero, waiting⟩
    rw [zero] at counter
    have value : (0 : UInt32).toNat = 0 := rfl
    exact ⟨waiting, Nat.one_pos, by omega⟩
  · rintro ⟨waiting, _, below⟩
    refine ⟨UInt32.toNat_inj.mp ?_, waiting⟩
    rw [counter]
    change _ = 0
    omega

theorem resolveDependency_none (scheduler : AgentScheduler) (id : AgentId)
    (missing : scheduler.node? id = none) : scheduler.resolveDependency id = scheduler := by
  unfold resolveDependency
  rw [missing]

/-- One turn of the loop resolves one entry of its successor. -/
theorem resolveDependency_some (scheduler : AgentScheduler) (id : AgentId) (node : Node)
    (found : scheduler.node? id = some node) :
    scheduler.resolveDependency id =
      { scheduler.store id (node.resolve 1) with
        ready :=
          if node.Wakes 1 then UnorderedSet.add scheduler.ready node.spec.id
          else scheduler.ready } := by
  have turn : scheduler.resolveDependency id =
      if UInt32.ofNat (node.unresolved.toNat - 1) = 0 ∧ node.state = .waitingDependency then
        scheduler.enqueueReadyLocked id node.decrementUnresolved
      else scheduler.store id node.decrementUnresolved := by
    unfold resolveDependency
    rw [found]
    change (if node.decrementUnresolved.unresolved = 0 ∧
      node.decrementUnresolved.state = .waitingDependency then _ else _) = _
    rw [decrementUnresolved_eq]
    rfl
  rw [turn, decrementUnresolved_eq]
  by_cases wakes : node.Wakes 1
  · rw [if_pos ((wakes_one_iff node).mpr wakes), if_pos wakes, Node.resolve, if_pos wakes]
    rfl
  · rw [if_neg (fun both => wakes ((wakes_one_iff node).mp both)), if_neg wakes,
      Node.resolve, if_neg wakes]
    rfl

/-- The loop resolves every successor as often as it is listed. -/
theorem node?_resolveAll (scheduler : AgentScheduler) (ids : List AgentId) (id : AgentId) :
    (ids.foldl resolveDependency scheduler).node? id =
      (scheduler.node? id).map fun node => node.resolve (ids.count id) := by
  induction ids generalizing scheduler with
  | nil =>
      cases found : scheduler.node? id with
      | none => exact found
      | some node =>
          rw [Option.map_some, List.count_nil, Node.resolve_zero]
          exact found
  | cons head rest ih =>
      rw [List.foldl_cons, ih]
      cases found : scheduler.node? head with
      | none =>
          rw [resolveDependency_none scheduler head found]
          by_cases same : id = head
          · subst same
            rw [found]
            rfl
          · rw [List.count_cons_of_ne (fun equal => same equal.symm)]
      | some node =>
          rw [resolveDependency_some scheduler head node found]
          change Option.map _ ((scheduler.store head (node.resolve 1)).node? id) = _
          by_cases same : id = head
          · subst same
            rw [node?_store_self, found, Option.map_some, Option.map_some,
              List.count_cons_self, Node.resolve_add, Nat.add_comm]
          · rw [node?_store_other _ _ same,
              List.count_cons_of_ne (fun equal => same equal.symm)]

theorem Keyed.resolveDependency {scheduler : AgentScheduler} (keyed : scheduler.Keyed)
    (head : AgentId) : (scheduler.resolveDependency head).Keyed := by
  intro id node found
  have whole := node?_resolveAll scheduler [head] id
  rw [List.foldl_cons, List.foldl_nil, found] at whole
  obtain ⟨old, oldFound, rfl⟩ := Option.map_eq_some_iff.mp whole.symm
  exact keyed id old oldFound

/-- The loop enqueues exactly the agents it wakes. -/
theorem mem_ready_resolveAll (scheduler : AgentScheduler) (keyed : scheduler.Keyed)
    (ids : List AgentId) (id : AgentId) :
    id ∈ (ids.foldl resolveDependency scheduler).ready ↔
      id ∈ scheduler.ready ∨
        ∃ node, scheduler.node? id = some node ∧ node.Wakes (ids.count id) := by
  induction ids generalizing scheduler with
  | nil =>
      rw [List.foldl_nil]
      constructor
      · exact Or.inl
      · rintro (member | ⟨node, _, wakes⟩)
        · exact member
        · exact absurd wakes.2.1 (Nat.lt_irrefl 0)
  | cons head rest ih =>
      rw [List.foldl_cons, ih _ (keyed.resolveDependency head)]
      cases found : scheduler.node? head with
      | none =>
          rw [resolveDependency_none scheduler head found]
          by_cases same : id = head
          · subst same
            simp only [found, reduceCtorEq, false_and, exists_false]
          · rw [List.count_cons_of_ne (fun equal => same equal.symm)]
      | some node =>
          rw [resolveDependency_some scheduler head node found]
          change id ∈ (if node.Wakes 1 then UnorderedSet.add scheduler.ready node.spec.id
              else scheduler.ready) ∨
            (∃ after, (scheduler.store head (node.resolve 1)).node? id = some after ∧
              after.Wakes (rest.count id)) ↔ _
          rw [keyed head node found]
          by_cases same : id = head
          · subst same
            rw [node?_store_self, found, List.count_cons_self, Nat.add_comm]
            simp only [Option.some.injEq, exists_eq_left', Node.wakes_add]
            by_cases wakes : node.Wakes 1
            · simp [wakes]
            · simp [wakes]
          · rw [node?_store_other _ _ same,
              List.count_cons_of_ne (fun equal => same equal.symm)]
            by_cases wakes : node.Wakes 1
            · simp [wakes, same]
            · simp [wakes]

theorem counters_resolveAll (scheduler : AgentScheduler) (ids : List AgentId) :
    (ids.foldl resolveDependency scheduler).reservedCpuThreads =
        scheduler.reservedCpuThreads ∧
      (ids.foldl resolveDependency scheduler).reservedMemoryBytes =
        scheduler.reservedMemoryBytes := by
  induction ids generalizing scheduler with
  | nil => exact ⟨rfl, rfl⟩
  | cons head rest ih =>
      rw [List.foldl_cons]
      obtain ⟨cpu, memory⟩ := ih (scheduler.resolveDependency head)
      rw [cpu, memory]
      cases found : scheduler.node? head with
      | none => rw [resolveDependency_none scheduler head found]; exact ⟨rfl, rfl⟩
      | some node =>
          rw [resolveDependency_some scheduler head node found]
          exact ⟨rfl, rfl⟩

end AgentScheduler
end AgentNucleus.Runtime
