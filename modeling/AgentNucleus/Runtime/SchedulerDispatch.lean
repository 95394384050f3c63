/-
Dispatch, read off agent by agent: the loop relabels the agents of `ready_` by
whether they fit, and at most one fitting agent is reserved.
-/

import AgentNucleus.Runtime.SchedulerEffects

set_option autoImplicit false

namespace AgentNucleus.Runtime

open Library

/-- The state an agent of `ready_` has after the loop has looked at it. -/
def Node.relabel (node : Node) (fitting : Bool) : Node :=
  if fitting then
    if node.state = .waitingResource then node.setState .ready else node
  else node.setState .waitingResource

@[simp] theorem Node.relabel_spec (node : Node) (fitting : Bool) :
    (node.relabel fitting).spec = node.spec := by
  unfold Node.relabel
  split
  · split <;> rfl
  · rfl

@[simp] theorem Node.relabel_successors (node : Node) (fitting : Bool) :
    (node.relabel fitting).successors = node.successors := by
  unfold Node.relabel
  split
  · split <;> rfl
  · rfl

@[simp] theorem Node.relabel_unresolved (node : Node) (fitting : Bool) :
    (node.relabel fitting).unresolved = node.unresolved := by
  unfold Node.relabel
  split
  · split <;> rfl
  · rfl

@[simp] theorem Node.relabel_reserved (node : Node) (fitting : Bool) :
    (node.relabel fitting).resourcesReserved = node.resourcesReserved := by
  unfold Node.relabel
  split
  · split <;> rfl
  · rfl

@[simp] theorem Node.relabel_retryCount (node : Node) (fitting : Bool) :
    (node.relabel fitting).snapshot.retryCount = node.snapshot.retryCount := by
  unfold Node.relabel
  split
  · split <;> rfl
  · rfl

/-- A queued agent stays queued under its new label. -/
theorem Node.relabel_state {node : Node} (fitting : Bool)
    (queued : node.state = .ready ∨ node.state = .waitingResource) :
    (node.relabel fitting).state = .ready ∨ (node.relabel fitting).state = .waitingResource := by
  unfold Node.relabel
  split
  · split
    · exact Or.inl rfl
    · exact queued
  · exact Or.inr rfl

namespace AgentScheduler

theorem fits_congr {left right : AgentScheduler} (resources : MemorySnapshot) (node : Node)
    (cpu : left.reservedCpuThreads = right.reservedCpuThreads)
    (memory : left.reservedMemoryBytes = right.reservedMemoryBytes) :
    left.fits resources node = right.fits resources node := by
  unfold fits
  rw [cpu, memory]

/-! ### The loop over `ready_` -/

section Loop

variable (resources : MemorySnapshot) (now : TimePoint)

theorem considerReady_none (selection : Selection) (id : AgentId)
    (missing : selection.scheduler.node? id = none) :
    considerReady resources now selection id = selection := by
  unfold considerReady
  rw [missing]

theorem considerReady_some (selection : Selection) (id : AgentId) (node : Node)
    (found : selection.scheduler.node? id = some node) :
    (considerReady resources now selection id).scheduler =
        selection.scheduler.store id
          (node.relabel (selection.scheduler.fits resources node)) ∧
      ((considerReady resources now selection id).selected = selection.selected ∨
        (considerReady resources now selection id).selected = id ∧
          selection.scheduler.fits resources node = true) := by
  have fittingLabel :
      (if node.state = .waitingResource then node.setState .ready else node) =
        node.relabel true := rfl
  unfold considerReady
  simp only [found, fittingLabel]
  cases fitting : selection.scheduler.fits resources node with
  | false => exact ⟨rfl, Or.inl rfl⟩
  | true =>
      by_cases better : selection.selected = kInvalidAgentId ∨
          dispatchScore now (node.relabel true) > selection.bestScore
      · simp only [if_true, if_pos better]
        exact ⟨trivial, Or.inr ⟨trivial, trivial⟩⟩
      · simp only [if_true, if_neg better]
        exact ⟨trivial, Or.inl trivial⟩

/-- Everything the loop leaves behind, agent by agent. -/
structure Considered (ids : List AgentId) (before after : Selection) : Prop where
  ready : after.scheduler.ready = before.scheduler.ready
  cpu : after.scheduler.reservedCpuThreads = before.scheduler.reservedCpuThreads
  memory : after.scheduler.reservedMemoryBytes = before.scheduler.reservedMemoryBytes
  node : ∀ id, after.scheduler.node? id =
    if id ∈ ids then
      (before.scheduler.node? id).map fun node =>
        node.relabel (before.scheduler.fits resources node)
    else before.scheduler.node? id
  selected : after.selected = before.selected ∨
    after.selected ∈ ids ∧ ∃ node, before.scheduler.node? after.selected = some node ∧
      before.scheduler.fits resources node = true

theorem considered_single (selection : Selection) (id : AgentId) :
    Considered resources [id] selection (considerReady resources now selection id) := by
  cases found : selection.scheduler.node? id with
  | none =>
      rw [considerReady_none resources now selection id found]
      refine ⟨rfl, rfl, rfl, ?_, Or.inl rfl⟩
      intro other
      by_cases same : other = id
      · rw [same, if_pos (List.mem_singleton.mpr rfl), found]
        rfl
      · rw [if_neg (fun member => same (List.mem_singleton.mp member))]
  | some node =>
      obtain ⟨stored, chosen⟩ := considerReady_some resources now selection id node found
      refine ⟨by rw [stored]; rfl, by rw [stored]; rfl, by rw [stored]; rfl, ?_, ?_⟩
      · intro other
        rw [stored, node?_store]
        by_cases same : other = id
        · rw [if_pos same, same, if_pos (List.mem_singleton.mpr rfl), found]
          rfl
        · rw [if_neg same, if_neg (fun member => same (List.mem_singleton.mp member))]
      · rcases chosen with kept | ⟨taken, fitting⟩
        · exact Or.inl kept
        · exact Or.inr ⟨by rw [taken]; exact List.mem_singleton.mpr rfl,
            node, by rw [taken]; exact found, fitting⟩

theorem considered_all (ids : List AgentId) (distinct : ids.Nodup) (selection : Selection) :
    Considered resources ids selection
      (ids.foldl (considerReady resources now) selection) := by
  induction ids generalizing selection with
  | nil =>
      refine ⟨rfl, rfl, rfl, ?_, Or.inl rfl⟩
      intro id
      rw [if_neg List.not_mem_nil]
      rfl
  | cons head rest ih =>
      obtain ⟨fresh, restDistinct⟩ := List.nodup_cons.mp distinct
      have first := considered_single resources now selection head
      have later := ih restDistinct (considerReady resources now selection head)
      rw [List.foldl_cons]
      refine ⟨later.ready.trans first.ready, later.cpu.trans first.cpu,
        later.memory.trans first.memory, ?_, ?_⟩
      · intro id
        rw [later.node, first.node]
        by_cases same : id = head
        · subst same
          rw [if_neg fresh, if_pos (List.mem_singleton.mpr rfl), if_pos (List.mem_cons_self ..)]
        · rw [if_neg (fun member => same (List.mem_singleton.mp member))]
          by_cases inRest : id ∈ rest
          · rw [if_pos inRest, if_pos (List.mem_cons_of_mem head inRest)]
            congr 1
            funext node
            rw [fits_congr resources node first.cpu first.memory]
          · rw [if_neg inRest, if_neg]
            intro member
            rcases List.mem_cons.mp member with equal | present
            · exact same equal
            · exact inRest present
      · rcases later.selected with kept | ⟨member, node, found, fitting⟩
        · rcases first.selected with unchanged | ⟨member, rest⟩
          · exact Or.inl (kept.trans unchanged)
          · rw [kept]
            exact Or.inr ⟨List.mem_cons.mpr (Or.inl (List.mem_singleton.mp member)), rest⟩
        · refine Or.inr ⟨List.mem_cons_of_mem head member, node, ?_, ?_⟩
          · rw [first.node, if_neg] at found
            · exact found
            · intro atHead
              rw [List.mem_singleton.mp atHead] at member
              exact fresh member
          · rw [← fits_congr resources node first.cpu first.memory]
            exact fitting

end Loop

section Dispatch

variable (scheduler : AgentScheduler) (resources : MemorySnapshot) (now : TimePoint)
  (order : IterationOrder AgentId)

/-- The scheduler after the loop, before any reservation. -/
def relabelled : AgentScheduler :=
  (scheduler.considerAll resources now order).scheduler

private theorem considered :
    Considered resources (order.visit scheduler.ready.keys) { scheduler := scheduler }
      (scheduler.considerAll resources now order) :=
  considered_all resources now (order.visit scheduler.ready.keys)
    (order.nodup_visit _ (AList.keys_nodup scheduler.ready)) { scheduler := scheduler }

theorem node?_relabelled (id : AgentId) :
    (scheduler.relabelled resources now order).node? id =
      if id ∈ scheduler.ready then
        (scheduler.node? id).map fun node => node.relabel (scheduler.fits resources node)
      else scheduler.node? id := by
  have loop := (considered scheduler resources now order).node id
  simp only [IterationOrder.mem_visit, ← AList.mem_keys] at loop
  exact loop

@[simp] theorem relabelled_ready :
    (scheduler.relabelled resources now order).ready = scheduler.ready :=
  (considered scheduler resources now order).ready

@[simp] theorem relabelled_cpu :
    (scheduler.relabelled resources now order).reservedCpuThreads =
      scheduler.reservedCpuThreads :=
  (considered scheduler resources now order).cpu

@[simp] theorem relabelled_memory :
    (scheduler.relabelled resources now order).reservedMemoryBytes =
      scheduler.reservedMemoryBytes :=
  (considered scheduler resources now order).memory

/-- A dispatch selects nothing, or it reserves one fitting agent of `ready_`. -/
theorem dispatchLocked_cases :
    (scheduler.dispatchLocked resources now order =
        (scheduler.relabelled resources now order, none)) ∨
      ∃ id node, id ∈ scheduler.ready ∧ scheduler.node? id = some node ∧
        scheduler.fits resources node = true ∧
        scheduler.dispatchLocked resources now order =
          ((scheduler.relabelled resources now order).reserve id (node.relabel true),
            some id) := by
  have loop := (considered scheduler resources now order).selected
  unfold dispatchLocked
  by_cases nothing :
      (scheduler.considerAll resources now order).selected = kInvalidAgentId
  · exact Or.inl (by simp only [nothing, if_true]; rfl)
  · rcases loop with initial | ⟨member, node, found, fitting⟩
    · exact absurd initial nothing
    · rw [IterationOrder.mem_visit, ← AList.mem_keys] at member
      refine Or.inr ⟨_, node, member, found, fitting, ?_⟩
      have stored := node?_relabelled scheduler resources now order
        (scheduler.considerAll resources now order).selected
      rw [if_pos member, found, Option.map_some, fitting] at stored
      unfold relabelled at stored ⊢
      simp only [nothing, if_false, stored]

end Dispatch

theorem node?_reserve (scheduler : AgentScheduler) (id other : AgentId) (node : Node) :
    (scheduler.reserve id node).node? other =
      if other = id then
        some { node.setState .dispatched with resourcesReserved := true }
      else scheduler.node? other :=
  UnorderedMap.lookup_insert_if scheduler.nodes id other _

@[simp] theorem mem_ready_reserve (scheduler : AgentScheduler) (id other : AgentId)
    (node : Node) :
    other ∈ (scheduler.reserve id node).ready ↔ other ≠ id ∧ other ∈ scheduler.ready :=
  UnorderedSet.mem_remove scheduler.ready id other

/-- What `wait_dispatch` returns has left the queue and is dispatched. -/
theorem waitDispatch_dispatched {scheduler : AgentScheduler} {resources : MemorySnapshot}
    {now : TimePoint} {order : IterationOrder AgentId} {id : AgentId}
    (chosen : (scheduler.waitDispatch resources now order).2 = some id) :
    id ∈ scheduler.ready ∧
      ∃ node, (scheduler.waitDispatch resources now order).1.node? id = some node ∧
        node.state = .dispatched := by
  unfold waitDispatch at chosen ⊢
  rcases dispatchLocked_cases scheduler resources now order with
    nothing | ⟨selected, node, queued, found, fitting, result⟩
  · rw [nothing] at chosen
    cases chosen
  · rw [result] at chosen ⊢
    cases chosen
    refine ⟨queued, { (node.relabel true).setState .dispatched with resourcesReserved := true },
      ?_, rfl⟩
    rw [node?_reserve, if_pos rfl]

end AgentScheduler

end AgentNucleus.Runtime
