/-
The dependency graph.  Only submission changes it, every successor entry answers
one dependency entry, and no reachable graph has a loop, so a batch is accepted
exactly when its own dependencies close none.
-/

import AgentNucleus.Runtime.SchedulerSteps

set_option autoImplicit false

namespace AgentNucleus.Runtime

open Library
open Library.DepthFirst (Edge)
open Relation (TransGen)

namespace AgentScheduler

/-! ### What only submission writes -/

def skeleton (scheduler : AgentScheduler) (id : AgentId) :
    Option (AgentTaskSpec × List AgentId) :=
  (scheduler.node? id).map fun node => (node.spec, node.successors)

/-- No agent is added, and every agent keeps its task and its successors. -/
def SameSkeleton (before after : AgentScheduler) : Prop :=
  ∀ id, after.skeleton id = before.skeleton id

theorem SameSkeleton.refl (scheduler : AgentScheduler) : scheduler.SameSkeleton scheduler :=
  fun _ => rfl

theorem SameSkeleton.trans {first second third : AgentScheduler}
    (left : first.SameSkeleton second) (right : second.SameSkeleton third) :
    first.SameSkeleton third :=
  fun id => (right id).trans (left id)

theorem SameSkeleton.symm {before after : AgentScheduler} (same : before.SameSkeleton after) :
    after.SameSkeleton before :=
  fun id => (same id).symm

theorem SameSkeleton.forward {before after : AgentScheduler} (same : before.SameSkeleton after)
    {id : AgentId} {old : Node} (found : before.node? id = some old) :
    ∃ new, after.node? id = some new ∧ new.spec = old.spec ∧
      new.successors = old.successors := by
  have here := same id
  unfold skeleton at here
  rw [found, Option.map_some] at here
  obtain ⟨new, newFound, fields⟩ := Option.map_eq_some_iff.mp here
  exact ⟨new, newFound, congrArg Prod.fst fields, congrArg Prod.snd fields⟩

theorem SameSkeleton.successorsOf {before after : AgentScheduler}
    (same : before.SameSkeleton after) (id : AgentId) :
    successorsOf after.nodes id = successorsOf before.nodes id := by
  cases found : before.node? id with
  | some old =>
      obtain ⟨new, newFound, _, successors⟩ := same.forward found
      rw [successorsOf_some found, successorsOf_some newFound, successors]
  | none =>
      have here := same id
      unfold skeleton at here
      rw [found, Option.map_none, Option.map_eq_none_iff] at here
      rw [successorsOf_none found, successorsOf_none here]

/-- Writing one agent over itself, whatever happened to the queue and the
counters before. -/
theorem sameSkeleton_write {before : AgentScheduler} (current : AgentScheduler)
    {id : AgentId} {old : Node} (new : Node) (found : before.node? id = some old)
    (nodes : current.nodes = before.nodes)
    (spec : new.spec = old.spec) (successors : new.successors = old.successors) :
    before.SameSkeleton (current.store id new) := by
  intro other
  unfold skeleton
  rw [node?_store]
  by_cases same : other = id
  · rw [if_pos same, same, found, Option.map_some, Option.map_some, spec, successors]
  · rw [if_neg same]
    unfold node?
    rw [nodes]

theorem Cancels.sameSkeleton {before after : AgentScheduler} (cancels : before.Cancels after) :
    before.SameSkeleton after := by
  intro id
  unfold skeleton
  rcases cancels id with ⟨same, _⟩ | ⟨old, new, found, _, afterFound, cancelled, _⟩
  · rw [same]
  · obtain ⟨error, now, rfl⟩ := cancelled
    rw [found, afterFound]
    rfl

theorem sameSkeleton_relabelled (scheduler : AgentScheduler) (resources : MemorySnapshot)
    (now : TimePoint) (order : IterationOrder AgentId) :
    scheduler.SameSkeleton (scheduler.relabelled resources now order) := by
  intro id
  unfold skeleton
  rw [node?_relabelled]
  split
  · cases scheduler.node? id with
    | none => rfl
    | some node =>
        simp only [Option.map_some, Node.relabel_spec, Node.relabel_successors]
  · rfl

theorem sameSkeleton_resolveAll (scheduler : AgentScheduler) (ids : List AgentId) :
    scheduler.SameSkeleton (ids.foldl resolveDependency scheduler) := by
  intro id
  unfold skeleton
  rw [node?_resolveAll, Option.map_map]
  rfl

/-- A step accepts a batch, or it leaves the graph as it was. -/
theorem Effect.skeleton {before after : AgentScheduler} {operation : Operation}
    (effect : Effect before operation after) :
    before.SameSkeleton after ∨
      ∃ tasks now order, before.offered operation = some tasks ∧ before.Admissible tasks ∧
        graphHasCycleLocked (before.linkedNodes tasks now) order = false ∧
        Submitted tasks now before after := by
  cases effect with
  | idle _ => exact Or.inl (SameSkeleton.refl before)
  | submitted tasks now order quiet offered admissible loopFree submitted =>
      exact Or.inr ⟨tasks, now, order, offered, admissible, loopFree, submitted⟩
  | relabelled dispatches nothing => exact Or.inl (sameSkeleton_relabelled before _ _ _)
  | @reserved _ resources now order id old dispatches chosen queued found fitting =>
      have relabelled := sameSkeleton_relabelled before resources now order
      obtain ⟨stored, storedFound, spec, successors⟩ := relabelled.forward found
      exact Or.inl (relabelled.trans (sameSkeleton_write _ _ storedFound rfl
        ((Node.relabel_spec old true).trans spec.symm)
        ((Node.relabel_successors old true).trans successors.symm)))
  | moved id old new quiet found moved =>
      exact Or.inl (sameSkeleton_write _ new found rfl moved.spec moved.successors)
  | woken id old found asleep =>
      exact Or.inl (sameSkeleton_write before (old.setState .ready) found
        rfl rfl rfl)
  | completed id old now found active =>
      have written := sameSkeleton_write _ (old.ended .completed old.snapshot.error now) found
        (release_nodes before old) rfl rfl
      exact Or.inl (written.trans (sameSkeleton_resolveAll _ _))
  | retried id old message now found left =>
      exact Or.inl (sameSkeleton_write (before.releaseResourcesLocked old).1
        (old.unreserved.retryWith message) found (release_nodes before old) rfl rfl)
  | released id old message now found exhausted inactive =>
      exact Or.inl (sameSkeleton_write _ old.unreserved found (release_nodes before old)
        rfl rfl)
  | failed id old message now found exhausted active =>
      have written := sameSkeleton_write _ (old.ended .failed message now) found
        (release_nodes before old) rfl rfl
      exact Or.inl (written.trans (cancelDescendants_cancels _ id _ now).sameSkeleton)
  | cancelled id old now found live =>
      have written := sameSkeleton_write _ (old.ended .cancelled old.snapshot.error now) found
        (release_nodes (before.dequeue id) old) rfl rfl
      exact Or.inl (written.trans (cancelDescendants_cancels _ id _ now).sameSkeleton)

/-- No step removes an agent or changes its task. -/
theorem Effect.keepsTask {before after : AgentScheduler} {operation : Operation}
    (effect : Effect before operation after) {id : AgentId} {old : Node}
    (found : before.node? id = some old) :
    ∃ new, after.node? id = some new ∧ new.spec = old.spec := by
  rcases effect.skeleton with same | ⟨tasks, now, order, _, _, _, submitted⟩
  · obtain ⟨new, present, spec, _⟩ := same.forward found
    exact ⟨new, present, spec⟩
  · exact ⟨_, submitted.old id old found, rfl⟩

/-! ### The graph invariant -/

structure Graph (scheduler : AgentScheduler) : Prop where
  keyed : scheduler.Keyed
  identified : ∀ id node, scheduler.node? id = some node → id ≠ kInvalidAgentId
  dependencies : ∀ id node, scheduler.node? id = some node →
    ∀ dependency ∈ node.spec.dependencies,
      ∃ predecessor, scheduler.node? dependency = some predecessor
  successors : ∀ id node, scheduler.node? id = some node →
    ∀ successorId ∈ node.successors, ∃ successor, scheduler.node? successorId = some successor
  linked : ∀ id node successorId successor, scheduler.node? id = some node →
    scheduler.node? successorId = some successor →
    node.successors.count successorId = successor.spec.dependencies.count id
  loopFree : ∀ id, ¬TransGen (Edge (successorsOf scheduler.nodes)) id id

theorem node?_initial (id : AgentId) : ({} : AgentScheduler).node? id = none := rfl

theorem graph_initial : ({} : AgentScheduler).Graph := by
  have absent : ∀ {id : AgentId} {node : Node}, ({} : AgentScheduler).node? id ≠ some node := by
    intro id node found
    rw [node?_initial] at found
    cases found
  refine ⟨?_, ?_, ?_, ?_, ?_, ?_⟩
  · exact fun _ _ found => absurd found absent
  · exact fun _ _ found => absurd found absent
  · exact fun _ _ found => absurd found absent
  · exact fun _ _ found => absurd found absent
  · exact fun _ _ _ _ found => absurd found absent
  · intro id loop
    obtain ⟨next, edge, _⟩ := Relation.TransGen.head'_iff.mp loop
    unfold Edge at edge
    rw [successorsOf_none (node?_initial id)] at edge
    cases edge

theorem Graph.sameSkeleton {before after : AgentScheduler} (graph : before.Graph)
    (same : before.SameSkeleton after) : after.Graph where
  keyed := by
    intro id node found
    obtain ⟨old, oldFound, spec, _⟩ := same.symm.forward found
    rw [← spec]
    exact graph.keyed id old oldFound
  identified := by
    intro id node found
    obtain ⟨old, oldFound, _⟩ := same.symm.forward found
    exact graph.identified id old oldFound
  dependencies := by
    intro id node found dependency listed
    obtain ⟨old, oldFound, spec, _⟩ := same.symm.forward found
    obtain ⟨predecessor, present⟩ :=
      graph.dependencies id old oldFound dependency (spec ▸ listed)
    obtain ⟨next, nextFound, _⟩ := same.forward present
    exact ⟨next, nextFound⟩
  successors := by
    intro id node found successorId listed
    obtain ⟨old, oldFound, _, successors⟩ := same.symm.forward found
    obtain ⟨successor, present⟩ :=
      graph.successors id old oldFound successorId (successors ▸ listed)
    obtain ⟨next, nextFound, _⟩ := same.forward present
    exact ⟨next, nextFound⟩
  linked := by
    intro id node successorId successor found successorFound
    obtain ⟨old, oldFound, _, successors⟩ := same.symm.forward found
    obtain ⟨oldSuccessor, oldSuccessorFound, spec, _⟩ := same.symm.forward successorFound
    rw [← successors, ← spec]
    exact graph.linked id old successorId oldSuccessor oldFound oldSuccessorFound
  loopFree := by
    have edges : successorsOf after.nodes = successorsOf before.nodes :=
      funext same.successorsOf
    rw [edges]
    exact graph.loopFree

/-! ### Loops within a batch -/

/-- The dependency relation of a batch, restricted to the batch. -/
def DependsWithin (tasks : List AgentTaskSpec) (id dependency : AgentId) : Prop :=
  ∃ task ∈ tasks, task.id = id ∧ dependency ∈ task.dependencies ∧
    dependency ∈ tasks.map AgentTaskSpec.id

/-- A well-formed batch: the checks pass and its own dependencies close no loop. -/
structure WellFormedBatch (scheduler : AgentScheduler) (tasks : List AgentTaskSpec) : Prop
    extends Admissible scheduler tasks where
  loopFree : ∀ id, ¬TransGen (DependsWithin tasks) id id

section Extended

variable {before after : AgentScheduler} {tasks : List AgentTaskSpec}

/-- Linking a batch appends to the successors of every id, stored or not. -/
private theorem successorsOf_extended (after : AgentScheduler)
    (admissible : before.Admissible tasks)
    (build : AgentTaskSpec → Node)
    (old : ∀ id node, before.node? id = some node →
      after.node? id = some (node.addSuccessors (links tasks id)))
    (fresh : ∀ id, before.node? id = none → after.node? id = (taskOf tasks id).map build)
    (successors : ∀ task, (build task).successors = links tasks task.id) (id : AgentId) :
    successorsOf after.nodes id = successorsOf before.nodes id ++ links tasks id := by
  cases found : before.node? id with
  | some node =>
      rw [successorsOf_some found, successorsOf_some (old id node found)]
      rfl
  | none =>
      rw [successorsOf_none found, List.nil_append]
      cases given : taskOf tasks id with
      | some task =>
          have stored := fresh id found
          rw [given, Option.map_some] at stored
          rw [successorsOf_some stored, successors, (taskOf_id given).1]
      | none =>
          have missing := fresh id found
          rw [given, Option.map_none] at missing
          rw [successorsOf_none missing]
          refine (List.eq_nil_iff_forall_not_mem.mpr ?_).symm
          intro successorId listed
          obtain ⟨task, member, _, dependency⟩ := (mem_links tasks id successorId).mp listed
          rcases (admissible.dependencies task member id dependency).2 with known | inBatch
          · obtain ⟨node, present⟩ := (UnorderedMap.mem_iff_lookup _ _).mp known
            unfold node? at found
            rw [found] at present
            cases present
          · exact (taskOf_eq_none_iff tasks id).mp given inBatch

theorem Admissible.successorsOf_linked (admissible : before.Admissible tasks)
    (now : TimePoint) (id : AgentId) :
    successorsOf (before.linkedNodes tasks now) id =
      successorsOf before.nodes id ++ links tasks id :=
  successorsOf_extended { before with nodes := before.linkedNodes tasks now }
    admissible _ (fun _ _ found => admissible.lookup_linked_old now found)
    (fun _ missing => admissible.lookup_linked_fresh now missing) (fun _ => rfl) id

theorem Submitted.successorsOf {now : TimePoint} (submitted : Submitted tasks now before after)
    (admissible : before.Admissible tasks) (id : AgentId) :
    successorsOf after.nodes id = successorsOf before.nodes id ++ links tasks id :=
  successorsOf_extended after admissible _ submitted.old submitted.fresh (fun _ => rfl) id

theorem Admissible.missing_of_link (admissible : before.Admissible tasks)
    {id successorId : AgentId} (listed : successorId ∈ links tasks id) :
    before.node? successorId = none := by
  obtain ⟨task, member, same, _⟩ := (mem_links tasks id successorId).mp listed
  exact same ▸ admissible.missing_of_taskOf (taskOf_of_mem admissible.distinct member)

theorem Admissible.missing_of_inBatch (admissible : before.Admissible tasks) {id : AgentId}
    (inBatch : id ∈ tasks.map AgentTaskSpec.id) : before.node? id = none := by
  obtain ⟨task, member, rfl⟩ := List.mem_map.mp inBatch
  exact admissible.missing_of_taskOf (taskOf_of_mem admissible.distinct member)

/-- Only the batch itself can close a loop: no edge leads from a new agent back
to an old one. -/
theorem Graph.loop_iff (graph : before.Graph) (admissible : before.Admissible tasks) :
    (∃ id, TransGen (Edge fun id => successorsOf before.nodes id ++ links tasks id) id id) ↔
      ∃ id, TransGen (DependsWithin tasks) id id := by
  let known : AgentId → Prop := fun id => ∃ node, before.node? id = some node
  have knownSuccessor : ∀ source target, target ∈ successorsOf before.nodes source →
      known source ∧ known target := by
    intro source target listed
    cases found : before.node? source with
    | none =>
        rw [successorsOf_none found] at listed
        cases listed
    | some node =>
        rw [successorsOf_some found] at listed
        exact ⟨⟨node, found⟩, graph.successors source node found target listed⟩
  have unknownLink : ∀ source target, target ∈ links tasks source → ¬known target := by
    rintro source target listed ⟨node, found⟩
    rw [admissible.missing_of_link listed] at found
    cases found
  constructor
  · rintro ⟨id, loop⟩
    refine (DepthFirst.loop_splits known ?_ loop).elim (fun inside => ?_)
      (fun outside => ⟨id, ?_⟩)
    · intro source target edge outside
      rcases List.mem_append.mp edge with old | new
      · exact absurd (knownSuccessor source target old).1 outside
      · exact unknownLink source target new
    · refine absurd (TransGen.mono ?_ id id inside) (graph.loopFree id)
      rintro source target ⟨edge, _, inTarget⟩
      rcases List.mem_append.mp edge with old | new
      · exact old
      · exact absurd inTarget (unknownLink source target new)
    · rw [← Relation.transGen_swap]
      refine TransGen.mono ?_ id id outside
      rintro source target ⟨edge, fresh, _⟩
      rcases List.mem_append.mp edge with old | new
      · exact absurd (knownSuccessor source target old).1 fresh
      · obtain ⟨task, member, same, dependency⟩ := (mem_links tasks source target).mp new
        refine ⟨task, member, same, dependency, ?_⟩
        refine (admissible.dependencies task member source dependency).2.resolve_left ?_
        exact fun stored => fresh ((UnorderedMap.mem_iff_lookup _ _).mp stored)
  · rintro ⟨id, loop⟩
    refine ⟨id, ?_⟩
    rw [← Relation.transGen_swap]
    refine TransGen.mono ?_ id id loop
    rintro dependent dependency ⟨task, member, same, listed, _⟩
    exact List.mem_append_right _ ((mem_links _ _ _).mpr ⟨task, member, same, listed⟩)

private theorem mem_keys_linked (admissible : before.Admissible tasks) (now : TimePoint)
    (id : AgentId) :
    id ∈ (before.linkedNodes tasks now).keys ↔
      (∃ node, before.node? id = some node) ∨ id ∈ tasks.map AgentTaskSpec.id := by
  rw [← AList.mem_keys, UnorderedMap.mem_iff_lookup]
  cases found : before.node? id with
  | some node =>
      rw [admissible.lookup_linked_old now found]
      simp
  | none =>
      rw [admissible.lookup_linked_fresh now found]
      cases given : taskOf tasks id with
      | some task =>
          have inBatch : id ∈ tasks.map AgentTaskSpec.id :=
            List.mem_map.mpr ⟨task, (taskOf_id given).2, (taskOf_id given).1⟩
          simp only [Option.map_some, Option.some.injEq, exists_eq', inBatch, or_true]
      | none =>
          have outside := (taskOf_eq_none_iff tasks id).mp given
          simp [outside]

/-- The search for a cycle looks up keys of the linked table only. -/
theorem Graph.linked_closed (graph : before.Graph) (admissible : before.Admissible tasks)
    (now : TimePoint) {id target : AgentId}
    (listed : target ∈ Runtime.successorsOf (before.linkedNodes tasks now) id) :
    id ∈ (before.linkedNodes tasks now).keys ∧
      target ∈ (before.linkedNodes tasks now).keys := by
  have stored := mem_keys_linked admissible now
  rw [admissible.successorsOf_linked now id] at listed
  rcases List.mem_append.mp listed with old | new
  · cases found : before.node? id with
    | none =>
        rw [successorsOf_none found] at old
        cases old
    | some node =>
        rw [successorsOf_some found] at old
        exact ⟨(stored id).mpr (Or.inl ⟨node, found⟩),
          (stored target).mpr (Or.inl (graph.successors id node found target old))⟩
  · obtain ⟨task, member, same, dependency⟩ := (mem_links tasks id target).mp new
    constructor
    · apply (stored id).mpr
      exact (admissible.dependencies task member id dependency).2.imp_left
        (UnorderedMap.mem_iff_lookup _ _).mp
    · apply (stored target).mpr
      exact Or.inr (List.mem_map.mpr ⟨task, member, same⟩)

/-- The search over the whole live graph decides loops within the batch. -/
theorem Graph.hasCycle_iff (graph : before.Graph) (admissible : before.Admissible tasks)
    (now : TimePoint) (order : IterationOrder AgentId) :
    graphHasCycleLocked (before.linkedNodes tasks now) order = true ↔
      ∃ id, TransGen (DependsWithin tasks) id id := by
  let nodes := before.linkedNodes tasks now
  have successors : successorsOf nodes =
      fun id => successorsOf before.nodes id ++ links tasks id :=
    funext (admissible.successorsOf_linked now)
  have targets : ∀ id target, target ∈ successorsOf nodes id →
      id ∈ nodes.keys ∧ target ∈ nodes.keys :=
    fun _ _ listed => graph.linked_closed admissible now listed
  have decided := DepthFirst.hasCycle_iff (successorsOf nodes) nodes.keys.toFinset
    (fun id _ target listed => List.mem_toFinset.mpr (targets id target listed).2)
    (nodes.keys.length + 1)
    (Nat.lt_succ_of_le (List.toFinset_card_le nodes.keys))
    (order.visit nodes.keys)
    (fun id => by rw [IterationOrder.mem_visit, List.mem_toFinset])
  rw [← graph.loop_iff admissible]
  refine decided.trans ⟨?_, ?_⟩
  · rintro ⟨id, _, loop⟩
    exact ⟨id, successors ▸ loop⟩
  · rintro ⟨id, loop⟩
    rw [← successors] at loop
    obtain ⟨next, edge, _⟩ := Relation.TransGen.head'_iff.mp loop
    exact ⟨id, List.mem_toFinset.mpr (targets id next edge).1, loop⟩

/-! ### Submission keeps the graph -/

theorem Submitted.stored {now : TimePoint} (submitted : Submitted tasks now before after)
    (admissible : before.Admissible tasks) {id : AgentId}
    (known : id ∈ before.nodes ∨ id ∈ tasks.map AgentTaskSpec.id) :
    ∃ node, after.node? id = some node := by
  rcases known with old | inBatch
  · obtain ⟨node, found⟩ := (UnorderedMap.mem_iff_lookup _ _).mp old
    exact ⟨_, submitted.old id node found⟩
  · obtain ⟨task, member, rfl⟩ := List.mem_map.mp inBatch
    have stored := submitted.fresh task.id (admissible.missing_of_inBatch inBatch)
    rw [taskOf_of_mem admissible.distinct member] at stored
    exact ⟨_, stored⟩

/-- An agent of the new state is an old one with longer successors, or it was
submitted with the batch. -/
theorem Submitted.origin {now : TimePoint} (submitted : Submitted tasks now before after)
    {id : AgentId} {node : Node} (found : after.node? id = some node) :
    (∃ old, before.node? id = some old ∧ node = old.addSuccessors (links tasks id)) ∨
      before.node? id = none ∧ ∃ task, taskOf tasks id = some task ∧
        node = before.submittedNode tasks now task := by
  cases known : before.node? id with
  | some old =>
      rw [submitted.old id old known, Option.some.injEq] at found
      exact Or.inl ⟨old, rfl, found.symm⟩
  | none =>
      rw [submitted.fresh id known] at found
      obtain ⟨task, given, same⟩ := Option.map_eq_some_iff.mp found
      exact Or.inr ⟨rfl, task, given, same.symm⟩

theorem submittedNode_spec (scheduler : AgentScheduler) (tasks : List AgentTaskSpec)
    (now : TimePoint) (task : AgentTaskSpec) :
    (scheduler.submittedNode tasks now task).spec = task := rfl

theorem submittedNode_successors (scheduler : AgentScheduler) (tasks : List AgentTaskSpec)
    (now : TimePoint) (task : AgentTaskSpec) :
    (scheduler.submittedNode tasks now task).successors = links tasks task.id := rfl

theorem Graph.count_known (graph : before.Graph) {id successorId : AgentId} {node : Node}
    (found : before.node? id = some node) (missing : before.node? successorId = none) :
    node.successors.count successorId = 0 := by
  refine List.count_eq_zero.mpr fun listed => ?_
  obtain ⟨successor, present⟩ := graph.successors id node found successorId listed
  rw [missing] at present
  cases present

theorem Graph.count_dependencies (graph : before.Graph) {id dependency : AgentId} {node : Node}
    (found : before.node? id = some node) (missing : before.node? dependency = none) :
    node.spec.dependencies.count dependency = 0 := by
  refine List.count_eq_zero.mpr fun listed => ?_
  obtain ⟨predecessor, present⟩ := graph.dependencies id node found dependency listed
  rw [missing] at present
  cases present

private theorem Graph.linked_submitted (graph : before.Graph)
    (admissible : before.Admissible tasks) {now : TimePoint}
    (submitted : Submitted tasks now before after) (id : AgentId) (node : Node)
    (successorId : AgentId) (successor : Node) (found : after.node? id = some node)
    (successorFound : after.node? successorId = some successor) :
    node.successors.count successorId = successor.spec.dependencies.count id := by
  have counted := count_links tasks admissible.distinct id successorId
  rcases submitted.origin found with ⟨old, oldFound, rfl⟩ | ⟨missing, task, given, rfl⟩
  · change (old.successors ++ links tasks id).count successorId = _
    rw [List.count_append]
    rcases submitted.origin successorFound with
      ⟨other, otherFound, rfl⟩ | ⟨absent, task, given, rfl⟩
    · rw [admissible.taskOf_of_known otherFound] at counted
      rw [counted, Node.addSuccessors_spec, Nat.add_zero]
      exact graph.linked id old successorId other oldFound otherFound
    · rw [given] at counted
      rw [counted, graph.count_known oldFound absent, Nat.zero_add]
      rfl
  · rw [submittedNode_successors, (taskOf_id given).1]
    rcases submitted.origin successorFound with
      ⟨other, otherFound, rfl⟩ | ⟨absent, task, given, rfl⟩
    · rw [admissible.taskOf_of_known otherFound] at counted
      rw [counted, Node.addSuccessors_spec, graph.count_dependencies otherFound missing]
    · rw [given] at counted
      exact counted

theorem Graph.submitted (graph : before.Graph) (wellFormed : before.WellFormedBatch tasks)
    {now : TimePoint} (submitted : Submitted tasks now before after) : after.Graph where
  keyed := by
    intro id node found
    rcases submitted.origin found with ⟨old, oldFound, rfl⟩ | ⟨_, task, given, rfl⟩
    · exact graph.keyed id old oldFound
    · exact (taskOf_id given).1
  identified := by
    intro id node found
    rcases submitted.origin found with ⟨old, oldFound, rfl⟩ | ⟨_, task, given, rfl⟩
    · exact graph.identified id old oldFound
    · obtain ⟨rfl, member⟩ := taskOf_id given
      exact (wellFormed.wellFormed task member).id
  dependencies := by
    intro id node found dependency listed
    apply submitted.stored wellFormed.toAdmissible
    rcases submitted.origin found with ⟨old, oldFound, rfl⟩ | ⟨_, task, given, rfl⟩
    · refine Or.inl ((UnorderedMap.mem_iff_lookup _ _).mpr ?_)
      exact graph.dependencies id old oldFound dependency listed
    · exact (wellFormed.dependencies task (taskOf_id given).2 dependency listed).2
  successors := by
    intro id node found successorId listed
    apply submitted.stored wellFormed.toAdmissible
    have linked : successorId ∈ links tasks id → successorId ∈ tasks.map AgentTaskSpec.id := by
      intro new
      obtain ⟨task, member, same, _⟩ := (mem_links tasks id successorId).mp new
      exact List.mem_map.mpr ⟨task, member, same⟩
    rcases submitted.origin found with ⟨old, oldFound, rfl⟩ | ⟨_, task, given, rfl⟩
    · rcases List.mem_append.mp listed with kept | new
      · refine Or.inl ((UnorderedMap.mem_iff_lookup _ _).mpr ?_)
        exact graph.successors id old oldFound successorId kept
      · exact Or.inr (linked new)
    · rw [submittedNode_successors, (taskOf_id given).1] at listed
      exact Or.inr (linked listed)
  linked := graph.linked_submitted wellFormed.toAdmissible submitted
  loopFree := by
    intro id loop
    have edges : successorsOf after.nodes =
        fun id => successorsOf before.nodes id ++ links tasks id :=
      funext (submitted.successorsOf wellFormed.toAdmissible)
    rw [edges] at loop
    obtain ⟨inner, batchLoop⟩ := (graph.loop_iff wellFormed.toAdmissible).mp ⟨id, loop⟩
    exact wellFormed.loopFree inner batchLoop

end Extended

/-! ### Acceptance -/

section Acceptance

variable {scheduler : AgentScheduler}

theorem Graph.wellFormed_iff (graph : scheduler.Graph) (tasks : List AgentTaskSpec)
    (now : TimePoint) (order : IterationOrder AgentId) :
    scheduler.Admissible tasks ∧
        graphHasCycleLocked (scheduler.linkedNodes tasks now) order = false ↔
      scheduler.WellFormedBatch tasks := by
  constructor
  · rintro ⟨admissible, clear⟩
    refine ⟨admissible, fun id loop => ?_⟩
    rw [(graph.hasCycle_iff admissible now order).mpr ⟨id, loop⟩] at clear
    cases clear
  · intro wellFormed
    refine ⟨wellFormed.toAdmissible, Bool.eq_false_iff.mpr fun cyclic => ?_⟩
    obtain ⟨id, loop⟩ := (graph.hasCycle_iff wellFormed.toAdmissible now order).mp cyclic
    exact wellFormed.loopFree id loop

/-- Exactly the well-formed batches are accepted, and only those have an effect. -/
theorem Graph.submitBatchLocked_cases (graph : scheduler.Graph) (tasks : List AgentTaskSpec)
    (now : TimePoint) (order : IterationOrder AgentId) :
    (scheduler.WellFormedBatch tasks ∧
        (scheduler.submitBatchLocked tasks now order).2.ok = true ∧
        Submitted tasks now scheduler (scheduler.submitBatchLocked tasks now order).1) ∨
      (¬scheduler.WellFormedBatch tasks ∧
        (scheduler.submitBatchLocked tasks now order).2.ok = false ∧
        (scheduler.submitBatchLocked tasks now order).1 = scheduler) := by
  rw [← graph.wellFormed_iff tasks now order]
  rcases AgentScheduler.submitBatchLocked_cases scheduler tasks now order with
    ⟨admissible, clear, accepted⟩ | ⟨malformed, same, rejected⟩
  · rw [accepted]
    exact Or.inl ⟨⟨admissible, clear⟩, rfl, admissible.submitted graph.keyed now⟩
  · exact Or.inr ⟨malformed, rejected, same⟩

/-- An operation that offers a well-formed batch submits it. -/
theorem Graph.step_offered (graph : scheduler.Graph) {operation : Operation}
    {tasks : List AgentTaskSpec} (offered : scheduler.offered operation = some tasks)
    (wellFormed : scheduler.WellFormedBatch tasks) :
    ∃ now, Submitted tasks now scheduler (scheduler.step operation) := by
  have accepted : ∀ now order,
      Submitted tasks now scheduler (scheduler.submitBatchLocked tasks now order).1 := by
    intro now order
    rcases graph.submitBatchLocked_cases tasks now order with ⟨_, _, submitted⟩ | ⟨malformed, _⟩
    · exact submitted
    · exact absurd wellFormed malformed
  cases operation with
  | submit task now order =>
      cases offered
      exact ⟨now, accepted now order⟩
  | submitBatch batch now order =>
      cases offered
      exact ⟨now, accepted now order⟩
  | spawn parent task now order =>
      refine ⟨now, ?_⟩
      change Submitted tasks now scheduler (scheduler.spawn parent task now order).1
      unfold spawn
      cases known : scheduler.nodes.contains parent with
      | true =>
          simp only [AgentScheduler.offered, known, if_true, Option.some.injEq] at offered
          subst offered
          exact accepted now order
      | false =>
          simp only [AgentScheduler.offered, known, Bool.false_eq_true, if_false] at offered
          cases offered
  | tryDispatch _ _ _ => cases offered
  | waitDispatch _ _ _ => cases offered
  | markRunning _ _ _ => cases offered
  | markBlocked _ => cases offered
  | wake _ => cases offered
  | complete _ _ => cases offered
  | fail _ _ _ => cases offered
  | cancel _ _ => cases offered
  | bindContext _ _ => cases offered
  | bindProcess _ _ => cases offered
  | recordMetrics _ _ => cases offered

theorem Graph.step (graph : scheduler.Graph) (operation : Operation) :
    (scheduler.step operation).Graph := by
  rcases (step_effect scheduler graph.keyed operation).skeleton with
    same | ⟨tasks, now, order, _, admissible, clear, submitted⟩
  · exact graph.sameSkeleton same
  · exact graph.submitted
      ((graph.wellFormed_iff tasks now order).mp ⟨admissible, clear⟩) submitted

theorem Reachable.graph (reached : Reachable scheduler) : scheduler.Graph :=
  machine.reachable_invariant Graph graph_initial (fun _ operation graph => graph.step operation)
    scheduler reached

end Acceptance

end AgentScheduler

end AgentNucleus.Runtime
