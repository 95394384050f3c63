/-
Submission, read off agent by agent: which batches pass the checks, and what
the emplacing, linking and admitting loops leave for every agent.
-/

import AgentNucleus.Runtime.SchedulerEffects

set_option autoImplicit false

namespace AgentNucleus.Runtime

open Library

/-! ### The checks -/

structure WellFormedTask (task : AgentTaskSpec) : Prop where
  id : task.id ≠ kInvalidAgentId
  exclusive : ¬(task.command ≠ [] ∧ task.invocation.isSome = true)
  invocation : ∀ invocation, task.invocation = some invocation →
    (invocation.kind = .model ∨ invocation.kind = .tool) ∧
      invocation.target ≠ [] ∧ invocation.operation ≠ []

private theorem invalidInvocation_eq_false_iff (task : AgentTaskSpec) :
    invalidInvocation task = false ↔
      ∀ invocation, task.invocation = some invocation →
        (invocation.kind = .model ∨ invocation.kind = .tool) ∧
          invocation.target ≠ [] ∧ invocation.operation ≠ [] := by
  unfold invalidInvocation
  cases task.invocation with
  | none => simp
  | some invocation =>
      by_cases isModel : invocation.kind = .model
      · simp [isModel]
      · by_cases isTool : invocation.kind = .tool
        · simp [isTool]
        · simp [isModel, isTool]

private theorem checkTask_ok_iff (nodes : UnorderedMap AgentId Node)
    (incoming extended : UnorderedSet AgentId) (task : AgentTaskSpec) :
    checkTask nodes incoming task = .ok extended ↔
      WellFormedTask task ∧ task.id ∉ nodes ∧ task.id ∉ incoming ∧
        extended = UnorderedSet.add incoming task.id := by
  have invocationIff := invalidInvocation_eq_false_iff task
  unfold checkTask
  by_cases zero : task.id = kInvalidAgentId
  · rw [if_pos zero]
    exact ⟨nofun, fun accepted => absurd zero accepted.1.id⟩
  rw [if_neg zero]
  by_cases both : (!task.command.isEmpty && task.invocation.isSome) = true
  · rw [if_pos both]
    refine ⟨nofun, fun accepted => absurd ?_ accepted.1.exclusive⟩
    simpa using both
  rw [if_neg both]
  cases malformed : invalidInvocation task with
  | true =>
      rw [if_pos rfl]
      refine ⟨nofun, fun accepted => ?_⟩
      rw [invocationIff.mpr accepted.1.invocation] at malformed
      cases malformed
  | false =>
      rw [if_neg Bool.false_ne_true]
      by_cases known : (nodes.contains task.id || UnorderedMap.contains incoming task.id) = true
      · rw [if_pos known]
        refine ⟨nofun, fun accepted => ?_⟩
        rw [Bool.or_eq_true, UnorderedMap.contains_iff, UnorderedMap.contains_iff] at known
        exact absurd known (not_or.mpr ⟨accepted.2.1, accepted.2.2.1⟩)
      · rw [if_neg known]
        rw [Bool.or_eq_true, UnorderedMap.contains_iff, UnorderedMap.contains_iff,
          not_or] at known
        constructor
        · intro same
          cases same
          exact ⟨⟨zero, by simpa using both, invocationIff.mp malformed⟩, known.1, known.2, rfl⟩
        · rintro ⟨_, _, _, rfl⟩
          rfl

private theorem checkTasks_ok (nodes : UnorderedMap AgentId Node)
    (tasks : List AgentTaskSpec) (incoming final : UnorderedSet AgentId)
    (accepted : checkTasks nodes incoming tasks = .ok final) :
    (∀ task ∈ tasks, WellFormedTask task ∧ task.id ∉ nodes ∧ task.id ∉ incoming) ∧
      (tasks.map AgentTaskSpec.id).Nodup ∧
      ∀ id, id ∈ final ↔ id ∈ incoming ∨ id ∈ tasks.map AgentTaskSpec.id := by
  induction tasks generalizing incoming with
  | nil =>
      cases accepted
      simp
  | cons task rest ih =>
      unfold checkTasks at accepted
      cases first : checkTask nodes incoming task with
      | error message => rw [first] at accepted; cases accepted
      | ok extended =>
          rw [first] at accepted
          obtain ⟨wellFormed, unknown, unseen, rfl⟩ :=
            (checkTask_ok_iff nodes incoming extended task).mp first
          obtain ⟨each, distinct, members⟩ := ih _ accepted
          refine ⟨?_, ?_, ?_⟩
          · intro other member
            rcases List.mem_cons.mp member with same | later
            · subst same
              exact ⟨wellFormed, unknown, unseen⟩
            · obtain ⟨otherFormed, otherUnknown, otherUnseen⟩ := each other later
              rw [UnorderedSet.mem_add, not_or] at otherUnseen
              exact ⟨otherFormed, otherUnknown, otherUnseen.2⟩
          · rw [List.map_cons, List.nodup_cons]
            refine ⟨fun repeated => ?_, distinct⟩
            obtain ⟨other, later, same⟩ := List.mem_map.mp repeated
            have unseenLater := (each other later).2.2
            rw [UnorderedSet.mem_add, not_or] at unseenLater
            exact unseenLater.1 same
          · intro id
            rw [members, UnorderedSet.mem_add, List.map_cons, List.mem_cons]
            constructor
            · rintro ((same | old) | later)
              · exact Or.inr (Or.inl same)
              · exact Or.inl old
              · exact Or.inr (Or.inr later)
            · rintro (old | same | later)
              · exact Or.inl (Or.inr old)
              · exact Or.inl (Or.inl same)
              · exact Or.inr later

private theorem checkTasks_of_wellFormed (nodes : UnorderedMap AgentId Node)
    (tasks : List AgentTaskSpec) (incoming : UnorderedSet AgentId)
    (each : ∀ task ∈ tasks, WellFormedTask task ∧ task.id ∉ nodes ∧ task.id ∉ incoming)
    (distinct : (tasks.map AgentTaskSpec.id).Nodup) :
    ∃ final, checkTasks nodes incoming tasks = .ok final := by
  induction tasks generalizing incoming with
  | nil => exact ⟨incoming, rfl⟩
  | cons task rest ih =>
      obtain ⟨wellFormed, unknown, unseen⟩ := each task (List.mem_cons_self ..)
      have first := (checkTask_ok_iff nodes incoming _ task).mpr
        ⟨wellFormed, unknown, unseen, rfl⟩
      rw [List.map_cons, List.nodup_cons] at distinct
      unfold checkTasks
      rw [first]
      refine ih (UnorderedSet.add incoming task.id) ?_ distinct.2
      intro other later
      obtain ⟨otherFormed, otherUnknown, otherUnseen⟩ :=
        each other (List.mem_cons_of_mem task later)
      refine ⟨otherFormed, otherUnknown, ?_⟩
      rw [UnorderedSet.mem_add, not_or]
      exact ⟨fun same => distinct.1 (List.mem_map.mpr ⟨other, later, same⟩), otherUnseen⟩

private theorem checkDependencies_eq_none_iff (nodes : UnorderedMap AgentId Node)
    (incoming : UnorderedSet AgentId) (tasks : List AgentTaskSpec) :
    checkDependencies nodes incoming tasks = none ↔
      ∀ task ∈ tasks, ∀ dependency ∈ task.dependencies,
        dependency ≠ task.id ∧ (dependency ∈ nodes ∨ dependency ∈ incoming) := by
  unfold checkDependencies
  simp only [List.findSome?_eq_none_iff, ite_eq_right_iff, reduceCtorEq, imp_false,
    Bool.not_eq_true]
  refine forall₂_congr fun task _ => forall₂_congr fun dependency _ => ?_
  unfold invalidDependency
  rw [← UnorderedMap.contains_iff, ← UnorderedMap.contains_iff incoming]
  cases nodes.contains dependency <;> cases UnorderedMap.contains incoming dependency <;>
    simp

namespace AgentScheduler

/-- The checks of a batch, up to the search for a cycle. -/
structure Admissible (scheduler : AgentScheduler) (tasks : List AgentTaskSpec) : Prop where
  nonempty : tasks ≠ []
  wellFormed : ∀ task ∈ tasks, WellFormedTask task
  unknown : ∀ task ∈ tasks, task.id ∉ scheduler.nodes
  distinct : (tasks.map AgentTaskSpec.id).Nodup
  dependencies : ∀ task ∈ tasks, ∀ dependency ∈ task.dependencies,
    dependency ≠ task.id ∧
      (dependency ∈ scheduler.nodes ∨ dependency ∈ tasks.map AgentTaskSpec.id)

private theorem checks_iff_admissible (scheduler : AgentScheduler)
    (tasks : List AgentTaskSpec) :
    (tasks ≠ [] ∧ ∃ incoming, checkTasks scheduler.nodes ∅ tasks = .ok incoming ∧
      checkDependencies scheduler.nodes incoming tasks = none) ↔
      scheduler.Admissible tasks := by
  have nothing : ∀ id, id ∉ (∅ : UnorderedSet AgentId) := AList.notMem_empty
  constructor
  · rintro ⟨nonempty, incoming, accepted, valid⟩
    obtain ⟨each, distinct, members⟩ := checkTasks_ok scheduler.nodes tasks ∅ incoming accepted
    refine ⟨nonempty, fun task member => (each task member).1,
      fun task member => (each task member).2.1, distinct, ?_⟩
    intro task member dependency listed
    obtain ⟨different, known⟩ :=
      (checkDependencies_eq_none_iff _ _ _).mp valid task member dependency listed
    refine ⟨different, known.imp_right fun present => ?_⟩
    exact ((members dependency).mp present).resolve_left (nothing dependency)
  · intro admissible
    obtain ⟨incoming, accepted⟩ := checkTasks_of_wellFormed scheduler.nodes tasks ∅
      (fun task member => ⟨admissible.wellFormed task member, admissible.unknown task member,
        nothing task.id⟩)
      admissible.distinct
    have members := (checkTasks_ok scheduler.nodes tasks ∅ incoming accepted).2.2
    refine ⟨admissible.nonempty, incoming, accepted, ?_⟩
    rw [checkDependencies_eq_none_iff]
    intro task member dependency listed
    obtain ⟨different, known⟩ := admissible.dependencies task member dependency listed
    exact ⟨different, known.imp_right fun present => (members dependency).mpr (Or.inr present)⟩

/-- A batch is accepted exactly when it is admissible and closes no cycle; a
rejected batch leaves the scheduler as it was. -/
theorem submitBatchLocked_cases (scheduler : AgentScheduler) (tasks : List AgentTaskSpec)
    (now : TimePoint) (order : IterationOrder AgentId) :
    (scheduler.Admissible tasks ∧
        graphHasCycleLocked (scheduler.linkedNodes tasks now) order = false ∧
        scheduler.submitBatchLocked tasks now order =
          (tasks.foldl admitTask { scheduler with nodes := scheduler.linkedNodes tasks now },
            .accepted)) ∨
      (¬(scheduler.Admissible tasks ∧
          graphHasCycleLocked (scheduler.linkedNodes tasks now) order = false) ∧
        (scheduler.submitBatchLocked tasks now order).1 = scheduler ∧
        (scheduler.submitBatchLocked tasks now order).2.ok = false) := by
  rw [← checks_iff_admissible scheduler tasks]
  unfold submitBatchLocked
  cases tasks with
  | nil => exact Or.inr ⟨fun both => both.1.1 rfl, rfl, rfl⟩
  | cons task rest =>
      have nonempty : task :: rest ≠ [] := List.cons_ne_nil task rest
      have notEmpty : (task :: rest).isEmpty = false := rfl
      rw [notEmpty, if_neg Bool.false_ne_true]
      cases accepted : checkTasks scheduler.nodes ∅ (task :: rest) with
      | error message =>
          refine Or.inr ⟨?_, rfl, rfl⟩
          rintro ⟨⟨_, _, impossible, _⟩, _⟩
          cases impossible
      | ok incoming =>
          cases valid : checkDependencies scheduler.nodes incoming (task :: rest) with
          | some message =>
              refine Or.inr ⟨?_, by simp only [valid], by simp only [valid]; rfl⟩
              rintro ⟨⟨_, other, same, impossible⟩, _⟩
              cases same
              rw [valid] at impossible
              cases impossible
          | none =>
              simp only [valid]
              cases cyclic :
                  graphHasCycleLocked (scheduler.linkedNodes (task :: rest) now) order with
              | true => exact Or.inr ⟨fun both => Bool.noConfusion both.2, rfl, rfl⟩
              | false => exact Or.inl ⟨⟨nonempty, incoming, rfl, valid⟩, rfl, rfl⟩

end AgentScheduler

/-! ### Emplacing -/

/-- The task of the batch with the given id. -/
def taskOf (tasks : List AgentTaskSpec) (id : AgentId) : Option AgentTaskSpec :=
  tasks.find? fun task => task.id = id

theorem taskOf_id {tasks : List AgentTaskSpec} {id : AgentId} {task : AgentTaskSpec}
    (found : taskOf tasks id = some task) : task.id = id ∧ task ∈ tasks := by
  refine ⟨?_, List.mem_of_find?_eq_some found⟩
  simpa using List.find?_some found

theorem taskOf_eq_none_iff (tasks : List AgentTaskSpec) (id : AgentId) :
    taskOf tasks id = none ↔ id ∉ tasks.map AgentTaskSpec.id := by
  unfold taskOf
  simp [List.find?_eq_none]

theorem taskOf_of_mem {tasks : List AgentTaskSpec} {task : AgentTaskSpec}
    (distinct : (tasks.map AgentTaskSpec.id).Nodup) (member : task ∈ tasks) :
    taskOf tasks task.id = some task := by
  cases found : taskOf tasks task.id with
  | none =>
      rw [taskOf_eq_none_iff] at found
      exact absurd (List.mem_map_of_mem member) found
  | some other =>
      obtain ⟨same, otherMember⟩ := taskOf_id found
      rw [List.inj_on_of_nodup_map distinct otherMember member same]

private theorem lookup_emplaceAll (now : TimePoint) (tasks : List AgentTaskSpec)
    (nodes : UnorderedMap AgentId Node) (id : AgentId) :
    (tasks.foldl (emplaceTask now) nodes).lookup id =
      (nodes.lookup id).or ((taskOf tasks id).map (newNode now)) := by
  induction tasks generalizing nodes with
  | nil =>
      rw [List.foldl_nil, taskOf, List.find?_nil, Option.map_none, Option.or_none]
  | cons task rest ih =>
      rw [List.foldl_cons, ih]
      have emplaced : (emplaceTask now nodes task).lookup id =
          (nodes.lookup id).or (if id = task.id then some (newNode now task) else none) := by
        cases present : nodes.lookup task.id with
        | none =>
            rw [emplaceTask, UnorderedMap.lookup_emplace_fresh nodes task.id id _ present]
            by_cases same : id = task.id
            · rw [if_pos same, if_pos same, same, present]
              rfl
            · rw [if_neg same, if_neg same, Option.or_none]
        | some old =>
            have kept : emplaceTask now nodes task = nodes := by
              simp only [emplaceTask, UnorderedMap.emplace, UnorderedMap.contains, present,
                Option.isSome_some, if_true]
            rw [kept]
            by_cases same : id = task.id
            · rw [same, present]
              rfl
            · rw [if_neg same, Option.or_none]
      rw [emplaced, Option.or_assoc]
      congr 1
      unfold taskOf
      by_cases same : id = task.id
      · rw [if_pos same, List.find?_cons_of_pos (by simp [same])]
        rfl
      · rw [if_neg same, List.find?_cons_of_neg (by simp [Ne.symm same])]
        rfl

/-! ### Linking -/

def Node.addSuccessors (node : Node) (ids : List AgentId) : Node :=
  { node with successors := node.successors ++ ids }

def Node.setUnresolved (node : Node) (count : UInt32) : Node :=
  { node with snapshot := { node.snapshot with unresolvedDependencies := count } }

theorem Node.addSuccessors_nil (node : Node) : node.addSuccessors [] = node := by
  unfold Node.addSuccessors
  rw [List.append_nil]

theorem Node.addSuccessors_append (node : Node) (first second : List AgentId) :
    (node.addSuccessors first).addSuccessors second = node.addSuccessors (first ++ second) := by
  unfold Node.addSuccessors
  rw [List.append_assoc]

@[simp] theorem Node.addSuccessors_state (node : Node) (ids : List AgentId) :
    (node.addSuccessors ids).state = node.state := rfl

@[simp] theorem Node.addSuccessors_spec (node : Node) (ids : List AgentId) :
    (node.addSuccessors ids).spec = node.spec := rfl

@[simp] theorem Node.addSuccessors_unresolved (node : Node) (ids : List AgentId) :
    (node.addSuccessors ids).unresolved = node.unresolved := rfl

@[simp] theorem Node.addSuccessors_reserved (node : Node) (ids : List AgentId) :
    (node.addSuccessors ids).resourcesReserved = node.resourcesReserved := rfl

@[simp] theorem Node.addSuccessors_retryCount (node : Node) (ids : List AgentId) :
    (node.addSuccessors ids).snapshot.retryCount = node.snapshot.retryCount := rfl

/-- An entry of a dependency list that the linking loop counts. -/
def uncompleted (nodes : UnorderedMap AgentId Node) (dependency : AgentId) : Bool :=
  match nodes.lookup dependency with
  | some node => node.state != .completed
  | none => false

private theorem counted_iff (state : AgentState) :
    (!isTerminal state || state != .completed) = (state != .completed) := by
  cases state <;> rfl

private theorem linkDependency_lookup (taskId dependency id : AgentId)
    (nodes : UnorderedMap AgentId Node) (count : UInt32) :
    (linkDependency taskId (nodes, count) dependency).1.lookup id =
      (nodes.lookup id).map fun node =>
        node.addSuccessors (if id = dependency then [taskId] else []) := by
  unfold linkDependency
  cases found : nodes.lookup dependency with
  | none =>
      by_cases same : id = dependency
      · rw [same, found]
        rfl
      · simp only [if_neg same, Node.addSuccessors_nil, Option.map_id']
  | some predecessor =>
      rw [UnorderedMap.lookup_insert_if]
      by_cases same : id = dependency
      · rw [if_pos same, if_pos same, same, found]
        rfl
      · simp only [if_neg same, Node.addSuccessors_nil, Option.map_id']

private theorem linkDependency_count (taskId dependency : AgentId)
    (nodes : UnorderedMap AgentId Node) (count : UInt32) :
    (linkDependency taskId (nodes, count) dependency).2 =
      if uncompleted nodes dependency then count + 1 else count := by
  unfold linkDependency uncompleted
  cases nodes.lookup dependency with
  | none => rfl
  | some predecessor => simp only [counted_iff]

private theorem linkDependency_uncompleted (taskId dependency other : AgentId)
    (nodes : UnorderedMap AgentId Node) (count : UInt32) :
    uncompleted (linkDependency taskId (nodes, count) dependency).1 other =
      uncompleted nodes other := by
  unfold uncompleted
  rw [linkDependency_lookup]
  cases nodes.lookup other with
  | none => rfl
  | some node => rfl

/-- The inner loop: successors gain the task once for every entry, and the
counter, which wraps, gains one for every uncompleted entry. -/
private theorem linkDependencies_spec (taskId : AgentId) (dependencies : List AgentId)
    (nodes : UnorderedMap AgentId Node) (count : UInt32) :
    (∀ id, (dependencies.foldl (linkDependency taskId) (nodes, count)).1.lookup id =
      (nodes.lookup id).map fun node =>
        node.addSuccessors (List.replicate (dependencies.count id) taskId)) ∧
    (dependencies.foldl (linkDependency taskId) (nodes, count)).2 =
      count + UInt32.ofNat (dependencies.countP (uncompleted nodes)) := by
  induction dependencies generalizing nodes count with
  | nil =>
      refine ⟨fun id => ?_, ?_⟩
      · simp only [List.foldl_nil, List.count_nil, List.replicate_zero,
          Node.addSuccessors_nil, Option.map_id']
      · simp
  | cons dependency rest ih =>
      rw [List.foldl_cons]
      obtain ⟨lookups, counter⟩ := ih (linkDependency taskId (nodes, count) dependency).1
        (linkDependency taskId (nodes, count) dependency).2
      refine ⟨fun id => ?_, ?_⟩
      · rw [Prod.mk.eta] at lookups
        rw [lookups id, linkDependency_lookup, Option.map_map]
        congr 1
        funext node
        rw [Function.comp_apply, Node.addSuccessors_append]
        by_cases same : id = dependency
        · subst same
          rw [if_pos rfl, List.count_cons_self, List.replicate_succ]
          rfl
        · rw [if_neg same, List.count_cons_of_ne (fun equal => same equal.symm),
            List.nil_append]
      · rw [Prod.mk.eta] at counter
        rw [counter, linkDependency_count]
        have same : rest.countP (uncompleted
            (linkDependency taskId (nodes, count) dependency).1) =
            rest.countP (uncompleted nodes) := by
          congr 1
          funext other
          exact linkDependency_uncompleted taskId dependency other nodes count
        rw [same, List.countP_cons]
        cases uncompleted nodes dependency with
        | false => simp
        | true =>
            simp only [if_true]
            rw [UInt32.ofNat_add, UInt32.add_assoc, UInt32.add_comm 1]
            rfl

/-- The ids that linking a batch appends to the successors of an agent. -/
def links (tasks : List AgentTaskSpec) (id : AgentId) : List AgentId :=
  tasks.flatMap fun task => List.replicate (task.dependencies.count id) task.id

theorem mem_links (tasks : List AgentTaskSpec) (id successorId : AgentId) :
    successorId ∈ links tasks id ↔
      ∃ task ∈ tasks, task.id = successorId ∧ id ∈ task.dependencies := by
  unfold links
  rw [List.mem_flatMap]
  refine exists_congr fun task => and_congr_right fun _ => ?_
  rw [List.mem_replicate, ← Nat.pos_iff_ne_zero, List.count_pos_iff, and_comm,
    eq_comm (a := successorId)]

/-- The entries for one successor repeat the entry of its dependency list. -/
theorem count_links (tasks : List AgentTaskSpec) (distinct : (tasks.map AgentTaskSpec.id).Nodup)
    (id successorId : AgentId) :
    (links tasks id).count successorId =
      match taskOf tasks successorId with
      | some task => task.dependencies.count id
      | none => 0 := by
  induction tasks with
  | nil => rfl
  | cons task rest ih =>
      rw [List.map_cons, List.nodup_cons] at distinct
      have cons : links (task :: rest) id =
          List.replicate (task.dependencies.count id) task.id ++ links rest id := rfl
      rw [cons, List.count_append, ih distinct.2, List.count_replicate]
      by_cases same : successorId = task.id
      · have later : taskOf rest successorId = none := by
          rw [taskOf_eq_none_iff, same]
          exact distinct.1
        have here : taskOf (task :: rest) successorId = some task :=
          List.find?_cons_of_pos (by simp [same])
        rw [later, here]
        simp [same]
      · have here : taskOf (task :: rest) successorId = taskOf rest successorId :=
          List.find?_cons_of_neg (by simp [Ne.symm same])
        rw [here]
        simp [Ne.symm same]

private theorem linkTask_lookup (nodes : UnorderedMap AgentId Node) (task : AgentTaskSpec)
    (id : AgentId) :
    (linkTask nodes task).lookup id =
      (nodes.lookup id).map fun node =>
        let linked := node.addSuccessors
          (List.replicate (task.dependencies.count id) task.id)
        if id = task.id then
          linked.setUnresolved (UInt32.ofNat (task.dependencies.countP (uncompleted nodes)))
        else linked := by
  obtain ⟨lookups, counter⟩ := linkDependencies_spec task.id task.dependencies nodes 0
  rw [UInt32.zero_add] at counter
  unfold linkTask
  cases found : nodes.lookup task.id with
  | none =>
      simp only [lookups, found, Option.map_none]
      by_cases same : id = task.id
      · rw [same, found]
        rfl
      · simp only [if_neg same]
  | some node =>
      simp only [lookups, found, Option.map_some, counter]
      rw [UnorderedMap.lookup_insert_if, lookups]
      by_cases same : id = task.id
      · rw [if_pos same, same, found, Option.map_some, if_pos rfl]
        rfl
      · simp only [if_neg same]

private theorem linkTask_uncompleted (nodes : UnorderedMap AgentId Node)
    (task : AgentTaskSpec) (other : AgentId) :
    uncompleted (linkTask nodes task) other = uncompleted nodes other := by
  unfold uncompleted
  rw [linkTask_lookup]
  cases nodes.lookup other with
  | none => rfl
  | some node =>
      simp only [Option.map_some]
      split <;> rfl

/-- The linking loop over a batch with distinct ids. -/
private theorem linkAll_lookup (tasks : List AgentTaskSpec)
    (distinct : (tasks.map AgentTaskSpec.id).Nodup) (nodes : UnorderedMap AgentId Node)
    (id : AgentId) :
    (tasks.foldl linkTask nodes).lookup id =
      (nodes.lookup id).map fun node =>
        match taskOf tasks id with
        | some task => (node.addSuccessors (links tasks id)).setUnresolved
            (UInt32.ofNat (task.dependencies.countP (uncompleted nodes)))
        | none => node.addSuccessors (links tasks id) := by
  induction tasks generalizing nodes with
  | nil =>
      simp only [List.foldl_nil, taskOf, List.find?_nil, links, List.flatMap_nil,
        Node.addSuccessors_nil, Option.map_id']
  | cons task rest ih =>
      rw [List.map_cons, List.nodup_cons] at distinct
      rw [List.foldl_cons, ih distinct.2, linkTask_lookup, Option.map_map]
      congr 1
      funext node
      have uncompletedSame : uncompleted (linkTask nodes task) = uncompleted nodes :=
        funext (linkTask_uncompleted nodes task)
      have linksCons : links (task :: rest) id =
          List.replicate (task.dependencies.count id) task.id ++ links rest id := rfl
      simp only [Function.comp_apply, uncompletedSame, linksCons]
      by_cases same : id = task.id
      · have later : taskOf rest id = none := by
          rw [taskOf_eq_none_iff, same]
          exact distinct.1
        have here : taskOf (task :: rest) id = some task :=
          List.find?_cons_of_pos (by simp [same])
        rw [later, here]
        simp only [if_pos same, ← Node.addSuccessors_append]
        rfl
      · have here : taskOf (task :: rest) id = taskOf rest id :=
          List.find?_cons_of_neg (by simp [Ne.symm same])
        rw [here]
        simp only [if_neg same, Node.addSuccessors_append]

/-! ### Admitting -/

def Node.admitted (node : Node) : Node :=
  node.setState (if node.unresolved = 0 then .ready else .waitingDependency)

@[simp] theorem Node.admitted_spec (node : Node) : node.admitted.spec = node.spec := rfl

@[simp] theorem Node.admitted_unresolved (node : Node) :
    node.admitted.unresolved = node.unresolved := rfl

namespace AgentScheduler

private theorem admitTask_none (scheduler : AgentScheduler) (task : AgentTaskSpec)
    (missing : scheduler.node? task.id = none) : scheduler.admitTask task = scheduler := by
  unfold admitTask
  rw [missing]

private theorem admitTask_some (scheduler : AgentScheduler) (task : AgentTaskSpec)
    (node : Node) (found : scheduler.node? task.id = some node) :
    scheduler.admitTask task =
      { scheduler.store task.id node.admitted with
        ready :=
          if node.unresolved = 0 then UnorderedSet.add scheduler.ready node.spec.id
          else scheduler.ready } := by
  unfold admitTask Node.admitted
  rw [found]
  by_cases free : node.unresolved = 0
  · simp only [if_pos free]
    rfl
  · simp only [if_neg free]
    rfl

private theorem node?_admitTask (scheduler : AgentScheduler) (task : AgentTaskSpec)
    (id : AgentId) :
    (scheduler.admitTask task).node? id =
      if id = task.id then (scheduler.node? id).map Node.admitted else scheduler.node? id := by
  cases found : scheduler.node? task.id with
  | none =>
      rw [admitTask_none scheduler task found]
      by_cases same : id = task.id
      · rw [if_pos same, same, found]
        rfl
      · rw [if_neg same]
  | some node =>
      rw [admitTask_some scheduler task node found]
      change (scheduler.store task.id node.admitted).node? id = _
      rw [node?_store]
      by_cases same : id = task.id
      · rw [if_pos same, if_pos same, same, found]
        rfl
      · rw [if_neg same, if_neg same]

private theorem node?_admitAll (tasks : List AgentTaskSpec)
    (distinct : (tasks.map AgentTaskSpec.id).Nodup) (scheduler : AgentScheduler)
    (id : AgentId) :
    (tasks.foldl admitTask scheduler).node? id =
      if id ∈ tasks.map AgentTaskSpec.id then (scheduler.node? id).map Node.admitted
      else scheduler.node? id := by
  induction tasks generalizing scheduler with
  | nil => rfl
  | cons task rest ih =>
      rw [List.map_cons, List.nodup_cons] at distinct
      rw [List.foldl_cons, ih distinct.2, node?_admitTask, List.map_cons]
      by_cases same : id = task.id
      · rw [same, if_neg distinct.1, if_pos rfl, if_pos (List.mem_cons_self ..)]
      · rw [if_neg same]
        simp only [List.mem_cons, same, false_or]

private theorem mem_ready_admitAll (tasks : List AgentTaskSpec)
    (scheduler : AgentScheduler) (keyed : scheduler.Keyed) (id : AgentId) :
    id ∈ (tasks.foldl admitTask scheduler).ready ↔
      id ∈ scheduler.ready ∨ id ∈ tasks.map AgentTaskSpec.id ∧
        ∃ node, scheduler.node? id = some node ∧ node.unresolved = 0 := by
  induction tasks generalizing scheduler with
  | nil => simp
  | cons task rest ih =>
      have nextKeyed : (scheduler.admitTask task).Keyed := by
        intro other node found
        rw [node?_admitTask] at found
        split at found
        · obtain ⟨old, oldFound, rfl⟩ := Option.map_eq_some_iff.mp found
          exact keyed other old oldFound
        · exact keyed other node found
      have counters : (∃ node, (scheduler.admitTask task).node? id = some node ∧
          node.unresolved = 0) ↔
          ∃ node, scheduler.node? id = some node ∧ node.unresolved = 0 := by
        rw [node?_admitTask]
        split
        · cases scheduler.node? id with
          | none => rfl
          | some node => simp
        · rfl
      have ready : id ∈ (scheduler.admitTask task).ready ↔ id ∈ scheduler.ready ∨
          id = task.id ∧ ∃ node, scheduler.node? id = some node ∧ node.unresolved = 0 := by
        cases found : scheduler.node? task.id with
        | none =>
            rw [admitTask_none scheduler task found]
            constructor
            · exact Or.inl
            · rintro (member | ⟨rfl, node, present, _⟩)
              · exact member
              · rw [found] at present
                cases present
        | some node =>
            rw [admitTask_some scheduler task node found, keyed task.id node found]
            by_cases free : node.unresolved = 0
            · simp only [if_pos free, UnorderedSet.mem_add]
              constructor
              · rintro (rfl | member)
                · exact Or.inr ⟨rfl, node, found, free⟩
                · exact Or.inl member
              · rintro (member | ⟨same, _⟩)
                · exact Or.inr member
                · exact Or.inl same
            · simp only [if_neg free]
              constructor
              · exact Or.inl
              · rintro (member | ⟨rfl, other, present, zero⟩)
                · exact member
                · rw [found, Option.some.injEq] at present
                  exact absurd (present ▸ zero) free
      rw [List.foldl_cons, ih _ nextKeyed, counters, ready, List.map_cons, List.mem_cons]
      constructor
      · rintro ((member | ⟨same, free⟩) | ⟨later, free⟩)
        · exact Or.inl member
        · exact Or.inr ⟨Or.inl same, free⟩
        · exact Or.inr ⟨Or.inr later, free⟩
      · rintro (member | ⟨same | later, free⟩)
        · exact Or.inl (Or.inl member)
        · exact Or.inl (Or.inr ⟨same, free⟩)
        · exact Or.inr ⟨later, free⟩

private theorem counters_admitAll (tasks : List AgentTaskSpec) (scheduler : AgentScheduler) :
    (tasks.foldl admitTask scheduler).reservedCpuThreads = scheduler.reservedCpuThreads ∧
      (tasks.foldl admitTask scheduler).reservedMemoryBytes =
        scheduler.reservedMemoryBytes := by
  induction tasks generalizing scheduler with
  | nil => exact ⟨rfl, rfl⟩
  | cons task rest ih =>
      rw [List.foldl_cons]
      obtain ⟨cpu, memory⟩ := ih (scheduler.admitTask task)
      rw [cpu, memory]
      cases found : scheduler.node? task.id with
      | none => rw [admitTask_none scheduler task found]; exact ⟨rfl, rfl⟩
      | some node => rw [admitTask_some scheduler task node found]; exact ⟨rfl, rfl⟩

/-! ### An accepted batch -/

/-- An entry of a dependency list that still has to be completed; an agent that
is not stored yet has not completed either. -/
def pendingIn (scheduler : AgentScheduler) (dependency : AgentId) : Bool :=
  match scheduler.node? dependency with
  | some node => node.state != .completed
  | none => true

/-- The uncompleted entries of a dependency list, with multiplicity. -/
def pendingCount (scheduler : AgentScheduler) (dependencies : List AgentId) : Nat :=
  dependencies.countP scheduler.pendingIn

/-- The agent that an accepted batch stores for one of its tasks.  The counter
of the source has 32 bits. -/
def submittedNode (scheduler : AgentScheduler) (tasks : List AgentTaskSpec) (now : TimePoint)
    (task : AgentTaskSpec) : Node :=
  (((newNode now task).addSuccessors (links tasks task.id)).setUnresolved
    (UInt32.ofNat (scheduler.pendingCount task.dependencies))).admitted

/-- What an accepted batch leaves behind, agent by agent. -/
structure Submitted (tasks : List AgentTaskSpec) (now : TimePoint)
    (before after : AgentScheduler) : Prop where
  old : ∀ id node, before.node? id = some node →
    after.node? id = some (node.addSuccessors (links tasks id))
  fresh : ∀ id, before.node? id = none →
    after.node? id = (taskOf tasks id).map (before.submittedNode tasks now)
  ready : ∀ id, id ∈ after.ready ↔ id ∈ before.ready ∨
    ∃ task, taskOf tasks id = some task ∧
      UInt32.ofNat (before.pendingCount task.dependencies) = 0
  cpu : after.reservedCpuThreads = before.reservedCpuThreads
  memory : after.reservedMemoryBytes = before.reservedMemoryBytes

section Accepted

variable {scheduler : AgentScheduler} {tasks : List AgentTaskSpec}

private theorem Admissible.lookup_emplaced (now : TimePoint) (id : AgentId) :
    (tasks.foldl (emplaceTask now) scheduler.nodes).lookup id =
      (scheduler.node? id).or ((taskOf tasks id).map (newNode now)) :=
  lookup_emplaceAll now tasks scheduler.nodes id

/-- The linking loop counts what is pending before the submission. -/
private theorem Admissible.uncompleted_emplaced (admissible : scheduler.Admissible tasks)
    (now : TimePoint) {task : AgentTaskSpec} (member : task ∈ tasks) :
    task.dependencies.countP (uncompleted (tasks.foldl (emplaceTask now) scheduler.nodes)) =
      scheduler.pendingCount task.dependencies := by
  unfold pendingCount
  apply List.countP_congr
  intro dependency listed
  unfold uncompleted pendingIn
  rw [Admissible.lookup_emplaced]
  cases found : scheduler.node? dependency with
  | some node => rfl
  | none =>
      have inBatch : dependency ∈ tasks.map AgentTaskSpec.id := by
        refine (admissible.dependencies task member dependency listed).2.resolve_left ?_
        intro known
        obtain ⟨node, present⟩ := (UnorderedMap.mem_iff_lookup _ _).mp known
        unfold node? at found
        rw [found] at present
        cases present
      cases given : taskOf tasks dependency with
      | none => exact absurd inBatch ((taskOf_eq_none_iff tasks dependency).mp given)
      | some other => exact ⟨fun _ => rfl, fun _ => rfl⟩

theorem Admissible.taskOf_of_known (admissible : scheduler.Admissible tasks) {id : AgentId}
    {node : Node} (found : scheduler.node? id = some node) : taskOf tasks id = none := by
  rw [taskOf_eq_none_iff]
  intro inBatch
  obtain ⟨task, member, rfl⟩ := List.mem_map.mp inBatch
  exact admissible.unknown task member ((UnorderedMap.mem_iff_lookup _ _).mpr ⟨node, found⟩)

theorem Admissible.missing_of_taskOf (admissible : scheduler.Admissible tasks) {id : AgentId}
    {task : AgentTaskSpec} (given : taskOf tasks id = some task) :
    scheduler.node? id = none := by
  cases known : scheduler.node? id with
  | none => rfl
  | some old =>
      rw [admissible.taskOf_of_known known] at given
      cases given

/-- The graph that the search for a cycle sees. -/
theorem Admissible.lookup_linked_old (admissible : scheduler.Admissible tasks)
    (now : TimePoint) {id : AgentId} {node : Node} (found : scheduler.node? id = some node) :
    (scheduler.linkedNodes tasks now).lookup id =
      some (node.addSuccessors (links tasks id)) := by
  unfold linkedNodes
  rw [linkAll_lookup tasks admissible.distinct, Admissible.lookup_emplaced, found,
    admissible.taskOf_of_known found]
  rfl

theorem Admissible.lookup_linked_fresh (admissible : scheduler.Admissible tasks)
    (now : TimePoint) {id : AgentId} (missing : scheduler.node? id = none) :
    (scheduler.linkedNodes tasks now).lookup id =
      (taskOf tasks id).map fun task =>
        ((newNode now task).addSuccessors (links tasks task.id)).setUnresolved
          (UInt32.ofNat (scheduler.pendingCount task.dependencies)) := by
  unfold linkedNodes
  rw [linkAll_lookup tasks admissible.distinct, Admissible.lookup_emplaced, missing,
    Option.none_or, Option.map_map]
  cases given : taskOf tasks id with
  | none => rfl
  | some task =>
      obtain ⟨same, member⟩ := taskOf_id given
      simp only [Option.map_some, Function.comp_apply,
        admissible.uncompleted_emplaced now member, same]

theorem Admissible.submitted (admissible : scheduler.Admissible tasks)
    (keyed : scheduler.Keyed) (now : TimePoint) :
    Submitted tasks now scheduler
      (tasks.foldl admitTask { scheduler with nodes := scheduler.linkedNodes tasks now }) := by
  have linkedKeyed :
      ({ scheduler with nodes := scheduler.linkedNodes tasks now } : AgentScheduler).Keyed := by
    intro id node found
    change (scheduler.linkedNodes tasks now).lookup id = some node at found
    cases known : scheduler.node? id with
    | some old =>
        rw [admissible.lookup_linked_old now known, Option.some.injEq] at found
        exact found ▸ keyed id old known
    | none =>
        rw [admissible.lookup_linked_fresh now known] at found
        obtain ⟨task, given, rfl⟩ := Option.map_eq_some_iff.mp found
        exact (taskOf_id given).1
  have inBatch_iff : ∀ id, id ∈ tasks.map AgentTaskSpec.id ↔
      ∃ task, taskOf tasks id = some task := by
    intro id
    rw [← Option.ne_none_iff_exists', ne_eq, taskOf_eq_none_iff, not_not]
  refine ⟨?_, ?_, ?_, (counters_admitAll tasks _).1, (counters_admitAll tasks _).2⟩
  · intro id node found
    have outside := (taskOf_eq_none_iff tasks id).mp (admissible.taskOf_of_known found)
    rw [node?_admitAll tasks admissible.distinct, if_neg outside]
    exact admissible.lookup_linked_old now found
  · intro id missing
    rw [node?_admitAll tasks admissible.distinct]
    change (if _ then Option.map Node.admitted ((scheduler.linkedNodes tasks now).lookup id)
      else (scheduler.linkedNodes tasks now).lookup id) = _
    rw [admissible.lookup_linked_fresh now missing, Option.map_map]
    by_cases inBatch : id ∈ tasks.map AgentTaskSpec.id
    · rw [if_pos inBatch]
      rfl
    · rw [if_neg inBatch, (taskOf_eq_none_iff tasks id).mpr inBatch]
      rfl
  · intro id
    rw [mem_ready_admitAll tasks _ linkedKeyed]
    refine or_congr_right ?_
    change (id ∈ tasks.map AgentTaskSpec.id ∧ ∃ node,
      (scheduler.linkedNodes tasks now).lookup id = some node ∧ node.unresolved = 0) ↔ _
    rw [inBatch_iff]
    constructor
    · rintro ⟨⟨task, given⟩, node, found, free⟩
      rw [admissible.lookup_linked_fresh now (admissible.missing_of_taskOf given), given,
        Option.map_some, Option.some.injEq] at found
      subst found
      exact ⟨task, given, free⟩
    · rintro ⟨task, given, free⟩
      have linked := admissible.lookup_linked_fresh now (admissible.missing_of_taskOf given)
      rw [given, Option.map_some] at linked
      exact ⟨⟨task, given⟩, _, linked, free⟩

end Accepted

end AgentScheduler

end AgentNucleus.Runtime
