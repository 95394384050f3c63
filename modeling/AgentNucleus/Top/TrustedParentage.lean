/-
Parents across the layers.  The parent of an agent is verified where a spawn
creates it.  A submit request carries a parent of its own, which nobody checks.
-/

import AgentNucleus.Runtime.AgentDaemon
import AgentNucleus.Runtime.SchedulerLifecycle
import AgentNucleus.Top.ContextManager

set_option autoImplicit false

namespace AgentNucleus.Top

open AgentNucleus.Library
open AgentNucleus.Runtime
open AgentNucleus.Runtime.AgentDaemon (Step Surroundings invocationRequest machine)

/-- In the run, a spawn request with this target created the agent, and its
target existed at that moment. -/
def SpawnedBy (steps : List Step) (agentId parentId : AgentId) : Prop :=
  ∃ first request around rest, steps = first ++ Step.dispatch request around :: rest ∧
    request.operation = .spawn ∧ request.targetId = parentId ∧ request.task.id = agentId ∧
    parentId ∈ (machine.run first).scheduler.nodes ∧
    agentId ∉ (machine.run first).scheduler.nodes ∧
    agentId ∈ (machine.run (first ++ [Step.dispatch request around])).scheduler.nodes

/-- What the run guarantees about parents in its last state: in the scheduler, in
the requests to the top layer, and where a context manager lets an agent in. -/
structure ParentageTrusted (steps : List Step) : Prop where
  agents : ∀ id node, (machine.run steps).scheduler.node? id = some node →
    node.spec.parentId ≠ kInvalidAgentId → SpawnedBy steps id node.spec.parentId
  requests : ∀ id node results readable request,
    (machine.run steps).scheduler.node? id = some node →
      invocationRequest node.snapshot results readable = some request →
        request.parentId ≠ kInvalidAgentId → SpawnedBy steps request.agentId request.parentId
  authorization : ∀ id node results readable request entry,
    (machine.run steps).scheduler.node? id = some node →
      invocationRequest node.snapshot results readable = some request →
        ContextManager.authorizedLocked entry request.agentId request.parentId = true →
          ContextManager.owned entry request.agentId = true ∨
            ContextManager.owned entry request.parentId = true ∧
              SpawnedBy steps request.agentId request.parentId

/-- No submit request whose task passes the checks of the scheduler names a
parent. -/
def NamesNoParent (daemon : AgentDaemon) : Step → Prop
  | .dispatch request _ =>
      request.operation = .submit → daemon.scheduler.WellFormedBatch [request.task] →
        request.task.parentId = kInvalidAgentId
  | _ => True

/-! ### Steps of the daemon as steps of the scheduler -/

/-- The operation of the scheduler that a step calls. -/
def calledOperation : Step → Option AgentScheduler.Operation
  | .dispatch request around =>
      match request.operation with
      | .submit => some (.submit request.task around.now around.order)
      | .spawn => some (.spawn request.targetId request.task around.now around.order)
      | .cancel => some (.cancel request.targetId around.now)
      | _ => none
  | .worker operation => some operation.val
  | _ => none

private theorem dispatch_scheduler (daemon : AgentDaemon) (request : ControlRequest)
    (around : Surroundings) :
    (daemon.dispatch request around).1.scheduler =
      match calledOperation (.dispatch request around) with
      | some operation => daemon.scheduler.step operation
      | none => daemon.scheduler := by
  obtain ⟨operation, targetId, task⟩ := request
  cases operation with
  | ping => rfl
  | submit => rfl
  | spawn => rfl
  | status => rfl
  | list => rfl
  | cancel => rfl
  | shutdown => rfl
  | result => rfl
  | releaseResult =>
      change (daemon.releaseResult targetId).1.scheduler = daemon.scheduler
      unfold AgentDaemon.releaseResult
      split
      · rfl
      · rfl

theorem step_scheduler (daemon : AgentDaemon) (step : Step) :
    (daemon.step step).scheduler =
      match calledOperation step with
      | some operation => daemon.scheduler.step operation
      | none => daemon.scheduler := by
  cases step with
  | dispatch request around => exact dispatch_scheduler daemon request around
  | worker operation => rfl
  | publish id reference => rfl
  | discard id => rfl

theorem step_graph (daemon : AgentDaemon) (step : Step) (graph : daemon.scheduler.Graph) :
    (daemon.step step).scheduler.Graph := by
  rw [step_scheduler]
  cases calledOperation step with
  | none => exact graph
  | some operation => exact graph.step operation

theorem run_graph (steps : List Step) : (machine.run steps).scheduler.Graph :=
  machine.runFrom_invariant (fun daemon => daemon.scheduler.Graph)
    (fun daemon step graph => step_graph daemon step graph) machine.initial steps
    AgentScheduler.graph_initial

/-- No step removes an agent or changes its task. -/
theorem step_keepsTask (daemon : AgentDaemon) (step : Step) (graph : daemon.scheduler.Graph)
    {id : AgentId} {old : Node} (found : daemon.scheduler.node? id = some old) :
    ∃ new, (daemon.step step).scheduler.node? id = some new ∧ new.spec = old.spec := by
  rw [step_scheduler]
  cases calledOperation step with
  | none => exact ⟨old, found, rfl⟩
  | some operation =>
      exact (AgentScheduler.step_effect _ graph.keyed operation).keepsTask found

theorem run_keeps (first second : List Step) {id : AgentId}
    (stored : id ∈ (machine.run first).scheduler.nodes) :
    id ∈ (machine.run (first ++ second)).scheduler.nodes := by
  induction second using List.reverseRecOn with
  | nil =>
      rw [List.append_nil]
      exact stored
  | append_singleton earlier last ih =>
      rw [← List.append_assoc, machine.run_snoc]
      obtain ⟨old, found⟩ := (UnorderedMap.mem_iff_lookup _ _).mp ih
      obtain ⟨new, kept, _⟩ := step_keepsTask _ last (run_graph _) found
      exact (UnorderedMap.mem_iff_lookup _ _).mpr ⟨new, kept⟩

/-- New tasks reach the scheduler with a submit or a spawn request. -/
theorem called_offers {scheduler : AgentScheduler} {step : Step}
    {operation : AgentScheduler.Operation} (called : calledOperation step = some operation)
    {tasks : List AgentTaskSpec} (offered : scheduler.offered operation = some tasks) :
    ∃ request around, step = .dispatch request around ∧
      (request.operation = .submit ∧ tasks = [request.task] ∨
        request.operation = .spawn ∧ request.targetId ∈ scheduler.nodes ∧
          tasks = [{ request.task with parentId := request.targetId }]) := by
  cases step with
  | publish id reference => cases called
  | discard id => cases called
  | worker worker =>
      cases called
      obtain ⟨operation, creates⟩ := worker
      cases operation with
      | submit task now order => cases creates
      | submitBatch tasks now order => cases creates
      | spawn parent task now order => cases creates
      | _ => cases offered
  | dispatch request around =>
      refine ⟨request, around, rfl, ?_⟩
      obtain ⟨kind, targetId, requested⟩ := request
      cases kind with
      | submit =>
          cases called
          cases offered
          exact Or.inl ⟨rfl, rfl⟩
      | spawn =>
          cases called
          cases known : scheduler.nodes.contains targetId with
          | false =>
              simp only [AgentScheduler.offered, known, Bool.false_eq_true, if_false] at offered
              cases offered
          | true =>
              simp only [AgentScheduler.offered, known, if_true, Option.some.injEq] at offered
              exact Or.inr ⟨rfl, (UnorderedMap.contains_iff _ _).mp known, offered.symm⟩
      | cancel =>
          cases called
          cases offered
      | _ => cases called

/-- An agent that appears comes from a submit or a spawn request. -/
private theorem appeared (daemon : AgentDaemon) (step : Step) (graph : daemon.scheduler.Graph)
    {id : AgentId} {node : Node} (missing : daemon.scheduler.node? id = none)
    (found : (daemon.step step).scheduler.node? id = some node) :
    ∃ request around, step = .dispatch request around ∧ request.task.id = id ∧
      (request.operation = .submit ∧ daemon.scheduler.WellFormedBatch [request.task] ∧
          node.spec = request.task ∨
        request.operation = .spawn ∧ request.targetId ∈ daemon.scheduler.nodes ∧
          node.spec = { request.task with parentId := request.targetId }) := by
  rw [step_scheduler] at found
  cases called : calledOperation step with
  | none =>
      rw [called] at found
      rw [missing] at found
      cases found
  | some operation =>
      rw [called] at found
      have effect := AgentScheduler.step_effect daemon.scheduler graph.keyed operation
      obtain ⟨tasks, now, task, offered, wellFormed, _, given, same⟩ :=
        effect.fresh graph missing found
      have spec : node.spec = task := by
        rw [same]
        rfl
      obtain ⟨named, member⟩ := taskOf_id given
      obtain ⟨request, around, dispatched, source⟩ := called_offers called offered
      refine ⟨request, around, dispatched, ?_⟩
      rcases source with ⟨submits, alone⟩ | ⟨spawns, present, alone⟩
      · subst alone
        cases List.mem_singleton.mp member
        exact ⟨named, Or.inl ⟨submits, wellFormed, spec⟩⟩
      · subst alone
        cases List.mem_singleton.mp member
        exact ⟨named, Or.inr ⟨spawns, present, spec⟩⟩

/-! ### Runs -/

theorem SpawnedBy.later {steps : List Step} {agentId parentId : AgentId}
    (spawned : SpawnedBy steps agentId parentId) (more : List Step) :
    SpawnedBy (steps ++ more) agentId parentId := by
  obtain ⟨first, request, around, rest, same, facts⟩ := spawned
  refine ⟨first, request, around, rest ++ more, ?_, facts⟩
  rw [same, List.append_assoc]
  rfl

/-- The parent of every agent decides what requests and authorizations rest on. -/
private theorem trusted_of_agents {steps : List Step}
    (agents : ∀ id node, (machine.run steps).scheduler.node? id = some node →
      node.spec.parentId ≠ kInvalidAgentId → SpawnedBy steps id node.spec.parentId) :
    ParentageTrusted steps := by
  have requests : ∀ id node results readable request,
      (machine.run steps).scheduler.node? id = some node →
        invocationRequest node.snapshot results readable = some request →
          request.parentId ≠ kInvalidAgentId →
            SpawnedBy steps request.agentId request.parentId := by
    intro id node results readable request found sent named
    have keyed : node.spec.id = id := (run_graph steps).keyed id node found
    unfold invocationRequest at sent
    split at sent
    · cases sent
    · dsimp only at sent
      split at sent
      · cases sent
      · cases sent
        change SpawnedBy steps node.spec.id node.spec.parentId
        rw [keyed]
        exact agents id node found named
  refine ⟨agents, requests, ?_⟩
  intro id node results readable request entry found sent authorized
  rcases Bool.or_eq_true_iff.mp authorized with own | parent
  · exact Or.inl own
  · obtain ⟨named, owned⟩ := Bool.and_eq_true_iff.mp parent
    exact Or.inr ⟨owned, requests id node results readable request found sent (bne_iff_ne.mp named)⟩

private theorem trusted_step {steps : List Step} {last : Step}
    (trusted : ParentageTrusted steps) (guarded : NamesNoParent (machine.run steps) last) :
    ParentageTrusted (steps ++ [last]) := by
  apply trusted_of_agents
  intro id node found named
  have graph := run_graph steps
  rw [machine.run_snoc] at found
  change ((machine.run steps).step last).scheduler.node? id = some node at found
  cases before : (machine.run steps).scheduler.node? id with
  | some old =>
      obtain ⟨new, present, spec⟩ := step_keepsTask _ last graph before
      rw [found] at present
      cases present
      rw [spec] at named ⊢
      exact (trusted.agents id old before named).later [last]
  | none =>
      obtain ⟨request, around, same, isId, created⟩ := appeared _ last graph before found
      subst same
      rcases created with ⟨submits, wellFormed, spec⟩ | ⟨spawns, present, spec⟩
      · rw [spec] at named
        exact absurd (guarded submits wellFormed) named
      · refine ⟨steps, request, around, [], rfl, spawns, ?_, isId, ?_, ?_, ?_⟩
        · rw [spec]
        · rw [spec]
          exact present
        · intro stored
          obtain ⟨old, known⟩ := (UnorderedMap.mem_iff_lookup _ _).mp stored
          rw [show (machine.run steps).scheduler.nodes.lookup id = none from before] at known
          cases known
        · rw [machine.run_snoc]
          exact (UnorderedMap.mem_iff_lookup _ _).mpr ⟨node, found⟩

theorem trusted_of_along (steps : List Step)
    (guarded : machine.Along NamesNoParent machine.initial steps) : ParentageTrusted steps := by
  induction steps using List.reverseRecOn with
  | nil =>
      apply trusted_of_agents
      intro id node found
      cases found
  | append_singleton earlier last ih =>
      have here := Machine.Along.after_segment earlier [last] guarded
      exact trusted_step (ih (Machine.Along.first_segment earlier [last] guarded)) here.1

/-- A submit request that is accepted with a parent creates an agent that no spawn
request has created. -/
private theorem untrusted_of_submit {steps : List Step} {request : ControlRequest}
    (around : Surroundings) (submits : request.operation = .submit)
    (wellFormed : (machine.run steps).scheduler.WellFormedBatch [request.task])
    (named : request.task.parentId ≠ kInvalidAgentId) :
    ¬ParentageTrusted (steps ++ [.dispatch request around]) := by
  intro trusted
  have graph := run_graph steps
  have member : request.task ∈ [request.task] := List.mem_singleton_self _
  have unknown := wellFormed.unknown request.task member
  have called : calledOperation (.dispatch request around) =
      some (.submit request.task around.now around.order) := by
    simp only [calledOperation, submits]
  have offered : (machine.run steps).scheduler.offered
      (.submit request.task around.now around.order) = some [request.task] := rfl
  obtain ⟨now, submitted⟩ := graph.step_offered offered wellFormed
  have missing : (machine.run steps).scheduler.node? request.task.id = none := by
    cases found : (machine.run steps).scheduler.node? request.task.id with
    | none => rfl
    | some node => exact absurd ((UnorderedMap.mem_iff_lookup _ _).mpr ⟨node, found⟩) unknown
  have stored := submitted.fresh request.task.id missing
  rw [taskOf_of_mem wellFormed.distinct member, Option.map_some] at stored
  have after : (machine.run (steps ++ [.dispatch request around])).scheduler =
      (machine.run steps).scheduler.step (.submit request.task around.now around.order) := by
    rw [machine.run_snoc]
    change ((machine.run steps).step _).scheduler = _
    rw [step_scheduler, called]
  rw [← after] at stored
  obtain ⟨first, spawn, around', rest, same, spawns, _, isId, _, _, created⟩ :=
    trusted.agents request.task.id _ stored named
  cases rest using List.reverseRecOn with
  | nil =>
      have last := (List.append_inj' same rfl).2
      cases last
      rw [submits] at spawns
      cases spawns
  | append_singleton earlier last =>
      have split : steps ++ [.dispatch request around] =
          (first ++ Step.dispatch spawn around' :: earlier) ++ [last] := by
        rw [same, List.append_assoc]
        rfl
      have before := (List.append_inj' split rfl).1
      apply unknown
      rw [before, show first ++ Step.dispatch spawn around' :: earlier =
        (first ++ [.dispatch spawn around']) ++ earlier by simp]
      exact run_keeps _ earlier created

/-- The parents of a run are trusted throughout exactly when no accepted submit
request names one. -/
theorem parentage_trusted_iff (steps : List Step) :
    (∀ first second, steps = first ++ second → ParentageTrusted first) ↔
      machine.Along NamesNoParent machine.initial steps := by
  constructor
  · intro trusted
    apply machine.along_of_segments
    intro first step second same
    cases step with
    | dispatch request around =>
        intro submits wellFormed
        by_contra named
        apply untrusted_of_submit around submits wellFormed named
        apply trusted _ second
        rw [same, List.append_assoc]
        rfl
    | worker operation => trivial
    | publish id reference => trivial
    | discard id => trivial
  · intro guarded first second same
    rw [same] at guarded
    exact trusted_of_along first (Machine.Along.first_segment first second guarded)

/-- A client submits an agent under the name of another one that it has not been
spawned by, to continue a context of that one. -/
def borrowingTask : AgentTaskSpec :=
  { id := 2
    parentId := 1
    invocation := some { target := text "model", operation := text "generate", contextId := 1 } }

private theorem borrowingTask_wellFormed :
    (machine.run []).scheduler.WellFormedBatch [borrowingTask] := by
  rcases (run_graph []).submitBatchLocked_cases [borrowingTask] 0 IterationOrder.asStored with
    ⟨wellFormed, _⟩ | ⟨_, refused, _⟩
  · exact wellFormed
  · have accepted : (({} : AgentScheduler).submitBatchLocked [borrowingTask] 0
        IterationOrder.asStored).2.ok = true := by decide
    change (({} : AgentScheduler).submitBatchLocked [borrowingTask] 0
      IterationOrder.asStored).2.ok = false at refused
    rw [accepted] at refused
    cases refused

def borrowingRequest : ControlRequest :=
  { operation := .submit, task := borrowingTask }

theorem submitted_parent_untrusted :
    ¬ParentageTrusted [.dispatch borrowingRequest { order := IterationOrder.asStored }] := by
  have named : borrowingRequest.task.parentId ≠ kInvalidAgentId := by decide
  exact @untrusted_of_submit [] borrowingRequest _ rfl borrowingTask_wellFormed named

end AgentNucleus.Top
