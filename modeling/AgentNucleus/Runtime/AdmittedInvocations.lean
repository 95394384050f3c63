/-
From the control protocol to the invocation protocol.  A task that was read from a
packet and accepted by the scheduler keeps its invocation, and the request that
`execute_invocation` makes of it can be encoded with every list of dependency
results that it attaches.
-/

import AgentNucleus.Runtime.AgentDaemon
import AgentNucleus.Runtime.ControlPackets
import AgentNucleus.Runtime.SchedulerLifecycle

set_option autoImplicit false

namespace AgentNucleus.Runtime

open AgentNucleus.Library
open AgentNucleus.Runtime.AgentScheduler (Operation machine)
open AgentNucleus.Runtime.InvocationProtocol (encodeInvocationRequest inputBytes inputValid)

/-! ### The size of a packet -/

theorem length_referenceBytes (reference : SharedBufferRef) :
    (referenceBytes reference).length = 48 := by
  unfold referenceBytes bytes64 bytes32
  simp only [List.length_append, length_littleEndian]

theorem length_inputs (attached : List InvocationInput) :
    (attached.flatMap inputBytes).length = 56 * attached.length := by
  induction attached with
  | nil => rfl
  | cons input rest ih =>
      have one : (inputBytes input).length = 56 := by
        unfold inputBytes bytes64
        rw [List.length_append, length_littleEndian, length_referenceBytes]
      rw [List.flatMap_cons, List.length_append, ih, one, List.length_cons]
      omega

/-- Apart from its strings and inputs the body of a request has 65 bytes. -/
theorem length_requestBytes (request : InvocationRequest) :
    (InvocationProtocol.requestBytes request).length =
      65 + request.target.length + request.operation.length + request.payload.length +
        56 * request.inputs.length := by
  unfold InvocationProtocol.requestBytes
  rw [List.length_append, length_inputs]
  unfold InvocationProtocol.RequestFields.bytes InvocationProtocol.requestFields bytes64 bytes32
    bytes8
  simp only [List.length_append, length_littleEndian, length_lengthPrefixed]
  omega

/-- Three strings and all inputs fit into a packet together. -/
theorem valid_encodable {request : InvocationRequest}
    (valid : InvocationProtocol.ValidRequest request) :
    ∃ packet, encodeInvocationRequest request = .ok packet := by
  have target := valid.targetFits
  have operation := valid.operationFits
  have payload := valid.payloadFits
  have inputs := valid.fewInputs
  unfold kMaxStringSize at target operation payload
  unfold kMaxInvocationInputs at inputs
  refine ⟨_, (InvocationProtocol.encodeInvocationRequest_iff request _).mpr ⟨valid, rfl, ?_⟩⟩
  rw [length_frame, length_requestBytes]
  unfold kMaxInvocationMessageSize
  omega

/-! ### What is executed -/

/-- What `execute_invocation` asks with the results that it has acquired. -/
def executedRequest (snapshot : AgentSnapshot) (spec : InvocationSpec)
    (attached : List InvocationInput) : InvocationRequest where
  agentId := snapshot.spec.id
  parentId := snapshot.spec.parentId
  kind := spec.kind
  target := spec.target
  operation := spec.operation
  payload := spec.payload
  contextId := spec.contextId
  priority := snapshot.spec.priority
  resources := snapshot.spec.resources
  inputs := attached

theorem invocationRequest_eq (snapshot : AgentSnapshot)
    (results : UnorderedMap AgentId SharedBufferRef) (readable : AgentId → Bool) :
    AgentDaemon.invocationRequest snapshot results readable =
      snapshot.spec.invocation.bind fun spec =>
        if kMaxInvocationInputs <
            (AgentDaemon.inputs results readable snapshot.spec.dependencies).length then none
        else some (executedRequest snapshot spec
          (AgentDaemon.inputs results readable snapshot.spec.dependencies)) := by
  unfold AgentDaemon.invocationRequest
  cases snapshot.spec.invocation with
  | none => rfl
  | some spec => rfl

/-- The operation submits or spawns the task, and the scheduler accepts it. -/
def AcceptsTask (scheduler : AgentScheduler) (task : AgentTaskSpec) : Operation → Prop
  | .submit given now order => given = task ∧ (scheduler.submit given now order).2.ok = true
  | .spawn parent given now order =>
      given = task ∧ (scheduler.spawn parent given now order).2.ok = true
  | _ => False

namespace AgentScheduler

variable {scheduler : AgentScheduler}

/-- A single accepted task is stored as it is. -/
private theorem accepted_stored (graph : scheduler.Graph) (task : AgentTaskSpec)
    (now : TimePoint) (order : IterationOrder AgentId)
    (accepted : (scheduler.submitBatchLocked [task] now order).2.ok = true) :
    WellFormedTask task ∧
      ∃ node, (scheduler.submitBatchLocked [task] now order).1.node? task.id = some node ∧
        node.spec = task := by
  rcases graph.submitBatchLocked_cases [task] now order with
    ⟨wellFormed, ok, submitted⟩ | ⟨malformed, refused, same⟩
  · have member : task ∈ [task] := List.mem_singleton.mpr rfl
    have given := taskOf_of_mem wellFormed.distinct member
    have missing := wellFormed.toAdmissible.missing_of_taskOf given
    refine ⟨wellFormed.wellFormed task member,
      scheduler.submittedNode [task] now task, ?_, rfl⟩
    rw [submitted.fresh task.id missing, given]
    rfl
  · rw [refused] at accepted
    cases accepted

/-- An admitted agent has its task, at most with another parent. -/
theorem admitted_stored (graph : scheduler.Graph) {task : AgentTaskSpec} {operation : Operation}
    (admitted : AcceptsTask scheduler task operation) :
    WellFormedTask task ∧
      ∃ node parentId, (scheduler.step operation).node? task.id = some node ∧
        node.spec = { task with parentId := parentId } := by
  cases operation with
  | submit given now order =>
      obtain ⟨same, accepted⟩ := admitted
      subst same
      obtain ⟨wellFormed, node, found, spec⟩ := accepted_stored graph given now order accepted
      exact ⟨wellFormed, node, given.parentId, found, spec⟩
  | spawn parent given now order =>
      obtain ⟨same, accepted⟩ := admitted
      subst same
      change WellFormedTask given ∧ ∃ node parentId,
        (scheduler.spawn parent given now order).1.node? given.id = some node ∧ _
      unfold spawn at accepted ⊢
      cases known : scheduler.nodes.contains parent with
      | false =>
          rw [known] at accepted
          cases accepted
      | true =>
          rw [known] at accepted
          obtain ⟨wellFormed, node, found, spec⟩ :=
            accepted_stored graph { given with parentId := parent } now order accepted
          exact ⟨⟨wellFormed.id, wellFormed.exclusive, wellFormed.invocation⟩,
            node, parent, found, spec⟩
  | _ => cases admitted

theorem run_keepsTask (graph : scheduler.Graph) (later : List Operation) {id : AgentId}
    {old : Node} (found : scheduler.node? id = some old) :
    ∃ new, (machine.runFrom scheduler later).node? id = some new ∧ new.spec = old.spec := by
  induction later generalizing scheduler old with
  | nil => exact ⟨old, found, rfl⟩
  | cons operation rest ih =>
      obtain ⟨next, kept, same⟩ :=
        (step_effect scheduler graph.keyed operation).keepsTask found
      obtain ⟨new, present, spec⟩ := ih (graph.step operation) kept
      exact ⟨new, present, spec.trans same⟩

end AgentScheduler

/-- The checks of both sides together are those of the encoder. -/
theorem executedRequest_valid {task : AgentTaskSpec} {spec : InvocationSpec}
    (readable : ControlProtocol.TaskReadable task) (wellFormed : WellFormedTask task)
    (carries : task.invocation = some spec) {snapshot : AgentSnapshot} {parentId : AgentId}
    (stored : snapshot.spec = { task with parentId := parentId })
    {attached : List InvocationInput} (few : attached.length ≤ kMaxInvocationInputs)
    (valid : ∀ input ∈ attached, inputValid input) :
    InvocationProtocol.ValidRequest (executedRequest snapshot spec attached) := by
  obtain ⟨kind, target, operation⟩ := wellFormed.invocation spec carries
  have strings := readable.invocation spec carries
  have agent : snapshot.spec.id = task.id := by
    rw [stored]
  have resources : snapshot.spec.resources = task.resources := by
    rw [stored]
  refine ⟨?_, target, operation, few, ?_, kind, valid, strings.target, strings.operation,
    strings.payload⟩
  · change snapshot.spec.id ≠ kInvalidAgentId
    rw [agent]
    exact wellFormed.id
  · change 0 ≤ snapshot.spec.resources.timeout
    rw [resources]
    exact readable.timeout

/-- An invocation that comes from a packet and is admitted can be sent whenever it is
executed, with any valid dependency results. -/
theorem admitted_invocations_encodable (history later : List Operation) (operation : Operation)
    (data : List UInt8) (old request : ControlRequest) (spec : InvocationSpec)
    (decoded : ControlProtocol.decodeControlRequest data old = .ok request)
    (carries : request.task.invocation = some spec)
    (admitted : AcceptsTask (machine.run history) request.task operation) :
    ∃ node, (machine.run (history ++ operation :: later)).node? request.task.id = some node ∧
      node.spec.invocation = some spec ∧
      (∀ attached : List InvocationInput, attached.length ≤ kMaxInvocationInputs →
        (∀ input ∈ attached, inputValid input) →
          ∃ packet, encodeInvocationRequest (executedRequest node.snapshot spec attached) =
            .ok packet) ∧
      (∀ results readable sent,
        AgentDaemon.invocationRequest node.snapshot results readable = some sent →
          (∀ input ∈ sent.inputs, inputValid input) →
            ∃ packet, encodeInvocationRequest sent = .ok packet) := by
  have readable := ((ControlProtocol.decodeControlRequest_iff data old request).mp decoded).1
  have graph : (machine.run history).Graph := AgentScheduler.Reachable.graph ⟨history, rfl⟩
  obtain ⟨wellFormed, first, parentId, found, stored⟩ :=
    AgentScheduler.admitted_stored graph admitted
  obtain ⟨node, kept, same⟩ :=
    AgentScheduler.run_keepsTask (graph.step operation) later found
  have whole : machine.run (history ++ operation :: later) =
      machine.runFrom ((machine.run history).step operation) later :=
    machine.runFrom_append machine.initial history (operation :: later)
  have spec_eq := same.trans stored
  have carried : node.spec.invocation = some spec := by
    rw [spec_eq]
    exact carries
  have encodable (attached : List InvocationInput)
      (few : attached.length ≤ kMaxInvocationInputs)
      (valid : ∀ input ∈ attached, inputValid input) :
      ∃ packet, encodeInvocationRequest (executedRequest node.snapshot spec attached) =
        .ok packet :=
    valid_encodable (executedRequest_valid readable wellFormed carries spec_eq few valid)
  refine ⟨node, ?_, carried, encodable, ?_⟩
  · rw [whole]
    exact kept
  · intro results readable sent built valid
    rw [invocationRequest_eq] at built
    change node.spec.invocation.bind _ = some sent at built
    rw [carried, Option.bind_some] at built
    split at built
    · cases built
    · rename_i few
      cases built
      exact encodable _ (not_lt.mp few) valid

/-- A tool call. -/
def searchSpec : InvocationSpec where
  kind := .tool
  target := text "search"
  operation := text "execute"

def searchRequest : ControlRequest where
  operation := .submit
  task := { id := 1, invocation := some searchSpec }

def searchPacket : List UInt8 :=
  frame ControlProtocol.protocol ControlOperation.submit.code
    (ControlProtocol.requestBytes searchRequest)

def searchSubmission : Operation :=
  .submit searchRequest.task 0 IterationOrder.asStored

/-- The result of a dependency. -/
def foundPage : InvocationInput where
  producerId := 2
  reference := { regionId := 7, regionSize := 4096, length := 5 }

theorem search_encodable :
    ∃ node, (machine.run [searchSubmission]).node? 1 = some node ∧
      ∃ packet, encodeInvocationRequest (executedRequest node.snapshot searchSpec [foundPage]) =
        .ok packet := by
  have decoded : ControlProtocol.decodeControlRequest searchPacket {} = .ok searchRequest := by
    apply (ControlProtocol.decodeControlRequest_iff _ _ _).mpr
    refine ⟨⟨by decide, by decide, by decide, by decide, by decide, by decide, ?_⟩, rfl, ?_⟩
    · intro invocation present
      cases present
      exact ⟨by decide, by decide, by decide, by decide⟩
    · unfold searchPacket
      rw [length_frame]
      decide
  have admitted : AcceptsTask (machine.run []) searchRequest.task searchSubmission :=
    ⟨rfl, by decide +kernel⟩
  obtain ⟨node, found, carried, encodable, built⟩ :=
    admitted_invocations_encodable [] [] searchSubmission searchPacket {} searchRequest searchSpec
      decoded rfl admitted
  have valid : inputValid foundPage := ⟨by decide, by decide⟩
  exact ⟨node, found, encodable [foundPage] (by decide) (List.forall_mem_singleton.mpr valid)⟩

end AgentNucleus.Runtime
