/-
When `handle_client` replies.  A result of a usual shape is sent exactly if its message fits
a string of the protocol; nothing else that the encoder checks can fail.
-/

import AgentNucleus.Runtime.ReceivedReferences

set_option autoImplicit false

namespace AgentNucleus.Runtime

open AgentNucleus.Library
open AgentNucleus.Runtime.InvocationProtocol (decodeInvocationResponse encodeInvocationResponse
  jsonUtf8)

/-- The client receives a response to its request, with the status of the handler and a
descriptor exactly if an output is announced. -/
def Replied (serverProcess : Int64) (handler : InvocationHandler) (connection : ClientConnection)
    (request : InvocationRequest) (inputs : List InvocationMappedInput) : Prop :=
  ∃ packet descriptors response,
    handleClient serverProcess handler connection = some (packet, descriptors) ∧
      decodeInvocationResponse packet {} = .ok response ∧
      response.agentId = request.agentId ∧
      response.status = (caught (handler request inputs)).status ∧
      response.outputAvailable = decide (descriptors.length = 1)

/-- A result with a known status, and an output that lies in its region. -/
structure InvocationHandlerResult.Shaped (result : InvocationHandlerResult) : Prop where
  status : result.status.value ≤ InvocationStatus.busy.value
  output : result.output.valid = true → result.output.regionId ≠ 0 ∧
    result.outputLength ≤ result.output.size ∧ result.outputType ≤ jsonUtf8 ∧
    0 ≤ result.output.descriptor
  empty : result.output.valid = false → result.outputLength = 0

/-- Apart from its message a response is short. -/
theorem length_responseBytes (response : InvocationResponse) :
    (InvocationProtocol.responseBytes response).length ≤ 127 + response.message.length := by
  have reference : (optionalReferenceBytes response.outputAvailable response.output).length ≤
      48 := by
    unfold optionalReferenceBytes
    split
    · unfold referenceBytes bytes64 bytes32
      simp only [List.length_append, length_littleEndian]
      omega
    · exact Nat.zero_le _
  unfold InvocationProtocol.responseBytes InvocationProtocol.ResponseFields.bytes
    InvocationProtocol.responseFields metricsBytes bytes64 bytes8
  simp only [List.length_append, length_littleEndian, length_lengthPrefixed]
  omega

/-- What is assembled from a shaped result keeps its status and message. -/
structure AssembledFrom (serverProcess : Int64) (request : InvocationRequest)
    (result : InvocationHandlerResult) : Prop where
  agent : (assembleResponse serverProcess request result).agentId = request.agentId
  status : (assembleResponse serverProcess request result).status = result.status
  message : (assembleResponse serverProcess request result).message = result.message
  output : (assembleResponse serverProcess request result).outputAvailable =
    result.output.valid
  reference : (assembleResponse serverProcess request result).outputAvailable = true →
    InvocationProtocol.validReference
      (assembleResponse serverProcess request result).output = true

theorem assembled {result : InvocationHandlerResult} (shaped : result.Shaped)
    (serverProcess : Int64) (request : InvocationRequest) :
    AssembledFrom serverProcess request result := by
  cases available : result.output.valid with
  | false =>
      have same : assembleResponse serverProcess request result =
          { agentId := request.agentId
            processId := if 0 ≤ result.processId then result.processId else serverProcess
            status := result.status
            message := result.message
            contextId := result.contextId
            metrics := result.metrics } := by
        unfold assembleResponse
        rw [available, shaped.empty available]
        rfl
      constructor
      · rw [same]
      · rw [same]
      · rw [same]
      · rw [same, available]
      · rw [same]
        exact nofun
  | true =>
      obtain ⟨named, inside, known, _⟩ := shaped.output available
      have same : assembleResponse serverProcess request result =
          { agentId := request.agentId
            processId := if 0 ≤ result.processId then result.processId else serverProcess
            status := result.status
            message := result.message
            contextId := result.contextId
            metrics := result.metrics
            outputAvailable := true
            output := outputReference result } := by
        unfold assembleResponse
        rw [available, if_pos rfl, if_neg (UInt64.not_lt.mpr inside)]
      have positive : 0 < result.output.size := by
        unfold SharedMemoryRegion.valid at available
        rw [Bool.and_eq_true, decide_eq_true_eq] at available
        exact available.2
      constructor
      · rw [same]
      · rw [same]
      · rw [same]
      · rw [same, available]
      · rw [same]
        intro _
        unfold InvocationProtocol.validReference insideRegion outputReference
        have fits : result.outputLength ≤ result.output.size - 0 := by
          rw [UInt64.sub_zero]
          exact inside
        simp only [Bool.and_eq_true, beq_iff_eq, bne_iff_ne, decide_eq_true_eq]
        exact ⟨⟨⟨⟨⟨trivial, named⟩, (UInt64.ne_of_lt positive).symm⟩, UInt64.zero_le⟩, fits⟩, known⟩

theorem valid_assembled {result : InvocationHandlerResult} {serverProcess : Int64}
    {request : InvocationRequest} (response : AssembledFrom serverProcess request result)
    (known : request.agentId ≠ kInvalidAgentId)
    (status : result.status.value ≤ InvocationStatus.busy.value) :
    InvocationProtocol.ValidResponse (assembleResponse serverProcess request result) ↔
      result.message.length ≤ kMaxStringSize := by
  constructor
  · intro valid
    rw [← response.message]
    exact valid.messageFits
  · intro fits
    refine ⟨?_, ?_, response.reference, ?_⟩
    · rw [response.agent]
      exact known
    · rw [response.status]
      exact status
    · rw [response.message]
      exact fits

/-- The packet of a response is delivered with the descriptor of its output, if the kernel
takes it. -/
theorem sendPacket_ok {result : InvocationHandlerResult} (body : List UInt8)
    (shaped : result.Shaped) :
    sendPacket (.ok ())
        (frame InvocationProtocol.protocol InvocationProtocol.kResponseMessage body)
        (if result.output.valid then [result.output.descriptor] else []) =
      .ok (frame InvocationProtocol.protocol InvocationProtocol.kResponseMessage body,
        if result.output.valid then [result.output.descriptor] else []) := by
  have nonempty : ¬(frame InvocationProtocol.protocol InvocationProtocol.kResponseMessage
      body).isEmpty = true := by
    intro empty
    have none := congrArg List.length (List.isEmpty_iff.mp empty)
    rw [length_frame, List.length_nil] at none
    omega
  unfold sendPacket
  cases available : result.output.valid with
  | false =>
      rw [if_neg, if_neg]
      · exact nofun
      · rintro (empty | many)
        · exact nonempty empty
        · exact absurd many (Nat.not_lt_zero _)
  | true =>
      obtain ⟨_, _, _, opened⟩ := shaped.output available
      rw [if_neg, if_neg]
      · rintro ⟨descriptor, member, negative⟩
        cases List.mem_singleton.mp member
        exact Int32.not_lt.mpr opened negative
      · rintro (empty | many)
        · exact nonempty empty
        · exact absurd many (by simp [kMaxInvocationInputs])

/-- What a comparison of responses leaves alone. -/
theorem compared_fields (response : InvocationResponse) :
    (InvocationProtocol.compared response).agentId = response.agentId ∧
      (InvocationProtocol.compared response).status = response.status ∧
      (InvocationProtocol.compared response).outputAvailable = response.outputAvailable := by
  unfold InvocationProtocol.compared
  split
  · exact ⟨rfl, rfl, rfl⟩
  · exact ⟨rfl, rfl, rfl⟩

theorem sendPacket_refused (reason : StdString) (packet : List UInt8)
    (descriptors : List Int32) :
    (sendPacket (.error reason) packet descriptors).toOption = none := by
  unfold sendPacket
  split
  · rfl
  · split
    · rfl
    · rfl

/-- A result of this shape reaches the client exactly if its message fits and the kernel
takes the response. -/
theorem replied_iff {connection : ClientConnection} {request : InvocationRequest}
    {inputs : List InvocationMappedInput}
    (called : handlerArguments connection = some (request, inputs))
    (serverProcess : Int64) (handler : InvocationHandler)
    (shaped : (caught (handler request inputs)).Shaped) :
    Replied serverProcess handler connection request inputs ↔
      (caught (handler request inputs)).message.length ≤ kMaxStringSize ∧
        connection.sent = .ok () := by
  obtain ⟨_, _, _, decoded, _⟩ := handlerArguments_some called
  have known := ((InvocationProtocol.decodeInvocationRequest_iff _ {} request).mp decoded).1.agent
  unfold Replied handleClient
  simp only [called]
  generalize caught (handler request inputs) = result at shaped ⊢
  have response := assembled shaped serverProcess request
  have valid := valid_assembled response known shaped.status
  constructor
  · rintro ⟨packet, descriptors, _, replied, _⟩
    cases encoded : encodeInvocationResponse
        (assembleResponse serverProcess request result) with
    | error message =>
        rw [encoded] at replied
        cases replied
    | ok sent =>
        refine ⟨valid.mp ((InvocationProtocol.encodeInvocationResponse_iff _ _).mp encoded).1, ?_⟩
        cases taken : connection.sent with
        | ok _ => rfl
        | error reason =>
            rw [encoded] at replied
            dsimp only at replied
            rw [taken, sendPacket_refused] at replied
            cases replied
  · rintro ⟨fits, taken⟩
    have short : (frame InvocationProtocol.protocol InvocationProtocol.kResponseMessage
        (InvocationProtocol.responseBytes
          (assembleResponse serverProcess request result))).length ≤
        kMaxInvocationMessageSize := by
      have bounded := length_responseBytes (assembleResponse serverProcess request result)
      rw [response.message] at bounded
      rw [length_frame]
      unfold kMaxStringSize at fits
      unfold kMaxInvocationMessageSize
      omega
    have encoded := (InvocationProtocol.encodeInvocationResponse_iff _ _).mpr
      ⟨valid.mpr fits, rfl, short⟩
    obtain ⟨sameBytes, sameValid, default⟩ := InvocationProtocol.compared_frame
      (assembleResponse serverProcess request result)
    have decoded := (InvocationProtocol.decodeInvocationResponse_iff _ {} _).mpr
      ⟨⟨sameValid.mpr (valid.mpr fits), default⟩, by rw [sameBytes], short⟩
    have sent := sendPacket_ok (InvocationProtocol.responseBytes (assembleResponse serverProcess
      request result)) shaped
    obtain ⟨agent, status, available⟩ := compared_fields
      (assembleResponse serverProcess request result)
    rw [encoded]
    refine ⟨_, if result.output.valid then [result.output.descriptor] else [], _, ?_, decoded,
      agent.trans response.agent, status.trans response.status, ?_⟩
    · dsimp only
      rw [response.output, taken, sent]
      rfl
    · rw [available, response.output]
      cases result.output.valid with
      | false => rfl
      | true => rfl

end AgentNucleus.Runtime
