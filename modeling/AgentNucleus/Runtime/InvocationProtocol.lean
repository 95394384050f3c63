/-
The invocation protocol of `invocation_protocol.cpp`.  A decoder overwrites the
object it is given; what a failed call leaves in it is not modelled, since no
caller reads it.  The packets that a decoder accepts are exactly the frames of
valid messages, and these are exactly the packets that the encoder produces.
-/

import AgentNucleus.Runtime.WireFormat

set_option autoImplicit false

namespace AgentNucleus.Runtime

open AgentNucleus.Library

def kMaxInvocationMessageSize : Nat := 1024 * 1024
def kMaxInvocationInputs : Nat := 64

/-- An `enum class : std::uint8_t` holds any byte; five of them have names. -/
structure InvocationStatus where
  value : UInt8
deriving DecidableEq, Repr

def InvocationStatus.failed : InvocationStatus := ⟨2⟩
def InvocationStatus.busy : InvocationStatus := ⟨4⟩

structure InvocationInput where
  producerId : AgentId := kInvalidAgentId
  reference : SharedBufferRef := {}
deriving DecidableEq, Repr

/-- `priority` is an `int` of 32 bits, so the cast to `std::int32_t` keeps it. -/
structure InvocationRequest where
  agentId : AgentId := kInvalidAgentId
  parentId : AgentId := kInvalidAgentId
  kind : InvocationKind := .model
  target : StdString := []
  operation : StdString := []
  payload : StdString := []
  contextId : ContextId := kInvalidContextId
  priority : Int32 := 0
  resources : ResourceRequest := {}
  inputs : List InvocationInput := []
deriving DecidableEq, Repr

structure InvocationResponse where
  agentId : AgentId := kInvalidAgentId
  processId : Int64 := -1
  status : InvocationStatus := .failed
  message : StdString := []
  contextId : ContextId := kInvalidContextId
  metrics : AgentPerformanceMetrics := {}
  outputAvailable : Bool := false
  output : SharedBufferRef := {}
deriving DecidableEq, Repr

namespace InvocationProtocol

def kRequestMessage : UInt16 := 1
def kResponseMessage : UInt16 := 2

def protocol : Protocol where
  magic := 0x41524956
  version := 1
  maxMessageSize := kMaxInvocationMessageSize
  stringError := text "invocation string exceeds size limit"
  roomError := text "invocation string exceeds size limit"
  messageError := text "invocation message exceeds size limit"

/-- `SharedDataType::json_utf8`, the last data type. -/
def jsonUtf8 : UInt32 := 2

def validReference (reference : SharedBufferRef) : Bool :=
  insideRegion reference && decide (reference.dataType ≤ jsonUtf8)

def decodeHeader (expectedType : UInt16) (data : List UInt8) :
    Except StdString (UInt32 × List UInt8) := do
  let (header, payload) ← orError (text "truncated invocation header") (readHeader data)
  ensure (header.magic = protocol.magic ∧ header.version = protocol.version ∧
    header.messageType = expectedType) (text "unsupported invocation protocol")
  pure (header.payloadSize, payload)

/-! ### Requests -/

def encodeInput (input : InvocationInput) : ByteWriter StdString Unit := do
  ByteWriter.put (bytes64 input.producerId)
  encodeReference input.reference

/-- The body of the packet of a request. -/
def writeRequest (request : InvocationRequest) : ByteWriter StdString Unit := do
  ByteWriter.put (bytes64 request.agentId)
  ByteWriter.put (bytes64 request.parentId)
  ByteWriter.put (bytes8 request.kind.value)
  ByteWriter.put (bytes64 request.contextId)
  ByteWriter.put (bytes32 request.priority.toUInt32)
  ByteWriter.put (bytes32 request.resources.cpuThreads)
  ByteWriter.put (bytes64 request.resources.memoryBytes)
  ByteWriter.put (bytes64 request.resources.timeout.toUInt64)
  writeString protocol request.target
  writeString protocol request.operation
  writeString protocol request.payload
  ByteWriter.put (bytes32 (UInt32.ofNat request.inputs.length))
  ByteWriter.each encodeInput request.inputs

def encodeInvocationRequest (request : InvocationRequest) : Except StdString (List UInt8) := do
  ensure (request.agentId ≠ kInvalidAgentId ∧ request.target ≠ [] ∧ request.operation ≠ [] ∧
    request.inputs.length ≤ kMaxInvocationInputs ∧ 0 ≤ request.resources.timeout)
    (text "invalid invocation request")
  ensure (request.kind = .model ∨ request.kind = .tool) (text "invalid invocation kind")
  ensure (∀ input ∈ request.inputs,
    input.producerId ≠ kInvalidAgentId ∧ validReference input.reference = true)
    (text "invalid invocation input")
  buildMessage protocol kRequestMessage (writeRequest request)

/-- What stands before the inputs of a request, as it is read. -/
structure RequestFields where
  agentId : AgentId
  parentId : AgentId
  kind : UInt8
  contextId : ContextId
  priority : UInt32
  cpuThreads : UInt32
  memoryBytes : UInt64
  timeoutMs : UInt64
  target : StdString
  operation : StdString
  payload : StdString
  inputCount : UInt32

def readRequestFields : ByteReader RequestFields := do
  let agentId ← ByteReader.u64
  let parentId ← ByteReader.u64
  let kind ← ByteReader.u8
  let contextId ← ByteReader.u64
  let priority ← ByteReader.u32
  let cpuThreads ← ByteReader.u32
  let memoryBytes ← ByteReader.u64
  let timeoutMs ← ByteReader.u64
  let target ← readString
  let operation ← readString
  let payload ← readString
  let inputCount ← ByteReader.u32
  ByteReader.require (inputCount.toNat ≤ kMaxInvocationInputs)
  pure {
    agentId, parentId, kind, contextId, priority, cpuThreads, memoryBytes, timeoutMs,
    target, operation, payload, inputCount }

def decodeInput (input : InvocationInput) : ByteReader InvocationInput := do
  let producerId ← ByteReader.u64
  ByteReader.require (producerId ≠ kInvalidAgentId)
  let reference ← decodeReference validReference input.reference
  pure { input with producerId, reference }

def decodeInvocationRequest (data : List UInt8) (request : InvocationRequest) :
    Except StdString InvocationRequest := do
  ensure (data.length ≤ kMaxInvocationMessageSize) (text "invalid invocation request buffer")
  let (payloadSize, payload) ← decodeHeader kRequestMessage data
  ensure (payloadSize.toNat = payload.length) (text "invalid invocation request")
  let (fields, afterFields) ← orError (text "invalid invocation request")
    (readRequestFields payload)
  ensure (InvocationKind.model.value ≤ fields.kind ∧ fields.kind ≤ InvocationKind.tool.value ∧
    fields.timeoutMs ≤ maxTimeoutMs ∧ fields.agentId ≠ kInvalidAgentId ∧
    fields.target ≠ [] ∧ fields.operation ≠ []) (text "invalid invocation request fields")
  let (inputs, remaining) ← orError (text "invalid invocation input")
    (ByteReader.each decodeInput (resized request.inputs fields.inputCount.toNat {}) afterFields)
  ensure (remaining = []) (text "trailing invocation request data")
  pure { request with
    agentId := fields.agentId
    parentId := fields.parentId
    kind := ⟨fields.kind⟩
    contextId := fields.contextId
    priority := fields.priority.toInt32
    resources := { request.resources with
      cpuThreads := fields.cpuThreads
      memoryBytes := fields.memoryBytes
      timeout := fields.timeoutMs.toInt64 }
    target := fields.target
    operation := fields.operation
    payload := fields.payload
    inputs }

/-! ### Responses -/

/-- The body of the packet of a response. -/
def writeResponse (response : InvocationResponse) : ByteWriter StdString Unit := do
  ByteWriter.put (bytes64 response.agentId)
  ByteWriter.put (bytes64 response.processId.toUInt64)
  ByteWriter.put (bytes8 response.status.value)
  ByteWriter.put (bytes64 response.contextId)
  writeString protocol response.message
  encodeMetrics response.metrics
  ByteWriter.put (bytes8 (flagByte response.outputAvailable))
  encodeOptionalReference response.outputAvailable response.output

def encodeInvocationResponse (response : InvocationResponse) :
    Except StdString (List UInt8) := do
  ensure (response.agentId ≠ kInvalidAgentId ∧
    response.status.value ≤ InvocationStatus.busy.value ∧
    (response.outputAvailable = true → validReference response.output = true))
    (text "invalid invocation response")
  buildMessage protocol kResponseMessage (writeResponse response)

/-- What stands before the output of a response, as it is read. -/
structure ResponseFields where
  agentId : AgentId
  processId : UInt64
  status : UInt8
  contextId : ContextId
  message : StdString
  metrics : AgentPerformanceMetrics
  outputAvailable : Bool

def readResponseFields (metrics : AgentPerformanceMetrics) : ByteReader ResponseFields := do
  let agentId ← ByteReader.u64
  let processId ← ByteReader.u64
  let status ← ByteReader.u8
  ByteReader.require (status ≤ InvocationStatus.busy.value)
  let contextId ← ByteReader.u64
  let message ← readString
  let metrics ← decodeMetrics metrics
  let outputAvailable ← readFlag
  pure { agentId, processId, status, contextId, message, metrics, outputAvailable }

def decodeInvocationResponse (data : List UInt8) (response : InvocationResponse) :
    Except StdString InvocationResponse := do
  ensure (data.length ≤ kMaxInvocationMessageSize) (text "invalid invocation response buffer")
  let (payloadSize, payload) ← decodeHeader kResponseMessage data
  ensure (payloadSize.toNat = payload.length) (text "invalid invocation response")
  let (fields, afterFields) ← orError (text "invalid invocation response")
    (readResponseFields response.metrics payload)
  let (output, remaining) ← orError (text "invalid invocation output")
    (decodeOptionalReference validReference fields.outputAvailable afterFields)
  ensure (fields.agentId ≠ kInvalidAgentId ∧ remaining = [])
    (text "invalid invocation response fields")
  pure { response with
    agentId := fields.agentId
    processId := fields.processId.toInt64
    status := ⟨fields.status⟩
    contextId := fields.contextId
    message := fields.message
    metrics := fields.metrics
    outputAvailable := fields.outputAvailable
    output }

/-! ### Packets of requests -/

theorem decodeHeader_iff (expectedType : UInt16) (data payload : List UInt8)
    (fits : data.length ≤ kMaxInvocationMessageSize) :
    (∃ payloadSize, decodeHeader expectedType data = .ok (payloadSize, payload) ∧
        payloadSize.toNat = payload.length) ↔
      data = frame protocol expectedType payload := by
  have exact := frame_iff (show protocol.maxMessageSize < 2 ^ 32 by decide)
    ⟨protocol.magic, protocol.version, expectedType, UInt32.ofNat payload.length⟩
    data payload fits
  constructor
  · intro accepted
    obtain ⟨payloadSize, decoded, size⟩ := accepted
    unfold decodeHeader at decoded
    obtain ⟨⟨header, body⟩, found, checked⟩ := (bind_ok_iff _ _ _).mp decoded
    obtain ⟨nothing, supported, last⟩ := (bind_ok_iff _ _ _).mp checked
    obtain ⟨magic, version, messageType⟩ := (ensure_iff _ _ _).mp supported
    rw [orError_iff] at found
    cases last
    have framed := (frame_iff (by decide) header data payload fits).mp
      ⟨found, magic, version, size⟩
    rw [framed.2, messageType]
  · intro framed
    obtain ⟨found, magic, version, size⟩ := exact.mpr ⟨rfl, framed⟩
    refine ⟨UInt32.ofNat payload.length, ?_, size⟩
    unfold decodeHeader
    rw [found]
    apply (bind_ok_iff _ _ _).mpr
    refine ⟨_, rfl, ?_⟩
    exact (bind_ok_iff _ _ _).mpr ⟨(), (ensure_iff _ _ _).mpr ⟨rfl, rfl, rfl⟩, rfl⟩

def inputBytes (input : InvocationInput) : List UInt8 :=
  bytes64 input.producerId ++ referenceBytes input.reference

def inputValid (input : InvocationInput) : Prop :=
  input.producerId ≠ kInvalidAgentId ∧ validReference input.reference = true

def RequestFields.bytes (fields : RequestFields) : List UInt8 :=
  bytes64 fields.agentId ++ bytes64 fields.parentId ++ bytes8 fields.kind ++
    bytes64 fields.contextId ++ bytes32 fields.priority ++ bytes32 fields.cpuThreads ++
    bytes64 fields.memoryBytes ++ bytes64 fields.timeoutMs ++ lengthPrefixed fields.target ++
    lengthPrefixed fields.operation ++ lengthPrefixed fields.payload ++
    bytes32 fields.inputCount

structure RequestFields.Bounded (fields : RequestFields) : Prop where
  target : fields.target.length ≤ kMaxStringSize
  operation : fields.operation.length ≤ kMaxStringSize
  payload : fields.payload.length ≤ kMaxStringSize
  inputCount : fields.inputCount.toNat ≤ kMaxInvocationInputs

theorem readRequestFields_iff (fields : RequestFields) (bytes rest : List UInt8) :
    readRequestFields bytes = some (fields, rest) ↔
      fields.Bounded ∧ bytes = fields.bytes ++ rest := by
  unfold readRequestFields RequestFields.bytes
  simp only [ByteReader.bind_iff, ByteReader.pure_iff, ByteReader.u64_iff, ByteReader.u32_iff,
    ByteReader.u8_iff, readString_iff, ByteReader.require_iff, List.append_assoc]
  constructor
  · rintro ⟨agentId, _, rfl, parentId, _, rfl, kind, _, rfl, contextId, _, rfl, priority, _, rfl,
      cpuThreads, _, rfl, memoryBytes, _, rfl, timeoutMs, _, rfl, target, _, ⟨targetFits, rfl⟩,
      operation, _, ⟨operationFits, rfl⟩, payload, _, ⟨payloadFits, rfl⟩, inputCount, _, rfl,
      nothing, _, ⟨few, rfl⟩, rfl, rfl⟩
    exact ⟨⟨targetFits, operationFits, payloadFits, few⟩, rfl⟩
  · rintro ⟨bounded, rfl⟩
    exact ⟨_, _, rfl, _, _, rfl, _, _, rfl, _, _, rfl, _, _, rfl, _, _, rfl, _, _, rfl, _, _, rfl,
      _, _, ⟨bounded.target, rfl⟩, _, _, ⟨bounded.operation, rfl⟩, _, _, ⟨bounded.payload, rfl⟩,
      _, _, rfl, (), _, ⟨bounded.inputCount, rfl⟩, rfl, rfl⟩

theorem decodeInput_iff (old input : InvocationInput) (bytes rest : List UInt8) :
    decodeInput old bytes = some (input, rest) ↔
      inputValid input ∧ bytes = inputBytes input ++ rest := by
  unfold decodeInput inputBytes
  simp only [ByteReader.bind_iff, ByteReader.pure_iff, ByteReader.u64_iff, ByteReader.require_iff,
    decodeReference_iff, List.append_assoc]
  constructor
  · rintro ⟨producerId, _, rfl, nothing, _, ⟨known, rfl⟩, reference, _, ⟨good, rfl⟩, rfl, rfl⟩
    exact ⟨⟨known, good⟩, rfl⟩
  · rintro ⟨valid, rfl⟩
    exact ⟨_, _, rfl, (), _, ⟨valid.1, rfl⟩, _, _, ⟨valid.2, rfl⟩, rfl, rfl⟩

/-- The fields of a request as they are sent. -/
def requestFields (request : InvocationRequest) : RequestFields where
  agentId := request.agentId
  parentId := request.parentId
  kind := request.kind.value
  contextId := request.contextId
  priority := request.priority.toUInt32
  cpuThreads := request.resources.cpuThreads
  memoryBytes := request.resources.memoryBytes
  timeoutMs := request.resources.timeout.toUInt64
  target := request.target
  operation := request.operation
  payload := request.payload
  inputCount := UInt32.ofNat request.inputs.length

/-- What `writeRequest` appends. -/
def requestBytes (request : InvocationRequest) : List UInt8 :=
  (requestFields request).bytes ++ request.inputs.flatMap inputBytes

/-- What both sides ask of a request. -/
structure ValidRequest (request : InvocationRequest) : Prop where
  agent : request.agentId ≠ kInvalidAgentId
  target : request.target ≠ []
  operation : request.operation ≠ []
  fewInputs : request.inputs.length ≤ kMaxInvocationInputs
  timeout : 0 ≤ request.resources.timeout
  kind : request.kind = .model ∨ request.kind = .tool
  inputs : ∀ input ∈ request.inputs, inputValid input
  targetFits : request.target.length ≤ kMaxStringSize
  operationFits : request.operation.length ≤ kMaxStringSize
  payloadFits : request.payload.length ≤ kMaxStringSize

private theorem encodeInput_emits (input : InvocationInput) (limit : Nat) :
    ByteWriter.Emits limit (encodeInput input) True (inputBytes input) := by
  unfold encodeInput inputBytes
  apply ((ByteWriter.Emits.put _).andThen (encodeReference_emits input.reference limit)).congr
  · rw [and_self]
  · rfl

private theorem writeRequest_emits (request : InvocationRequest) :
    ByteWriter.Emits protocol.maxMessageSize (writeRequest request)
      (request.target.length ≤ kMaxStringSize ∧ request.operation.length ≤ kMaxStringSize ∧
        request.payload.length ≤ kMaxStringSize)
      (requestBytes request) := by
  unfold writeRequest requestBytes RequestFields.bytes requestFields
  apply ((ByteWriter.Emits.put _).andThen ((ByteWriter.Emits.put _).andThen
    ((ByteWriter.Emits.put _).andThen ((ByteWriter.Emits.put _).andThen
      ((ByteWriter.Emits.put _).andThen ((ByteWriter.Emits.put _).andThen
        ((ByteWriter.Emits.put _).andThen ((ByteWriter.Emits.put _).andThen
          ((writeString_emits request.target).andThen
            ((writeString_emits request.operation).andThen
              ((writeString_emits request.payload).andThen
                ((ByteWriter.Emits.put _).andThen
                  (ByteWriter.Emits.each encodeInput (fun _ => True) inputBytes
                    (fun input => encodeInput_emits input _) request.inputs))))))))))))).congr
  · simp only [true_and, implies_true, and_true]
  · simp only [List.append_assoc]

/-- The encoder accepts the valid requests whose packet is not too long. -/
theorem encodeInvocationRequest_iff (request : InvocationRequest) (data : List UInt8) :
    encodeInvocationRequest request = .ok data ↔
      ValidRequest request ∧ data = frame protocol kRequestMessage (requestBytes request) ∧
        data.length ≤ kMaxInvocationMessageSize := by
  unfold encodeInvocationRequest
  simp only [bind_ok_iff, ensure_iff, exists_const]
  rw [buildMessage_iff kRequestMessage _ _ _ _ (writeRequest_emits request)]
  constructor
  · rintro ⟨⟨agent, target, operation, fewInputs, timeout⟩, kind, inputs, strings, packet⟩
    exact ⟨⟨agent, target, operation, fewInputs, timeout, kind, inputs, strings.1, strings.2.1,
      strings.2.2⟩, packet⟩
  · rintro ⟨valid, packet⟩
    exact ⟨⟨valid.agent, valid.target, valid.operation, valid.fewInputs, valid.timeout⟩,
      valid.kind, valid.inputs, ⟨valid.targetFits, valid.operationFits, valid.payloadFits⟩,
      packet⟩

/-- A request that is rebuilt from what was read of it. -/
private theorem rebuilt_request (request : InvocationRequest) :
    ({ agentId := (requestFields request).agentId
       parentId := (requestFields request).parentId
       kind := ⟨(requestFields request).kind⟩
       target := (requestFields request).target
       operation := (requestFields request).operation
       payload := (requestFields request).payload
       contextId := (requestFields request).contextId
       priority := (requestFields request).priority.toInt32
       resources := {
         cpuThreads := (requestFields request).cpuThreads
         memoryBytes := (requestFields request).memoryBytes
         timeout := (requestFields request).timeoutMs.toInt64 }
       inputs := request.inputs } : InvocationRequest) = request := by
  rfl

/-- The decoder accepts the packets of valid requests, whatever its target
held before. -/
theorem decodeInvocationRequest_iff (data : List UInt8) (old request : InvocationRequest) :
    decodeInvocationRequest data old = .ok request ↔
      ValidRequest request ∧ data = frame protocol kRequestMessage (requestBytes request) ∧
        data.length ≤ kMaxInvocationMessageSize := by
  unfold decodeInvocationRequest
  constructor
  · intro accepted
    obtain ⟨nothing, bounded, accepted⟩ := (bind_ok_iff _ _ _).mp accepted
    rw [ensure_iff] at bounded
    obtain ⟨⟨payloadSize, payload⟩, header, accepted⟩ := (bind_ok_iff _ _ _).mp accepted
    obtain ⟨nothing, size, accepted⟩ := (bind_ok_iff _ _ _).mp accepted
    rw [ensure_iff] at size
    obtain ⟨⟨fields, afterFields⟩, read, accepted⟩ := (bind_ok_iff _ _ _).mp accepted
    rw [orError_iff, readRequestFields_iff] at read
    obtain ⟨nothing, checked, accepted⟩ := (bind_ok_iff _ _ _).mp accepted
    rw [ensure_iff] at checked
    obtain ⟨⟨inputs, remaining⟩, readInputs, accepted⟩ := (bind_ok_iff _ _ _).mp accepted
    rw [orError_iff, ByteReader.each_iff decodeInput inputValid inputBytes decodeInput_iff,
      length_resized] at readInputs
    obtain ⟨nothing, ended, accepted⟩ := (bind_ok_iff _ _ _).mp accepted
    rw [ensure_iff] at ended
    cases accepted
    obtain ⟨count, valid, layout⟩ := readInputs
    obtain ⟨lowest, highest, timeout, agent, target, operation⟩ := checked
    have framed := (decodeHeader_iff kRequestMessage data payload bounded).mp
      ⟨payloadSize, header, size⟩
    have sent : UInt32.ofNat inputs.length = fields.inputCount := by
      rw [count]
      exact UInt32.ofNat_toNat
    refine ⟨⟨agent, target, operation, count.trans_le read.1.inputCount, ?_, ?_, valid,
      read.1.target, read.1.operation, read.1.payload⟩, ?_, bounded⟩
    · exact (timeout_iff _).mpr timeout
    · exact (kind_iff ⟨fields.kind⟩).mp ⟨lowest, highest⟩
    · rw [framed, read.2, layout, ended, List.append_nil]
      unfold requestBytes requestFields
      rw [sent]
      rfl
  · rintro ⟨valid, framed, bounded⟩
    obtain ⟨payloadSize, header, size⟩ :=
      (decodeHeader_iff kRequestMessage data _ bounded).mpr framed
    have number : (requestFields request).inputCount.toNat = request.inputs.length := by
      apply UInt32.toNat_ofNat_of_lt'
      exact valid.fewInputs.trans_lt (by decide)
    have read := (readRequestFields_iff (requestFields request) (requestBytes request)
      (request.inputs.flatMap inputBytes)).mpr
        ⟨⟨valid.targetFits, valid.operationFits, valid.payloadFits,
          number.trans_le valid.fewInputs⟩, rfl⟩
    have readInputs := (ByteReader.each_iff decodeInput inputValid inputBytes decodeInput_iff
      (resized old.inputs (requestFields request).inputCount.toNat {}) request.inputs
      (request.inputs.flatMap inputBytes) []).mpr
        ⟨by rw [length_resized, number], valid.inputs, (List.append_nil _).symm⟩
    have kind := (kind_iff request.kind).mpr valid.kind
    simp only [bind_ok_iff, ensure_iff, orError_iff, exists_const]
    exact ⟨bounded, _, header, size, _, read, ⟨kind.1, kind.2,
      (timeout_iff _).mp valid.timeout, valid.agent, valid.target, valid.operation⟩,
      _, readInputs, rfl, congrArg Except.ok (rebuilt_request request)⟩

/-! ### Packets of responses -/

def ResponseFields.bytes (fields : ResponseFields) : List UInt8 :=
  bytes64 fields.agentId ++ bytes64 fields.processId ++ bytes8 fields.status ++
    bytes64 fields.contextId ++ lengthPrefixed fields.message ++ metricsBytes fields.metrics ++
    bytes8 (flagByte fields.outputAvailable)

theorem readResponseFields_iff (old : AgentPerformanceMetrics) (fields : ResponseFields)
    (bytes rest : List UInt8) :
    readResponseFields old bytes = some (fields, rest) ↔
      (fields.status ≤ InvocationStatus.busy.value ∧
        fields.message.length ≤ kMaxStringSize) ∧ bytes = fields.bytes ++ rest := by
  unfold readResponseFields ResponseFields.bytes
  simp only [ByteReader.bind_iff, ByteReader.pure_iff, ByteReader.u64_iff, ByteReader.u8_iff,
    readString_iff, readFlag_iff, decodeMetrics_iff, ByteReader.require_iff, List.append_assoc]
  constructor
  · rintro ⟨agentId, _, rfl, processId, _, rfl, status, _, rfl, nothing, _, ⟨known, rfl⟩,
      contextId, _, rfl, message, _, ⟨fits, rfl⟩, metrics, _, rfl, available, _, rfl, rfl, rfl⟩
    exact ⟨⟨known, fits⟩, rfl⟩
  · rintro ⟨⟨known, fits⟩, rfl⟩
    exact ⟨_, _, rfl, _, _, rfl, _, _, rfl, (), _, ⟨known, rfl⟩, _, _, rfl, _, _, ⟨fits, rfl⟩,
      _, _, rfl, _, _, rfl, rfl, rfl⟩

/-- The fields of a response as they are sent. -/
def responseFields (response : InvocationResponse) : ResponseFields where
  agentId := response.agentId
  processId := response.processId.toUInt64
  status := response.status.value
  contextId := response.contextId
  message := response.message
  metrics := response.metrics
  outputAvailable := response.outputAvailable

/-- What `writeResponse` appends. -/
def responseBytes (response : InvocationResponse) : List UInt8 :=
  (responseFields response).bytes ++
    optionalReferenceBytes response.outputAvailable response.output

/-- What both sides ask of a response. -/
structure ValidResponse (response : InvocationResponse) : Prop where
  agent : response.agentId ≠ kInvalidAgentId
  status : response.status.value ≤ InvocationStatus.busy.value
  output : response.outputAvailable = true → validReference response.output = true
  messageFits : response.message.length ≤ kMaxStringSize

private theorem writeResponse_emits (response : InvocationResponse) :
    ByteWriter.Emits protocol.maxMessageSize (writeResponse response)
      (response.message.length ≤ kMaxStringSize) (responseBytes response) := by
  unfold writeResponse responseBytes ResponseFields.bytes responseFields
  apply ((ByteWriter.Emits.put _).andThen ((ByteWriter.Emits.put _).andThen
    ((ByteWriter.Emits.put _).andThen ((ByteWriter.Emits.put _).andThen
      ((writeString_emits response.message).andThen
        ((encodeMetrics_emits response.metrics _).andThen
          ((ByteWriter.Emits.put _).andThen
            (encodeOptionalReference_emits _ response.output _)))))))).congr
  · simp only [true_and, and_true]
  · simp only [List.append_assoc]

/-- The encoder accepts the valid responses whose packet is not too long. -/
theorem encodeInvocationResponse_iff (response : InvocationResponse) (data : List UInt8) :
    encodeInvocationResponse response = .ok data ↔
      ValidResponse response ∧ data = frame protocol kResponseMessage (responseBytes response) ∧
        data.length ≤ kMaxInvocationMessageSize := by
  unfold encodeInvocationResponse
  simp only [bind_ok_iff, ensure_iff, exists_const]
  rw [buildMessage_iff kResponseMessage _ _ _ _ (writeResponse_emits response)]
  constructor
  · rintro ⟨⟨agent, status, output⟩, fits, packet⟩
    exact ⟨⟨agent, status, output, fits⟩, packet⟩
  · rintro ⟨valid, packet⟩
    exact ⟨⟨valid.agent, valid.status, valid.output⟩, valid.messageFits, packet⟩

/-- The decoder accepts the packets of valid responses, whatever its target
held before; an output that is not available is the default. -/
theorem decodeInvocationResponse_iff (data : List UInt8) (old response : InvocationResponse) :
    decodeInvocationResponse data old = .ok response ↔
      (ValidResponse response ∧ (response.outputAvailable = false → response.output = {})) ∧
        data = frame protocol kResponseMessage (responseBytes response) ∧
          data.length ≤ kMaxInvocationMessageSize := by
  unfold decodeInvocationResponse
  constructor
  · intro accepted
    obtain ⟨nothing, bounded, accepted⟩ := (bind_ok_iff _ _ _).mp accepted
    rw [ensure_iff] at bounded
    obtain ⟨⟨payloadSize, payload⟩, header, accepted⟩ := (bind_ok_iff _ _ _).mp accepted
    obtain ⟨nothing, size, accepted⟩ := (bind_ok_iff _ _ _).mp accepted
    rw [ensure_iff] at size
    obtain ⟨⟨fields, afterFields⟩, read, accepted⟩ := (bind_ok_iff _ _ _).mp accepted
    rw [orError_iff, readResponseFields_iff] at read
    obtain ⟨⟨output, remaining⟩, readOutput, accepted⟩ := (bind_ok_iff _ _ _).mp accepted
    rw [orError_iff, decodeOptionalReference_iff] at readOutput
    obtain ⟨nothing, checked, accepted⟩ := (bind_ok_iff _ _ _).mp accepted
    rw [ensure_iff] at checked
    cases accepted
    obtain ⟨good, default, layout⟩ := readOutput
    have framed := (decodeHeader_iff kResponseMessage data payload bounded).mp
      ⟨payloadSize, header, size⟩
    refine ⟨⟨⟨checked.1, read.1.1, good, read.1.2⟩, default⟩, ?_, bounded⟩
    rw [framed, read.2, layout, checked.2, List.append_nil]
    rfl
  · rintro ⟨⟨valid, default⟩, framed, bounded⟩
    obtain ⟨payloadSize, header, size⟩ :=
      (decodeHeader_iff kResponseMessage data _ bounded).mpr framed
    have read := (readResponseFields_iff old.metrics (responseFields response)
      (responseBytes response) _).mpr ⟨⟨valid.status, valid.messageFits⟩, rfl⟩
    have readOutput := (decodeOptionalReference_iff validReference response.outputAvailable
      response.output _ []).mpr ⟨valid.output, default, (List.append_nil _).symm⟩
    simp only [bind_ok_iff, ensure_iff, orError_iff, exists_const]
    exact ⟨bounded, _, header, size, _, read, _, readOutput, ⟨valid.agent, rfl⟩, rfl⟩

/-! ### The codec is a bijection -/

/-- A response up to an output that is not available. -/
def compared (response : InvocationResponse) : InvocationResponse :=
  if response.outputAvailable then response else { response with output := {} }

theorem compared_frame (response : InvocationResponse) :
    responseBytes (compared response) = responseBytes response ∧
      (ValidResponse (compared response) ↔ ValidResponse response) ∧
        ((compared response).outputAvailable = false → (compared response).output = {}) := by
  unfold compared
  by_cases available : response.outputAvailable = true
  · rw [if_pos available]
    exact ⟨rfl, Iff.rfl, fun missing => absurd available (by rw [missing]; decide)⟩
  · rw [if_neg available]
    have missing : response.outputAvailable = false := Bool.eq_false_iff.mpr available
    refine ⟨?_, ?_, fun _ => rfl⟩
    · unfold responseBytes optionalReferenceBytes responseFields
      change _ ++ (if response.outputAvailable then _ else _) =
        _ ++ (if response.outputAvailable then _ else _)
      rw [if_neg available, if_neg available]
    · constructor
      · intro valid
        exact ⟨valid.agent, valid.status, fun now => absurd now available, valid.messageFits⟩
      · intro valid
        exact ⟨valid.agent, valid.status, fun now => absurd now available, valid.messageFits⟩

/-- The packets a decoder accepts as a value are exactly those the encoder
produces from it, whatever the target held before. -/
theorem invocation_codec :
    (∀ (old request : InvocationRequest) (data : List UInt8),
      decodeInvocationRequest data old = .ok request ↔
        encodeInvocationRequest request = .ok data) ∧
    (∀ (old response : InvocationResponse) (data : List UInt8),
      (decodeInvocationResponse data old = .ok (compared response) ↔
        encodeInvocationResponse response = .ok data) ∧
      (decodeInvocationResponse data old = .ok response → compared response = response)) := by
  constructor
  · intro old request data
    rw [decodeInvocationRequest_iff, encodeInvocationRequest_iff]
  · intro old response data
    obtain ⟨sameBytes, sameValid, default⟩ := compared_frame response
    constructor
    · rw [decodeInvocationResponse_iff, encodeInvocationResponse_iff, sameBytes, sameValid]
      exact ⟨fun packet => ⟨packet.1.1, packet.2⟩, fun packet => ⟨⟨packet.1, default⟩, packet.2⟩⟩
    · intro decoded
      obtain ⟨⟨valid, default⟩, packet⟩ := (decodeInvocationResponse_iff data old response).mp
        decoded
      unfold compared
      by_cases available : response.outputAvailable = true
      · rw [if_pos available]
      · rw [if_neg available, ← default (Bool.eq_false_iff.mpr available)]

end InvocationProtocol

end AgentNucleus.Runtime
