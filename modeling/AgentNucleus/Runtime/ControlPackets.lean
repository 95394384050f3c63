/-
Packets of the control protocol.  The decoder of requests accepts the frames of
readable tasks, and the encoder produces those of them whose task does not
carry both a command and an invocation.  The decoder of responses accepts the
frames of responses under any operation.
-/

import AgentNucleus.Runtime.ControlProtocol

set_option autoImplicit false

namespace AgentNucleus.Runtime.ControlProtocol

open AgentNucleus.Library

/-! ### Headers -/

theorem operation_iff (value : UInt16) (operation : ControlOperation) :
    named ControlOperation.all ControlOperation.code value = some operation ↔
      value = operation.code := by
  apply named_iff
  · intro item
    cases item <;> decide
  · decide

theorem decodeHeader_iff (data payload : List UInt8) (operation : ControlOperation)
    (fits : data.length ≤ kMaxControlMessageSize) :
    (∃ payloadSize, decodeHeader data = .ok (operation, payloadSize, payload) ∧
        payloadSize.toNat = payload.length) ↔
      data = frame protocol operation.code payload := by
  have exact := frame_iff (show protocol.maxMessageSize < 2 ^ 32 by decide)
    ⟨protocol.magic, protocol.version, operation.code, UInt32.ofNat payload.length⟩
    data payload fits
  constructor
  · intro accepted
    obtain ⟨payloadSize, decoded, size⟩ := accepted
    unfold decodeHeader at decoded
    obtain ⟨⟨header, body⟩, found, checked⟩ := (bind_ok_iff _ _ _).mp decoded
    obtain ⟨nothing, supported, named⟩ := (bind_ok_iff _ _ _).mp checked
    obtain ⟨magic, version⟩ := (ensure_iff _ _ _).mp supported
    obtain ⟨known, operationOk, last⟩ := (bind_ok_iff _ _ _).mp named
    rw [orError_iff, operation_iff] at operationOk
    rw [orError_iff] at found
    cases last
    have framed := (frame_iff (by decide) header data payload fits).mp
      ⟨found, magic, version, size⟩
    rw [framed.2, operationOk]
  · intro framed
    obtain ⟨found, magic, version, size⟩ := exact.mpr ⟨rfl, framed⟩
    refine ⟨UInt32.ofNat payload.length, ?_, size⟩
    have known := (operation_iff operation.code operation).mpr rfl
    unfold decodeHeader
    simp only [bind_ok_iff, ensure_iff, orError_iff, exists_const]
    exact ⟨_, found, ⟨rfl, rfl⟩, operation, known, rfl⟩

/-! ### Tasks -/

def invocationBytes : Option InvocationSpec → List UInt8
  | none => bytes8 (flagByte false)
  | some invocation =>
      bytes8 (flagByte true) ++ bytes8 invocation.kind.value ++ bytes64 invocation.contextId ++
        lengthPrefixed invocation.target ++ lengthPrefixed invocation.operation ++
        lengthPrefixed invocation.payload

/-- An invocation that can be read. -/
structure InvocationReadable (invocation : InvocationSpec) : Prop where
  valid : invocationValid invocation
  target : invocation.target.length ≤ kMaxStringSize
  operation : invocation.operation.length ≤ kMaxStringSize
  payload : invocation.payload.length ≤ kMaxStringSize

theorem decodeInvocation_iff (invocation : Option InvocationSpec) (bytes rest : List UInt8) :
    decodeInvocation bytes = some (invocation, rest) ↔
      (∀ present ∈ invocation, InvocationReadable present) ∧
        bytes = invocationBytes invocation ++ rest := by
  unfold decodeInvocation
  rw [ByteReader.bind_iff]
  constructor
  · rintro ⟨hasInvocation, middle, flag, read⟩
    rw [readFlag_iff] at flag
    cases hasInvocation with
    | false =>
        rw [if_neg Bool.false_ne_true, ByteReader.pure_iff] at read
        obtain ⟨rfl, rfl⟩ := read
        exact ⟨nofun, flag⟩
    | true =>
        rw [if_pos rfl] at read
        simp only [ByteReader.bind_iff, ByteReader.pure_iff, ByteReader.u8_iff, ByteReader.u64_iff,
          readString_iff, ByteReader.require_iff] at read
        obtain ⟨kind, _, rfl, _, _, ⟨known, rfl⟩, contextId, _, rfl, target, _, ⟨targetFits, rfl⟩,
          operation, _, ⟨operationFits, rfl⟩, payload, _, ⟨payloadFits, rfl⟩, _, _,
          ⟨filled, rfl⟩, rfl, rfl⟩ := read
        refine ⟨?_, ?_⟩
        · intro present same
          cases same
          exact ⟨⟨filled.1, filled.2, (kind_iff ⟨kind⟩).mp known⟩, targetFits, operationFits,
            payloadFits⟩
        · rw [flag]
          unfold invocationBytes
          simp only [List.append_assoc]
  · rintro ⟨readable, rfl⟩
    cases invocation with
    | none =>
        refine ⟨false, rest, (readFlag_iff _ _ _).mpr rfl, ?_⟩
        rw [if_neg Bool.false_ne_true, ByteReader.pure_iff]
        exact ⟨rfl, rfl⟩
    | some present =>
        obtain ⟨valid, targetFits, operationFits, payloadFits⟩ := readable present rfl
        have known := (kind_iff present.kind).mpr valid.2.2
        unfold invocationBytes
        simp only [List.append_assoc]
        refine ⟨true, _, (readFlag_iff _ _ _).mpr rfl, ?_⟩
        rw [if_pos rfl]
        simp only [ByteReader.bind_iff, ByteReader.pure_iff, ByteReader.u8_iff, ByteReader.u64_iff,
          readString_iff, ByteReader.require_iff]
        exact ⟨_, _, rfl, (), _, ⟨known, rfl⟩, _, _, rfl, _, _, ⟨targetFits, rfl⟩, _, _,
          ⟨operationFits, rfl⟩, _, _, ⟨payloadFits, rfl⟩, (), _,
          ⟨⟨valid.1, valid.2.1⟩, rfl⟩, rfl, rfl⟩

theorem encodeInvocation_emits (invocation : Option InvocationSpec) :
    ByteWriter.Emits protocol.maxMessageSize (encodeInvocation invocation)
      (∀ present ∈ invocation, present.target.length ≤ kMaxStringSize ∧
        present.operation.length ≤ kMaxStringSize ∧ present.payload.length ≤ kMaxStringSize)
      (invocationBytes invocation) := by
  cases invocation with
  | none =>
      apply (ByteWriter.Emits.put (bytes8 (flagByte false))).congr
      · exact ⟨fun _ => nofun, fun _ => trivial⟩
      · rfl
  | some present =>
      apply ((ByteWriter.Emits.put (bytes8 (flagByte true))).andThen
        ((ByteWriter.Emits.put (bytes8 present.kind.value)).andThen
          ((ByteWriter.Emits.put (bytes64 present.contextId)).andThen
            ((writeString_emits present.target).andThen
              ((writeString_emits present.operation).andThen
                (writeString_emits present.payload)))))).congr
      · simp only [true_and, Option.mem_def, Option.some.injEq, forall_eq']
      · unfold invocationBytes
        simp only [List.append_assoc]

/-- A collection behind its size. -/
def collectionBytes {α : Type} (layout : α → List UInt8) (items : List α) : List UInt8 :=
  bytes32 (UInt32.ofNat items.length) ++ items.flatMap layout

theorem readCollection_iff {α : Type} (read : α → ByteReader α) (valid : α → Prop)
    (layout : α → List UInt8)
    (exact : ∀ old value bytes rest, read old bytes = some (value, rest) ↔
      valid value ∧ bytes = layout value ++ rest)
    (olds values : List α) (filler : α) (bytes rest : List UInt8) :
    readCollection read olds filler bytes = some (values, rest) ↔
      (values.length ≤ kMaxCollectionElements ∧ ∀ value ∈ values, valid value) ∧
        bytes = collectionBytes layout values ++ rest := by
  unfold readCollection collectionBytes
  simp only [ByteReader.bind_iff, ByteReader.u32_iff, ByteReader.require_iff,
    ByteReader.each_iff read valid layout exact, length_resized]
  constructor
  · rintro ⟨count, _, rfl, _, _, ⟨few, rfl⟩, length, allValid, rfl⟩
    have sent : UInt32.ofNat values.length = count := by
      rw [length]
      exact UInt32.ofNat_toNat
    rw [sent, List.append_assoc]
    exact ⟨⟨length.trans_le few, allValid⟩, rfl⟩
  · rintro ⟨⟨few, allValid⟩, rfl⟩
    have number : (UInt32.ofNat values.length).toNat = values.length := by
      apply UInt32.toNat_ofNat_of_lt'
      exact few.trans_lt (by decide)
    refine ⟨UInt32.ofNat values.length, _, List.append_assoc _ _ _, (), _, ⟨?_, rfl⟩, ?_,
      allValid, rfl⟩
    · exact number.trans_le few
    · exact number.symm

def taskBytes (task : AgentTaskSpec) : List UInt8 :=
  bytes64 task.id ++ bytes64 task.parentId ++ bytes32 task.priority.toUInt32 ++
    bytes32 task.resources.cpuThreads ++ bytes64 task.resources.memoryBytes ++
    bytes64 task.resources.timeout.toUInt64 ++ bytes32 task.retryLimit ++
    lengthPrefixed task.name ++ lengthPrefixed task.kind ++
    collectionBytes bytes64 task.dependencies ++ collectionBytes lengthPrefixed task.command ++
    invocationBytes task.invocation

/-- A task that can be read. -/
structure TaskReadable (task : AgentTaskSpec) : Prop where
  timeout : 0 ≤ task.resources.timeout
  name : task.name.length ≤ kMaxStringSize
  kind : task.kind.length ≤ kMaxStringSize
  dependencies : task.dependencies.length ≤ kMaxCollectionElements
  command : task.command.length ≤ kMaxCollectionElements
  arguments : ∀ argument ∈ task.command, argument.length ≤ kMaxStringSize
  invocation : ∀ invocation ∈ task.invocation, InvocationReadable invocation

/-- A task does not carry both a command and an invocation. -/
def Exclusive (task : AgentTaskSpec) : Prop :=
  task.command = [] ∨ task.invocation = none

theorem decodeTask_iff (old task : AgentTaskSpec) (bytes rest : List UInt8) :
    decodeTask old bytes = some (task, rest) ↔
      TaskReadable task ∧ bytes = taskBytes task ++ rest := by
  have dependenciesRead := readCollection_iff (fun _ => ByteReader.u64) (fun _ => True) bytes64
    (fun _ value bytes rest => by rw [ByteReader.u64_iff, true_and])
  have commandRead := readCollection_iff (fun _ => readString)
    (fun argument => argument.length ≤ kMaxStringSize) lengthPrefixed
    (fun _ value bytes rest => readString_iff bytes value rest)
  unfold decodeTask taskBytes
  simp only [ByteReader.bind_iff, ByteReader.pure_iff, ByteReader.u64_iff, ByteReader.u32_iff,
    readString_iff, ByteReader.require_iff, dependenciesRead, commandRead, decodeInvocation_iff,
    List.append_assoc]
  constructor
  · rintro ⟨id, _, rfl, parentId, _, rfl, priority, _, rfl, cpuThreads, _, rfl, memoryBytes, _,
      rfl, timeoutMs, _, rfl, retryLimit, _, rfl, name, _, ⟨nameFits, rfl⟩, kind, _,
      ⟨kindFits, rfl⟩, _, _, ⟨timeoutFits, rfl⟩, dependencies, _, ⟨few, rfl⟩, command, _,
      ⟨arguments, rfl⟩, invocation, _, ⟨readable, rfl⟩, rfl, rfl⟩
    exact ⟨⟨(timeout_iff _).mpr timeoutFits, nameFits, kindFits, few.1, arguments.1, arguments.2,
      readable⟩, rfl⟩
  · rintro ⟨readable, rfl⟩
    exact ⟨_, _, rfl, _, _, rfl, _, _, rfl, _, _, rfl, _, _, rfl, _, _, rfl, _, _, rfl, _, _,
      ⟨readable.name, rfl⟩, _, _, ⟨readable.kind, rfl⟩, (), _,
      ⟨(timeout_iff _).mp readable.timeout, rfl⟩, _, _,
      ⟨⟨readable.dependencies, fun _ _ => trivial⟩, rfl⟩, _, _,
      ⟨⟨readable.command, readable.arguments⟩, rfl⟩, _, _, ⟨readable.invocation, rfl⟩, rfl, rfl⟩

theorem writeCollection_emits {α : Type} (write : α → ByteWriter StdString Unit)
    (good : α → Prop) (layout : α → List UInt8) (limit : Nat)
    (emits : ∀ item, ByteWriter.Emits limit (write item) (good item) (layout item))
    (items : List α) :
    ByteWriter.Emits limit (writeCollection write items) (∀ item ∈ items, good item)
      (collectionBytes layout items) := by
  unfold writeCollection
  apply ((ByteWriter.Emits.put _).andThen
    (ByteWriter.Emits.each write good layout emits items)).congr
  · rw [true_and]
  · rfl

private theorem readable_exclusive_iff (task : AgentTaskSpec) :
    TaskReadable task ∧ Exclusive task ↔
      (0 ≤ task.resources.timeout ∧ Exclusive task ∧
        ∀ invocation ∈ task.invocation, invocationValid invocation) ∧
      task.name.length ≤ kMaxStringSize ∧ task.kind.length ≤ kMaxStringSize ∧
      (task.dependencies.length ≤ kMaxCollectionElements ∧
        task.command.length ≤ kMaxCollectionElements) ∧
      (∀ argument ∈ task.command, argument.length ≤ kMaxStringSize) ∧
      ∀ invocation ∈ task.invocation, invocation.target.length ≤ kMaxStringSize ∧
        invocation.operation.length ≤ kMaxStringSize ∧
        invocation.payload.length ≤ kMaxStringSize := by
  constructor
  · rintro ⟨readable, exclusive⟩
    refine ⟨⟨readable.timeout, exclusive, ?_⟩, readable.name, readable.kind,
      ⟨readable.dependencies, readable.command⟩, readable.arguments, ?_⟩
    · exact fun invocation present => (readable.invocation invocation present).valid
    · intro invocation present
      have fits := readable.invocation invocation present
      exact ⟨fits.target, fits.operation, fits.payload⟩
  · rintro ⟨⟨timeout, exclusive, valid⟩, name, kind, few, arguments, fits⟩
    refine ⟨⟨timeout, name, kind, few.1, few.2, arguments, ?_⟩, exclusive⟩
    intro invocation present
    obtain ⟨target, operation, payload⟩ := fits invocation present
    exact ⟨valid invocation present, target, operation, payload⟩

/-- The encoder writes the readable tasks that are exclusive. -/
theorem encodeTask_emits (task : AgentTaskSpec) :
    ByteWriter.Emits protocol.maxMessageSize (encodeTask task) (TaskReadable task ∧ Exclusive task)
      (taskBytes task) := by
  unfold encodeTask taskBytes
  apply ((ByteWriter.Emits.require _ _).andThen ((ByteWriter.Emits.put _).andThen
    ((ByteWriter.Emits.put _).andThen ((ByteWriter.Emits.put _).andThen
      ((ByteWriter.Emits.put _).andThen ((ByteWriter.Emits.put _).andThen
        ((ByteWriter.Emits.put _).andThen ((ByteWriter.Emits.put _).andThen
          ((writeString_emits task.name).andThen ((writeString_emits task.kind).andThen
            ((ByteWriter.Emits.require _ _).andThen
              ((writeCollection_emits _ (fun _ => True) bytes64 _
                (fun _ => ByteWriter.Emits.put _) task.dependencies).andThen
                ((writeCollection_emits _ (fun argument => argument.length ≤ kMaxStringSize)
                  lengthPrefixed _ writeString_emits task.command).andThen
                    (encodeInvocation_emits task.invocation)))))))))))))).congr
  · rw [readable_exclusive_iff]
    simp only [true_and, implies_true]
    rfl
  · simp only [List.append_assoc, List.nil_append]

/-! ### Agents -/

def agentBytes (agent : ControlAgentInfo) : List UInt8 :=
  bytes64 agent.id ++ bytes64 agent.parentId ++ bytes8 agent.state.code ++
    bytes64 agent.processId.toUInt64 ++ bytes32 agent.unresolvedDependencies ++
    bytes32 agent.retryCount ++ bytes64 agent.contextId ++ metricsBytes agent.metrics ++
    lengthPrefixed agent.name ++ lengthPrefixed agent.kind ++ lengthPrefixed agent.error

structure AgentFits (agent : ControlAgentInfo) : Prop where
  name : agent.name.length ≤ kMaxStringSize
  kind : agent.kind.length ≤ kMaxStringSize
  error : agent.error.length ≤ kMaxStringSize

private theorem stateOf_iff (value : UInt8) (state : AgentState) (bytes rest : List UInt8) :
    stateOf value bytes = some (state, rest) ↔ value = state.code ∧ bytes = rest := by
  have known : named AgentState.all AgentState.code value = some state ↔ value = state.code := by
    apply named_iff
    · intro item
      cases item <;> decide
    · decide
  unfold stateOf
  rw [← known]
  cases named AgentState.all AgentState.code value with
  | none => exact ⟨nofun, fun both => nomatch both.1⟩
  | some other =>
      change some (other, bytes) = some (state, rest) ↔ some other = some state ∧ bytes = rest
      rw [Option.some.injEq, Option.some.injEq, Prod.mk.injEq]

theorem decodeAgent_iff (old agent : ControlAgentInfo) (bytes rest : List UInt8) :
    decodeAgent old bytes = some (agent, rest) ↔
      AgentFits agent ∧ bytes = agentBytes agent ++ rest := by
  unfold decodeAgent agentBytes
  simp only [ByteReader.bind_iff, ByteReader.pure_iff, ByteReader.u64_iff, ByteReader.u32_iff,
    ByteReader.u8_iff, readString_iff, decodeMetrics_iff, stateOf_iff, List.append_assoc]
  constructor
  · rintro ⟨id, _, rfl, parentId, _, rfl, stateValue, _, rfl, processId, _, rfl, unresolved, _,
      rfl, retryCount, _, rfl, contextId, _, rfl, metrics, _, rfl, name, _, ⟨nameFits, rfl⟩,
      kind, _, ⟨kindFits, rfl⟩, error, _, ⟨errorFits, rfl⟩, state, _, ⟨rfl, rfl⟩, rfl, rfl⟩
    exact ⟨⟨nameFits, kindFits, errorFits⟩, rfl⟩
  · rintro ⟨fits, rfl⟩
    exact ⟨_, _, rfl, _, _, rfl, _, _, rfl, _, _, rfl, _, _, rfl, _, _, rfl, _, _, rfl, _, _,
      rfl, _, _, ⟨fits.name, rfl⟩, _, _, ⟨fits.kind, rfl⟩, _, _, ⟨fits.error, rfl⟩, _, _,
      ⟨rfl, rfl⟩, rfl, rfl⟩

theorem encodeAgent_emits (agent : ControlAgentInfo) :
    ByteWriter.Emits protocol.maxMessageSize (encodeAgent agent) (AgentFits agent)
      (agentBytes agent) := by
  unfold encodeAgent agentBytes
  apply ((ByteWriter.Emits.put _).andThen ((ByteWriter.Emits.put _).andThen
    ((ByteWriter.Emits.put _).andThen ((ByteWriter.Emits.put _).andThen
      ((ByteWriter.Emits.put _).andThen ((ByteWriter.Emits.put _).andThen
        ((ByteWriter.Emits.put _).andThen ((encodeMetrics_emits agent.metrics _).andThen
          ((writeString_emits agent.name).andThen ((writeString_emits agent.kind).andThen
            (writeString_emits agent.error))))))))))).congr
  · simp only [true_and]
    exact ⟨fun fits => ⟨fits.1, fits.2.1, fits.2.2⟩,
      fun fits => ⟨fits.name, fits.kind, fits.error⟩⟩
  · simp only [List.append_assoc]

/-! ### Requests -/

def requestBytes (request : ControlRequest) : List UInt8 :=
  bytes64 request.targetId ++ taskBytes request.task

theorem encodeControlRequest_iff (request : ControlRequest) (data : List UInt8) :
    encodeControlRequest request = .ok data ↔
      (TaskReadable request.task ∧ Exclusive request.task) ∧
        data = frame protocol request.operation.code (requestBytes request) ∧
          data.length ≤ kMaxControlMessageSize := by
  have emits : ByteWriter.Emits protocol.maxMessageSize (writeRequest request)
      (TaskReadable request.task ∧ Exclusive request.task) (requestBytes request) := by
    unfold writeRequest requestBytes
    apply ((ByteWriter.Emits.put _).andThen (encodeTask_emits request.task)).congr
    · rw [true_and]
    · rfl
  unfold encodeControlRequest
  exact buildMessage_iff request.operation.code _ _ _ _ emits

theorem readRequest_iff (old : ControlRequest) (targetId : AgentId) (task : AgentTaskSpec)
    (bytes rest : List UInt8) :
    readRequest old bytes = some ((targetId, task), rest) ↔
      TaskReadable task ∧ bytes = bytes64 targetId ++ taskBytes task ++ rest := by
  unfold readRequest
  simp only [ByteReader.bind_iff, ByteReader.pure_iff, ByteReader.u64_iff, decodeTask_iff,
    List.append_assoc]
  constructor
  · rintro ⟨id, _, rfl, other, _, ⟨readable, rfl⟩, same, rfl⟩
    cases same
    exact ⟨readable, rfl⟩
  · rintro ⟨readable, rfl⟩
    exact ⟨_, _, rfl, _, _, ⟨readable, rfl⟩, rfl, rfl⟩

/-- The decoder accepts the packets of readable tasks, whatever its target held
before. -/
theorem decodeControlRequest_iff (data : List UInt8) (old request : ControlRequest) :
    decodeControlRequest data old = .ok request ↔
      TaskReadable request.task ∧
        data = frame protocol request.operation.code (requestBytes request) ∧
          data.length ≤ kMaxControlMessageSize := by
  unfold decodeControlRequest
  constructor
  · intro accepted
    obtain ⟨nothing, bounded, accepted⟩ := (bind_ok_iff _ _ _).mp accepted
    rw [ensure_iff] at bounded
    obtain ⟨⟨operation, payloadSize, payload⟩, header, accepted⟩ :=
      (bind_ok_iff _ _ _).mp accepted
    obtain ⟨nothing, size, accepted⟩ := (bind_ok_iff _ _ _).mp accepted
    rw [ensure_iff] at size
    obtain ⟨⟨⟨targetId, task⟩, remaining⟩, read, accepted⟩ := (bind_ok_iff _ _ _).mp accepted
    rw [orError_iff, readRequest_iff] at read
    obtain ⟨nothing, ended, accepted⟩ := (bind_ok_iff _ _ _).mp accepted
    rw [ensure_iff] at ended
    cases accepted
    have framed := (decodeHeader_iff data payload operation bounded).mp
      ⟨payloadSize, header, size⟩
    refine ⟨read.1, ?_, bounded⟩
    rw [framed, read.2, ended, List.append_nil]
    rfl
  · rintro ⟨readable, framed, bounded⟩
    obtain ⟨payloadSize, header, size⟩ :=
      (decodeHeader_iff data _ request.operation bounded).mpr framed
    have read := (readRequest_iff old request.targetId request.task (requestBytes request)
      []).mpr ⟨readable, (List.append_nil _).symm⟩
    simp only [bind_ok_iff, ensure_iff, orError_iff, exists_const]
    exact ⟨bounded, _, header, size, _, read, rfl, rfl⟩

/-! ### Responses -/

def responseBytes (response : ControlResponse) : List UInt8 :=
  bytes8 (flagByte response.success) ++ lengthPrefixed response.message ++
    collectionBytes agentBytes response.agents ++ bytes8 (flagByte response.resultAvailable) ++
    optionalReferenceBytes response.resultAvailable response.result

structure ResponseFits (response : ControlResponse) : Prop where
  message : response.message.length ≤ kMaxStringSize
  few : response.agents.length ≤ kMaxCollectionElements
  agents : ∀ agent ∈ response.agents, AgentFits agent

theorem encodeControlResponse_iff (response : ControlResponse) (data : List UInt8) :
    encodeControlResponse response = .ok data ↔
      ResponseFits response ∧
        data = frame protocol ControlOperation.ping.code (responseBytes response) ∧
          data.length ≤ kMaxControlMessageSize := by
  have emits : ByteWriter.Emits protocol.maxMessageSize (writeResponse response)
      (response.message.length ≤ kMaxStringSize ∧ ∀ agent ∈ response.agents, AgentFits agent)
      (responseBytes response) := by
    unfold writeResponse responseBytes
    apply ((ByteWriter.Emits.put _).andThen ((writeString_emits response.message).andThen
      ((writeCollection_emits _ AgentFits agentBytes _ encodeAgent_emits response.agents).andThen
        ((ByteWriter.Emits.put _).andThen (encodeOptionalReference_emits _ _ _))))).congr
    · simp only [true_and, and_true]
    · simp only [List.append_assoc]
  unfold encodeControlResponse
  simp only [bind_ok_iff, ensure_iff, exists_const]
  rw [buildMessage_iff ControlOperation.ping.code _ _ _ _ emits]
  constructor
  · rintro ⟨few, fits, packet⟩
    exact ⟨⟨fits.1, few, fits.2⟩, packet⟩
  · rintro ⟨fits, packet⟩
    exact ⟨fits.few, ⟨fits.message, fits.agents⟩, packet⟩

theorem readResponseFields_iff (fields : ResponseFields) (bytes rest : List UInt8) :
    readResponseFields bytes = some (fields, rest) ↔
      (fields.message.length ≤ kMaxStringSize ∧ fields.count.toNat ≤ kMaxCollectionElements) ∧
        bytes = bytes8 (flagByte fields.success) ++ lengthPrefixed fields.message ++
          bytes32 fields.count ++ rest := by
  unfold readResponseFields
  simp only [ByteReader.bind_iff, ByteReader.pure_iff, ByteReader.u32_iff, readString_iff,
    readFlag_iff, ByteReader.require_iff, List.append_assoc]
  constructor
  · rintro ⟨success, _, rfl, message, _, ⟨fits, rfl⟩, count, _, rfl, _, _, ⟨few, rfl⟩, rfl, rfl⟩
    exact ⟨⟨fits, few⟩, rfl⟩
  · rintro ⟨⟨fits, few⟩, rfl⟩
    exact ⟨_, _, rfl, _, _, ⟨fits, rfl⟩, _, _, rfl, (), _, ⟨few, rfl⟩, rfl, rfl⟩

/-- The decoder accepts the packets of responses under any operation, whatever
its target held before; a result that is not available is the default. -/
theorem decodeControlResponse_iff (data : List UInt8) (old response : ControlResponse) :
    decodeControlResponse data old = .ok response ↔
      (ResponseFits response ∧
        (response.resultAvailable = true → insideRegion response.result = true) ∧
          (response.resultAvailable = false → response.result = {})) ∧
        (∃ operation : ControlOperation,
          data = frame protocol operation.code (responseBytes response)) ∧
            data.length ≤ kMaxControlMessageSize := by
  unfold decodeControlResponse
  constructor
  · intro accepted
    obtain ⟨nothing, bounded, accepted⟩ := (bind_ok_iff _ _ _).mp accepted
    rw [ensure_iff] at bounded
    obtain ⟨⟨operation, payloadSize, payload⟩, header, accepted⟩ :=
      (bind_ok_iff _ _ _).mp accepted
    obtain ⟨nothing, size, accepted⟩ := (bind_ok_iff _ _ _).mp accepted
    rw [ensure_iff] at size
    obtain ⟨⟨fields, afterFields⟩, read, accepted⟩ := (bind_ok_iff _ _ _).mp accepted
    rw [orError_iff, readResponseFields_iff] at read
    obtain ⟨⟨agents, afterAgents⟩, readAgents, accepted⟩ := (bind_ok_iff _ _ _).mp accepted
    rw [orError_iff, ByteReader.each_iff decodeAgent AgentFits agentBytes decodeAgent_iff,
      length_resized] at readAgents
    obtain ⟨⟨available, afterFlag⟩, flag, accepted⟩ := (bind_ok_iff _ _ _).mp accepted
    rw [orError_iff, readFlag_iff] at flag
    obtain ⟨⟨result, remaining⟩, readResult, accepted⟩ := (bind_ok_iff _ _ _).mp accepted
    rw [orError_iff, decodeOptionalReference_iff] at readResult
    obtain ⟨nothing, ended, accepted⟩ := (bind_ok_iff _ _ _).mp accepted
    rw [ensure_iff] at ended
    cases accepted
    obtain ⟨count, agentsFit, agentsLayout⟩ := readAgents
    obtain ⟨inside, default, resultLayout⟩ := readResult
    have framed := (decodeHeader_iff data payload operation bounded).mp
      ⟨payloadSize, header, size⟩
    have sent : UInt32.ofNat agents.length = fields.count := by
      rw [count]
      exact UInt32.ofNat_toNat
    refine ⟨⟨⟨read.1.1, count.trans_le read.1.2, agentsFit⟩, inside, default⟩,
      ⟨operation, ?_⟩, bounded⟩
    rw [framed, read.2, agentsLayout, flag, resultLayout, ended]
    unfold responseBytes collectionBytes
    rw [sent]
    simp only [List.append_assoc, List.append_nil]
  · rintro ⟨⟨fits, inside, default⟩, ⟨operation, framed⟩, bounded⟩
    obtain ⟨payloadSize, header, size⟩ :=
      (decodeHeader_iff data _ operation bounded).mpr framed
    have number : (UInt32.ofNat response.agents.length).toNat = response.agents.length := by
      apply UInt32.toNat_ofNat_of_lt'
      exact fits.few.trans_lt (by decide)
    have layout : responseBytes response =
        bytes8 (flagByte response.success) ++ lengthPrefixed response.message ++
          bytes32 (UInt32.ofNat response.agents.length) ++
            (response.agents.flatMap agentBytes ++
              (bytes8 (flagByte response.resultAvailable) ++
                (optionalReferenceBytes response.resultAvailable response.result ++ []))) := by
      unfold responseBytes collectionBytes
      simp only [List.append_assoc, List.append_nil]
    have read := (readResponseFields_iff
      ⟨response.success, response.message, UInt32.ofNat response.agents.length⟩ _ _).mpr
        ⟨⟨fits.message, number.trans_le fits.few⟩, layout⟩
    have readAgents := (ByteReader.each_iff decodeAgent AgentFits agentBytes decodeAgent_iff
      (resized old.agents (UInt32.ofNat response.agents.length).toNat {}) response.agents _
      (bytes8 (flagByte response.resultAvailable) ++
        (optionalReferenceBytes response.resultAvailable response.result ++ []))).mpr
        ⟨by rw [length_resized, number], fits.agents, rfl⟩
    have flag := (readFlag_iff response.resultAvailable _
      (optionalReferenceBytes response.resultAvailable response.result ++ [])).mpr rfl
    have readResult := (decodeOptionalReference_iff insideRegion response.resultAvailable
      response.result _ []).mpr ⟨inside, default, rfl⟩
    simp only [bind_ok_iff, ensure_iff, orError_iff, exists_const]
    exact ⟨bounded, _, header, size, _, read, _, readAgents, _, flag, _, readResult, rfl, rfl⟩

end AgentNucleus.Runtime.ControlProtocol
