/-
The four decoders with the position of their `Reader`, which both protocols define
alike.  They answer like the decoders on lists of bytes, and on the way no position
lies behind the buffer, no byte is read there, and no collection has more rounds than
its protocol allows.
-/

import AgentNucleus.Library.Scanner
import AgentNucleus.Runtime.ControlPackets
import AgentNucleus.Runtime.InvocationProtocol

set_option autoImplicit false

namespace AgentNucleus.Runtime

open AgentNucleus.Library

namespace Positioned

/-- `Reader::string`. -/
def readString : Scanner Unit StdString := Scanner.block kMaxStringSize

def readHeader : Scanner Unit Header := do
  let magic ← Scanner.u32
  let version ← Scanner.u16
  let messageType ← Scanner.u16
  let payloadSize ← Scanner.u32
  pure { magic, version, messageType, payloadSize }

def readFlag : Scanner Unit Bool := do
  let value ← Scanner.u8
  Scanner.require (value ≤ 1) ()
  pure (value == 1)

def decodeReference (accepted : SharedBufferRef → Bool) (reference : SharedBufferRef) :
    Scanner Unit SharedBufferRef := do
  let regionId ← Scanner.u64
  let regionSize ← Scanner.u64
  let offset ← Scanner.u64
  let length ← Scanner.u64
  let dataType ← Scanner.u32
  let flags ← Scanner.u32
  let version ← Scanner.u64
  let read := { reference with
    regionId, regionSize, offset, length, dataType, flags, version }
  Scanner.require (accepted read = true) ()
  pure read

def decodeOptionalReference (accepted : SharedBufferRef → Bool) (available : Bool) :
    Scanner Unit SharedBufferRef :=
  if available then decodeReference accepted {} else pure {}

def decodeMetrics (metrics : AgentPerformanceMetrics) :
    Scanner Unit AgentPerformanceMetrics := do
  let queueTimeUs ← Scanner.u64
  let executionTimeUs ← Scanner.u64
  let inputTokens ← Scanner.u64
  let outputTokens ← Scanner.u64
  let reusedTokens ← Scanner.u64
  let cacheBytes ← Scanner.u64
  let cacheHit ← readFlag
  pure { metrics with
    queueTimeUs, executionTimeUs, inputTokens, outputTokens, reusedTokens, cacheBytes, cacheHit }

/-! ### Control messages -/

def decodeControlHeader : Scanner StdString (ControlOperation × UInt32) := do
  let header ← readHeader.orError (text "truncated control header")
  Scanner.require (header.magic = ControlProtocol.protocol.magic ∧
    header.version = ControlProtocol.protocol.version) (text "unsupported control protocol")
  let operation ← Scanner.ofOption (text "unknown control operation")
    (named ControlOperation.all ControlOperation.code header.messageType)
  pure (operation, header.payloadSize)

def decodeInvocation : Scanner Unit (Option InvocationSpec) := do
  let hasInvocation ← readFlag
  if hasInvocation then
    let kind ← Scanner.u8
    Scanner.require (InvocationKind.model.value ≤ kind ∧ kind ≤ InvocationKind.tool.value) ()
    let contextId ← Scanner.u64
    let target ← readString
    let operation ← readString
    let payload ← readString
    Scanner.require (target ≠ [] ∧ operation ≠ []) ()
    pure (some { kind := ⟨kind⟩, target, operation, payload, contextId })
  else
    pure none

def readCollection {α : Type} (scan : α → Scanner Unit α) (old : List α) (filler : α) :
    Scanner Unit (List α) := do
  let count ← Scanner.u32
  Scanner.require (count.toNat ≤ kMaxCollectionElements) ()
  Scanner.each scan 0 (resized old count.toNat filler)

def decodeTask (task : AgentTaskSpec) : Scanner Unit AgentTaskSpec := do
  let id ← Scanner.u64
  let parentId ← Scanner.u64
  let priority ← Scanner.u32
  let cpuThreads ← Scanner.u32
  let memoryBytes ← Scanner.u64
  let timeoutMs ← Scanner.u64
  let retryLimit ← Scanner.u32
  let name ← readString
  let kind ← readString
  Scanner.require (timeoutMs ≤ maxTimeoutMs) ()
  let dependencies ← readCollection (fun _ => Scanner.u64) task.dependencies 0
  let command ← readCollection (fun _ => readString) task.command []
  let invocation ← decodeInvocation
  pure { task with
    id := id
    parentId := parentId
    name := name
    kind := kind
    priority := priority.toInt32
    dependencies := dependencies
    resources := { task.resources with
      cpuThreads := cpuThreads
      memoryBytes := memoryBytes
      timeout := timeoutMs.toInt64 }
    retryLimit := retryLimit
    command := command
    invocation := invocation }

def decodeAgent (agent : ControlAgentInfo) : Scanner Unit ControlAgentInfo := do
  let id ← Scanner.u64
  let parentId ← Scanner.u64
  let stateValue ← Scanner.u8
  let processId ← Scanner.u64
  let unresolvedDependencies ← Scanner.u32
  let retryCount ← Scanner.u32
  let contextId ← Scanner.u64
  let metrics ← decodeMetrics agent.metrics
  let name ← readString
  let kind ← readString
  let error ← readString
  let state ← Scanner.ofOption () (named AgentState.all AgentState.code stateValue)
  pure { agent with
    id := id
    parentId := parentId
    state := state
    processId := processId.toInt64
    unresolvedDependencies := unresolvedDependencies
    retryCount := retryCount
    contextId := contextId
    metrics := metrics
    name := name
    kind := kind
    error := error }

def readRequest (request : ControlRequest) : Scanner Unit (AgentId × AgentTaskSpec) := do
  let targetId ← Scanner.u64
  let task ← decodeTask request.task
  pure (targetId, task)

def decodeControlRequest (request : ControlRequest) : Scanner StdString ControlRequest := do
  let size ← Scanner.size
  Scanner.require (size.toNat ≤ kMaxControlMessageSize) (text "invalid control request buffer")
  let (operation, payloadSize) ← decodeControlHeader
  let remaining ← Scanner.remaining
  Scanner.require (payloadSize.toUInt64 = remaining) (text "invalid control request")
  let (targetId, task) ← (readRequest request).orError (text "invalid control request")
  let remaining ← Scanner.remaining
  Scanner.require (remaining = 0) (text "invalid control request")
  pure { request with operation := operation, targetId := targetId, task := task }

/-- What stands before the agents of a response. -/
def readControlResponseFields : Scanner Unit ControlProtocol.ResponseFields := do
  let success ← readFlag
  let message ← readString
  let count ← Scanner.u32
  Scanner.require (count.toNat ≤ kMaxCollectionElements) ()
  pure { success, message, count }

def decodeControlResponse (response : ControlResponse) : Scanner StdString ControlResponse := do
  let size ← Scanner.size
  Scanner.require (size.toNat ≤ kMaxControlMessageSize) (text "invalid control response buffer")
  let (_, payloadSize) ← decodeControlHeader
  let remaining ← Scanner.remaining
  Scanner.require (payloadSize.toUInt64 = remaining) (text "invalid control response")
  let fields ← readControlResponseFields.orError (text "invalid control response")
  let agents ← (Scanner.each decodeAgent 0 (resized response.agents fields.count.toNat {})).orError
    (text "invalid agent response")
  let resultAvailable ← readFlag.orError (text "invalid result response")
  let result ← (decodeOptionalReference insideRegion resultAvailable).orError
    (text "invalid shared result reference")
  let remaining ← Scanner.remaining
  Scanner.require (remaining = 0) (text "trailing control response data")
  pure { response with
    success := fields.success
    message := fields.message
    agents := agents
    resultAvailable := resultAvailable
    result := result }

/-! ### Invocation messages -/

def decodeInvocationHeader (expectedType : UInt16) : Scanner StdString UInt32 := do
  let header ← readHeader.orError (text "truncated invocation header")
  Scanner.require (header.magic = InvocationProtocol.protocol.magic ∧
    header.version = InvocationProtocol.protocol.version ∧ header.messageType = expectedType)
    (text "unsupported invocation protocol")
  pure header.payloadSize

/-- What stands before the inputs of a request. -/
def readRequestFields : Scanner Unit InvocationProtocol.RequestFields := do
  let agentId ← Scanner.u64
  let parentId ← Scanner.u64
  let kind ← Scanner.u8
  let contextId ← Scanner.u64
  let priority ← Scanner.u32
  let cpuThreads ← Scanner.u32
  let memoryBytes ← Scanner.u64
  let timeoutMs ← Scanner.u64
  let target ← readString
  let operation ← readString
  let payload ← readString
  let inputCount ← Scanner.u32
  Scanner.require (inputCount.toNat ≤ kMaxInvocationInputs) ()
  pure {
    agentId, parentId, kind, contextId, priority, cpuThreads, memoryBytes, timeoutMs,
    target, operation, payload, inputCount }

def decodeInput (input : InvocationInput) : Scanner Unit InvocationInput := do
  let producerId ← Scanner.u64
  Scanner.require (producerId ≠ kInvalidAgentId) ()
  let reference ← decodeReference InvocationProtocol.validReference input.reference
  pure { input with producerId, reference }

def decodeInvocationRequest (request : InvocationRequest) :
    Scanner StdString InvocationRequest := do
  let size ← Scanner.size
  Scanner.require (size.toNat ≤ kMaxInvocationMessageSize)
    (text "invalid invocation request buffer")
  let payloadSize ← decodeInvocationHeader InvocationProtocol.kRequestMessage
  let remaining ← Scanner.remaining
  Scanner.require (payloadSize.toUInt64 = remaining) (text "invalid invocation request")
  let fields ← readRequestFields.orError (text "invalid invocation request")
  Scanner.require (InvocationKind.model.value ≤ fields.kind ∧
    fields.kind ≤ InvocationKind.tool.value ∧ fields.timeoutMs ≤ maxTimeoutMs ∧
    fields.agentId ≠ kInvalidAgentId ∧ fields.target ≠ [] ∧ fields.operation ≠ [])
    (text "invalid invocation request fields")
  let inputs ← (Scanner.each decodeInput 0
    (resized request.inputs fields.inputCount.toNat {})).orError (text "invalid invocation input")
  let remaining ← Scanner.remaining
  Scanner.require (remaining = 0) (text "trailing invocation request data")
  pure { request with
    agentId := fields.agentId
    parentId := fields.parentId
    kind := ⟨fields.kind⟩
    contextId := fields.contextId
    priority := fields.priority.toInt32
    resources := { request.resources with
      cpuThreads := fields.cpuThreads
      memoryBytes := fields.memoryBytes
      timeout := fields.timeoutMs.toInt64 }
    target := fields.target
    operation := fields.operation
    payload := fields.payload
    inputs }

/-- What stands before the output of a response. -/
def readResponseFields (metrics : AgentPerformanceMetrics) :
    Scanner Unit InvocationProtocol.ResponseFields := do
  let agentId ← Scanner.u64
  let processId ← Scanner.u64
  let status ← Scanner.u8
  Scanner.require (status ≤ InvocationStatus.busy.value) ()
  let contextId ← Scanner.u64
  let message ← readString
  let metrics ← decodeMetrics metrics
  let outputAvailable ← readFlag
  pure { agentId, processId, status, contextId, message, metrics, outputAvailable }

def decodeInvocationResponse (response : InvocationResponse) :
    Scanner StdString InvocationResponse := do
  let size ← Scanner.size
  Scanner.require (size.toNat ≤ kMaxInvocationMessageSize)
    (text "invalid invocation response buffer")
  let payloadSize ← decodeInvocationHeader InvocationProtocol.kResponseMessage
  let remaining ← Scanner.remaining
  Scanner.require (payloadSize.toUInt64 = remaining) (text "invalid invocation response")
  let fields ← (readResponseFields response.metrics).orError (text "invalid invocation response")
  let output ← (decodeOptionalReference InvocationProtocol.validReference
    fields.outputAvailable).orError (text "invalid invocation output")
  let remaining ← Scanner.remaining
  Scanner.require (fields.agentId ≠ kInvalidAgentId ∧ remaining = 0)
    (text "invalid invocation response fields")
  pure { response with
    agentId := fields.agentId
    processId := fields.processId.toInt64
    status := ⟨fields.status⟩
    contextId := fields.contextId
    message := fields.message
    metrics := fields.metrics
    outputAvailable := fields.outputAvailable
    output }

/-! ### Fields -/

variable {limit : Nat}

theorem readString_conforms : Conforms limit readString Runtime.readString :=
  Conforms.block kMaxStringSize

theorem readHeader_conforms : Conforms limit readHeader Runtime.readHeader := by
  apply Conforms.bind Conforms.u32
  intro magic magicRead
  apply Conforms.bind Conforms.u16
  intro version versionRead
  apply Conforms.bind Conforms.u16
  intro messageType typeRead
  apply Conforms.bind Conforms.u32
  intro payloadSize sizeRead
  exact Conforms.pure _

theorem readFlag_conforms : Conforms limit readFlag Runtime.readFlag := by
  apply Conforms.bind Conforms.u8
  intro value valueRead
  apply Conforms.bind (Conforms.require _ _)
  intro nothing small
  exact Conforms.pure _

theorem decodeReference_conforms (accepted : SharedBufferRef → Bool)
    (reference : SharedBufferRef) :
    Conforms limit (decodeReference accepted reference)
      (Runtime.decodeReference accepted reference) := by
  apply Conforms.bind Conforms.u64
  intro regionId idRead
  apply Conforms.bind Conforms.u64
  intro regionSize sizeRead
  apply Conforms.bind Conforms.u64
  intro offset offsetRead
  apply Conforms.bind Conforms.u64
  intro length lengthRead
  apply Conforms.bind Conforms.u32
  intro dataType typeRead
  apply Conforms.bind Conforms.u32
  intro flags flagsRead
  apply Conforms.bind Conforms.u64
  intro version versionRead
  apply Conforms.bind (Conforms.require _ _)
  intro nothing good
  exact Conforms.pure _

theorem decodeOptionalReference_conforms (accepted : SharedBufferRef → Bool)
    (available : Bool) :
    Conforms limit (decodeOptionalReference accepted available)
      (Runtime.decodeOptionalReference accepted available) := by
  cases available with
  | true => exact decodeReference_conforms accepted {}
  | false => exact Conforms.pure _

theorem decodeMetrics_conforms (metrics : AgentPerformanceMetrics) :
    Conforms limit (decodeMetrics metrics) (Runtime.decodeMetrics metrics) := by
  apply Conforms.bind Conforms.u64
  intro queueTimeUs queueRead
  apply Conforms.bind Conforms.u64
  intro executionTimeUs executionRead
  apply Conforms.bind Conforms.u64
  intro inputTokens inputRead
  apply Conforms.bind Conforms.u64
  intro outputTokens outputRead
  apply Conforms.bind Conforms.u64
  intro reusedTokens reusedRead
  apply Conforms.bind Conforms.u64
  intro cacheBytes cacheRead
  apply Conforms.bind readFlag_conforms
  intro cacheHit hitRead
  exact Conforms.pure _


theorem decodeInvocation_conforms :
    Conforms limit decodeInvocation ControlProtocol.decodeInvocation := by
  apply Conforms.bind readFlag_conforms
  intro hasInvocation flagRead
  cases hasInvocation with
  | false => exact Conforms.pure none
  | true =>
      apply Conforms.bind Conforms.u8
      intro kind kindRead
      apply Conforms.bind (Conforms.require _ _)
      intro nothing known
      apply Conforms.bind Conforms.u64
      intro contextId contextRead
      apply Conforms.bind readString_conforms
      intro target targetRead
      apply Conforms.bind readString_conforms
      intro operation operationRead
      apply Conforms.bind readString_conforms
      intro payload payloadRead
      apply Conforms.bind (Conforms.require _ _)
      intro nothing nonempty
      exact Conforms.pure _

/-- The size of a collection is checked before its loop. -/
theorem readCollection_conforms {α : Type} {scan : α → Scanner Unit α} {read : α → ByteReader α}
    (conforms : ∀ old, Conforms kMaxCollectionElements (scan old) (read old)) (old : List α)
    (filler : α) :
    Conforms kMaxCollectionElements (readCollection scan old filler)
      (ControlProtocol.readCollection read old filler) := by
  apply Conforms.bind Conforms.u32
  intro count countRead
  apply Conforms.bind (Conforms.require _ _)
  intro nothing checked
  obtain ⟨bytes, rest, passed⟩ := checked
  have few := ((ByteReader.require_iff _ _ _ _).mp passed).1
  apply Conforms.each conforms
  rw [length_resized]
  omega

theorem decodeTask_conforms (task : AgentTaskSpec) :
    Conforms kMaxCollectionElements (decodeTask task) (ControlProtocol.decodeTask task) := by
  apply Conforms.bind Conforms.u64
  intro id idRead
  apply Conforms.bind Conforms.u64
  intro parentId parentRead
  apply Conforms.bind Conforms.u32
  intro priority priorityRead
  apply Conforms.bind Conforms.u32
  intro cpuThreads threadsRead
  apply Conforms.bind Conforms.u64
  intro memoryBytes memoryRead
  apply Conforms.bind Conforms.u64
  intro timeoutMs timeoutRead
  apply Conforms.bind Conforms.u32
  intro retryLimit retryRead
  apply Conforms.bind readString_conforms
  intro name nameRead
  apply Conforms.bind readString_conforms
  intro kind kindRead
  apply Conforms.bind (Conforms.require _ _)
  intro nothing bounded
  apply Conforms.bind (readCollection_conforms (fun _ => Conforms.u64) _ _)
  intro dependencies dependenciesRead
  apply Conforms.bind (readCollection_conforms (fun _ => readString_conforms) _ _)
  intro command commandRead
  apply Conforms.bind decodeInvocation_conforms
  intro invocation invocationRead
  exact Conforms.pure _

theorem decodeAgent_conforms (agent : ControlAgentInfo) :
    Conforms limit (decodeAgent agent) (ControlProtocol.decodeAgent agent) := by
  apply Conforms.bind Conforms.u64
  intro id idRead
  apply Conforms.bind Conforms.u64
  intro parentId parentRead
  apply Conforms.bind Conforms.u8
  intro stateValue stateRead
  apply Conforms.bind Conforms.u64
  intro processId processRead
  apply Conforms.bind Conforms.u32
  intro unresolvedDependencies unresolvedRead
  apply Conforms.bind Conforms.u32
  intro retryCount retryRead
  apply Conforms.bind Conforms.u64
  intro contextId contextRead
  apply Conforms.bind (decodeMetrics_conforms agent.metrics)
  intro metrics metricsRead
  apply Conforms.bind readString_conforms
  intro name nameRead
  apply Conforms.bind readString_conforms
  intro kind kindRead
  apply Conforms.bind readString_conforms
  intro error errorRead
  apply Conforms.bind (Conforms.ofOption _ _)
  intro state known
  exact Conforms.pure _

theorem readRequest_conforms (request : ControlRequest) :
    Conforms kMaxCollectionElements (readRequest request)
      (ControlProtocol.readRequest request) := by
  apply Conforms.bind Conforms.u64
  intro targetId targetRead
  apply Conforms.bind (decodeTask_conforms request.task)
  intro task taskRead
  exact Conforms.pure _

theorem readControlResponseFields_conforms :
    Conforms limit readControlResponseFields ControlProtocol.readResponseFields := by
  apply Conforms.bind readFlag_conforms
  intro success successRead
  apply Conforms.bind readString_conforms
  intro message messageRead
  apply Conforms.bind Conforms.u32
  intro count countRead
  apply Conforms.bind (Conforms.require _ _)
  intro nothing few
  exact Conforms.pure _

theorem readRequestFields_conforms :
    Conforms limit readRequestFields InvocationProtocol.readRequestFields := by
  apply Conforms.bind Conforms.u64
  intro agentId agentRead
  apply Conforms.bind Conforms.u64
  intro parentId parentRead
  apply Conforms.bind Conforms.u8
  intro kind kindRead
  apply Conforms.bind Conforms.u64
  intro contextId contextRead
  apply Conforms.bind Conforms.u32
  intro priority priorityRead
  apply Conforms.bind Conforms.u32
  intro cpuThreads threadsRead
  apply Conforms.bind Conforms.u64
  intro memoryBytes memoryRead
  apply Conforms.bind Conforms.u64
  intro timeoutMs timeoutRead
  apply Conforms.bind readString_conforms
  intro target targetRead
  apply Conforms.bind readString_conforms
  intro operation operationRead
  apply Conforms.bind readString_conforms
  intro payload payloadRead
  apply Conforms.bind Conforms.u32
  intro inputCount countRead
  apply Conforms.bind (Conforms.require _ _)
  intro nothing few
  exact Conforms.pure _

theorem decodeInput_conforms (input : InvocationInput) :
    Conforms limit (decodeInput input) (InvocationProtocol.decodeInput input) := by
  apply Conforms.bind Conforms.u64
  intro producerId producerRead
  apply Conforms.bind (Conforms.require _ _)
  intro nothing known
  apply Conforms.bind (decodeReference_conforms _ _)
  intro reference referenceRead
  exact Conforms.pure _

theorem readResponseFields_conforms (metrics : AgentPerformanceMetrics) :
    Conforms limit (readResponseFields metrics)
      (InvocationProtocol.readResponseFields metrics) := by
  apply Conforms.bind Conforms.u64
  intro agentId agentRead
  apply Conforms.bind Conforms.u64
  intro processId processRead
  apply Conforms.bind Conforms.u8
  intro status statusRead
  apply Conforms.bind (Conforms.require _ _)
  intro nothing known
  apply Conforms.bind Conforms.u64
  intro contextId contextRead
  apply Conforms.bind readString_conforms
  intro message messageRead
  apply Conforms.bind (decodeMetrics_conforms metrics)
  intro metrics metricsRead
  apply Conforms.bind readFlag_conforms
  intro outputAvailable flagRead
  exact Conforms.pure _

/-! ### Calls -/

section Calls

variable {α β : Type} {buffer : Buffer} {cursor : Cursor}

private theorem ensure_gives {condition same : Prop} [Decidable condition] [Decidable same]
    {message : StdString} {next : Scanner StdString β} {outcome : Except StdString β}
    (inside : cursor.Inside limit buffer) (equal : condition ↔ same)
    (follows : same → Gives limit buffer cursor next outcome) :
    Gives limit buffer cursor (Scanner.require condition message >>= fun _ => next)
      (ensure same message >>= fun _ => outcome) := by
  unfold ensure
  by_cases holds : same
  · rw [if_pos holds]
    apply Gives.require inside
    · intro fails
      exact absurd (equal.mpr holds) fails
    · intro passed
      exact follows holds
  · rw [if_neg holds]
    apply Gives.require inside
    · intro fails
      rfl
    · intro passed
      exact absurd (equal.mp passed) holds

private theorem orError_gives {scan : Scanner Unit α} {read : ByteReader α} {message : StdString}
    {next : α → Scanner StdString β} {outcome : α × List UInt8 → Except StdString β}
    (conforms : Conforms limit scan read) (inside : cursor.Inside limit buffer)
    (follows : ∀ value after, after.Inside limit buffer →
      read (cursor.ahead buffer) = some (value, after.ahead buffer) →
        Gives limit buffer after (next value) (outcome (value, after.ahead buffer))) :
    Gives limit buffer cursor (scan.orError message >>= next)
      (orError message (read (cursor.ahead buffer)) >>= outcome) := by
  apply Gives.read conforms inside
  · intro refused
    rw [refused]
    rfl
  · intro value after stays found
    rw [found]
    exact follows value after stays found

private theorem ofOption_gives {found : Option α} {message : StdString}
    {next : α → Scanner StdString β} {outcome : α → Except StdString β}
    (inside : cursor.Inside limit buffer)
    (follows : ∀ value, found = some value →
      Gives limit buffer cursor (next value) (outcome value)) :
    Gives limit buffer cursor (Scanner.ofOption message found >>= next)
      (orError message found >>= outcome) := by
  apply Gives.ofOption inside
  · intro missing
    rw [missing]
    rfl
  · intro value same
    rw [same]
    exact follows value same

private theorem size_iff {payloadSize : UInt32} {left : UInt64} {bytes : List UInt8}
    (exact : left.toNat = bytes.length) :
    payloadSize.toUInt64 = left ↔ payloadSize.toNat = bytes.length := by
  rw [← UInt64.toNat_inj, UInt32.toNat_toUInt64, exact]

private theorem nothing_iff {left : UInt64} {bytes : List UInt8}
    (exact : left.toNat = bytes.length) : left = 0 ↔ bytes = [] := by
  rw [← UInt64.toNat_inj, exact, ← List.length_eq_zero_iff]
  rfl

theorem decodeControlRequest_gives (buffer : Buffer) (request : ControlRequest) :
    Gives kMaxCollectionElements buffer {} (decodeControlRequest request)
      (ControlProtocol.decodeControlRequest buffer.bytes request) := by
  have start := @Cursor.start_inside kMaxCollectionElements buffer
  have whole : buffer.bytes = Cursor.ahead buffer {} := rfl
  unfold decodeControlRequest decodeControlHeader ControlProtocol.decodeControlRequest
    ControlProtocol.decodeHeader
  simp only [Scanner.bind_assoc, Scanner.pure_bind, bind_assoc, pure_bind]
  apply Gives.size
  apply ensure_gives start (by rw [buffer.exact])
  intro fits
  rw [whole]
  apply orError_gives readHeader_conforms start
  intro header body inside headerRead
  apply ensure_gives inside Iff.rfl
  intro supported
  apply ofOption_gives inside
  intro operation known
  apply Gives.remaining inside
  intro left exact
  apply ensure_gives inside (size_iff exact)
  intro framed
  apply orError_gives (readRequest_conforms request) inside
  intro fields rest inside fieldsRead
  apply Gives.remaining inside
  intro left exact
  apply ensure_gives inside (nothing_iff exact)
  intro ended
  exact Gives.pure inside _

theorem decodeControlResponse_gives (buffer : Buffer) (response : ControlResponse) :
    Gives kMaxCollectionElements buffer {} (decodeControlResponse response)
      (ControlProtocol.decodeControlResponse buffer.bytes response) := by
  have start := @Cursor.start_inside kMaxCollectionElements buffer
  have whole : buffer.bytes = Cursor.ahead buffer {} := rfl
  unfold decodeControlResponse decodeControlHeader ControlProtocol.decodeControlResponse
    ControlProtocol.decodeHeader
  simp only [Scanner.bind_assoc, Scanner.pure_bind, bind_assoc, pure_bind]
  apply Gives.size
  apply ensure_gives start (by rw [buffer.exact])
  intro fits
  rw [whole]
  apply orError_gives readHeader_conforms start
  intro header body inside headerRead
  apply ensure_gives inside Iff.rfl
  intro supported
  apply ofOption_gives inside
  intro operation known
  apply Gives.remaining inside
  intro left exact
  apply ensure_gives inside (size_iff exact)
  intro framed
  apply orError_gives readControlResponseFields_conforms inside
  intro fields afterFields inside fieldsRead
  -- The count was checked with the fields.
  have few := ((ControlProtocol.readResponseFields_iff _ _ _).mp fieldsRead).1.2
  apply orError_gives (Conforms.each decodeAgent_conforms _ 0 ?_) inside
  · intro agents afterAgents inside agentsRead
    apply orError_gives readFlag_conforms inside
    intro resultAvailable afterFlag inside flagRead
    apply orError_gives (decodeOptionalReference_conforms insideRegion resultAvailable) inside
    intro result rest inside resultRead
    apply Gives.remaining inside
    intro left exact
    apply ensure_gives inside (nothing_iff exact)
    intro ended
    exact Gives.pure inside _
  · rw [length_resized]
    omega

theorem decodeInvocationRequest_gives (buffer : Buffer) (request : InvocationRequest) :
    Gives kMaxInvocationInputs buffer {} (decodeInvocationRequest request)
      (InvocationProtocol.decodeInvocationRequest buffer.bytes request) := by
  have start := @Cursor.start_inside kMaxInvocationInputs buffer
  have whole : buffer.bytes = Cursor.ahead buffer {} := rfl
  unfold decodeInvocationRequest decodeInvocationHeader InvocationProtocol.decodeInvocationRequest
    InvocationProtocol.decodeHeader
  simp only [Scanner.bind_assoc, Scanner.pure_bind, bind_assoc, pure_bind]
  apply Gives.size
  apply ensure_gives start (by rw [buffer.exact])
  intro fits
  rw [whole]
  apply orError_gives readHeader_conforms start
  intro header body inside headerRead
  apply ensure_gives inside Iff.rfl
  intro supported
  apply Gives.remaining inside
  intro left exact
  apply ensure_gives inside (size_iff exact)
  intro framed
  apply orError_gives readRequestFields_conforms inside
  intro fields afterFields inside fieldsRead
  -- The count was checked with the fields.
  have few := ((InvocationProtocol.readRequestFields_iff _ _ _).mp fieldsRead).1.inputCount
  apply ensure_gives inside Iff.rfl
  intro valid
  apply orError_gives (Conforms.each decodeInput_conforms _ 0 ?_) inside
  · intro inputs rest inside inputsRead
    apply Gives.remaining inside
    intro left exact
    apply ensure_gives inside (nothing_iff exact)
    intro ended
    exact Gives.pure inside _
  · rw [length_resized]
    omega

theorem decodeInvocationResponse_gives (buffer : Buffer) (response : InvocationResponse) :
    Gives kMaxInvocationInputs buffer {} (decodeInvocationResponse response)
      (InvocationProtocol.decodeInvocationResponse buffer.bytes response) := by
  have start := @Cursor.start_inside kMaxInvocationInputs buffer
  have whole : buffer.bytes = Cursor.ahead buffer {} := rfl
  unfold decodeInvocationResponse decodeInvocationHeader
    InvocationProtocol.decodeInvocationResponse InvocationProtocol.decodeHeader
  simp only [Scanner.bind_assoc, Scanner.pure_bind, bind_assoc, pure_bind]
  apply Gives.size
  apply ensure_gives start (by rw [buffer.exact])
  intro fits
  rw [whole]
  apply orError_gives readHeader_conforms start
  intro header body inside headerRead
  apply ensure_gives inside Iff.rfl
  intro supported
  apply Gives.remaining inside
  intro left exact
  apply ensure_gives inside (size_iff exact)
  intro framed
  apply orError_gives (readResponseFields_conforms response.metrics) inside
  intro fields afterFields inside fieldsRead
  apply orError_gives (decodeOptionalReference_conforms _ _) inside
  intro output rest inside outputRead
  apply Gives.remaining inside
  intro left exact
  apply ensure_gives inside (and_congr Iff.rfl (nothing_iff exact))
  intro ended
  exact Gives.pure inside _

end Calls

/-- What a call does to its buffer, from the first byte to its return. -/
def accesses {α : Type} (decode : Scanner StdString α) (buffer : Buffer) : List Access :=
  (decode buffer {}).2.log

/-- No decoder reads behind its buffer, wraps its remaining size around or loops more often
than its protocol allows, whatever it is given. -/
theorem decoders_stay_inside (buffer : Buffer) :
    (∀ request, ∀ access ∈ accesses (decodeControlRequest request) buffer,
      access.Inside buffer.size 4096) ∧
    (∀ response, ∀ access ∈ accesses (decodeControlResponse response) buffer,
      access.Inside buffer.size 4096) ∧
    (∀ request, ∀ access ∈ accesses (decodeInvocationRequest request) buffer,
      access.Inside buffer.size 64) ∧
    (∀ response, ∀ access ∈ accesses (decodeInvocationResponse response) buffer,
      access.Inside buffer.size 64) := by
  refine ⟨?_, ?_, ?_, ?_⟩
  · intro request
    exact (decodeControlRequest_gives buffer request).inside.log
  · intro response
    exact (decodeControlResponse_gives buffer response).inside.log
  · intro request
    exact (decodeInvocationRequest_gives buffer request).inside.log
  · intro response
    exact (decodeInvocationResponse_gives buffer response).inside.log

/-- Of five bytes the first four are read. -/
example : accesses (decodeControlRequest {}) ⟨[0, 0, 0, 0, 0], 5, rfl⟩ =
    [.byte 0, .byte 1, .byte 2, .byte 3, .moved 4] := by
  decide +kernel

end Positioned

end AgentNucleus.Runtime
