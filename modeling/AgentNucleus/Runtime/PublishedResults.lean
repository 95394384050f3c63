/-
`AgentResultStore` over time, and what its references are good for.  A published
entry is found until it is erased or replaced; its reference passes the checks of the
control decoder, of the invocation encoder and of the invocation decoder.
-/

import AgentNucleus.Runtime.AdmittedInvocations
import AgentNucleus.Runtime.ReceivedReferences

set_option autoImplicit false

namespace AgentNucleus.Runtime

open AgentNucleus.Library
open AgentNucleus.Runtime.ControlProtocol (decodeControlResponse encodeControlResponse)
open AgentNucleus.Runtime.InvocationProtocol (decodeInvocationRequest encodeInvocationRequest)

/-! ### Regions -/

/-- `make_region_id` with the answer of `getpid` and the counter before the call. -/
def makeRegionId (process : Int32) (sequence : UInt64) : UInt64 :=
  (process.toInt64.toUInt64 <<< 32) ||| (sequence &&& 4294967295)

/-- What the program makes of the regions that it creates, or maps under an id. -/
inductive Obtained : SharedMemoryRegion → Prop where
  | created {size sequence : UInt64} {process : Int32} {region : SharedMemoryRegion}
      (positive : 0 < process)
      (made : SharedMemoryRegion.create size (.ok (makeRegionId process sequence)) =
        .ok region) : Obtained region
  | mapped {kernel : Kernel} {readOnly : Bool} {operation : String} {descriptor : Int32}
      {size regionId : UInt64} {region : MappedRegion} (named : regionId ≠ 0)
      (made : MappedRegion.mapDescriptor kernel readOnly operation descriptor size regionId =
        .ok region) : Obtained region.toSharedMemoryRegion
  | written {region : SharedMemoryRegion} (data : Nat → UInt8) (before : Obtained region) :
      Obtained { region with data := data }
  | resized {region after : SharedMemoryRegion} {size : UInt64} {answer : Except StdString Unit}
      (before : Obtained region) (shrunk : region.resize size answer = .ok after) :
      Obtained after

private theorem widened_toNat {process : Int32} (positive : 0 < process) :
    process.toInt64.toUInt64.toNat = process.toInt.toNat := by
  have same : process.toInt64.toInt = process.toInt := Int32.toInt_toInt64 process
  have sign : process.toInt64.toInt = if 2 * process.toInt64.toUInt64.toNat < 2 ^ 64 then
      (process.toInt64.toUInt64.toNat : Int)
      else (process.toInt64.toUInt64.toNat : Int) - (2 ^ 64 : Nat) :=
    BitVec.toInt_eq_toNat_cond process.toInt64.toBitVec
  have above := Int32.lt_iff_toInt_lt.mp positive
  have bound := process.toInt64.toUInt64.toNat_lt
  change 0 < process.toInt at above
  rw [same] at sign
  split at sign
  · omega
  · omega

/-- A process has a positive id, which is the upper half. -/
theorem makeRegionId_ne {process : Int32} (positive : 0 < process) (sequence : UInt64) :
    makeRegionId process sequence ≠ 0 := by
  intro zero
  have upper := congrArg UInt64.toNat (UInt64.or_eq_zero_iff.mp zero).1
  have above := Int32.lt_iff_toInt_lt.mp positive
  have below := Int32.toInt_lt process
  change 0 < process.toInt at above
  rw [UInt64.toNat_shiftLeft, widened_toNat positive] at upper
  change process.toInt.toNat <<< 32 % 2 ^ 64 = 0 at upper
  rw [Nat.shiftLeft_eq] at upper
  omega

theorem resize_regionId {region after : SharedMemoryRegion} {size : UInt64}
    {answer : Except StdString Unit} (resized : region.resize size answer = .ok after) :
    after.regionId = region.regionId := by
  unfold SharedMemoryRegion.resize at resized
  split at resized
  · cases resized
  · split at resized
    · cases resized
      rfl
    · cases answer with
      | error reason => cases resized
      | ok done =>
          cases resized
          rfl

theorem mapDescriptor_regionId {kernel : Kernel} {readOnly : Bool} {operation : String}
    {descriptor : Int32} {size regionId : UInt64} {region : MappedRegion}
    (mapped : MappedRegion.mapDescriptor kernel readOnly operation descriptor size regionId =
      .ok region) : region.regionId = regionId := by
  unfold MappedRegion.mapDescriptor at mapped
  split at mapped
  · cases mapped
  · split at mapped
    · cases mapped
    · split at mapped
      · cases mapped
      · cases mapped
        rfl

theorem Obtained.regionId_ne {region : SharedMemoryRegion} (obtained : Obtained region) :
    region.regionId ≠ 0 := by
  induction obtained with
  | created positive made =>
      unfold SharedMemoryRegion.create at made
      split at made
      · cases made
      · cases made
        exact makeRegionId_ne positive _
  | mapped named made =>
      rw [mapDescriptor_regionId made]
      exact named
  | written data before ih => exact ih
  | resized before shrunk ih =>
      rw [resize_regionId shrunk]
      exact ih

/-! ### The store -/

structure SharedResultHandle where
  reference : SharedBufferRef
  descriptor : Int32

namespace AgentResultStore

/-- `fcntl` answers with a duplicate of the descriptor, or with the text of `strerror`. -/
def acquire (results : UnorderedMap AgentId StoredResult) (id : AgentId)
    (duplicate : Except StdString Int32) : Except StdString SharedResultHandle :=
  match results.lookup id with
  | none => .error (text "agent result is not available")
  | some stored =>
      match duplicate with
      | .error reason => .error (text "duplicate result descriptor failed: " ++ reason)
      | .ok descriptor => .ok { reference := stored.reference, descriptor }

inductive Operation where
  | publish (environment : PublishEnvironment) (id : AgentId) (region : SharedMemoryRegion)
      (length : UInt64) (dataType flags : UInt32)
  | acquire (id : AgentId) (duplicate : Except StdString Int32)
  | erase (id : AgentId)
  | clear

def step (results : UnorderedMap AgentId StoredResult) :
    Operation → UnorderedMap AgentId StoredResult
  | .publish environment id region length dataType flags =>
      match publish results environment id region length dataType flags with
      | .ok after => after
      | .error _ => results
  | .acquire _ _ => results
  | .erase id => results.erase id
  | .clear => ∅

def machine : Machine (UnorderedMap AgentId StoredResult) Operation where
  initial := ∅
  step := step

/-- The operation erases or replaces the entry of the agent. -/
def Replaces (id : AgentId) (results : UnorderedMap AgentId StoredResult) : Operation → Prop
  | .publish environment other region length dataType flags =>
      other = id ∧ ∃ after,
        publish results environment other region length dataType flags = .ok after
  | .acquire _ _ => False
  | .erase other => other = id
  | .clear => True

theorem step_lookup {id : AgentId} (results : UnorderedMap AgentId StoredResult)
    (operation : Operation) (kept : ¬Replaces id results operation) :
    (step results operation).lookup id = results.lookup id := by
  cases operation with
  | publish environment other region length dataType flags =>
      cases published : publish results environment other region length dataType flags with
      | error message => simp only [step, published]
      | ok after =>
          obtain ⟨stored, _, _, _, _, inserted⟩ := publish_ok published
          have different : id ≠ other := fun same => kept ⟨same.symm, after, published⟩
          simp only [step, published]
          rw [inserted]
          exact AList.lookup_insert_ne different
  | acquire other duplicate => rfl
  | erase other =>
      have different : id ≠ other := fun same => kept same.symm
      exact AList.lookup_erase_ne different
  | clear => exact absurd trivial kept

theorem run_lookup {id : AgentId} (results : UnorderedMap AgentId StoredResult)
    (operations : List Operation)
    (kept : machine.Along (fun results operation => ¬Replaces id results operation) results
      operations) :
    (machine.runFrom results operations).lookup id = results.lookup id := by
  induction operations generalizing results with
  | nil => rfl
  | cons operation rest ih =>
      rw [Machine.runFrom_cons, ih _ kept.2]
      exact step_lookup results operation kept.1

end AgentResultStore

/-! ### What a reference is good for -/

namespace SharedDataType

def binary : UInt32 := 0

/-- The enumerators. -/
def all : List UInt32 := [binary, textUtf8, InvocationProtocol.jsonUtf8]

end SharedDataType

/-- The response of the daemon with this result is sent, and every response that is sent
with it is read back as it is. -/
def ReadBack (reference : SharedBufferRef) : Prop :=
  (∃ packet, encodeControlResponse
    { success := true, resultAvailable := true, result := reference } = .ok packet) ∧
  ∀ (response old : ControlResponse) (packet : List UInt8),
    response.resultAvailable = true → response.result = reference →
      encodeControlResponse response = .ok packet →
        decodeControlResponse packet old = .ok response

/-- Every request with room for one more input can be sent with this one anywhere among its
inputs, and is read back with it. -/
def Attachable (reference : SharedBufferRef) : Prop :=
  ∀ (request old : InvocationRequest) (before after : List InvocationInput)
    (producerId : AgentId), producerId ≠ kInvalidAgentId →
    (before ++ after).length < kMaxInvocationInputs →
    InvocationProtocol.ValidRequest { request with inputs := before ++ after } →
      ∃ packet, encodeInvocationRequest
          { request with inputs := before ++ { producerId, reference } :: after } = .ok packet ∧
        decodeInvocationRequest packet old =
          .ok { request with inputs := before ++ { producerId, reference } :: after }

theorem readBack_of_inside {reference : SharedBufferRef}
    (inside : insideRegion reference = true) : ReadBack reference := by
  constructor
  · have fits : ControlProtocol.ResponseFits
        { success := true, resultAvailable := true, result := reference } :=
      ⟨Nat.zero_le _, Nat.zero_le _, List.forall_mem_nil _⟩
    refine ⟨_, (ControlProtocol.encodeControlResponse_iff _ _).mpr ⟨fits, rfl, ?_⟩⟩
    have short : (ControlProtocol.responseBytes
        { success := true, resultAvailable := true, result := reference }).length = 58 := by
      unfold ControlProtocol.responseBytes optionalReferenceBytes
      rw [if_pos rfl, List.length_append, length_referenceBytes]
      rfl
    rw [length_frame, short]
    decide
  · intro response old packet available same encoded
    obtain ⟨fits, framed, bounded⟩ :=
      (ControlProtocol.encodeControlResponse_iff response packet).mp encoded
    apply (ControlProtocol.decodeControlResponse_iff packet old response).mpr
    refine ⟨⟨fits, ?_, ?_⟩, ⟨.ping, framed⟩, bounded⟩
    · intro now
      rw [same]
      exact inside
    · intro missing
      rw [available] at missing
      cases missing

theorem attachable_of_valid {reference : SharedBufferRef}
    (valid : InvocationProtocol.validReference reference = true) : Attachable reference := by
  intro request old before after producerId producer room rest
  have request_valid : InvocationProtocol.ValidRequest
      { request with inputs := before ++ { producerId, reference } :: after } := by
    refine ⟨rest.agent, rest.target, rest.operation, ?_, rest.timeout, rest.kind, ?_,
      rest.targetFits, rest.operationFits, rest.payloadFits⟩
    · change (before ++ { producerId, reference } :: after).length ≤ kMaxInvocationInputs
      rw [List.length_append] at room ⊢
      rw [List.length_cons]
      omega
    · intro input member
      rcases List.mem_append.mp member with earlier | later
      · exact rest.inputs input (List.mem_append_left after earlier)
      · rcases List.mem_cons.mp later with same | later
        · rw [same]
          exact ⟨producer, valid⟩
        · exact rest.inputs input (List.mem_append_right before later)
  obtain ⟨packet, encoded⟩ := valid_encodable request_valid
  refine ⟨packet, encoded, ?_⟩
  exact (InvocationProtocol.decodeInvocationRequest_iff packet old _).mpr
    ((InvocationProtocol.encodeInvocationRequest_iff _ packet).mp encoded)

/-- A reference to the whole of what was published. -/
structure Published (length : UInt64) (reference : SharedBufferRef) : Prop where
  version : reference.version = 1
  named : reference.regionId ≠ 0
  regionSize : reference.regionSize.toNat = max 1 length.toNat
  offset : reference.offset = 0
  length : reference.length = length
  immutable : reference.flags &&& sharedBufferImmutable = sharedBufferImmutable
  readBack : ReadBack reference
  attachable : Attachable reference

private theorem immutable_flag (flags : UInt32) :
    (flags ||| sharedBufferImmutable) &&& sharedBufferImmutable = sharedBufferImmutable := by
  apply UInt32.toBitVec_inj.mp
  ext index small
  simp only [UInt32.toBitVec_and, UInt32.toBitVec_or, BitVec.getElem_and, BitVec.getElem_or]
  cases sharedBufferImmutable.toBitVec[index] with
  | false => exact Bool.and_false _
  | true => simp

theorem storedResult_published {region : SharedMemoryRegion} {length : UInt64}
    (named : region.regionId ≠ 0) (size : region.size = AgentResultStore.retained length)
    {dataType : UInt32} (known : dataType ∈ SharedDataType.all) (flags : UInt32) :
    Published length (AgentResultStore.storedResult region length dataType flags).reference := by
  have size_toNat : region.size.toNat = max 1 length.toNat := by
    rw [size]
    exact CommandExecution.retained_toNat length
  have zero : (0 : UInt64).toNat = 0 := rfl
  have inside :
      insideRegion (AgentResultStore.storedResult region length dataType flags).reference =
        true := by
    have positive : region.size ≠ 0 := by
      intro empty
      rw [empty, zero] at size_toNat
      omega
    have start : (0 : UInt64) ≤ region.size := UInt64.le_iff_toNat_le.mpr (Nat.zero_le _)
    have whole : length ≤ region.size := by
      rw [UInt64.le_iff_toNat_le, size_toNat]
      omega
    unfold insideRegion AgentResultStore.storedResult
    simp [named, positive, start, whole]
  have valid : InvocationProtocol.validReference
      (AgentResultStore.storedResult region length dataType flags).reference = true := by
    have enumerated : dataType ≤ InvocationProtocol.jsonUtf8 := by
      unfold SharedDataType.all at known
      simp only [List.mem_cons, List.not_mem_nil, or_false] at known
      rcases known with same | same | same
      · rw [same]
        decide
      · rw [same]
        decide
      · rw [same]
        decide
    unfold InvocationProtocol.validReference
    rw [inside, Bool.true_and]
    exact decide_eq_true enumerated
  exact ⟨rfl, named, size_toNat, rfl, rfl, immutable_flag flags, readBack_of_inside inside,
    attachable_of_valid valid⟩

/-- Until it is erased or replaced, a published entry is acquired whenever its descriptor
can be duplicated, always with the same reference. -/
theorem published_retrievable (results after : UnorderedMap AgentId StoredResult)
    (environment : PublishEnvironment) (id : AgentId) (region : SharedMemoryRegion)
    (length : UInt64) (dataType flags : UInt32) (operations : List AgentResultStore.Operation)
    (obtained : Obtained region) (known : dataType ∈ SharedDataType.all)
    (published : AgentResultStore.publish results environment id region length dataType flags =
      .ok after)
    (kept : AgentResultStore.machine.Along
      (fun results operation => ¬AgentResultStore.Replaces id results operation) after
        operations) :
    (∀ duplicate handle,
      AgentResultStore.acquire (AgentResultStore.machine.runFrom after operations) id duplicate =
        .ok handle → Published length handle.reference) ∧
    ∃ reference, Published length reference ∧ ∀ descriptor,
      AgentResultStore.acquire (AgentResultStore.machine.runFrom after operations) id
        (.ok descriptor) = .ok { reference, descriptor } := by
  obtain ⟨stored, _, size, same, _, inserted⟩ := AgentResultStore.publish_ok published
  have found : (AgentResultStore.machine.runFrom after operations).lookup id =
      some (AgentResultStore.storedResult stored length dataType flags) := by
    rw [AgentResultStore.run_lookup after operations kept, inserted]
    exact AList.lookup_insert _
  have named : stored.regionId ≠ 0 := by
    rw [same]
    exact obtained.regionId_ne
  have whole := storedResult_published named size known flags
  constructor
  · intro duplicate handle acquired
    unfold AgentResultStore.acquire at acquired
    rw [found] at acquired
    cases duplicate with
    | error reason => cases acquired
    | ok descriptor =>
        cases acquired
        exact whole
  · refine ⟨_, whole, ?_⟩
    intro descriptor
    unfold AgentResultStore.acquire
    rw [found]

/-- A page that the process 7 has created. -/
def ownPage : SharedMemoryRegion where
  mapped := true
  size := 4096
  regionId := makeRegionId 7 1

/-- An empty output is retained as one byte. -/
theorem empty_output_retrievable :
    ∃ after reference, AgentResultStore.publish ∅ {} 1 ownPage 0 SharedDataType.textUtf8
        sharedBufferStdoutStderr = .ok after ∧ Published 0 reference ∧
      AgentResultStore.acquire (AgentResultStore.machine.runFrom after [.erase 2]) 1 (.ok 5) =
        .ok { reference, descriptor := 5 } := by
  have created : SharedMemoryRegion.create 4096 (.ok (makeRegionId 7 1)) = .ok ownPage := rfl
  obtain ⟨after, published⟩ : ∃ after, AgentResultStore.publish ∅ {} 1 ownPage 0
      SharedDataType.textUtf8 sharedBufferStdoutStderr = .ok after := ⟨_, rfl⟩
  have kept : AgentResultStore.machine.Along
      (fun results operation => ¬AgentResultStore.Replaces 1 results operation) after
        [.erase 2] := by
    refine ⟨?_, trivial⟩
    intro same
    cases same
  obtain ⟨_, reference, whole, acquired⟩ :=
    published_retrievable ∅ after {} 1 ownPage 0 SharedDataType.textUtf8
      sharedBufferStdoutStderr [.erase 2] (Obtained.created (by decide) created) (by decide)
        published kept
  exact ⟨after, reference, published, whole, acquired 5⟩

end AgentNucleus.Runtime
