/-
References of a peer against the mappings they point into.  The decoder bounds a
reference by its declared region, and the mapper bounds the region by the file.
-/

import AgentNucleus.Runtime.InvocationChannel
import AgentNucleus.Runtime.OutputPrefix

set_option autoImplicit false

namespace AgentNucleus.Runtime

open AgentNucleus.Library

/-! ### References inside their region -/

/-- The decoder's check is a bound over the naturals. -/
theorem insideRegion_bound {reference : SharedBufferRef} (inside : insideRegion reference = true) :
    reference.offset.toNat + reference.length.toNat ≤ reference.regionSize.toNat := by
  unfold insideRegion at inside
  simp only [Bool.and_eq_true, decide_eq_true_eq] at inside
  obtain ⟨⟨_, within⟩, fits⟩ := inside
  rw [UInt64.le_iff_toNat_le, UInt64.toNat_sub_of_le _ _ within] at fits
  rw [UInt64.le_iff_toNat_le] at within
  omega

theorem validReference_bound {reference : SharedBufferRef}
    (valid : InvocationProtocol.validReference reference = true) :
    reference.offset.toNat + reference.length.toNat ≤ reference.regionSize.toNat := by
  unfold InvocationProtocol.validReference at valid
  exact insideRegion_bound (Bool.and_eq_true_iff.mp valid).1

/-! ### Regions inside their file -/

/-- The region is mapped from the descriptor, has the declared size, and is covered by
the file. -/
structure MappedFrom (kernel : Kernel) (descriptor : Int32) (size : UInt64)
    (region : MappedRegion) : Prop where
  mapped : region.mapped = true
  source : region.descriptor = descriptor
  declared : region.size = size
  covered : ∃ stored, kernel.fileSize descriptor = some stored ∧ 0 ≤ stored ∧
    region.size.toNat ≤ stored.toInt.toNat

private theorem stored_toNat {stored : Int64} (natural : 0 ≤ stored) :
    stored.toUInt64.toNat = stored.toInt.toNat := by
  have signed : 0 ≤ stored.toInt := Int64.le_iff_toInt_le.mp natural
  have bounded := stored.toInt_lt
  have bits : stored.toInt = (stored.toUInt64.toNat : Int).bmod (2 ^ 64) :=
    stored.toBitVec.toInt_eq_toNat_bmod
  have width := stored.toUInt64.toNat_lt
  rw [Int.bmod_def] at bits
  split at bits <;> omega

theorem Kernel.covers_iff (kernel : Kernel) (descriptor : Int32) (size : UInt64) :
    kernel.covers descriptor size = true ↔
      ∃ stored, kernel.fileSize descriptor = some stored ∧ 0 ≤ stored ∧
        size.toNat ≤ stored.toInt.toNat := by
  unfold Kernel.covers
  cases known : kernel.fileSize descriptor with
  | none => simp
  | some stored =>
      simp only [Bool.and_eq_true, decide_eq_true_eq, Option.some.injEq, exists_eq_left']
      constructor
      · rintro ⟨natural, fits⟩
        rw [UInt64.le_iff_toNat_le, stored_toNat natural] at fits
        exact ⟨natural, fits⟩
      · rintro ⟨natural, fits⟩
        rw [UInt64.le_iff_toNat_le, stored_toNat natural]
        exact ⟨natural, fits⟩

theorem mapDescriptor_ok {kernel : Kernel} {readOnly : Bool} {operation : String}
    {descriptor : Int32} {size regionId : UInt64} {region : MappedRegion}
    (mapped : MappedRegion.mapDescriptor kernel readOnly operation descriptor size regionId =
      .ok region) : MappedFrom kernel descriptor size region := by
  unfold MappedRegion.mapDescriptor at mapped
  split at mapped
  · cases mapped
  · cases covers : kernel.covers descriptor size with
    | false =>
        rw [covers] at mapped
        cases mapped
    | true =>
        simp only [covers, Bool.not_true, Bool.false_eq_true, if_false] at mapped
        cases answer : kernel.mapping descriptor size with
        | error reason =>
            rw [answer] at mapped
            cases mapped
        | ok nothing =>
            rw [answer] at mapped
            cases mapped
            exact ⟨rfl, rfl, rfl, (kernel.covers_iff descriptor size).mp covers⟩

/-- A text that ends inside the mapping can be read. -/
theorem textAt_inside {region : MappedRegion} {offset length : UInt64}
    (mapped : region.mapped = true)
    (inside : offset.toNat + length.toNat ≤ region.size.toNat) :
    region.textAt offset length =
      some ((List.range length.toNat).map fun index => region.data (offset.toNat + index)) := by
  have every : ∀ indices : List Nat, (∀ index ∈ indices, index < length.toNat) →
      indices.mapM (fun index => region.byteAt (offset.toNat + index)) =
        some (indices.map fun index => region.data (offset.toNat + index)) := by
    intro indices below
    induction indices with
    | nil => rfl
    | cons index rest ih =>
        have here := below index List.mem_cons_self
        have byte : region.byteAt (offset.toNat + index) =
            some (region.data (offset.toNat + index)) := by
          unfold MappedRegion.byteAt
          rw [if_pos]
          rw [mapped, Bool.true_and, decide_eq_true_eq]
          omega
        rw [List.mapM_cons, byte,
          ih fun other member => below other (List.mem_cons_of_mem index member)]
        rfl
  exact every (List.range length.toNat) fun index member => List.mem_range.mp member

/-! ### The inputs of a handler -/

/-- An input as it is declared and mapped; both readers of the handlers stay inside. -/
structure InputInside (kernel : Kernel) (declared : InvocationInput) (descriptor : Int32)
    (input : InvocationMappedInput) : Prop where
  producer : input.producerId = declared.producerId
  reference : input.reference = declared.reference
  region : MappedFrom kernel descriptor declared.reference.regionSize input.region
  inside : input.reference.offset.toNat + input.reference.length.toNat ≤
    input.region.size.toNat
  modelReads : (mappedText input).isSome = true
  toolReads : (inputText input).isSome = true

theorem inputInside {kernel : Kernel} {declared : InvocationInput} {descriptor : Int32}
    {region : MappedRegion}
    (valid : InvocationProtocol.validReference declared.reference = true)
    (source : MappedFrom kernel descriptor declared.reference.regionSize region) :
    InputInside kernel declared descriptor
      { producerId := declared.producerId, reference := declared.reference, region := region } := by
  have inside : declared.reference.offset.toNat + declared.reference.length.toNat ≤
      region.size.toNat := source.declared ▸ validReference_bound valid
  have read := textAt_inside source.mapped inside
  refine ⟨rfl, rfl, source, inside, ?_, ?_⟩
  · unfold mappedText
    split
    · rfl
    · rw [read]
      rfl
  · unfold inputText
    rw [read]
    rfl

/-- The loop pairs every input with the descriptor at its own position. -/
theorem mapInputs_inside (kernel : Kernel) (declared : List InvocationInput)
    (descriptors : List Int32) (inputs : List InvocationMappedInput)
    (valid : ∀ input ∈ declared, InvocationProtocol.validReference input.reference = true)
    (mapped : mapInputs kernel declared descriptors = some inputs) :
    inputs.length = declared.length ∧
      ∀ (index : Nat) (input : InvocationMappedInput), inputs[index]? = some input →
        ∃ announced descriptor, declared[index]? = some announced ∧
          descriptors[index]? = some descriptor ∧
          InputInside kernel announced descriptor input := by
  induction declared generalizing descriptors inputs with
  | nil =>
      cases mapped
      exact ⟨rfl, nofun⟩
  | cons announced rest ih =>
      cases descriptors with
      | nil => cases mapped
      | cons descriptor others =>
          unfold mapInputs at mapped
          split at mapped
          · cases mapped
          · cases first : MappedRegion.mapExistingReadOnly kernel descriptor
                announced.reference.regionSize announced.reference.regionId with
            | error message =>
                rw [first] at mapped
                cases mapped
            | ok region =>
                rw [first] at mapped
                obtain ⟨later, laterMapped, rfl⟩ := Option.map_eq_some_iff.mp mapped
                obtain ⟨length, inside⟩ := ih others later
                  (fun input member => valid input (List.mem_cons_of_mem announced member))
                  laterMapped
                refine ⟨congrArg (· + 1) length, ?_⟩
                intro index input found
                cases index with
                | zero =>
                    cases found
                    exact ⟨announced, descriptor, rfl, rfl,
                      inputInside (valid announced List.mem_cons_self) (mapDescriptor_ok first)⟩
                | succ index => exact inside index input found

/-- What reaches the handler of a server. -/
structure HandlerInputsInside (connection : ClientConnection) (request : InvocationRequest)
    (inputs : List InvocationMappedInput) : Prop where
  count : inputs.length = request.inputs.length
  paired : ∃ packet descriptors,
    receivePacket connection.received = .ok (packet, descriptors) ∧
      InvocationProtocol.decodeInvocationRequest packet {} = .ok request ∧
      descriptors.length = request.inputs.length ∧
      ∀ (index : Nat) (input : InvocationMappedInput), inputs[index]? = some input →
        ∃ declared descriptor, request.inputs[index]? = some declared ∧
          descriptors[index]? = some descriptor ∧
          InputInside connection.kernel declared descriptor input

theorem handlerArguments_some {connection : ClientConnection} {request : InvocationRequest}
    {inputs : List InvocationMappedInput}
    (called : handlerArguments connection = some (request, inputs)) :
    ∃ packet descriptors, receivePacket connection.received = .ok (packet, descriptors) ∧
      InvocationProtocol.decodeInvocationRequest packet {} = .ok request ∧
      descriptors.length = request.inputs.length ∧
      mapInputs connection.kernel request.inputs descriptors = some inputs := by
  unfold handlerArguments at called
  split at called
  · cases called
  · rcases received : receivePacket connection.received with message | ⟨packet, descriptors⟩
    · rw [received] at called
      cases called
    · simp only [received] at called
      cases decoded : InvocationProtocol.decodeInvocationRequest packet {} with
      | error message =>
          rw [decoded] at called
          cases called
      | ok decodedRequest =>
          simp only [decoded] at called
          split at called
          · cases called
          · rename_i counted
            obtain ⟨mapped, found, same⟩ := Option.map_eq_some_iff.mp called
            cases same
            exact ⟨packet, descriptors, rfl, decoded, not_not.mp counted, found⟩

theorem handler_inputs_inside {connection : ClientConnection} {request : InvocationRequest}
    {inputs : List InvocationMappedInput}
    (called : handlerArguments connection = some (request, inputs)) :
    HandlerInputsInside connection request inputs := by
  obtain ⟨packet, descriptors, received, decoded, counted, mapped⟩ :=
    handlerArguments_some called
  have valid := ((InvocationProtocol.decodeInvocationRequest_iff packet {} request).mp decoded).1
  obtain ⟨length, inside⟩ := mapInputs_inside connection.kernel request.inputs descriptors inputs
    (fun input member => (valid.inputs input member).2) mapped
  exact ⟨length, packet, descriptors, received, decoded, counted, inside⟩

/-! ### The output of a call -/

/-- A publication keeps the region or shrinks it, and its reference stays inside. -/
theorem publish_inside {results after : UnorderedMap AgentId StoredResult}
    {environment : PublishEnvironment} {id : AgentId} {region : SharedMemoryRegion}
    {length : UInt64} {dataType flags : UInt32}
    (published : AgentResultStore.publish results environment id region length dataType flags =
      .ok after) :
    ∃ stored, after.lookup id = some stored ∧ stored.region.data = region.data ∧
      stored.region.size.toNat ≤ region.size.toNat ∧
      stored.reference.regionSize = stored.region.size ∧
      stored.reference.offset.toNat + stored.reference.length.toNat ≤
        stored.region.size.toNat := by
  obtain ⟨kept, data, size, _, _, rfl⟩ := AgentResultStore.publish_ok published
  have accepted : region.valid = true ∧ length ≤ region.size := by
    unfold AgentResultStore.publish at published
    split at published
    · cases published
    · rename_i checked
      simp only [not_or, Bool.not_eq_true', Bool.not_eq_false, gt_iff_lt, UInt64.not_lt]
        at checked
      exact checked.2
  have positive : 0 < region.size.toNat := by
    have valid := accepted.1
    unfold SharedMemoryRegion.valid at valid
    rw [Bool.and_eq_true, decide_eq_true_eq, gt_iff_lt, UInt64.lt_iff_toNat_lt] at valid
    exact valid.2
  have fits : length.toNat ≤ region.size.toNat := UInt64.le_iff_toNat_le.mp accepted.2
  have kept_toNat : kept.size.toNat = max 1 length.toNat := by
    rw [size]
    exact CommandExecution.retained_toNat length
  refine ⟨_, AList.lookup_insert _, data, ?_, rfl, ?_⟩
  · change kept.size.toNat ≤ _
    omega
  · change (0 : UInt64).toNat + length.toNat ≤ kept.size.toNat
    have zero : (0 : UInt64).toNat = 0 := rfl
    omega

/-- The output of a successful call: it comes from the one descriptor received, it
covers the reference of the response, and whatever is published of it stays inside. -/
structure OutputInside (exchange : Exchange) (result : InvocationCallResult) : Prop where
  mapped : ∃ packet descriptor,
    receivePacket exchange.received = .ok (packet, [descriptor]) ∧
      MappedFrom exchange.kernel descriptor result.response.output.regionSize result.output
  inside : result.response.output.offset.toNat + result.response.output.length.toNat ≤
    result.output.size.toNat
  published : ∀ results environment id length dataType flags after,
    AgentResultStore.publish results environment id result.output.toSharedMemoryRegion length
        dataType flags = .ok after →
      ∃ stored, after.lookup id = some stored ∧ stored.region.data = result.output.data ∧
        stored.region.size.toNat ≤ result.output.size.toNat ∧
        stored.reference.regionSize = stored.region.size ∧
        stored.reference.offset.toNat + stored.reference.length.toNat ≤
          stored.region.size.toNat

theorem invoke_output_inside {exchange : Exchange} {request : InvocationRequest}
    {attachments : List InvocationAttachment} {result : InvocationCallResult}
    (succeeded : InvocationClient.invoke exchange request attachments = .ok result)
    (available : result.response.outputAvailable = true) : OutputInside exchange result := by
  unfold InvocationClient.invoke at succeeded
  simp only [bind_ok_iff, ensure_iff, exists_const] at succeeded
  obtain ⟨_, _, requestPacket, _, _, _, _, _, _, _, ⟨packet, descriptors⟩, received,
    response, decoded, _, counted, output, mapped, last⟩ := succeeded
  cases last
  change response.outputAvailable = true at available
  have valid :=
    ((InvocationProtocol.decodeInvocationResponse_iff packet {} response).mp decoded).1.1
  have single : descriptors.length = 1 := by
    rw [available] at counted
    exact of_decide_eq_true counted.symm
  obtain ⟨descriptor, rfl⟩ := List.length_eq_one_iff.mp single
  unfold mapOutput at mapped
  simp only [available, Bool.not_true, Bool.false_eq_true, if_false] at mapped
  split at mapped
  · cases mapped
  · have source := mapDescriptor_ok mapped
    refine ⟨⟨packet, descriptor, received, source⟩, ?_, ?_⟩
    · change _ ≤ output.size.toNat
      rw [source.declared]
      exact validReference_bound (valid.output available)
    · intro results environment id length dataType flags after published
      exact publish_inside published

/-- Whatever a peer declares and sends along: what reaches a handler, and what a call
returns, stays inside its mapping. -/
theorem received_references_inside :
    (∀ connection request inputs, handlerArguments connection = some (request, inputs) →
      HandlerInputsInside connection request inputs) ∧
    (∀ exchange request attachments result,
      InvocationClient.invoke exchange request attachments = .ok result →
        result.response.outputAvailable = true → OutputInside exchange result) :=
  ⟨fun _ _ _ called => handler_inputs_inside called,
    fun _ _ _ _ succeeded available => invoke_output_inside succeeded available⟩

/-- The tool `echo` with two bytes from the fifth one on, of a region of eight. -/
def echoRequest : InvocationRequest :=
  { agentId := 1
    kind := .tool
    target := text "echo"
    operation := text "execute"
    inputs := [{
      producerId := 2
      reference := { regionId := 3, regionSize := 8, offset := 4, length := 2 } }] }

def echoPacket : List UInt8 :=
  frame InvocationProtocol.protocol InvocationProtocol.kRequestMessage
    (InvocationProtocol.requestBytes echoRequest)

def eightByteFiles : Kernel where
  fileSize _ := some 8
  mapping _ _ := .ok ()
  contents _ address := UInt8.ofNat address

def echoConnection : ClientConnection :=
  { received := .ok { packet := echoPacket, control := [{ descriptors := [5] }] }
    kernel := eightByteFiles }

def echoInput : InvocationMappedInput :=
  { producerId := 2
    reference := { regionId := 3, regionSize := 8, offset := 4, length := 2 }
    region := {
      data := fun address => UInt8.ofNat address
      mapped := true
      size := 8
      regionId := 3
      readOnly := true
      descriptor := 5 } }

private theorem echo_decoded :
    InvocationProtocol.decodeInvocationRequest echoPacket {} = .ok echoRequest := by
  rw [InvocationProtocol.decodeInvocationRequest_iff]
  refine ⟨⟨by decide, by decide, by decide, by decide, by decide, by decide, ?_, by decide,
    by decide, by decide⟩, rfl, by decide +kernel⟩
  intro input member
  cases List.mem_singleton.mp member
  exact ⟨by decide, by decide⟩

theorem echo_called :
    handlerArguments echoConnection = some (echoRequest, [echoInput]) := by
  have received : receivePacket echoConnection.received = .ok (echoPacket, [5]) := rfl
  unfold handlerArguments
  rw [received]
  simp only [echo_decoded]
  rfl

theorem echo_input_inside :
    HandlerInputsInside echoConnection echoRequest [echoInput] ∧
      inputText echoInput = some [4, 5] :=
  ⟨received_references_inside.1 echoConnection echoRequest [echoInput] echo_called, rfl⟩

end AgentNucleus.Runtime
