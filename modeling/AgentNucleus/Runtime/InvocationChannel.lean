/-
`invocation_channel.cpp` between the sockets and the handler, with the mapping of
received descriptors.  What the kernel answers is an input; a mapping that is read
outside its size has no value.
-/

import AgentNucleus.Runtime.InvocationProtocol
import AgentNucleus.Runtime.OutputCapture

set_option autoImplicit false

namespace AgentNucleus.Runtime

open AgentNucleus.Library

/-! ### Mapped descriptors -/

/-- What the kernel answers about descriptors. -/
structure Kernel where
  /-- `st_size`, unless `fstat` fails. -/
  fileSize : Int32 → Option Int64
  /-- `mmap`; an error is the text of `strerror`. -/
  mapping : Int32 → UInt64 → Except StdString Unit
  contents : Int32 → Nat → UInt8

/-- `fstat` succeeds, and the file has the declared size. -/
def Kernel.covers (kernel : Kernel) (descriptor : Int32) (size : UInt64) : Bool :=
  match kernel.fileSize descriptor with
  | none => false
  | some stored => decide (0 ≤ stored) && decide (size ≤ stored.toUInt64)

/-- A region with the descriptor it was mapped from. -/
structure MappedRegion extends SharedMemoryRegion where
  descriptor : Int32 := -1

namespace MappedRegion

/-- `map_existing` and `map_existing_read_only` differ in the protection and in the
name that their error gives to the call. -/
def mapDescriptor (kernel : Kernel) (readOnly : Bool) (operation : String) (descriptor : Int32)
    (size regionId : UInt64) : Except StdString MappedRegion :=
  if descriptor < 0 ∨ size = 0 then .error (text "invalid shared memory descriptor")
  else if !kernel.covers descriptor size then
    .error (text "shared memory descriptor is smaller than declared")
  else
    match kernel.mapping descriptor size with
    | .error reason => .error (text operation ++ text " failed: " ++ reason)
    | .ok _ =>
        .ok {
          data := kernel.contents descriptor
          mapped := true
          size := size
          regionId := regionId
          readOnly := readOnly
          descriptor := descriptor }

def mapExisting (kernel : Kernel) (descriptor : Int32) (size regionId : UInt64) :
    Except StdString MappedRegion :=
  mapDescriptor kernel false "mmap" descriptor size regionId

def mapExistingReadOnly (kernel : Kernel) (descriptor : Int32) (size regionId : UInt64) :
    Except StdString MappedRegion :=
  mapDescriptor kernel true "mmap read-only" descriptor size regionId

/-- A byte of the mapping. -/
def byteAt (region : MappedRegion) (address : Nat) : Option UInt8 :=
  if region.mapped && decide (address < region.size.toNat) then some (region.data address)
  else none

/-- `std::string(data + offset, length)`. -/
def textAt (region : MappedRegion) (offset length : UInt64) : Option StdString :=
  (List.range length.toNat).mapM fun index => region.byteAt (offset.toNat + index)

end MappedRegion

structure InvocationMappedInput where
  producerId : AgentId := kInvalidAgentId
  reference : SharedBufferRef := {}
  region : MappedRegion := {}

/-- `mapped_text` of the model handler; `none` is a read outside the mapping. -/
def mappedText (input : InvocationMappedInput) : Option StdString :=
  if input.reference.dataType ≠ SharedDataType.textUtf8 ∧
      input.reference.dataType ≠ InvocationProtocol.jsonUtf8 then some []
  else input.region.textAt input.reference.offset input.reference.length

/-- `input_text` of the tools; `none` is a read outside the mapping. -/
def inputText (input : InvocationMappedInput) : Option StdString :=
  input.region.textAt input.reference.offset input.reference.length

/-! ### Packets -/

/-- A control message: whether it is `SCM_RIGHTS`, and its whole descriptors with the
number of bytes behind them. -/
structure ControlMessage where
  rights : Bool := true
  descriptors : List Int32
  excess : Fin 4 := ⟨0, Nat.succ_pos 3⟩

/-- What a `recvmsg` that has not failed delivers. -/
structure Datagram where
  packet : List UInt8
  control : List ControlMessage := []
  truncated : Bool := false
  controlTruncated : Bool := false

/-- The loop over the control messages. -/
def gatherDescriptors : List Int32 → List ControlMessage → Except StdString (List Int32)
  | descriptors, [] => .ok descriptors
  | descriptors, header :: rest =>
      if !header.rights || header.descriptors.isEmpty then gatherDescriptors descriptors rest
      else if header.excess ≠ 0 then .error (text "malformed invocation descriptor list")
      else if kMaxInvocationInputs < descriptors.length + header.descriptors.length then
        .error (text "too many invocation descriptors")
      else gatherDescriptors (descriptors ++ header.descriptors) rest

/-- An empty packet is the end of the connection, and an error of `recvmsg` is the text
of `strerror`. -/
def receivePacket (answer : Except StdString Datagram) :
    Except StdString (List UInt8 × List Int32) :=
  match answer with
  | .error reason => .error (text "receive invocation packet failed: " ++ reason)
  | .ok datagram =>
      if datagram.packet.isEmpty then .error (text "invocation peer closed the connection")
      else
        match gatherDescriptors [] datagram.control with
        | .error message => .error message
        | .ok descriptors =>
            if datagram.truncated then .error (text "invocation packet exceeds size limit")
            else if datagram.controlTruncated then
              .error (text "invocation descriptors were truncated")
            else .ok (datagram.packet, descriptors)

/-- What is delivered.  `sendmsg` takes the whole packet or fails, for instance because the
packet is larger than the buffer of the socket; its error is the text of `strerror`. -/
def sendPacket (answer : Except StdString Unit) (packet : List UInt8)
    (descriptors : List Int32) : Except StdString (List UInt8 × List Int32) :=
  if packet.isEmpty ∨ kMaxInvocationInputs < descriptors.length then
    .error (text "invalid invocation packet attachments")
  else if ∃ descriptor ∈ descriptors, descriptor < 0 then
    .error (text "invalid invocation descriptor")
  else
    match answer with
    | .error reason => .error (text "send invocation packet failed: " ++ reason)
    | .ok _ => .ok (packet, descriptors)

/-- `std::numeric_limits<std::size_t>::max()`. -/
def kMaxSize : UInt64 := 18446744073709551615

/-! ### The server -/

/-- A connection as `handle_client` meets it. -/
structure ClientConnection where
  /-- The peer has the user id of the server. -/
  sameUser : Bool := true
  received : Except StdString Datagram
  kernel : Kernel
  /-- What `sendmsg` answers to the response. -/
  sent : Except StdString Unit := .ok ()

/-- The loop over the inputs, with the descriptors in the same order. -/
def mapInputs (kernel : Kernel) :
    List InvocationInput → List Int32 → Option (List InvocationMappedInput)
  | [], _ => some []
  | _ :: _, [] => none
  | input :: inputs, descriptor :: descriptors =>
      if input.reference.regionSize > kMaxSize then none
      else
        match MappedRegion.mapExistingReadOnly kernel descriptor input.reference.regionSize
            input.reference.regionId with
        | .error _ => none
        | .ok region =>
            (mapInputs kernel inputs descriptors).map fun mapped =>
              { producerId := input.producerId
                reference := input.reference
                region := region } :: mapped

/-- What the handler is called with, if it is called. -/
def handlerArguments (connection : ClientConnection) :
    Option (InvocationRequest × List InvocationMappedInput) :=
  if !connection.sameUser then none
  else
    match receivePacket connection.received with
    | .error _ => none
    | .ok (packet, descriptors) =>
        match InvocationProtocol.decodeInvocationRequest packet {} with
        | .error _ => none
        | .ok request =>
            if descriptors.length ≠ request.inputs.length then none
            else
              (mapInputs connection.kernel request.inputs descriptors).map fun inputs =>
                (request, inputs)

structure InvocationHandlerResult where
  status : InvocationStatus := ⟨0⟩
  message : StdString := []
  processId : Int64 := -1
  contextId : ContextId := kInvalidContextId
  metrics : AgentPerformanceMetrics := {}
  output : MappedRegion := {}
  outputLength : UInt64 := 0
  outputType : UInt32 := 0
  outputFlags : UInt32 := 0

/-- The exception of a handler, if it is a `std::exception`, has the text of `what`. -/
abbrev InvocationHandler :=
  InvocationRequest → List InvocationMappedInput →
    Except (Option StdString) InvocationHandlerResult

/-- The two `catch` blocks around the handler. -/
def caught : Except (Option StdString) InvocationHandlerResult → InvocationHandlerResult
  | .ok result => result
  | .error (some message) => { status := .failed, message := message }
  | .error none =>
      { status := .failed
        message := text "invocation handler raised an unknown exception" }

def outputReference (result : InvocationHandlerResult) : SharedBufferRef where
  regionId := result.output.regionId
  regionSize := result.output.size
  offset := 0
  length := result.outputLength
  dataType := result.outputType
  flags := result.outputFlags &&& ~~~sharedBufferImmutable
  version := 1

/-- The response that `handle_client` assembles. -/
def assembleResponse (serverProcess : Int64) (request : InvocationRequest)
    (result : InvocationHandlerResult) : InvocationResponse :=
  let response : InvocationResponse :=
    { agentId := request.agentId
      processId := if 0 ≤ result.processId then result.processId else serverProcess
      status := result.status
      message := result.message
      contextId := result.contextId
      metrics := result.metrics }
  if result.output.valid then
    if result.outputLength > result.output.size then
      { response with
        status := .failed
        message := text "invocation output exceeds its shared region" }
    else { response with outputAvailable := true, output := outputReference result }
  else if result.outputLength ≠ 0 then
    { response with
      status := .failed
      message := text "invocation handler returned length without output" }
  else response

/-- What is sent back; without it the connection is closed.  A response that `sendmsg` does
not take is lost, since nobody looks at the result. -/
def handleClient (serverProcess : Int64) (handler : InvocationHandler)
    (connection : ClientConnection) : Option (List UInt8 × List Int32) :=
  match handlerArguments connection with
  | none => none
  | some (request, inputs) =>
      let result := caught (handler request inputs)
      let response := assembleResponse serverProcess request result
      match InvocationProtocol.encodeInvocationResponse response with
      | .error _ => none
      | .ok packet =>
          (sendPacket connection.sent packet
            (if response.outputAvailable then [result.output.descriptor] else [])).toOption

/-! ### The client -/

structure InvocationAttachment where
  producerId : AgentId := kInvalidAgentId
  reference : SharedBufferRef := {}
  descriptor : Int32 := -1

structure InvocationCallResult where
  response : InvocationResponse
  output : MappedRegion := {}

/-- The answers that one call meets, in its order. -/
structure Exchange where
  connected : Except StdString Unit := .ok ()
  sent : Except StdString Unit := .ok ()
  awaited : Except StdString Unit := .ok ()
  received : Except StdString Datagram
  kernel : Kernel

def attachmentMatches (attachment : InvocationAttachment) (input : InvocationInput) : Bool :=
  attachment.producerId == input.producerId &&
    attachment.reference.regionId == input.reference.regionId &&
    attachment.reference.regionSize == input.reference.regionSize &&
    attachment.reference.offset == input.reference.offset &&
    attachment.reference.length == input.reference.length &&
    !decide (attachment.descriptor < 0)

/-- The output of a response that announces one, and none otherwise. -/
def mapOutput (kernel : Kernel) (response : InvocationResponse) (descriptors : List Int32) :
    Except StdString MappedRegion :=
  match descriptors with
  | descriptor :: _ =>
      if !response.outputAvailable then .ok {}
      else if response.output.regionSize > kMaxSize then
        .error (text "invocation output is too large to map")
      else
        MappedRegion.mapExisting kernel descriptor response.output.regionSize
          response.output.regionId
  | [] => .ok {}

namespace InvocationClient

def invoke (exchange : Exchange) (request : InvocationRequest)
    (attachments : List InvocationAttachment) : Except StdString InvocationCallResult := do
  ensure (request.inputs.length = attachments.length)
    (text "invocation attachment count does not match inputs")
  ensure (∀ pair ∈ attachments.zip request.inputs, attachmentMatches pair.1 pair.2 = true)
    (text "invocation attachment metadata mismatch")
  let requestPacket ← InvocationProtocol.encodeInvocationRequest request
  exchange.connected
  let _ ← sendPacket exchange.sent requestPacket
    (attachments.map InvocationAttachment.descriptor)
  exchange.awaited
  let (responsePacket, descriptors) ← receivePacket exchange.received
  let response ← InvocationProtocol.decodeInvocationResponse responsePacket {}
  ensure (response.agentId = request.agentId)
    (text "invocation response does not match request")
  ensure (response.outputAvailable = decide (descriptors.length = 1))
    (text "invocation output descriptor mismatch")
  let output ← mapOutput exchange.kernel response descriptors
  pure { response, output }

end InvocationClient

end AgentNucleus.Runtime
