/-
`invocation_channel.cpp` with the descriptors that it holds.  Every call of `close` is
recorded next to what `recvmsg` and the handler have brought in; the results are those of
the functions without the record.
-/

import AgentNucleus.Library.Ownership
import AgentNucleus.Runtime.ReceivedReferences

set_option autoImplicit false

namespace AgentNucleus.Runtime

open AgentNucleus.Library
open AgentNucleus.Library.Program (Triple)

/-- Nothing is asked of an environment here. -/
abbrev Owning := Program Unit (Account Int32)

/-- The loop of `close_descriptors`; the vector is empty afterwards. -/
def closeDescriptors (descriptors : List Int32) : Owning Unit :=
  Program.change (Account.close (descriptors.filter fun descriptor => decide (0 ≤ descriptor)))

/-- The destructor of a region. -/
def destroyRegion (region : MappedRegion) : Owning Unit :=
  closeDescriptors [region.descriptor]

/-! ### Receiving -/

/-- What the kernel has put into the control buffer. -/
def Datagram.delivered (datagram : Datagram) : List Int32 :=
  (datagram.control.filter ControlMessage.rights).flatMap ControlMessage.descriptors

def gatherOwned : List Int32 → List ControlMessage → Owning (Except StdString (List Int32))
  | descriptors, [] => pure (.ok descriptors)
  | descriptors, header :: rest =>
      if !header.rights || header.descriptors.isEmpty then gatherOwned descriptors rest
      else if header.excess.val ≠ 0 then do
        closeDescriptors descriptors
        pure (.error (text "malformed invocation descriptor list"))
      else if kMaxInvocationInputs < descriptors.length + header.descriptors.length then do
        closeDescriptors descriptors
        pure (.error (text "too many invocation descriptors"))
      else gatherOwned (descriptors ++ header.descriptors) rest

/-- `receive_packet`; after a failure the vector of descriptors is empty. -/
def receiveOwned (answer : Except StdString Datagram) :
    Owning (Except StdString (List UInt8 × List Int32)) :=
  match answer with
  | .error reason => pure (.error (text "receive invocation packet failed: " ++ reason))
  | .ok datagram => do
      Program.change (Account.receive datagram.delivered)
      if datagram.packet.isEmpty then
        pure (.error (text "invocation peer closed the connection"))
      else
        let gathered ← gatherOwned [] datagram.control
        match gathered with
        | .error message => pure (.error message)
        | .ok descriptors =>
            if datagram.truncated then
              closeDescriptors descriptors
              pure (.error (text "invocation packet exceeds size limit"))
            else if datagram.controlTruncated then
              closeDescriptors descriptors
              pure (.error (text "invocation descriptors were truncated"))
            else pure (.ok (datagram.packet, descriptors))

/-! ### Mapping -/

/-- `map_existing` and `map_existing_read_only`: an invalid argument closes nothing. -/
def mapOwned (kernel : Kernel) (readOnly : Bool) (operation : String) (descriptor : Int32)
    (size regionId : UInt64) : Owning (Except StdString MappedRegion) :=
  if descriptor < 0 ∨ size = 0 then pure (.error (text "invalid shared memory descriptor"))
  else if !kernel.covers descriptor size then do
    closeDescriptors [descriptor]
    pure (.error (text "shared memory descriptor is smaller than declared"))
  else
    match kernel.mapping descriptor size with
    | .error reason => do
        closeDescriptors [descriptor]
        pure (.error (text operation ++ text " failed: " ++ reason))
    | .ok _ =>
        pure (.ok {
          data := kernel.contents descriptor
          mapped := true
          size := size
          regionId := regionId
          readOnly := readOnly
          descriptor := descriptor })

/-! ### The client -/

/-- `invoke` up to the response. -/
def askBackend (exchange : Exchange) (request : InvocationRequest)
    (attachments : List InvocationAttachment) : Except StdString Unit := do
  ensure (request.inputs.length = attachments.length)
    (text "invocation attachment count does not match inputs")
  ensure (∀ pair ∈ attachments.zip request.inputs, attachmentMatches pair.1 pair.2 = true)
    (text "invocation attachment metadata mismatch")
  let requestPacket ← InvocationProtocol.encodeInvocationRequest request
  exchange.connected
  let _ ← sendPacket exchange.sent requestPacket
    (attachments.map InvocationAttachment.descriptor)
  exchange.awaited

/-- The output of the response; the vector of descriptors is given up without closing. -/
def mapOutputOwned (kernel : Kernel) (response : InvocationResponse) (descriptors : List Int32) :
    Owning (Except StdString MappedRegion) :=
  match descriptors with
  | descriptor :: rest =>
      if !response.outputAvailable then pure (.ok {})
      else if response.output.regionSize > kMaxSize then do
        closeDescriptors (descriptor :: rest)
        pure (.error (text "invocation output is too large to map"))
      else
        mapOwned kernel false "mmap" descriptor response.output.regionSize
          response.output.regionId
  | [] => pure (.ok {})

/-- The response with its descriptors. -/
def takeResponse (kernel : Kernel) (request : InvocationRequest) (packet : List UInt8)
    (descriptors : List Int32) : Owning (Except StdString InvocationCallResult) :=
  match InvocationProtocol.decodeInvocationResponse packet {} with
  | .error message => do
      closeDescriptors descriptors
      pure (.error message)
  | .ok response =>
      if response.agentId ≠ request.agentId then do
        closeDescriptors descriptors
        pure (.error (text "invocation response does not match request"))
      else if response.outputAvailable ≠ decide (descriptors.length = 1) then do
        closeDescriptors descriptors
        pure (.error (text "invocation output descriptor mismatch"))
      else do
        let output ← mapOutputOwned kernel response descriptors
        match output with
        | .error message => pure (.error message)
        | .ok output => pure (.ok { response, output })

def invokeOwned (exchange : Exchange) (request : InvocationRequest)
    (attachments : List InvocationAttachment) :
    Owning (Except StdString InvocationCallResult) :=
  match askBackend exchange request attachments with
  | .error message => pure (.error message)
  | .ok _ => do
      let received ← receiveOwned exchange.received
      match received with
      | .error message => pure (.error message)
      | .ok (packet, descriptors) => takeResponse exchange.kernel request packet descriptors

/-! ### The server -/

/-- The destructors of the mapped inputs. -/
def destroyInputs (inputs : List InvocationMappedInput) : Owning Unit :=
  closeDescriptors (inputs.map fun input => input.region.descriptor)

/-- The loop over the inputs.  A descriptor that was handed to the mapper is -1 in the
vector, and the inputs before it are destroyed on the way out. -/
def mapInputsOwned (kernel : Kernel) : List InvocationInput → List Int32 →
    List InvocationMappedInput → Owning (Option (List InvocationMappedInput))
  | [], descriptors, mapped => do
      closeDescriptors descriptors
      pure (some mapped)
  | _ :: _, [], mapped => do
      destroyInputs mapped
      pure none
  | input :: inputs, descriptor :: descriptors, mapped =>
      if input.reference.regionSize > kMaxSize then do
        closeDescriptors (descriptor :: descriptors)
        destroyInputs mapped
        pure none
      else do
        let region ← mapOwned kernel true "mmap read-only" descriptor
          input.reference.regionSize input.reference.regionId
        match region with
        | .error _ =>
            closeDescriptors descriptors
            destroyInputs mapped
            pure none
        | .ok region =>
            mapInputsOwned kernel inputs descriptors
              (mapped ++ [{
                producerId := input.producerId
                reference := input.reference
                region := region }])

/-- From the handler on; its output is a region that `handle_client` owns. -/
def answerOwned (serverProcess : Int64) (handler : InvocationHandler)
    (sent : Except StdString Unit) (request : InvocationRequest)
    (inputs : List InvocationMappedInput) :
    Owning (Option (List UInt8 × List Int32)) := do
  let result := caught (handler request inputs)
  Program.change (Account.receive
    ([result.output.descriptor].filter fun descriptor => decide (0 ≤ descriptor)))
  let response := assembleResponse serverProcess request result
  match InvocationProtocol.encodeInvocationResponse response with
  | .error _ =>
      destroyRegion result.output
      destroyInputs inputs
      pure none
  | .ok packet =>
      if response.outputAvailable then
        -- The descriptor is released from its region, sent and closed.
        let outcome := sendPacket sent packet [result.output.descriptor]
        closeDescriptors [result.output.descriptor]
        destroyInputs inputs
        pure outcome.toOption
      else
        let outcome := sendPacket sent packet []
        destroyRegion result.output
        destroyInputs inputs
        pure outcome.toOption

def handleClientOwned (serverProcess : Int64) (handler : InvocationHandler)
    (connection : ClientConnection) : Owning (Option (List UInt8 × List Int32)) :=
  if !connection.sameUser then pure none
  else do
    let received ← receiveOwned connection.received
    match received with
    | .error _ => pure none
    | .ok (packet, descriptors) =>
        match InvocationProtocol.decodeInvocationRequest packet {} with
        | .error _ =>
            closeDescriptors descriptors
            pure none
        | .ok request =>
            if descriptors.length ≠ request.inputs.length then
              closeDescriptors descriptors
              pure none
            else
              let inputs ← mapInputsOwned connection.kernel request.inputs descriptors []
              match inputs with
              | none => pure none
              | some inputs => answerOwned serverProcess handler connection.sent request inputs

/-! ### The results are those without the record -/

section Results

variable (before : Account Int32 → Prop)

private theorem anyClose (descriptors : List Int32) :
    Triple before (closeDescriptors descriptors) fun _ _ => True :=
  Triple.change fun _ _ => trivial

theorem gatherOwned_result (descriptors : List Int32) (control : List ControlMessage) :
    Triple before (gatherOwned descriptors control)
      fun gathered _ => gathered = gatherDescriptors descriptors control := by
  induction control generalizing descriptors with
  | nil => exact Triple.pure _ fun _ _ => rfl
  | cons header rest ih =>
      unfold gatherOwned gatherDescriptors
      by_cases skipped : (!header.rights || header.descriptors.isEmpty) = true
      · rw [if_pos skipped, if_pos skipped]
        exact ih descriptors
      · rw [if_neg skipped, if_neg skipped]
        have same : header.excess.val ≠ 0 ↔ header.excess ≠ 0 := Fin.val_ne_zero_iff
        by_cases malformed : header.excess ≠ 0
        · rw [if_pos (same.mpr malformed), if_pos malformed]
          exact Triple.bind (anyClose before _) fun _ => Triple.pure _ fun _ _ => rfl
        · rw [if_neg (mt same.mp malformed), if_neg malformed]
          by_cases many : kMaxInvocationInputs < descriptors.length + header.descriptors.length
          · rw [if_pos many, if_pos many]
            exact Triple.bind (anyClose before _) fun _ => Triple.pure _ fun _ _ => rfl
          · rw [if_neg many, if_neg many]
            exact ih (descriptors ++ header.descriptors)

theorem receiveOwned_result (answer : Except StdString Datagram) :
    Triple before (receiveOwned answer) fun received _ => received = receivePacket answer := by
  cases answer with
  | error reason => exact Triple.pure _ fun _ _ => rfl
  | ok datagram =>
      unfold receiveOwned receivePacket
      have delivered : Triple before
          (Program.change (Account.receive datagram.delivered) : Owning Unit)
          fun _ _ => True := Triple.change fun _ _ => trivial
      apply Triple.bind delivered
      intro nothing
      by_cases empty : datagram.packet.isEmpty = true
      · simp only [if_pos empty]
        exact Triple.pure _ fun _ _ => rfl
      · simp only [if_neg empty]
        apply Triple.bind (gatherOwned_result _ [] datagram.control)
        intro gathered
        apply Triple.from_state
        intro start same
        rw [← same]
        cases gathered with
        | error message => exact Triple.pure _ fun _ _ => rfl
        | ok descriptors =>
            by_cases cut : datagram.truncated = true
            · simp only [if_pos cut]
              exact Triple.bind (anyClose _ _) fun _ => Triple.pure _ fun _ _ => rfl
            · simp only [if_neg cut]
              by_cases lost : datagram.controlTruncated = true
              · simp only [if_pos lost]
                exact Triple.bind (anyClose _ _) fun _ => Triple.pure _ fun _ _ => rfl
              · simp only [if_neg lost]
                exact Triple.pure _ fun _ _ => rfl

theorem mapOwned_result (kernel : Kernel) (readOnly : Bool) (operation : String)
    (descriptor : Int32) (size regionId : UInt64) :
    Triple before (mapOwned kernel readOnly operation descriptor size regionId)
      fun region _ => region =
        MappedRegion.mapDescriptor kernel readOnly operation descriptor size regionId := by
  unfold mapOwned MappedRegion.mapDescriptor
  by_cases invalid : descriptor < 0 ∨ size = 0
  · rw [if_pos invalid, if_pos invalid]
    exact Triple.pure _ fun _ _ => rfl
  · rw [if_neg invalid, if_neg invalid]
    by_cases small : (!kernel.covers descriptor size) = true
    · rw [if_pos small, if_pos small]
      exact Triple.bind (anyClose before _) fun _ => Triple.pure _ fun _ _ => rfl
    · rw [if_neg small, if_neg small]
      cases kernel.mapping descriptor size with
      | error reason =>
          exact Triple.bind (anyClose before _) fun _ => Triple.pure _ fun _ _ => rfl
      | ok nothing => exact Triple.pure _ fun _ _ => rfl

theorem mapOutputOwned_result (kernel : Kernel) (response : InvocationResponse)
    (descriptors : List Int32) :
    Triple before (mapOutputOwned kernel response descriptors)
      fun output _ => output = mapOutput kernel response descriptors := by
  cases descriptors with
  | nil => exact Triple.pure _ fun _ _ => rfl
  | cons descriptor rest =>
      unfold mapOutputOwned mapOutput
      by_cases absent : (!response.outputAvailable) = true
      · simp only [if_pos absent]
        exact Triple.pure _ fun _ _ => rfl
      · simp only [if_neg absent]
        by_cases large : response.output.regionSize > kMaxSize
        · rw [if_pos large, if_pos large]
          exact Triple.bind (anyClose before _) fun _ => Triple.pure _ fun _ _ => rfl
        · rw [if_neg large, if_neg large]
          exact mapOwned_result before kernel false "mmap" descriptor _ _

/-- `invoke` from the response on. -/
def readResponse (kernel : Kernel) (request : InvocationRequest) (packet : List UInt8)
    (descriptors : List Int32) : Except StdString InvocationCallResult := do
  let response ← InvocationProtocol.decodeInvocationResponse packet {}
  ensure (response.agentId = request.agentId)
    (text "invocation response does not match request")
  ensure (response.outputAvailable = decide (descriptors.length = 1))
    (text "invocation output descriptor mismatch")
  let output ← mapOutput kernel response descriptors
  pure { response, output }

theorem invoke_eq (exchange : Exchange) (request : InvocationRequest)
    (attachments : List InvocationAttachment) :
    InvocationClient.invoke exchange request attachments =
      (askBackend exchange request attachments >>= fun _ =>
        receivePacket exchange.received >>= fun received =>
          readResponse exchange.kernel request received.1 received.2) := by
  unfold InvocationClient.invoke askBackend readResponse
  simp only [bind_assoc]

private theorem ok_bind {α β : Type} (value : α) (next : α → Except StdString β) :
    ((Except.ok value : Except StdString α) >>= next) = next value := rfl

theorem takeResponse_result (kernel : Kernel) (request : InvocationRequest)
    (packet : List UInt8) (descriptors : List Int32) :
    Triple before (takeResponse kernel request packet descriptors)
      fun outcome _ => outcome = readResponse kernel request packet descriptors := by
  unfold takeResponse readResponse
  cases InvocationProtocol.decodeInvocationResponse packet {} with
  | error message =>
      exact Triple.bind (anyClose before _) fun _ => Triple.pure _ fun _ _ => rfl
  | ok response =>
      rw [ok_bind]
      unfold ensure
      dsimp only
      by_cases other : response.agentId ≠ request.agentId
      · rw [if_pos other, if_neg other]
        exact Triple.bind (anyClose before _) fun _ => Triple.pure _ fun _ _ => rfl
      · rw [if_neg other, if_pos (not_not.mp other)]
        by_cases mismatch : response.outputAvailable ≠ decide (descriptors.length = 1)
        · rw [if_pos mismatch, if_neg mismatch]
          exact Triple.bind (anyClose before _) fun _ => Triple.pure _ fun _ _ => rfl
        · rw [if_neg mismatch, if_pos (not_not.mp mismatch)]
          apply Triple.bind (mapOutputOwned_result before kernel response descriptors)
          intro output
          apply Triple.from_state
          intro start same
          rw [← same]
          cases output with
          | error message => exact Triple.pure _ fun _ _ => rfl
          | ok region => exact Triple.pure _ fun _ _ => rfl

theorem invokeOwned_result (exchange : Exchange) (request : InvocationRequest)
    (attachments : List InvocationAttachment) :
    Triple before (invokeOwned exchange request attachments)
      fun outcome _ => outcome = InvocationClient.invoke exchange request attachments := by
  rw [invoke_eq]
  unfold invokeOwned
  cases askBackend exchange request attachments with
  | error message => exact Triple.pure _ fun _ _ => rfl
  | ok asked =>
      apply Triple.bind (receiveOwned_result before exchange.received)
      intro received
      apply Triple.from_state
      intro start same
      rw [← same]
      cases received with
      | error message => exact Triple.pure _ fun _ _ => rfl
      | ok delivered => exact takeResponse_result _ exchange.kernel request delivered.1 delivered.2

end Results

end AgentNucleus.Runtime
