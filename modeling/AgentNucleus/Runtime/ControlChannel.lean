/-
`control_channel.cpp` between the sockets and `AgentDaemon::dispatch`: both sides of a
call with the descriptors that they close, and many calls of one daemon at once.  What the
kernel answers is an input.
-/

import AgentNucleus.Runtime.AgentDaemon
import AgentNucleus.Runtime.DescriptorOwnership

set_option autoImplicit false

namespace AgentNucleus.Runtime

open AgentNucleus.Library
open AgentNucleus.Runtime.ControlProtocol
  (decodeControlRequest decodeControlResponse encodeControlRequest encodeControlResponse)

/-! ### Packets -/

/-- The padding of a control message with whole descriptors. -/
theorem noExcess : 0 < 4 := Nat.succ_pos 3

/-- `if (descriptor >= 0) close(descriptor);` -/
def closedIfOpen (descriptor : Int32) : List Int32 :=
  if 0 ≤ descriptor then [descriptor] else []

/-- What `receive_packet` leaves to its caller, and what it has closed. -/
structure ReceivedPacket where
  outcome : Except StdString (List UInt8)
  attached : Int32 := -1
  closed : List Int32 := []

/-- One control message: no more than its first descriptor is read. -/
def takeDescriptor (taken : Int32 × List Int32) (header : ControlMessage) : Int32 × List Int32 :=
  if !header.rights then taken
  else
    match header.descriptors with
    | [] => taken
    | descriptor :: _ =>
        if taken.1 < 0 then (descriptor, taken.2) else (taken.1, taken.2 ++ [descriptor])

/-- `receive_packet` of the control channel; an empty packet is the end of the connection. -/
def receiveControlPacket (answer : Except StdString Datagram) : ReceivedPacket :=
  match answer with
  | .error reason => { outcome := .error (text "recvmsg failed: " ++ reason) }
  | .ok datagram =>
      if datagram.packet.isEmpty then
        { outcome := .error (text "control peer closed the connection") }
      else
        let taken := datagram.control.foldl takeDescriptor (-1, [])
        { outcome :=
            if datagram.truncated then .error (text "control packet exceeds size limit")
            else if datagram.controlTruncated then
              .error (text "control descriptor was truncated")
            else .ok datagram.packet
          attached := taken.1
          closed := taken.2 }

/-! ### The daemon -/

/-- The request that reaches `dispatch`, or the message of the answer. -/
def acceptRequest (received : ReceivedPacket) : Except StdString ControlRequest :=
  match received.outcome.bind fun packet => decodeControlRequest packet {} with
  | .error message => .error (if message.isEmpty then text "invalid request" else message)
  | .ok request =>
      if 0 ≤ received.attached then
        .error (text "control requests must not attach descriptors")
      else .ok request

/-- The packet of a response, or of its replacement if it cannot be encoded. -/
def responsePacket (response : ControlResponse) : Option (List UInt8) :=
  match encodeControlResponse response with
  | .ok packet => some packet
  | .error message =>
      (encodeControlResponse {
        message := if message.isEmpty then text "cannot encode response" else message }).toOption

/-- The descriptor of the result handle that `dispatch` has filled. -/
def resultDescriptor (request : ControlRequest) (response : ControlResponse)
    (duplicate : Int32) : Int32 :=
  if request.operation = .result ∧ response.resultAvailable then duplicate else -1

/-- A connection of the daemon with some peer. -/
structure ControlConnection where
  /-- The peer has the effective user id of the daemon. -/
  sameUser : Bool := true
  received : Except StdString Datagram

/-- What `handle_client` sends, with the attached descriptor, and what it closes. -/
structure HandledClient where
  daemon : AgentDaemon
  /-- The request that was dispatched. -/
  asked : Option ControlRequest := none
  answer : Option (List UInt8 × Int32) := none
  closed : List Int32 := []

namespace AgentDaemon

/-- `duplicate` is what `fcntl` answers if a result is acquired. -/
def handleClient (daemon : AgentDaemon) (connection : ControlConnection) (around : Surroundings)
    (duplicate : Int32) : HandledClient :=
  if !connection.sameUser then { daemon }
  else
    let received := receiveControlPacket connection.received
    match acceptRequest received with
    | .error message =>
        { daemon
          answer := (responsePacket { message }).map fun packet => (packet, -1)
          closed := received.closed ++ closedIfOpen received.attached }
    | .ok request =>
        let (after, response) := daemon.dispatch request around
        let descriptor := resultDescriptor request response duplicate
        { daemon := after
          asked := some request
          answer := (responsePacket response).map fun packet => (packet, descriptor)
          closed := received.closed ++ closedIfOpen received.attached ++
            closedIfOpen descriptor }

end AgentDaemon

/-! ### The client -/

/-- `sizeof(address->sun_path)` -/
def kSocketPathSize : Nat := 108

def makeSocketAddress (path : StdString) : Except StdString Unit :=
  ensure (path ≠ [] ∧ path.length < kSocketPathSize)
    (text "control socket path is empty or too long")

/-- The answers that one call meets, in its order; an error is the text of the call. -/
structure ControlTransport where
  opened : Except StdString Unit := .ok ()
  connected : Except StdString Unit := .ok ()
  sent : Except StdString Unit := .ok ()
  received : Except StdString Datagram

/-- What `exchange` leaves to its caller. -/
structure Exchanged where
  outcome : Except StdString ControlResponse
  descriptor : Int32 := -1
  closed : List Int32 := []

/-- A result that was fetched. -/
structure ControlResult where
  reference : SharedBufferRef
  region : MappedRegion

structure FetchedResult where
  outcome : Except StdString ControlResult
  closed : List Int32 := []

namespace ControlClient

/-- `exchange` up to `receive_packet`. -/
def ask (socketPath : StdString) (transport : ControlTransport) (request : ControlRequest) :
    Except StdString Unit := do
  let _ ← encodeControlRequest request
  transport.opened
  makeSocketAddress socketPath
  transport.connected
  transport.sent

/-- `exchange` after `receive_packet`; a response is read into `old`. -/
def takeAnswer (received : ReceivedPacket) (old : ControlResponse) : Exchanged :=
  match received.outcome.bind fun packet => decodeControlResponse packet old with
  | .error message =>
      { outcome := .error message
        closed := received.closed ++ closedIfOpen received.attached }
  | .ok response =>
      { outcome := .ok response, descriptor := received.attached, closed := received.closed }

def exchange (socketPath : StdString) (transport : ControlTransport) (request : ControlRequest)
    (old : ControlResponse) : Exchanged :=
  match ask socketPath transport request with
  | .error message => { outcome := .error message }
  | .ok _ => takeAnswer (receiveControlPacket transport.received) old

/-- `request`, with what it closes. -/
def request (socketPath : StdString) (transport : ControlTransport) (request : ControlRequest)
    (old : ControlResponse) : Except StdString ControlResponse × List Int32 :=
  let exchanged := exchange socketPath transport request old
  (exchanged.outcome, exchanged.closed ++ closedIfOpen exchanged.descriptor)

/-- `fetch_result` after its `exchange`; the mapping keeps the descriptor if it succeeds. -/
def mapResult (kernel : Kernel) (exchanged : Exchanged) : FetchedResult :=
  match exchanged.outcome with
  | .error message => { outcome := .error message, closed := exchanged.closed }
  | .ok response =>
      if !response.success || !response.resultAvailable ||
          decide (exchanged.descriptor < 0) then
        { outcome := .error (if response.message.isEmpty then
            text "agent result is not available" else response.message)
          closed := exchanged.closed ++ closedIfOpen exchanged.descriptor }
      else if response.result.regionSize > kMaxSize then
        { outcome := .error (text "agent result is too large to map")
          closed := exchanged.closed ++ [exchanged.descriptor] }
      else
        match MappedRegion.mapExistingReadOnly kernel exchanged.descriptor
            response.result.regionSize response.result.regionId with
        | .error message =>
            { outcome := .error message
              closed := exchanged.closed ++
                (if response.result.regionSize = 0 then [] else [exchanged.descriptor]) }
        | .ok region =>
            { outcome := .ok { reference := response.result, region }
              closed := exchanged.closed }

def resultRequest (id : AgentId) : ControlRequest where
  operation := .result
  targetId := id

def fetchResult (socketPath : StdString) (transport : ControlTransport) (kernel : Kernel)
    (id : AgentId) : FetchedResult :=
  if id = kInvalidAgentId then { outcome := .error (text "invalid result request") }
  else
    mapResult kernel (exchange socketPath transport (resultRequest id) {})

end ControlClient

/-! ### Many calls -/

/-- A call of `ControlClient::request`, by what it does next. -/
inductive CallPlace where
  | connecting (packet : List UInt8)
  | sending (packet : List UInt8)
  | waiting
  | finished (outcome : Except StdString ControlResponse)

structure ControlCall where
  request : ControlRequest
  sameUser : Bool := true
  place : CallPlace
  /-- The daemon can accept the connection. -/
  connected : Bool := false
  /-- What is on its way to the daemon. -/
  sent : Option (List UInt8) := none
  /-- What the daemon has sent before it has closed the connection. -/
  answer : Option (Option (List UInt8 × Int32)) := none
  /-- How much the daemon had done when the call began. -/
  since : Nat := 0

namespace ControlCall

variable (call : ControlCall)

/-- The daemon does not wait for the packet: it is there, or the client has given up. -/
def readable : Bool :=
  call.sent.isSome ||
    match call.place with
    | .finished _ => true
    | _ => false

/-- What the daemon reads; nothing is the end of the connection. -/
def connection (failure : Option StdString) : ControlConnection where
  sameUser := call.sameUser
  received := match failure with
    | some reason => .error reason
    | none => .ok { packet := call.sent.getD [] }

/-- What the client reads, unless it has to wait.  A descriptor that finds no place is
dropped by the kernel. -/
def incoming (answer : Except StdString (Option Int32)) : Option (Except StdString Datagram) :=
  match answer with
  | .error reason => some (.error reason)
  | .ok number =>
      call.answer.map fun sent =>
        match sent with
        | none => .ok { packet := [] }
        | some (packet, attached) =>
            if attached < 0 then .ok { packet }
            else
              match number with
              | some descriptor => .ok
                  { packet
                    control := [{ descriptors := [descriptor], excess := ⟨0, noExcess⟩ }] }
              | none => .ok { packet, controlTruncated := true }

end ControlCall

/-- The daemon, what it has done in order and for which call, and all calls. -/
structure ControlSystem where
  daemon : AgentDaemon := {}
  history : List (Option Nat × AgentDaemon.Step) := []
  calls : List ControlCall := []

namespace ControlSystem

inductive Action where
  | call (request : ControlRequest) (sameUser : Bool)
  | connect (call : Nat) (answer : Except StdString Unit)
  | send (call : Nat) (answer : Except StdString Unit)
  /-- `handle_client` on the connection of a call; the reason is why `recvmsg` fails. -/
  | serve (call : Nat) (failure : Option StdString) (around : AgentDaemon.Surroundings)
      (duplicate : Int32)
  /-- `handle_client` on the connection of any other program. -/
  | foreign (connection : ControlConnection) (around : AgentDaemon.Surroundings)
      (duplicate : Int32)
  /-- `recvmsg` of the client, with the number of an attached descriptor. -/
  | receive (call : Nat) (answer : Except StdString (Option Int32))
  | worker (operation : WorkerOperation)
  /-- `publish` makes references to the whole of a region. -/
  | publish (id : AgentId) (reference : SharedBufferRef) (inside : insideRegion reference = true)
  | discard (id : AgentId)

variable (system : ControlSystem)

def setCall (call : Nat) (change : ControlCall → ControlCall) : ControlSystem :=
  { system with calls := system.calls.modify call change }

/-- The daemon does something without a request. -/
def advance (step : AgentDaemon.Step) : ControlSystem :=
  { system with
    daemon := system.daemon.step step
    history := system.history ++ [(none, step)] }

def beginCall (request : ControlRequest) (sameUser : Bool) : ControlSystem :=
  { system with
    calls := system.calls ++ [{
      request, sameUser
      place := match encodeControlRequest request with
        | .ok packet => .connecting packet
        | .error message => .finished (.error message)
      since := system.history.length }] }

def stepConnect (call : Nat) (answer : Except StdString Unit) (entry : ControlCall) :
    ControlSystem :=
  match entry.place, answer with
  | .connecting packet, .ok _ =>
      system.setCall call fun entry => { entry with place := .sending packet, connected := true }
  | .connecting _, .error message =>
      system.setCall call fun entry => { entry with place := .finished (.error message) }
  | _, _ => system

def stepSend (call : Nat) (answer : Except StdString Unit) (entry : ControlCall) :
    ControlSystem :=
  match entry.place, answer with
  | .sending packet, .ok _ =>
      system.setCall call fun entry => { entry with place := .waiting, sent := some packet }
  | .sending _, .error message =>
      system.setCall call fun entry => { entry with place := .finished (.error message) }
  | _, _ => system

/-- `handle_client`, on behalf of a call or of any other program. -/
def handle (caller : Option Nat) (connection : ControlConnection)
    (around : AgentDaemon.Surroundings) (duplicate : Int32) : ControlSystem :=
  let handled := system.daemon.handleClient connection around duplicate
  { system with
    daemon := handled.daemon
    history := system.history ++
      (handled.asked.map fun request => (caller, .dispatch request around)).toList }

def stepServe (call : Nat) (failure : Option StdString) (around : AgentDaemon.Surroundings)
    (duplicate : Int32) (entry : ControlCall) : ControlSystem :=
  if system.daemon.running && entry.connected && entry.answer.isNone &&
      (failure.isSome || entry.readable) then
    let connection := entry.connection failure
    let handled := system.daemon.handleClient connection around duplicate
    (system.handle (some call) connection around duplicate).setCall call
      fun entry => { entry with answer := some handled.answer }
  else system

def stepReceive (call : Nat) (answer : Except StdString (Option Int32)) (entry : ControlCall) :
    ControlSystem :=
  match entry.place, entry.incoming answer with
  | .waiting, some datagram =>
      system.setCall call fun entry =>
        { entry with
          place := .finished
            (ControlClient.takeAnswer (receiveControlPacket datagram) {}).outcome }
  | _, _ => system

/-- A step of one call, if there is such a call. -/
def onCall (call : Nat) (step : ControlCall → ControlSystem) : ControlSystem :=
  match system.calls[call]? with
  | none => system
  | some entry => step entry

def step : Action → ControlSystem
  | .call request sameUser => system.beginCall request sameUser
  | .connect call answer => system.onCall call (system.stepConnect call answer)
  | .send call answer => system.onCall call (system.stepSend call answer)
  | .serve call failure around duplicate =>
      system.onCall call (system.stepServe call failure around duplicate)
  | .foreign connection around duplicate =>
      if system.daemon.running then system.handle none connection around duplicate else system
  | .receive call answer => system.onCall call (system.stepReceive call answer)
  | .worker operation => system.advance (.worker operation)
  | .publish id reference _ => system.advance (.publish id reference)
  | .discard id => system.advance (.discard id)

def machine : Machine ControlSystem Action where
  initial := {}
  step := step

end ControlSystem

end AgentNucleus.Runtime
