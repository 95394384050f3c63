/-
What a call over the control channel comes to.  The daemon and the client close every
descriptor that they have received, as long as no message brings two; a call that is
answered took effect once, while it was going on; and a result that is fetched is the one
that was published.
-/

import AgentNucleus.Runtime.ControlChannel
import AgentNucleus.Runtime.ControlRoundTrip
import AgentNucleus.Runtime.PublishedResults

set_option autoImplicit false

namespace AgentNucleus.Runtime

open AgentNucleus.Library
open AgentNucleus.Runtime.ControlProtocol
  (decodeControlRequest decodeControlResponse encodeControlRequest encodeControlResponse)

/-! ### Descriptors -/

/-- What `receive_packet` sees of the descriptors of one message. -/
def ControlMessage.first (header : ControlMessage) : List Int32 :=
  if header.rights then header.descriptors.take 1 else []

theorem closedIfOpen_minus : closedIfOpen (-1) = [] := rfl

theorem closedIfOpen_of_valid {descriptor : Int32} (valid : 0 ≤ descriptor) :
    closedIfOpen descriptor = [descriptor] := if_pos valid

/-- Descriptors from the kernel. -/
def ControlMessage.Valid (header : ControlMessage) : Prop :=
  ∀ descriptor ∈ header.descriptors, 0 ≤ descriptor

theorem takeDescriptor_spec (taken : Int32 × List Int32) {header : ControlMessage}
    (valid : header.Valid) :
    ((takeDescriptor taken header).2 ++ closedIfOpen (takeDescriptor taken header).1).Perm
      (taken.2 ++ closedIfOpen taken.1 ++ header.first) := by
  unfold takeDescriptor ControlMessage.first
  cases rights : header.rights with
  | false => simp
  | true =>
      cases present : header.descriptors with
      | nil => simp
      | cons descriptor rest =>
          have positive : 0 ≤ descriptor := valid descriptor (by rw [present]; simp)
          by_cases open_ : taken.1 < 0
          · have closed : closedIfOpen taken.1 = [] := if_neg (Int32.not_le.mpr open_)
            simp [open_, closed, closedIfOpen_of_valid positive]
          · simp only [Bool.not_true, Bool.false_eq_true, if_false, if_neg open_, if_true,
              List.take_succ_cons, List.take_zero]
            rw [List.append_assoc, List.append_assoc]
            exact List.perm_append_comm.append_left taken.2

theorem gatherControl_spec (taken : Int32 × List Int32) (control : List ControlMessage)
    (valid : ∀ header ∈ control, header.Valid) :
    ((control.foldl takeDescriptor taken).2 ++
        closedIfOpen (control.foldl takeDescriptor taken).1).Perm
      (taken.2 ++ closedIfOpen taken.1 ++ control.flatMap ControlMessage.first) := by
  induction control generalizing taken with
  | nil => simp
  | cons header rest ih =>
      obtain ⟨mine, others⟩ := List.forall_mem_cons.mp valid
      have later := ih (takeDescriptor taken header) others
      have now := takeDescriptor_spec taken mine
      rw [List.foldl_cons, List.flatMap_cons, ← List.append_assoc]
      exact later.trans (now.append_right _)

/-- All but the first descriptor of each message are forgotten. -/
def ControlMessage.forgotten (header : ControlMessage) : List Int32 :=
  if header.rights then header.descriptors.drop 1 else []

theorem delivered_split (control : List ControlMessage) :
    ((control.filter ControlMessage.rights).flatMap ControlMessage.descriptors).Perm
      (control.flatMap ControlMessage.first ++ control.flatMap ControlMessage.forgotten) := by
  induction control with
  | nil => exact List.Perm.refl _
  | cons header rest ih =>
      rw [List.flatMap_cons, List.flatMap_cons]
      unfold ControlMessage.first ControlMessage.forgotten
      cases rights : header.rights with
      | false =>
          rw [List.filter_cons_of_neg (by simp [rights])]
          exact ih
      | true =>
          rw [List.filter_cons_of_pos rights, List.flatMap_cons]
          simp only [if_true]
          have moved : ∀ first forgotten later later' : List Int32,
              ((first ++ forgotten) ++ (later ++ later')).Perm
                ((first ++ later) ++ (forgotten ++ later')) := by
            intro first forgotten later later'
            rw [List.append_assoc, List.append_assoc, ← List.append_assoc forgotten,
              ← List.append_assoc later]
            exact (List.perm_append_comm.append_right later').append_left first
          have all := moved (header.descriptors.take 1) (header.descriptors.drop 1)
            (rest.flatMap ControlMessage.first) (rest.flatMap ControlMessage.forgotten)
          rw [List.take_append_drop] at all
          exact (ih.append_left header.descriptors).trans all

namespace Datagram

variable {datagram : Datagram}

/-- The kernel has opened these descriptors, and nobody closes them. -/
def forgotten (datagram : Datagram) : List Int32 :=
  if datagram.packet.isEmpty then datagram.delivered
  else datagram.control.flatMap ControlMessage.forgotten

/-- The end of the connection brings no descriptor, and a message one at most. -/
def Single (datagram : Datagram) : Prop :=
  (datagram.packet = [] → datagram.delivered = []) ∧
    (datagram.packet ≠ [] → ∀ header ∈ datagram.control, header.rights = true →
      header.descriptors.length ≤ 1)

theorem forgotten_nil_iff : datagram.forgotten = [] ↔ datagram.Single := by
  unfold forgotten Single
  by_cases empty : datagram.packet = []
  · simp [empty]
  · have each : ∀ header : ControlMessage, header.forgotten = [] ↔
        (header.rights = true → header.descriptors.length ≤ 1) := by
      intro header
      unfold ControlMessage.forgotten
      cases header.rights with
      | false => simp
      | true => simp only [if_true, List.drop_eq_nil_iff, forall_const]
    have present : datagram.packet.isEmpty = false := by simpa using empty
    rw [present]
    simp only [Bool.false_eq_true, if_false, List.flatMap_eq_nil_iff, each]
    simp [empty]

theorem receiveControl_spec (valid : ∀ header ∈ datagram.control, header.Valid) :
    ((receiveControlPacket (.ok datagram)).closed ++
        closedIfOpen (receiveControlPacket (.ok datagram)).attached ++
          datagram.forgotten).Perm datagram.delivered := by
  unfold receiveControlPacket forgotten
  cases empty : datagram.packet.isEmpty with
  | true =>
      simp only [empty, if_true]
      exact List.Perm.refl _
  | false =>
      have gathered := gatherControl_spec (-1, []) datagram.control valid
      rw [closedIfOpen_minus, List.append_nil, List.nil_append] at gathered
      simp only [empty, Bool.false_eq_true, if_false]
      exact (gathered.append_right _).trans (delivered_split datagram.control).symm

end Datagram

/-- The part of `kept` is all exactly if the other one is empty. -/
theorem perm_left_iff {kept lost all : List Int32} (whole : (kept ++ lost).Perm all) :
    kept.Perm all ↔ lost = [] := by
  have lengths := whole.length_eq
  rw [List.length_append] at lengths
  constructor
  · intro same
    have equal := same.length_eq
    exact List.length_eq_zero_iff.mp (by omega)
  · intro nothing
    rw [nothing, List.append_nil] at whole
    exact whole

/-- What `dispatch` has brought in. -/
def HandledClient.acquired (handled : HandledClient) : List Int32 :=
  match handled.answer with
  | none => []
  | some (_, descriptor) => closedIfOpen descriptor

/-! ### Answers of the daemon -/

namespace ControlProtocol

/-- A message that fits into a response. -/
def Short (message : StdString) : Prop :=
  message ≠ [] ∧ message.length ≤ kMaxStringSize

theorem protocol_short : Short protocol.stringError ∧ Short protocol.roomError ∧
    Short protocol.messageError := by
  unfold Short
  decide

theorem writeString_complains (value : StdString) :
    ByteWriter.Complains Short (writeString protocol value) := by
  intro output message failed
  unfold writeString at failed
  split at failed
  · cases failed
    exact protocol_short.1
  · split at failed
    · cases failed
      exact protocol_short.2.1
    · cases failed

theorem encodeMetrics_complains (metrics : AgentPerformanceMetrics) :
    ByteWriter.Complains Short (encodeMetrics metrics) :=
  (ByteWriter.Complains.put _).andThen ((ByteWriter.Complains.put _).andThen
    ((ByteWriter.Complains.put _).andThen ((ByteWriter.Complains.put _).andThen
      ((ByteWriter.Complains.put _).andThen ((ByteWriter.Complains.put _).andThen
        (ByteWriter.Complains.put _))))))

theorem encodeAgent_complains (agent : ControlAgentInfo) :
    ByteWriter.Complains Short (encodeAgent agent) :=
  (ByteWriter.Complains.put _).andThen ((ByteWriter.Complains.put _).andThen
    ((ByteWriter.Complains.put _).andThen ((ByteWriter.Complains.put _).andThen
      ((ByteWriter.Complains.put _).andThen ((ByteWriter.Complains.put _).andThen
        ((ByteWriter.Complains.put _).andThen ((encodeMetrics_complains _).andThen
          ((writeString_complains _).andThen ((writeString_complains _).andThen
            (writeString_complains _))))))))))

theorem encodeOptionalReference_complains (available : Bool) (reference : SharedBufferRef) :
    ByteWriter.Complains Short (encodeOptionalReference available reference) := by
  cases available with
  | false => exact ByteWriter.Complains.nothing
  | true =>
      exact (ByteWriter.Complains.put _).andThen ((ByteWriter.Complains.put _).andThen
        ((ByteWriter.Complains.put _).andThen ((ByteWriter.Complains.put _).andThen
          ((ByteWriter.Complains.put _).andThen ((ByteWriter.Complains.put _).andThen
            (ByteWriter.Complains.put _))))))

theorem encodeHeader_complains (messageType : UInt16) :
    ByteWriter.Complains Short (encodeHeader protocol messageType) :=
  (ByteWriter.Complains.put _).andThen ((ByteWriter.Complains.put _).andThen
    ((ByteWriter.Complains.put _).andThen (ByteWriter.Complains.put _)))

theorem writeResponse_complains (response : ControlResponse) :
    ByteWriter.Complains Short (writeResponse response) :=
  (ByteWriter.Complains.put _).andThen ((writeString_complains _).andThen
    (((ByteWriter.Complains.put _).andThen
      (ByteWriter.Complains.each _ encodeAgent_complains _)).andThen
        ((ByteWriter.Complains.put _).andThen (encodeOptionalReference_complains _ _))))

theorem encodeControlResponse_short {response : ControlResponse} {message : StdString}
    (failed : encodeControlResponse response = .error message) : Short message := by
  unfold encodeControlResponse at failed
  by_cases few : response.agents.length ≤ kMaxCollectionElements
  · unfold ensure at failed
    rw [if_pos few] at failed
    change buildMessage protocol _ _ = _ at failed
    unfold buildMessage at failed
    have whole := (encodeHeader_complains ControlOperation.ping.code).andThen
      (writeResponse_complains response)
    cases written : (do encodeHeader protocol ControlOperation.ping.code; writeResponse response :
        ByteWriter StdString Unit) [] with
    | error problem =>
        rw [written] at failed
        cases failed
        exact whole [] message written
    | ok output =>
        rw [written] at failed
        change finishMessage protocol output.2 = _ at failed
        unfold finishMessage at failed
        split at failed
        · cases failed
          exact protocol_short.2.2
        · cases failed
  · unfold ensure at failed
    rw [if_neg few] at failed
    cases failed
    unfold Short
    decide

/-- A short message alone can always be sent. -/
theorem encodeMessage (message : StdString) (short : message.length ≤ kMaxStringSize) :
    ∃ packet, encodeControlResponse { message } = .ok packet := by
  refine ⟨_, (encodeControlResponse_iff _ _).mpr
    ⟨⟨short, Nat.zero_le _, List.forall_mem_nil _⟩, rfl, ?_⟩⟩
  rw [length_frame]
  unfold responseBytes collectionBytes optionalReferenceBytes bytes8 bytes32
  simp only [List.length_append, length_littleEndian, length_lengthPrefixed, List.flatMap_nil,
    List.length_nil, Bool.false_eq_true, if_false]
  unfold kMaxStringSize at short
  unfold kMaxControlMessageSize
  omega

end ControlProtocol

/-- What a client reads of a response: a replacement if it cannot be encoded. -/
def conveyed (response : ControlResponse) : ControlResponse :=
  match encodeControlResponse response with
  | .ok _ => ControlProtocol.compared response
  | .error message => { message }

theorem decode_encoded {response old : ControlResponse} {packet : List UInt8}
    (encoded : encodeControlResponse response = .ok packet)
    (inside : response.resultAvailable = true → insideRegion response.result = true) :
    decodeControlResponse packet old = .ok (ControlProtocol.compared response) := by
  obtain ⟨fits, framed, bounded⟩ :=
    (ControlProtocol.encodeControlResponse_iff response packet).mp encoded
  rw [ControlProtocol.decodeControlResponse_iff]
  cases available : response.resultAvailable with
  | true =>
      have same : ControlProtocol.compared response = response := if_pos available
      rw [same]
      refine ⟨⟨fits, inside, ?_⟩, ⟨.ping, framed⟩, bounded⟩
      intro missing
      cases available.symm.trans missing
  | false =>
      have same : ControlProtocol.compared response = { response with result := {} } :=
        if_neg (by rw [available]; exact Bool.false_ne_true)
      have bytes : ControlProtocol.responseBytes { response with result := {} } =
          ControlProtocol.responseBytes response := by
        unfold ControlProtocol.responseBytes optionalReferenceBytes
        simp only [available, Bool.false_eq_true, if_false]
      rw [same, bytes]
      refine ⟨⟨⟨fits.message, fits.few, fits.agents⟩, ?_, fun _ => rfl⟩, ⟨.ping, framed⟩, bounded⟩
      intro present
      cases available.symm.trans present

/-- The daemon has an answer to everything, and the client reads it. -/
theorem responsePacket_conveys {response : ControlResponse}
    (inside : response.resultAvailable = true → insideRegion response.result = true) :
    ∃ packet, responsePacket response = some packet ∧ packet ≠ [] ∧
      ∀ old, decodeControlResponse packet old = .ok (conveyed response) := by
  have framed : ∀ {other : ControlResponse} {packet : List UInt8},
      encodeControlResponse other = .ok packet → packet ≠ [] := by
    intro other packet encoded empty
    obtain ⟨_, layout, _⟩ := (ControlProtocol.encodeControlResponse_iff other packet).mp encoded
    have size := congrArg List.length layout
    rw [empty, length_frame, List.length_nil] at size
    omega
  unfold responsePacket conveyed
  cases encoded : encodeControlResponse response with
  | ok packet => exact ⟨packet, rfl, framed encoded, fun old => decode_encoded encoded inside⟩
  | error message =>
      obtain ⟨present, short⟩ := ControlProtocol.encodeControlResponse_short encoded
      have nonempty : message.isEmpty = false := by simpa using present
      obtain ⟨packet, replaced⟩ := ControlProtocol.encodeMessage message short
      have unavailable : (({ message } : ControlResponse).resultAvailable = true) →
          insideRegion ({ message } : ControlResponse).result = true := nofun
      have same : ControlProtocol.compared { message } = { message } := rfl
      refine ⟨packet, ?_, framed replaced, ?_⟩
      · simp only [nonempty, Bool.false_eq_true, if_false, replaced]
        rfl
      · intro old
        rw [decode_encoded replaced unavailable, same]

/-! ### Both sides close what they receive -/

theorem responsePacket_isSome (response : ControlResponse) :
    ∃ packet, responsePacket response = some packet := by
  unfold responsePacket
  cases encoded : encodeControlResponse response with
  | ok packet => exact ⟨packet, rfl⟩
  | error message =>
      obtain ⟨present, short⟩ := ControlProtocol.encodeControlResponse_short encoded
      have nonempty : message.isEmpty = false := by simpa using present
      obtain ⟨packet, replaced⟩ := ControlProtocol.encodeMessage message short
      exact ⟨packet, by simp only [nonempty, Bool.false_eq_true, if_false, replaced]; rfl⟩

/-- What a fetched result holds. -/
def FetchedResult.held (fetched : FetchedResult) : List Int32 :=
  match fetched.outcome with
  | .error _ => []
  | .ok result => [result.region.descriptor]

variable {datagram : Datagram}

theorem handleClient_closes (daemon : AgentDaemon) (around : AgentDaemon.Surroundings)
    (duplicate : Int32) (valid : ∀ header ∈ datagram.control, header.Valid) :
    ((daemon.handleClient { received := .ok datagram } around duplicate).closed ++
        datagram.forgotten).Perm
      (datagram.delivered ++
        (daemon.handleClient { received := .ok datagram } around duplicate).acquired) := by
  have received := Datagram.receiveControl_spec valid
  unfold AgentDaemon.handleClient HandledClient.acquired
  simp only [Bool.not_true, Bool.false_eq_true, if_false]
  generalize receiveControlPacket (.ok datagram) = packet at received ⊢
  cases acceptRequest packet with
  | error message =>
      obtain ⟨answer, sent⟩ := responsePacket_isSome { message }
      simp only [sent, Option.map_some, closedIfOpen_minus, List.append_nil]
      exact received
  | ok request =>
      dsimp only
      obtain ⟨answer, sent⟩ := responsePacket_isSome (daemon.dispatch request around).2
      simp only [sent, Option.map_some]
      generalize resultDescriptor request (daemon.dispatch request around).2 duplicate = descriptor
      refine List.Perm.trans ?_ (received.append_right (closedIfOpen descriptor))
      simp only [List.append_assoc]
      exact (List.perm_append_comm.append_left _).append_left _

theorem mapResult_closes (kernel : Kernel) (old : ControlResponse)
    (valid : ∀ header ∈ datagram.control, header.Valid) :
    ((ControlClient.mapResult kernel
          (ControlClient.takeAnswer (receiveControlPacket (.ok datagram)) old)).closed ++
        (ControlClient.mapResult kernel
          (ControlClient.takeAnswer (receiveControlPacket (.ok datagram)) old)).held ++
      datagram.forgotten).Perm datagram.delivered := by
  have received := Datagram.receiveControl_spec valid
  generalize receiveControlPacket (.ok datagram) = packet at received ⊢
  unfold ControlClient.takeAnswer
  cases taken : packet.outcome.bind fun bytes => decodeControlResponse bytes old with
  | error message =>
      simp only [ControlClient.mapResult, FetchedResult.held, List.append_nil]
      exact received
  | ok response =>
      simp only [ControlClient.mapResult]
      by_cases missing : (!response.success || !response.resultAvailable ||
          decide (packet.attached < 0)) = true
      · simp only [if_pos missing, FetchedResult.held, List.append_nil]
        exact received
      · rw [if_neg missing]
        simp only [Bool.or_eq_true, Bool.not_eq_true', decide_eq_true_eq, not_or,
          Bool.not_eq_false] at missing
        obtain ⟨⟨_, available⟩, nonnegative⟩ := missing
        have positive : 0 ≤ packet.attached := Int32.not_lt.mp nonnegative
        rw [closedIfOpen_of_valid positive] at received
        by_cases large : response.result.regionSize > kMaxSize
        · simp only [if_pos large, FetchedResult.held, List.append_nil]
          exact received
        · rw [if_neg large]
          have sized : response.result.regionSize ≠ 0 := by
            obtain ⟨bytes, _, decoded⟩ := (bind_ok_iff packet.outcome
              (fun bytes => decodeControlResponse bytes old) response).mp taken
            have inside := ((ControlProtocol.decodeControlResponse_iff bytes old response).mp
              decoded).1.2.1 available
            unfold insideRegion at inside
            simp only [Bool.and_eq_true, bne_iff_ne] at inside
            exact inside.1.1.2
          cases mapped : MappedRegion.mapExistingReadOnly kernel packet.attached
              response.result.regionSize response.result.regionId with
          | error message =>
              simp only [if_neg sized, FetchedResult.held, List.append_nil]
              exact received
          | ok region =>
              have same : region.descriptor = packet.attached := by
                unfold MappedRegion.mapExistingReadOnly at mapped
                exact (mapDescriptor_ok mapped).source
              simp only [FetchedResult.held, same]
              exact received

theorem fetchResult_received {socketPath : StdString} {transport : ControlTransport}
    (kernel : Kernel) {id : AgentId} (known : id ≠ kInvalidAgentId)
    (asked : ControlClient.ask socketPath transport (ControlClient.resultRequest id) = .ok ())
    (received : transport.received = .ok datagram) :
    ControlClient.fetchResult socketPath transport kernel id =
      ControlClient.mapResult kernel
        (ControlClient.takeAnswer (receiveControlPacket (.ok datagram)) {}) := by
  unfold ControlClient.fetchResult ControlClient.exchange
  rw [if_neg known, asked, received]

/-- The daemon, whatever it is asked, and a client that fetches a result close or keep all
descriptors of a packet exactly if no message of it brings more than one. -/
theorem control_descriptors_iff (datagram : Datagram)
    (valid : ∀ header ∈ datagram.control, header.Valid) :
    (∀ (daemon : AgentDaemon) (around : AgentDaemon.Surroundings) (duplicate : Int32),
      (daemon.handleClient { received := .ok datagram } around duplicate).closed.Perm
          (datagram.delivered ++
            (daemon.handleClient { received := .ok datagram } around duplicate).acquired) ↔
        datagram.Single) ∧
    ∀ (socketPath : StdString) (transport : ControlTransport) (kernel : Kernel) (id : AgentId),
      id ≠ kInvalidAgentId →
      ControlClient.ask socketPath transport (ControlClient.resultRequest id) = .ok () →
      transport.received = .ok datagram →
        (((ControlClient.fetchResult socketPath transport kernel id).closed ++
            (ControlClient.fetchResult socketPath transport kernel id).held).Perm
              datagram.delivered ↔ datagram.Single) := by
  constructor
  · intro daemon around duplicate
    rw [← Datagram.forgotten_nil_iff]
    exact perm_left_iff (handleClient_closes daemon around duplicate valid)
  · intro socketPath transport kernel id known asked received
    rw [fetchResult_received kernel known asked received, ← Datagram.forgotten_nil_iff]
    exact perm_left_iff (mapResult_closes kernel {} valid)

/-- A request with two descriptors in one message; the second one stays open. -/
def twoAttached : Datagram where
  packet := [0]
  control := [{ descriptors := [5, 6], excess := ⟨0, noExcess⟩ }]

/-- The daemon that has just started is asked. -/
def handledTwo : HandledClient :=
  AgentDaemon.handleClient {} { received := .ok twoAttached } { order := .asStored } (-1)

theorem control_descriptors_two :
    ¬handledTwo.closed.Perm (twoAttached.delivered ++ handledTwo.acquired) := by
  have valid : ∀ header ∈ twoAttached.control, header.Valid := by
    intro header member
    cases member with
    | head =>
        intro descriptor among
        have one : descriptor = 5 ∨ descriptor = 6 := by simpa using among
        rcases one with rfl | rfl
        · decide
        · decide
    | tail _ member => cases member
  intro closed
  have single := ((control_descriptors_iff twoAttached valid).1 {} { order := .asStored }
    (-1)).mp closed
  have few := single.2 (by decide) _ List.mem_cons_self rfl
  revert few
  decide

/-! ### What the daemon does for a call -/

/-- Every result of the store lies inside its region. -/
def AgentDaemon.Inside (daemon : AgentDaemon) : Prop :=
  ∀ id reference, daemon.results.lookup id = some reference → insideRegion reference = true

namespace AgentDaemon

variable {daemon : AgentDaemon}

theorem Inside.erase (inside : daemon.Inside) (id : AgentId) :
    ({ daemon with results := daemon.results.erase id } : AgentDaemon).Inside := by
  intro other reference found
  by_cases same : other = id
  · rw [same] at found
    cases (AList.lookup_erase id daemon.results).symm.trans found
  · exact inside other reference ((AList.lookup_erase_ne same).symm.trans found)

theorem Inside.insert (inside : daemon.Inside) (id : AgentId) {reference : SharedBufferRef}
    (fits : insideRegion reference = true) :
    ({ daemon with results := daemon.results.insert id reference } : AgentDaemon).Inside := by
  intro other found present
  by_cases same : other = id
  · rw [same] at present
    cases (AList.lookup_insert daemon.results).symm.trans present
    exact fits
  · exact inside other found ((AList.lookup_insert_ne same).symm.trans present)

theorem status_unavailable (id : AgentId) : (daemon.status id).resultAvailable = false := by
  unfold AgentDaemon.status
  split
  · rfl
  · rfl

theorem Inside.result (inside : daemon.Inside) (id : AgentId)
    (duplicateError : Option StdString) :
    (daemon.result id duplicateError).resultAvailable = true →
      insideRegion (daemon.result id duplicateError).result = true := by
  unfold AgentDaemon.result
  split
  · exact nofun
  · next reference found =>
      split
      · exact nofun
      · exact fun _ => inside _ reference found

theorem Inside.dispatch (inside : daemon.Inside) (request : ControlRequest)
    (around : Surroundings) :
    (daemon.dispatch request around).1.Inside ∧
      ((daemon.dispatch request around).2.resultAvailable = true →
        insideRegion (daemon.dispatch request around).2.result = true) := by
  unfold AgentDaemon.dispatch
  cases request.operation with
  | ping => exact ⟨inside, nofun⟩
  | submit => exact ⟨inside, nofun⟩
  | spawn => exact ⟨inside, nofun⟩
  | status =>
      refine ⟨inside, fun available => ?_⟩
      cases (status_unavailable request.targetId).symm.trans available
  | list => exact ⟨inside, nofun⟩
  | cancel => exact ⟨inside, nofun⟩
  | shutdown => exact ⟨inside, nofun⟩
  | result => exact ⟨inside, inside.result request.targetId around.duplicateError⟩
  | releaseResult =>
      change (daemon.releaseResult request.targetId).1.Inside ∧
        ((daemon.releaseResult request.targetId).2.resultAvailable = true → _)
      unfold AgentDaemon.releaseResult
      split
      · refine ⟨inside.erase _, fun available => ?_⟩
        cases available
      · refine ⟨inside, fun available => ?_⟩
        cases available

end AgentDaemon

theorem acceptRequest_error {received : ReceivedPacket} {message : StdString}
    (refused : acceptRequest received = .error message) : message ≠ [] := by
  unfold acceptRequest at refused
  split at refused
  · next problem _ =>
      cases refused
      by_cases empty : problem.isEmpty = true
      · rw [if_pos empty]
        decide
      · rw [if_neg empty]
        simpa using empty
  · split at refused
    · cases refused
      decide
    · cases refused

/-- A client is answered with a refusal, or its request is dispatched. -/
theorem handleClient_cases (daemon : AgentDaemon) (connection : ControlConnection)
    (around : AgentDaemon.Surroundings) (duplicate : Int32) (handled : HandledClient)
    (same : daemon.handleClient connection around duplicate = handled) :
    (handled.asked = none ∧ handled.daemon = daemon ∧
      ∀ packet descriptor, handled.answer = some (packet, descriptor) →
        ∃ message : StdString, message ≠ [] ∧ responsePacket { message } = some packet) ∨
    ∃ request packet descriptor,
      acceptRequest (receiveControlPacket connection.received) = .ok request ∧
        handled.asked = some request ∧ handled.daemon = (daemon.dispatch request around).1 ∧
          handled.answer = some (packet, descriptor) ∧
            responsePacket (daemon.dispatch request around).2 = some packet := by
  subst same
  unfold AgentDaemon.handleClient
  cases connection.sameUser with
  | false => exact .inl ⟨rfl, rfl, nofun⟩
  | true =>
      simp only [Bool.not_true, Bool.false_eq_true, if_false]
      cases accepted : acceptRequest (receiveControlPacket connection.received) with
      | error message =>
          refine .inl ⟨rfl, rfl, ?_⟩
          intro packet descriptor answered
          obtain ⟨sent, encoded, pair⟩ := Option.map_eq_some_iff.mp answered
          cases pair
          exact ⟨message, acceptRequest_error accepted, encoded⟩
      | ok request =>
          obtain ⟨packet, encoded⟩ := responsePacket_isSome (daemon.dispatch request around).2
          refine .inr ⟨request, packet,
            resultDescriptor request (daemon.dispatch request around).2 duplicate, rfl, rfl, rfl,
            ?_, encoded⟩
          dsimp only
          rw [encoded, Option.map_some]

/-- The daemon reads the request that the client has encoded. -/
theorem acceptRequest_sent {packet : List UInt8} {request other : ControlRequest}
    (encoded : encodeControlRequest request = .ok packet)
    (accepted : acceptRequest (receiveControlPacket (.ok { packet })) = .ok other) :
    other = request := by
  obtain ⟨sendable, framed⟩ := (ControlProtocol.encodeControlRequest_iff request packet).mp encoded
  have decoded : decodeControlRequest packet {} = .ok request :=
    (ControlProtocol.decodeControlRequest_iff packet {} request).mpr ⟨sendable.1, framed⟩
  unfold acceptRequest receiveControlPacket at accepted
  cases empty : packet.isEmpty with
  | true =>
      simp only [empty, if_true] at accepted
      cases accepted
  | false =>
      have unattached : ¬(0 : Int32) ≤ -1 := by decide
      simp only [empty, Bool.false_eq_true, if_false, List.foldl_nil, Except.bind, decoded,
        if_neg unattached] at accepted
      cases accepted
      rfl

/-! ### The order of the calls -/

abbrev DaemonHistory := List (Option Nat × AgentDaemon.Step)

/-- The daemon after the first steps. -/
def DaemonHistory.daemonAt (history : DaemonHistory) (index : Nat) : AgentDaemon :=
  AgentDaemon.machine.run ((history.take index).map Prod.snd)

/-- What the daemon answers to a request after the first steps. -/
def DaemonHistory.answerAt (history : DaemonHistory) (index : Nat) (request : ControlRequest)
    (around : AgentDaemon.Surroundings) : ControlResponse :=
  ((history.daemonAt index).dispatch request around).2

/-- A step of the daemon is what a call asks for, and its answer is on the way. -/
structure TakenAt (history : DaemonHistory) (number : Nat) (call : ControlCall) (index : Nat)
    (around : AgentDaemon.Surroundings) : Prop where
  entry : history[index]? = some (some number, .dispatch call.request around)
  later : call.since ≤ index
  inside : (history.answerAt index call.request around).resultAvailable = true →
    insideRegion (history.answerAt index call.request around).result = true
  sent : ∃ packet descriptor, call.answer = some (some (packet, descriptor)) ∧
    responsePacket (history.answerAt index call.request around) = some packet

namespace DaemonHistory

variable {history : DaemonHistory}

/-- A step is done for the call. -/
def For (history : DaemonHistory) (number index : Nat) : Prop :=
  ∃ step, history[index]? = some (some number, step)

theorem For.below {number index : Nat} (done : history.For number index) :
    index < history.length := by
  obtain ⟨step, present⟩ := done
  exact (List.getElem?_eq_some_iff.mp present).1

theorem answerAt_append (more : DaemonHistory) {index : Nat} (inside : index ≤ history.length)
    (request : ControlRequest) (around : AgentDaemon.Surroundings) :
    DaemonHistory.answerAt (history ++ more) index request around =
      history.answerAt index request around := by
  unfold answerAt daemonAt
  rw [List.take_append_of_le_length inside]

theorem for_append_none {step : AgentDaemon.Step} {number index : Nat} :
    DaemonHistory.For (history ++ [(none, step)]) number index ↔ history.For number index := by
  unfold For
  rcases Nat.lt_or_ge index history.length with below | above
  · rw [List.getElem?_append_left below]
  · have outside := List.getElem?_eq_none above
    rw [List.getElem?_append_right above, outside]
    constructor
    · intro ⟨other, present⟩
      have single := List.mem_singleton.mp (List.mem_of_getElem? present)
      cases single
    · intro ⟨other, present⟩
      cases present

theorem for_append_some {step : AgentDaemon.Step} {caller number index : Nat} :
    DaemonHistory.For (history ++ [(some caller, step)]) number index ↔
      history.For number index ∨ (number = caller ∧ index = history.length) := by
  unfold For
  rcases Nat.lt_or_ge index history.length with below | above
  · rw [List.getElem?_append_left below]
    constructor
    · exact .inl
    · intro either
      rcases either with before | ⟨_, last⟩
      · exact before
      · omega
  · have outside := List.getElem?_eq_none above
    rw [List.getElem?_append_right above, outside]
    constructor
    · intro ⟨other, present⟩
      have size := (List.getElem?_eq_some_iff.mp present).1
      have single := List.mem_singleton.mp (List.mem_of_getElem? present)
      cases single
      rw [List.length_singleton] at size
      exact .inr ⟨rfl, by omega⟩
    · intro either
      rcases either with ⟨other, impossible⟩ | ⟨same, last⟩
      · cases impossible
      · subst same last
        exact ⟨step, by simp⟩

end DaemonHistory

namespace TakenAt

variable {history : DaemonHistory} {number index : Nat} {call : ControlCall}
variable {around : AgentDaemon.Surroundings}

theorem append (taken : TakenAt history number call index around) (more : DaemonHistory) :
    TakenAt (history ++ more) number call index around := by
  have below := (List.getElem?_eq_some_iff.mp taken.entry).1
  have same := DaemonHistory.answerAt_append more (Nat.le_of_lt below) call.request around
  constructor
  · rw [List.getElem?_append_left below]
    exact taken.entry
  · exact taken.later
  · rw [same]
    exact taken.inside
  · rw [same]
    exact taken.sent

/-- Neither the place of the call nor its packet to the daemon matters. -/
theorem congr {other : ControlCall} (taken : TakenAt history number call index around)
    (request : other.request = call.request) (since : other.since = call.since)
    (answer : other.answer = call.answer) : TakenAt history number other index around := by
  constructor
  · rw [request]
    exact taken.entry
  · rw [since]
    exact taken.later
  · rw [request]
    exact taken.inside
  · rw [answer, request]
    exact taken.sent

end TakenAt

/-- What is known of one call. -/
structure CallOrdered (history : DaemonHistory) (number : Nat) (call : ControlCall) : Prop where
  connecting : ∀ packet, call.place = .connecting packet →
    encodeControlRequest call.request = .ok packet
  sending : ∀ packet, call.place = .sending packet →
    encodeControlRequest call.request = .ok packet
  sent : ∀ packet, call.sent = some packet → encodeControlRequest call.request = .ok packet
  since : call.since ≤ history.length
  /-- Every step for the call answers it. -/
  taken : ∀ index, history.For number index → ∃ around, TakenAt history number call index around
  once : ∀ index other, history.For number index → history.For number other → index = other
  /-- An answer comes from a step, or is a refusal. -/
  answered : ∀ packet descriptor, call.answer = some (some (packet, descriptor)) →
    (∃ index, history.For number index) ∨
      ∃ message : StdString, message ≠ [] ∧ responsePacket { message } = some packet
  finished : ∀ response, call.place = .finished (.ok response) →
    ∃ packet descriptor, call.answer = some (some (packet, descriptor)) ∧
      decodeControlResponse packet {} = .ok response

namespace CallOrdered

variable {history : DaemonHistory} {number : Nat} {call : ControlCall}

/-- Steps that are not done for the call. -/
theorem append (ordered : CallOrdered history number call) (more : DaemonHistory)
    (others : ∀ index, DaemonHistory.For (history ++ more) number index ↔
      history.For number index) : CallOrdered (history ++ more) number call := by
  refine ⟨ordered.connecting, ordered.sending, ordered.sent, ?_, ?_, ?_, ?_, ordered.finished⟩
  · rw [List.length_append]
    exact Nat.le_add_right_of_le ordered.since
  · intro index done
    obtain ⟨around, taken⟩ := ordered.taken index ((others index).mp done)
    exact ⟨around, taken.append more⟩
  · intro index other done done'
    exact ordered.once index other ((others index).mp done) ((others other).mp done')
  · intro packet descriptor answer
    rcases ordered.answered packet descriptor answer with ⟨index, done⟩ | refused
    · exact .inl ⟨index, (others index).mpr done⟩
    · exact .inr refused

/-- A step of the client. -/
theorem moved (ordered : CallOrdered history number call) (other : ControlCall)
    (request : other.request = call.request) (since : other.since = call.since)
    (answer : other.answer = call.answer)
    (connecting : ∀ packet, other.place = .connecting packet →
      encodeControlRequest call.request = .ok packet)
    (sending : ∀ packet, other.place = .sending packet →
      encodeControlRequest call.request = .ok packet)
    (sent : ∀ packet, other.sent = some packet → encodeControlRequest call.request = .ok packet)
    (finished : ∀ response, other.place = .finished (.ok response) →
      ∃ packet descriptor, call.answer = some (some (packet, descriptor)) ∧
        decodeControlResponse packet {} = .ok response) :
    CallOrdered history number other := by
  constructor
  · rw [request]
    exact connecting
  · rw [request]
    exact sending
  · rw [request]
    exact sent
  · rw [since]
    exact ordered.since
  · intro index done
    obtain ⟨around, taken⟩ := ordered.taken index done
    exact ⟨around, taken.congr request since answer⟩
  · exact ordered.once
  · rw [answer]
    exact ordered.answered
  · rw [answer]
    exact finished

end CallOrdered

/-- The daemon is where its steps have led, and every call is ordered among them. -/
structure ControlSystem.Ordered (system : ControlSystem) : Prop where
  state : system.daemon = AgentDaemon.machine.run (system.history.map Prod.snd)
  inside : system.daemon.Inside
  callers : ∀ number index, DaemonHistory.For system.history number index →
    number < system.calls.length
  calls : ∀ (number : Nat) (call : ControlCall), system.calls[number]? = some call →
    CallOrdered system.history number call

namespace ControlSystem

variable {system : ControlSystem} {number : Nat} {call : ControlCall}

theorem Ordered.daemonAt_end (ordered : system.Ordered) :
    DaemonHistory.daemonAt system.history system.history.length = system.daemon := by
  unfold DaemonHistory.daemonAt
  rw [List.take_length, ordered.state]

theorem daemon_snoc (ordered : system.Ordered) (caller : Option Nat) (step : AgentDaemon.Step) :
    system.daemon.step step =
      AgentDaemon.machine.run ((system.history ++ [(caller, step)]).map Prod.snd) := by
  rw [List.map_append, ordered.state]
  exact (AgentDaemon.machine.run_snoc _ step).symm

/-- One call changes without the daemon. -/
theorem Ordered.setCall (ordered : system.Ordered) (change : ControlCall → ControlCall)
    (present : system.calls[number]? = some call)
    (changed : CallOrdered system.history number (change call)) :
    (system.setCall number change).Ordered := by
  refine ⟨ordered.state, ordered.inside, ?_, ?_⟩
  · intro caller index done
    change caller < (system.calls.modify number change).length
    rw [List.length_modify]
    exact ordered.callers caller index done
  · intro other entry found
    change (system.calls.modify number change)[other]? = some entry at found
    by_cases same : number = other
    · subst same
      rw [List.getElem?_modify, present] at found
      simp only [if_true] at found
      cases found
      exact changed
    · rw [List.getElem?_modify_ne change system.calls same] at found
      exact ordered.calls other entry found

/-- The daemon does something that is not for a call. -/
theorem Ordered.extend (ordered : system.Ordered) (step : AgentDaemon.Step)
    (inside : (system.daemon.step step).Inside) (after : ControlSystem)
    (daemon : after.daemon = system.daemon.step step)
    (history : after.history = system.history ++ [(none, step)])
    (calls : after.calls = system.calls) : after.Ordered := by
  have others : ∀ caller index,
      DaemonHistory.For (system.history ++ [(none, step)]) caller index ↔
        DaemonHistory.For system.history caller index :=
    fun _ _ => DaemonHistory.for_append_none
  refine ⟨?_, ?_, ?_, ?_⟩
  · rw [daemon, history]
    exact daemon_snoc ordered none step
  · rw [daemon]
    exact inside
  · intro caller index done
    rw [history, others] at done
    rw [calls]
    exact ordered.callers caller index done
  · intro caller entry found
    rw [calls] at found
    rw [history]
    exact (ordered.calls caller entry found).append _ (others caller)

theorem Ordered.beginCall (ordered : system.Ordered) (request : ControlRequest)
    (sameUser : Bool) : (system.beginCall request sameUser).Ordered := by
  refine ⟨ordered.state, ordered.inside, ?_, ?_⟩
  · intro caller index done
    change caller < (system.calls ++ _).length
    rw [List.length_append]
    exact Nat.lt_add_right _ (ordered.callers caller index done)
  · intro other entry found
    change (system.calls ++ _)[other]? = some entry at found
    change CallOrdered system.history other entry
    rcases Nat.lt_or_ge other system.calls.length with below | above
    · rw [List.getElem?_append_left below] at found
      exact ordered.calls other entry found
    · rw [List.getElem?_append_right above] at found
      have new := List.mem_singleton.mp (List.mem_of_getElem? found)
      have nothing : ∀ index, ¬DaemonHistory.For system.history other index := by
        intro index done
        have below := ordered.callers other index done
        omega
      subst new
      cases encoded : encodeControlRequest request with
      | error message =>
          refine ⟨nofun, nofun, nofun, Nat.le_refl _, fun index done => absurd done (nothing index),
            fun index _ done _ => absurd done (nothing index), nofun, nofun⟩
      | ok packet =>
          refine ⟨?_, nofun, nofun, Nat.le_refl _, fun index done => absurd done (nothing index),
            fun index _ done _ => absurd done (nothing index), nofun, nofun⟩
          intro other same
          cases same
          exact encoded

theorem Ordered.stepConnect (ordered : system.Ordered) (answer : Except StdString Unit)
    (present : system.calls[number]? = some call) :
    (system.stepConnect number answer call).Ordered := by
  have known := ordered.calls number call present
  unfold ControlSystem.stepConnect
  split
  · next _ _ packet _ at_ =>
      apply ordered.setCall _ present
      refine known.moved _ rfl rfl rfl nofun ?_ known.sent nofun
      intro other same
      cases same
      exact known.connecting packet at_
  · exact ordered.setCall _ present (known.moved _ rfl rfl rfl nofun nofun known.sent nofun)
  · exact ordered

theorem Ordered.stepSend (ordered : system.Ordered) (answer : Except StdString Unit)
    (present : system.calls[number]? = some call) :
    (system.stepSend number answer call).Ordered := by
  have known := ordered.calls number call present
  unfold ControlSystem.stepSend
  split
  · next _ _ packet _ at_ =>
      apply ordered.setCall _ present
      refine known.moved _ rfl rfl rfl nofun nofun ?_ nofun
      intro other same
      cases same
      exact known.sending packet at_
  · exact ordered.setCall _ present (known.moved _ rfl rfl rfl nofun nofun known.sent nofun)
  · exact ordered

/-- The client reads what the daemon has sent. -/
theorem takeAnswer_incoming {answer : Except StdString (Option Int32)}
    {received : Except StdString Datagram} {response : ControlResponse}
    (incoming : call.incoming answer = some received)
    (taken : (ControlClient.takeAnswer (receiveControlPacket received) {}).outcome =
      .ok response) :
    ∃ packet descriptor, call.answer = some (some (packet, descriptor)) ∧
      decodeControlResponse packet {} = .ok response := by
  have decoded : ∃ packet, (receiveControlPacket received).outcome = .ok packet ∧
      decodeControlResponse packet {} = .ok response := by
    unfold ControlClient.takeAnswer at taken
    split at taken
    · cases taken
    · next accepted =>
        cases taken
        exact (bind_ok_iff _ _ _).mp accepted
  obtain ⟨packet, outcome, read⟩ := decoded
  have whole : ∀ datagram : Datagram, received = .ok datagram → packet = datagram.packet := by
    intro datagram same
    rw [same] at outcome
    unfold receiveControlPacket at outcome
    split at outcome
    · cases outcome
    · next other equal =>
        cases equal
        split at outcome
        · cases outcome
        · dsimp only at outcome
          split at outcome
          · cases outcome
          · split at outcome
            · cases outcome
            · cases outcome
              rfl
  unfold ControlCall.incoming at incoming
  cases answer with
  | error reason =>
      cases incoming
      cases outcome
  | ok number =>
      obtain ⟨sent, present, made⟩ := Option.map_eq_some_iff.mp incoming
      cases sent with
      | none =>
          subst made
          cases outcome
      | some pair =>
          obtain ⟨bytes, attached⟩ := pair
          have same : packet = bytes := by
            dsimp only at made
            split at made
            · exact whole _ made.symm
            · split at made
              · exact whole _ made.symm
              · exact whole _ made.symm
          rw [same] at read
          exact ⟨bytes, attached, present, read⟩

theorem Ordered.stepReceive (ordered : system.Ordered)
    (answer : Except StdString (Option Int32)) (present : system.calls[number]? = some call) :
    (system.stepReceive number answer call).Ordered := by
  have known := ordered.calls number call present
  unfold ControlSystem.stepReceive
  split
  · next datagram _ incoming =>
      apply ordered.setCall _ present
      refine known.moved _ rfl rfl rfl nofun nofun known.sent ?_
      intro response same
      injection same with taken
      exact takeAnswer_incoming incoming taken
  · exact ordered

/-- The request that the daemon accepts is that of the call. -/
theorem accepted_request {failure : Option StdString} {history : DaemonHistory}
    {request : ControlRequest} (known : CallOrdered history number call)
    (accepted : acceptRequest (receiveControlPacket (call.connection failure).received) =
      .ok request) : request = call.request := by
  unfold ControlCall.connection at accepted
  cases failure with
  | some reason => cases accepted
  | none =>
      cases sent : call.sent with
      | none =>
          rw [sent] at accepted
          cases accepted
      | some packet =>
          rw [sent] at accepted
          exact acceptRequest_sent (known.sent packet sent) accepted

/-- A call without an answer has not been taken up. -/
theorem untaken {history : DaemonHistory} (known : CallOrdered history number call)
    (unanswered : call.answer = none) (index : Nat) : ¬DaemonHistory.For history number index := by
  intro done
  obtain ⟨around, taken⟩ := known.taken index done
  obtain ⟨packet, descriptor, sent, _⟩ := taken.sent
  cases unanswered.symm.trans sent

theorem refused_ordered {history : DaemonHistory}
    (known : CallOrdered history number call) (unanswered : call.answer = none)
    (answer : Option (List UInt8 × Int32))
    (refusal : ∀ packet descriptor, answer = some (packet, descriptor) →
      ∃ message : StdString, message ≠ [] ∧ responsePacket { message } = some packet) :
    CallOrdered history number { call with answer := some answer } := by
  have nothing := untaken known unanswered
  refine ⟨known.connecting, known.sending, known.sent, known.since,
    fun index done => absurd done (nothing index),
    fun index _ done _ => absurd done (nothing index), ?_, ?_⟩
  · intro packet descriptor same
    injection same with same
    exact .inr (refusal packet descriptor same)
  · intro response at_
    obtain ⟨packet, descriptor, present, _⟩ := known.finished response at_
    cases unanswered.symm.trans present

theorem taken_ordered {history : DaemonHistory} (known : CallOrdered history number call)
    (unanswered : call.answer = none) (around : AgentDaemon.Surroundings) {packet : List UInt8}
    {descriptor : Int32}
    (inside : (history.answerAt history.length call.request around).resultAvailable = true →
      insideRegion (history.answerAt history.length call.request around).result = true)
    (sent : responsePacket (history.answerAt history.length call.request around) = some packet) :
    CallOrdered (history ++ [(some number, .dispatch call.request around)]) number
      { call with answer := some (some (packet, descriptor)) } := by
  have nothing := untaken known unanswered
  have only : ∀ index, DaemonHistory.For
      (history ++ [(some number, .dispatch call.request around)]) number index ↔
        index = history.length := by
    intro index
    rw [DaemonHistory.for_append_some]
    constructor
    · intro either
      rcases either with before | ⟨_, last⟩
      · exact absurd before (nothing index)
      · exact last
    · exact fun last => .inr ⟨rfl, last⟩
  have same := DaemonHistory.answerAt_append
    [(some number, AgentDaemon.Step.dispatch call.request around)] (Nat.le_refl history.length)
    call.request around
  refine ⟨known.connecting, known.sending, known.sent, ?_, ?_, ?_, ?_, ?_⟩
  · rw [List.length_append]
    exact Nat.le_add_right_of_le known.since
  · intro index done
    rw [only] at done
    subst done
    refine ⟨around, ?_, known.since, ?_, packet, descriptor, rfl, ?_⟩
    · rw [List.getElem?_append_right (Nat.le_refl _), Nat.sub_self]
      rfl
    · rw [same]
      exact inside
    · rw [same]
      exact sent
  · intro index other done done'
    rw [only] at done done'
    rw [done, done']
  · intro _ _ _
    exact .inl ⟨history.length, (only _).mpr rfl⟩
  · intro response at_
    obtain ⟨_, _, present, _⟩ := known.finished response at_
    cases unanswered.symm.trans present

/-- The daemon does what a call asks for. -/
theorem Ordered.serveCall (ordered : system.Ordered) (step : AgentDaemon.Step)
    (inside : (system.daemon.step step).Inside) {answer : Option (List UInt8 × Int32)}
    (present : system.calls[number]? = some call)
    (taken : CallOrdered (system.history ++ [(some number, step)]) number
      { call with answer := some answer }) :
    (({ system with
        daemon := system.daemon.step step
        history := system.history ++ [(some number, step)] } : ControlSystem).setCall number
      fun entry => { entry with answer := some answer }).Ordered := by
  have here := (List.getElem?_eq_some_iff.mp present).1
  refine ⟨daemon_snoc ordered (some number) step, inside, ?_, ?_⟩
  · intro caller index done
    change caller < (system.calls.modify number _).length
    rw [List.length_modify]
    rcases DaemonHistory.for_append_some.mp done with before | ⟨same, _⟩
    · exact ordered.callers caller index before
    · rw [same]
      exact here
  · intro other entry found
    change (system.calls.modify number _)[other]? = some entry at found
    by_cases same : number = other
    · subst same
      rw [List.getElem?_modify, present] at found
      simp only [if_true] at found
      cases found
      exact taken
    · rw [List.getElem?_modify_ne _ system.calls same] at found
      apply (ordered.calls other entry found).append
      intro index
      rw [DaemonHistory.for_append_some]
      constructor
      · intro either
        rcases either with before | ⟨equal, _⟩
        · exact before
        · exact absurd equal.symm same
      · exact .inl

theorem Ordered.stepServe (ordered : system.Ordered) (failure : Option StdString)
    (around : AgentDaemon.Surroundings) (duplicate : Int32)
    (present : system.calls[number]? = some call) :
    (system.stepServe number failure around duplicate call).Ordered := by
  have known := ordered.calls number call present
  unfold ControlSystem.stepServe
  split
  · next ready =>
      simp only [Bool.and_eq_true, Option.isNone_iff_eq_none] at ready
      have unanswered := ready.1.2
      dsimp only
      generalize answered : system.daemon.handleClient (call.connection failure) around duplicate =
        handled
      rcases handleClient_cases system.daemon (call.connection failure) around duplicate handled
        answered with ⟨unasked, same, refusal⟩ |
          ⟨request, packet, descriptor, accepted, asked, after, answer, sent⟩
      · have unchanged : system.handle (some number) (call.connection failure) around duplicate =
            system := by
          simp only [ControlSystem.handle, answered, unasked, same, Option.map_none,
            Option.toList_none, List.append_nil]
        rw [unchanged]
        exact ordered.setCall _ present (refused_ordered known unanswered handled.answer refusal)
      · have own := accepted_request known accepted
        subst own
        have current := ordered.daemonAt_end
        have fits := ordered.inside.dispatch call.request around
        have taken : CallOrdered
            (system.history ++ [(some number, .dispatch call.request around)]) number
              { call with answer := some (some (packet, descriptor)) } := by
          apply taken_ordered known unanswered around
          · unfold DaemonHistory.answerAt
            rw [current]
            exact fits.2
          · unfold DaemonHistory.answerAt
            rw [current]
            exact sent
        have handles : system.handle (some number) (call.connection failure) around duplicate =
            { system with
              daemon := system.daemon.step (.dispatch call.request around)
              history := system.history ++ [(some number, .dispatch call.request around)] } := by
          simp only [ControlSystem.handle, answered, asked, after, Option.map_some,
            Option.toList_some]
          rfl
        rw [handles, answer]
        exact ordered.serveCall (.dispatch call.request around) fits.1 present taken
  · exact ordered

theorem Ordered.foreign (ordered : system.Ordered) (connection : ControlConnection)
    (around : AgentDaemon.Surroundings) (duplicate : Int32) :
    (system.handle none connection around duplicate).Ordered := by
  generalize answered : system.daemon.handleClient connection around duplicate = handled
  rcases handleClient_cases system.daemon connection around duplicate handled answered with
    ⟨unasked, same, _⟩ | ⟨request, _, _, _, asked, after, _, _⟩
  · have unchanged : system.handle none connection around duplicate = system := by
      simp only [ControlSystem.handle, answered, unasked, same, Option.map_none,
        Option.toList_none, List.append_nil]
    rw [unchanged]
    exact ordered
  · apply ordered.extend (.dispatch request around) (ordered.inside.dispatch request around).1
    · simp only [ControlSystem.handle, answered, after]
      rfl
    · simp only [ControlSystem.handle, answered, asked, Option.map_some, Option.toList_some]
    · rfl

theorem Ordered.onCall (ordered : system.Ordered) (step : ControlCall → ControlSystem)
    (keeps : ∀ call, system.calls[number]? = some call → (step call).Ordered) :
    (system.onCall number step).Ordered := by
  unfold ControlSystem.onCall
  split
  · exact ordered
  · next call present => exact keeps call present

theorem Ordered.step (ordered : system.Ordered) (action : Action) :
    (system.step action).Ordered := by
  cases action with
  | call request sameUser => exact ordered.beginCall request sameUser
  | connect number answer => exact ordered.onCall _ fun _ => ordered.stepConnect answer
  | send number answer => exact ordered.onCall _ fun _ => ordered.stepSend answer
  | serve number failure around duplicate =>
      exact ordered.onCall _ fun _ => ordered.stepServe failure around duplicate
  | foreign connection around duplicate =>
      change (if system.daemon.running then system.handle none connection around duplicate
        else system).Ordered
      split
      · exact ordered.foreign connection around duplicate
      · exact ordered
  | receive number answer => exact ordered.onCall _ fun _ => ordered.stepReceive answer
  | worker operation => exact ordered.extend (.worker operation) ordered.inside _ rfl rfl rfl
  | publish id reference fits =>
      exact ordered.extend (.publish id reference) (ordered.inside.insert id fits) _ rfl rfl rfl
  | discard id => exact ordered.extend (.discard id) (ordered.inside.erase id) _ rfl rfl rfl

theorem ordered_of_reachable (system : ControlSystem) (reached : machine.Reachable system) :
    system.Ordered := by
  refine machine.reachable_invariant Ordered ?_ (fun _ action ordered => ordered.step action)
    system reached
  constructor
  · rfl
  · intro id reference found
    cases found
  · intro number index done
    obtain ⟨step, impossible⟩ := done
    cases impossible
  · intro number call found
    cases found

/-- The daemon is where the history leads.  A call never takes effect twice; a call that is
answered with a response has taken effect once, after it began, and the response is the
answer of that step, or it is a refusal and the call took no effect. -/
theorem calls_take_effect_once (system : ControlSystem) (reached : machine.Reachable system) :
    system.daemon = AgentDaemon.machine.run (system.history.map Prod.snd) ∧
      ∀ (number : Nat) (call : ControlCall), system.calls[number]? = some call →
        (∀ index other, DaemonHistory.For system.history number index →
          DaemonHistory.For system.history number other → index = other) ∧
        ∀ response, call.place = .finished (.ok response) →
          (∃ index around, call.since ≤ index ∧
            system.history[index]? = some (some number, .dispatch call.request around) ∧
              response =
                conveyed (DaemonHistory.answerAt system.history index call.request around)) ∨
          ((∀ index, ¬DaemonHistory.For system.history number index) ∧
            ∃ message : StdString, message ≠ [] ∧ response = conveyed { message }) := by
  have ordered := ordered_of_reachable system reached
  refine ⟨ordered.state, ?_⟩
  intro number call present
  have known := ordered.calls number call present
  refine ⟨known.once, ?_⟩
  intro response at_
  obtain ⟨packet, descriptor, answer, decoded⟩ := known.finished response at_
  by_cases effect : ∃ index, DaemonHistory.For system.history number index
  · obtain ⟨index, done⟩ := effect
    obtain ⟨around, taken⟩ := known.taken index done
    obtain ⟨bytes, _, same, sent⟩ := taken.sent
    cases answer.symm.trans same
    obtain ⟨packet', sent', _, conveys⟩ := responsePacket_conveys taken.inside
    cases sent.symm.trans sent'
    cases decoded.symm.trans (conveys {})
    exact .inl ⟨index, around, taken.later, taken.entry, rfl⟩
  · have nothing : ∀ index, ¬DaemonHistory.For system.history number index :=
      fun index done => effect ⟨index, done⟩
    rcases known.answered packet descriptor answer with found | ⟨message, nonempty, sent⟩
    · exact absurd found effect
    · have unavailable : (({ message } : ControlResponse).resultAvailable = true) →
          insideRegion ({ message } : ControlResponse).result = true := nofun
      obtain ⟨packet', sent', _, conveys⟩ := responsePacket_conveys unavailable
      cases sent.symm.trans sent'
      cases decoded.symm.trans (conveys {})
      exact .inr ⟨nothing, message, nonempty, rfl⟩

/-- A client pings the daemon and reads the answer. -/
def ping : List Action :=
  [.call {} true, .connect 0 (.ok ()), .send 0 (.ok ()),
   .serve 0 none { order := .asStored } (-1), .receive 0 (.ok none)]

theorem calls_take_effect_once_ping :
    (machine.run ping).history.length = 1 ∧
      ∀ index, DaemonHistory.For (machine.run ping).history 0 index → index = 0 := by
  have called : (machine.run ping).calls[0]?.isSome = true := by decide +kernel
  have served : (machine.run ping).history[0]?.map Prod.fst = some (some 0) := by decide +kernel
  obtain ⟨call, present⟩ := Option.isSome_iff_exists.mp called
  obtain ⟨⟨caller, step⟩, entry, same⟩ := Option.map_eq_some_iff.mp served
  cases same
  refine ⟨by decide +kernel, ?_⟩
  intro index done
  exact ((calls_take_effect_once _ (machine.reachable_run ping)).2 0 call present).1 index 0 done
    ⟨step, entry⟩

end ControlSystem

/-! ### Fetching a result -/

/-- A descriptor of the client leads to the sealed file of a stored result. -/
structure Reaches (kernel : Kernel) (descriptor : Int32) (stored : StoredResult) : Prop where
  valid : 0 ≤ descriptor
  covers : kernel.covers descriptor stored.region.size = true
  mapping : kernel.mapping descriptor stored.region.size = .ok ()
  contents : kernel.contents descriptor = stored.region.data

theorem resultRequest_sent (id : AgentId) :
    ∃ packet, encodeControlRequest (ControlClient.resultRequest id) = .ok packet ∧ packet ≠ [] := by
  have size : (ControlProtocol.requestBytes (ControlClient.resultRequest id)).length = 69 := rfl
  have readable : ControlProtocol.TaskReadable {} :=
    ⟨by decide, by decide, by decide, by decide, by decide, by decide, nofun⟩
  refine ⟨_, (ControlProtocol.encodeControlRequest_iff _ _).mpr
    ⟨⟨readable, .inl rfl⟩, rfl, ?_⟩, ?_⟩
  · rw [length_frame, size]
    decide
  · intro empty
    have lengths := congrArg List.length empty
    rw [length_frame, size] at lengths
    cases lengths

/-- The daemon accepts what a client sends. -/
theorem acceptRequest_encoded {packet : List UInt8} {request : ControlRequest}
    (encoded : encodeControlRequest request = .ok packet) (nonempty : packet ≠ []) :
    acceptRequest (receiveControlPacket (.ok { packet })) = .ok request := by
  obtain ⟨sendable, framed⟩ := (ControlProtocol.encodeControlRequest_iff request packet).mp encoded
  have decoded : decodeControlRequest packet {} = .ok request :=
    (ControlProtocol.decodeControlRequest_iff packet {} request).mpr ⟨sendable.1, framed⟩
  have present : packet.isEmpty = false := by simpa using nonempty
  have unattached : ¬(0 : Int32) ≤ -1 := by decide
  unfold acceptRequest receiveControlPacket
  simp only [present, Bool.false_eq_true, if_false, List.foldl_nil, Except.bind, decoded,
    if_neg unattached]

/-- The answer to a request for a result of the store. -/
theorem result_answered {daemon : AgentDaemon} {id : AgentId} {reference : SharedBufferRef}
    (listed : daemon.results.lookup id = some reference)
    (inside : insideRegion reference = true) (around : AgentDaemon.Surroundings)
    (readable : around.duplicateError = none) (duplicate : Int32) {packet : List UInt8}
    (encoded : encodeControlRequest (ControlClient.resultRequest id) = .ok packet)
    (nonempty : packet ≠ []) :
    ∃ answer,
      (daemon.handleClient { received := .ok { packet } } around duplicate).answer =
        some (answer, duplicate) ∧ answer ≠ [] ∧
      ∀ old, decodeControlResponse answer old =
        .ok { success := true, resultAvailable := true, result := reference } := by
  have response : daemon.dispatch (ControlClient.resultRequest id) around =
      (daemon, { success := true, resultAvailable := true, result := reference }) := by
    change (daemon, daemon.result id around.duplicateError) = _
    unfold AgentDaemon.result
    rw [listed, readable]
  have available : (({ success := true, resultAvailable := true, result := reference } :
      ControlResponse).resultAvailable = true) → insideRegion reference = true := fun _ => inside
  obtain ⟨answer, sent, present, conveys⟩ := responsePacket_conveys available
  have fits := (readBack_of_inside inside).1
  obtain ⟨bytes, encoded'⟩ := fits
  have same : conveyed { success := true, resultAvailable := true, result := reference } =
      { success := true, resultAvailable := true, result := reference } := by
    unfold conveyed
    rw [encoded']
    rfl
  rw [same] at conveys
  refine ⟨answer, ?_, present, conveys⟩
  unfold AgentDaemon.handleClient
  simp only [Bool.not_true, Bool.false_eq_true, if_false, acceptRequest_encoded encoded nonempty,
    response, sent, Option.map_some]
  rfl

theorem Published.inside {length : UInt64} {reference : SharedBufferRef}
    (published : Published length reference) : insideRegion reference = true := by
  have size := published.regionSize
  have positive : reference.regionSize ≠ 0 := by
    intro empty
    rw [empty] at size
    change 0 = _ at size
    omega
  have whole : length ≤ reference.regionSize := by
    rw [UInt64.le_iff_toNat_le, size]
    omega
  unfold insideRegion
  simp [published.version, published.named, positive, published.offset, published.length, whole]

/-- The client receives the answer with its descriptor. -/
theorem takeAnswer_result {answer : List UInt8} {response : ControlResponse} (arrived : Int32)
    (nonempty : answer ≠ []) (decoded : decodeControlResponse answer {} = .ok response) :
    ControlClient.takeAnswer (receiveControlPacket
        (.ok { packet := answer, control := [{ descriptors := [arrived] }] })) {} =
      { outcome := .ok response, descriptor := arrived } := by
  have present : answer.isEmpty = false := by simpa using nonempty
  have negative : (-1 : Int32) < 0 := by decide
  have taken : [({ descriptors := [arrived] } : ControlMessage)].foldl takeDescriptor (-1, []) =
      (arrived, []) := by
    simp only [List.foldl_cons, List.foldl_nil, takeDescriptor, Bool.not_true,
      Bool.false_eq_true, if_false, if_pos negative]
  unfold ControlClient.takeAnswer receiveControlPacket
  simp only [present, Bool.false_eq_true, if_false, taken, Except.bind, decoded]

/-- The client maps a result that reaches it. -/
theorem mapResult_reaches {kernel : Kernel} {arrived : Int32} {stored : StoredResult}
    (reaches : Reaches kernel arrived stored)
    (sized : stored.reference.regionSize = stored.region.size)
    (positive : stored.region.size ≠ 0) :
    ∃ region : MappedRegion, region.data = stored.region.data ∧ region.mapped = true ∧
      region.size = stored.region.size ∧
      ControlClient.mapResult kernel {
          outcome := .ok {
            success := true, resultAvailable := true, result := stored.reference }
          descriptor := arrived } =
        { outcome := .ok { reference := stored.reference, region } } := by
  have nonnegative : ¬arrived < 0 := Int32.not_lt.mpr reaches.valid
  have small : ¬stored.region.size > kMaxSize := by
    have bound := stored.region.size.toNat_lt
    rw [gt_iff_lt, UInt64.lt_iff_toNat_lt]
    change ¬18446744073709551615 < stored.region.size.toNat
    omega
  let region : MappedRegion := {
    data := stored.region.data
    mapped := true
    size := stored.region.size
    regionId := stored.reference.regionId
    readOnly := true
    descriptor := arrived }
  have mapped : MappedRegion.mapExistingReadOnly kernel arrived stored.region.size
      stored.reference.regionId = .ok region := by
    unfold MappedRegion.mapExistingReadOnly MappedRegion.mapDescriptor
    rw [if_neg (by simp [nonnegative, positive]), reaches.covers, reaches.mapping,
      reaches.contents]
    rfl
  refine ⟨region, rfl, rfl, rfl, ?_⟩
  unfold ControlClient.mapResult
  simp only [Bool.not_true, Bool.or_self, decide_eq_false nonnegative,
    Bool.false_eq_true, if_false, sized, if_neg small, mapped]

/-- A client that fetches a result reads the bytes that were published, up to their length,
whatever has happened to other results in the meantime. -/
theorem fetched_result_exact (results after : UnorderedMap AgentId StoredResult)
    (environment : PublishEnvironment) (id : AgentId) (region : SharedMemoryRegion)
    (length : UInt64) (dataType flags : UInt32) (operations : List AgentResultStore.Operation)
    (obtained : Obtained region) (known : dataType ∈ SharedDataType.all)
    (published : AgentResultStore.publish results environment id region length dataType flags =
      .ok after)
    (kept : AgentResultStore.machine.Along
      (fun results operation => ¬AgentResultStore.Replaces id results operation) after
        operations)
    (daemon : AgentDaemon)
    (mirrors : ∀ other, daemon.results.lookup other =
      ((AgentResultStore.machine.runFrom after operations).lookup other).map
        StoredResult.reference)
    (around : AgentDaemon.Surroundings) (readable : around.duplicateError = none)
    (duplicate : Int32) :
    ∃ request answer stored, encodeControlRequest (ControlClient.resultRequest id) = .ok request ∧
      (AgentResultStore.machine.runFrom after operations).lookup id = some stored ∧
      (daemon.handleClient { received := .ok { packet := request } } around duplicate).answer =
        some (answer, duplicate) ∧
      ∀ (socketPath : StdString) (transport : ControlTransport) (kernel : Kernel)
        (arrived : Int32),
        ControlClient.ask socketPath transport (ControlClient.resultRequest id) = .ok () →
        transport.received =
          .ok { packet := answer, control := [{ descriptors := [arrived] }] } →
        Reaches kernel arrived stored →
        ∃ result,
          ControlClient.fetchResult socketPath transport kernel id = { outcome := .ok result } ∧
          result.reference.length = length ∧
          result.region.textAt result.reference.offset result.reference.length =
            some ((List.range length.toNat).map region.data) := by
  obtain ⟨sealed, data, size, same, _, inserted⟩ := AgentResultStore.publish_ok published
  have found : (AgentResultStore.machine.runFrom after operations).lookup id =
      some (AgentResultStore.storedResult sealed length dataType flags) := by
    rw [AgentResultStore.run_lookup after operations kept, inserted]
    exact AList.lookup_insert _
  have named : sealed.regionId ≠ 0 := by
    rw [same]
    exact obtained.regionId_ne
  have whole := storedResult_published named size known flags
  have valid : id ≠ kInvalidAgentId := by
    intro invalid
    unfold AgentResultStore.publish at published
    rw [if_pos (.inl invalid)] at published
    cases published
  have listed : daemon.results.lookup id =
      some (AgentResultStore.storedResult sealed length dataType flags).reference := by
    rw [mirrors, found]
    rfl
  obtain ⟨request, encoded, nonempty⟩ := resultRequest_sent id
  obtain ⟨answer, answered, present, decodes⟩ := result_answered listed whole.inside around
    readable duplicate encoded nonempty
  refine ⟨request, answer, _, encoded, found, answered, ?_⟩
  intro socketPath transport kernel arrived asked received reaches
  have covered : sealed.size.toNat = max 1 length.toNat := by
    rw [size]
    exact CommandExecution.retained_toNat length
  have positive : sealed.size ≠ 0 := by
    intro empty
    rw [empty] at covered
    change 0 = _ at covered
    omega
  obtain ⟨mapping, contents, mapped, extent, result⟩ := mapResult_reaches reaches rfl positive
  refine ⟨{
    reference := (AgentResultStore.storedResult sealed length dataType flags).reference
    region := mapping }, ?_, rfl, ?_⟩
  · rw [fetchResult_received kernel valid asked received,
      takeAnswer_result arrived present (decodes {})]
    exact result
  · have zero : (0 : UInt64).toNat = 0 := rfl
    change mapping.textAt 0 length = _
    have bounded : (0 : UInt64).toNat + length.toNat ≤ mapping.size.toNat := by
      rw [extent]
      change _ ≤ sealed.size.toNat
      rw [covered, zero]
      omega
    rw [textAt_inside mapped bounded, contents]
    change some ((List.range length.toNat).map fun index => sealed.data _) = _
    simp only [zero, Nat.zero_add, data]

/-- A daemon with one result of five bytes. -/
def pageDaemon : AgentDaemon where
  results := (∅ : UnorderedMap AgentId SharedBufferRef).insert 1
    (AgentResultStore.storedResult { ownPage with size := 5, readOnly := true } 5
      SharedDataType.textUtf8 0).reference

/-- A kernel in which every descriptor leads to this region. -/
def kernelOf (region : SharedMemoryRegion) : Kernel where
  fileSize _ := some region.size.toInt64
  mapping _ _ := .ok ()
  contents _ := region.data

theorem fetched_result_exact_page :
    ∃ after request answer stored result,
      AgentResultStore.publish ∅ {} 1 ownPage 5 SharedDataType.textUtf8 0 = .ok after ∧
      encodeControlRequest (ControlClient.resultRequest 1) = .ok request ∧
      (pageDaemon.handleClient { received := .ok { packet := request } }
        { order := .asStored } 6).answer = some (answer, 6) ∧
      after.lookup 1 = some stored ∧
      ControlClient.fetchResult (text "agentd.sock")
        { received := .ok { packet := answer, control := [{ descriptors := [8] }] } }
        (kernelOf stored.region) 1 = { outcome := .ok result } ∧
      result.region.textAt result.reference.offset result.reference.length =
        some ((List.range 5).map ownPage.data) := by
  have created : SharedMemoryRegion.create 4096 (.ok (makeRegionId 7 1)) = .ok ownPage := rfl
  obtain ⟨after, published⟩ : ∃ after, AgentResultStore.publish ∅ {} 1 ownPage 5
      SharedDataType.textUtf8 0 = .ok after := ⟨_, rfl⟩
  have mirrors : ∀ other, pageDaemon.results.lookup other =
      ((AgentResultStore.machine.runFrom after []).lookup other).map StoredResult.reference := by
    intro other
    cases published
    unfold pageDaemon
    rw [Machine.runFrom_nil]
    by_cases same : other = 1
    · rw [same, AList.lookup_insert, AList.lookup_insert]
      rfl
    · rw [AList.lookup_insert_ne same, AList.lookup_insert_ne same]
      rfl
  obtain ⟨request, answer, stored, encoded, found, answered, fetched⟩ :=
    fetched_result_exact ∅ after {} 1 ownPage 5 SharedDataType.textUtf8 0 []
      (Obtained.created (by decide) created) (by decide) published trivial pageDaemon mirrors
      { order := .asStored } rfl 6
  have size : stored.region.size = 5 := by
    cases published
    cases found.symm.trans (AList.lookup_insert _)
    rfl
  have asked : ControlClient.ask (text "agentd.sock")
      { received := .ok { packet := answer, control := [{ descriptors := [8] }] } }
      (ControlClient.resultRequest 1) = .ok () := by
    have address : makeSocketAddress (text "agentd.sock") = .ok () := by decide
    unfold ControlClient.ask
    rw [encoded, address]
    rfl
  have reaches : Reaches (kernelOf stored.region) 8 stored := by
    refine ⟨by decide, ?_, rfl, rfl⟩
    unfold Kernel.covers kernelOf
    rw [size]
    rfl
  obtain ⟨result, outcome, _, bytes⟩ := fetched (text "agentd.sock") _
    (kernelOf stored.region) 8 asked rfl reaches
  exact ⟨after, request, answer, stored, result, published, encoded, answered, found, outcome,
    bytes⟩

end AgentNucleus.Runtime
