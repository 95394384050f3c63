/-
What one side of the control protocol sends, the other reads back.  In the other
direction a packet that was read need not be what the encoder sends: the
operation of a response is forgotten, and a request may carry both a command
and an invocation.
-/

import AgentNucleus.Runtime.ControlPackets

set_option autoImplicit false

namespace AgentNucleus.Runtime.ControlProtocol

open AgentNucleus.Library

/-! ### From the encoder to the decoder -/

/-- A response up to a result that is not available. -/
def compared (response : ControlResponse) : ControlResponse :=
  if response.resultAvailable then response else { response with result := {} }

private theorem compared_spec (response : ControlResponse) :
    responseBytes (compared response) = responseBytes response ∧
      (ResponseFits response → ResponseFits (compared response)) ∧
      ((response.resultAvailable = true → insideRegion response.result = true) →
        (compared response).resultAvailable = true →
          insideRegion (compared response).result = true) ∧
      ((compared response).resultAvailable = false → (compared response).result = {}) := by
  unfold compared
  by_cases available : response.resultAvailable = true
  · rw [if_pos available]
    exact ⟨rfl, id, id, fun missing => absurd available (by rw [missing]; decide)⟩
  · rw [if_neg available]
    refine ⟨?_, ?_, ?_, fun _ => rfl⟩
    · unfold responseBytes optionalReferenceBytes
      change _ ++ (if response.resultAvailable then _ else _) =
        _ ++ (if response.resultAvailable then _ else _)
      rw [if_neg available, if_neg available]
    · intro fits
      exact ⟨fits.message, fits.few, fits.agents⟩
    · intro inside now
      exact absurd now available

/-- What is sent is read back, whatever the target held before. -/
theorem control_round_trip :
    (∀ (old request : ControlRequest) (data : List UInt8),
      encodeControlRequest request = .ok data → decodeControlRequest data old = .ok request) ∧
    (∀ (old response : ControlResponse) (data : List UInt8),
      encodeControlResponse response = .ok data →
        (response.resultAvailable = true → insideRegion response.result = true) →
          decodeControlResponse data old = .ok (compared response)) := by
  constructor
  · intro old request data encoded
    obtain ⟨sendable, packet⟩ := (encodeControlRequest_iff request data).mp encoded
    exact (decodeControlRequest_iff data old request).mpr ⟨sendable.1, packet⟩
  · intro old response data encoded inside
    obtain ⟨fits, framed, bounded⟩ := (encodeControlResponse_iff response data).mp encoded
    obtain ⟨sameBytes, stillFits, stillInside, default⟩ := compared_spec response
    rw [decodeControlResponse_iff, sameBytes]
    exact ⟨⟨stillFits fits, stillInside inside, default⟩, ⟨.ping, framed⟩, bounded⟩

/-! ### From the decoder to the encoder -/

/-- A packet with another operation in its header. -/
def withOperation (operation : ControlOperation) (data : List UInt8) : List UInt8 :=
  data.take 6 ++ bytes16 operation.code ++ data.drop 8

theorem withOperation_frame (operation : ControlOperation) (messageType : UInt16)
    (body : List UInt8) :
    withOperation operation (frame protocol messageType body) =
      frame protocol operation.code body := by
  have start : (bytes32 protocol.magic ++ bytes16 protocol.version).length = 6 := by
    unfold bytes32 bytes16
    rw [List.length_append, length_littleEndian, length_littleEndian]
  have code : (bytes16 messageType).length = 2 := length_littleEndian 2 _
  have split : frame protocol messageType body =
      bytes32 protocol.magic ++ bytes16 protocol.version ++
        (bytes16 messageType ++ (bytes32 (UInt32.ofNat body.length) ++ body)) := by
    unfold frame headerBytes
    simp only [List.append_assoc]
  have before : (frame protocol messageType body).take 6 =
      bytes32 protocol.magic ++ bytes16 protocol.version := by
    rw [split]
    exact List.take_left' start
  have after : (frame protocol messageType body).drop 8 =
      bytes32 (UInt32.ofNat body.length) ++ body := by
    rw [split, ← List.append_assoc]
    apply List.drop_left'
    rw [List.length_append, start, code]
  unfold withOperation
  rw [before, after]
  unfold frame headerBytes
  simp only [List.append_assoc]

/-- A request that was read is sent as the same packet, if its task does not
carry both a command and an invocation.  A response that was read is sent as the
same packet but for the operation, which is `ping`. -/
theorem control_reencoded :
    (∀ (old request : ControlRequest) (data : List UInt8),
      decodeControlRequest data old = .ok request →
        request.task.command = [] ∨ request.task.invocation = none →
          encodeControlRequest request = .ok data) ∧
    (∀ (old response : ControlResponse) (data : List UInt8),
      decodeControlResponse data old = .ok response →
        encodeControlResponse response = .ok (withOperation .ping data)) := by
  constructor
  · intro old request data decoded exclusive
    obtain ⟨readable, packet⟩ := (decodeControlRequest_iff data old request).mp decoded
    exact (encodeControlRequest_iff request data).mpr ⟨⟨readable, exclusive⟩, packet⟩
  · intro old response data decoded
    obtain ⟨valid, ⟨operation, framed⟩, bounded⟩ :=
      (decodeControlResponse_iff data old response).mp decoded
    have relabelled : withOperation .ping data =
        frame protocol ControlOperation.ping.code (responseBytes response) := by
      rw [framed, withOperation_frame]
    rw [encodeControlResponse_iff, relabelled]
    refine ⟨valid.1, rfl, ?_⟩
    rw [framed, length_frame] at bounded
    rw [length_frame]
    exact bounded

/-- Both a command and an invocation. -/
def bothRequest : ControlRequest where
  operation := .submit
  task := { command := [text "ls"],
            invocation := some { target := text "qwen2", operation := text "generate" } }

def bothPacket : List UInt8 :=
  frame protocol ControlOperation.submit.code (requestBytes bothRequest)

/-- An empty response under the operation `list`. -/
def listPacket : List UInt8 :=
  frame protocol ControlOperation.list.code (responseBytes {})

/-- Packets that are read, but not sent. -/
theorem packet_never_sent :
    (decodeControlRequest bothPacket {} = .ok bothRequest ∧
      encodeControlRequest bothRequest ≠ .ok bothPacket) ∧
    (decodeControlResponse listPacket {} = .ok {} ∧
      encodeControlResponse {} ≠ .ok listPacket) := by
  refine ⟨⟨?_, ?_⟩, ?_, ?_⟩
  · apply (decodeControlRequest_iff _ _ _).mpr
    refine ⟨⟨by decide, by decide, by decide, by decide, by decide, by decide, ?_⟩, rfl, ?_⟩
    · intro invocation present
      cases present
      exact ⟨by decide, by decide, by decide, by decide⟩
    · unfold bothPacket
      rw [length_frame]
      decide
  · intro encoded
    obtain ⟨⟨readable, exclusive⟩, packet⟩ := (encodeControlRequest_iff _ _).mp encoded
    rcases exclusive with missing | missing
    · cases missing
    · cases missing
  · apply (decodeControlResponse_iff _ _ _).mpr
    refine ⟨⟨⟨by decide, by decide, nofun⟩, nofun, fun _ => rfl⟩, ⟨.list, rfl⟩, ?_⟩
    unfold listPacket
    rw [length_frame]
    decide
  · intro encoded
    obtain ⟨fits, framed, bounded⟩ := (encodeControlResponse_iff _ _).mp encoded
    have codes := congrArg (fun data => data[6]?) framed
    revert codes
    decide

end AgentNucleus.Runtime.ControlProtocol
