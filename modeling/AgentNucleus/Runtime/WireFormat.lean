/-
What the invocation protocol and the control protocol share: the frame around a
message, strings, shared buffer references and metrics.  The two source files
repeat these helpers; where only texts and limits differ, they are taken from a
`Protocol`.  Null pointers are not modelled: every call has data and a target.
-/

import AgentNucleus.Library.ByteFormat
import AgentNucleus.Runtime.Types

set_option autoImplicit false

namespace AgentNucleus.Runtime

open AgentNucleus.Library

def kHeaderSize : Nat := 12
def kMaxStringSize : Nat := 256 * 1024

/-- `std::numeric_limits<std::int64_t>::max()`, the largest timeout. -/
def maxTimeoutMs : UInt64 := 9223372036854775807

/-- The constants of a protocol and the texts of its size errors. -/
structure Protocol where
  magic : UInt32
  version : UInt16
  maxMessageSize : Nat
  stringError : StdString
  roomError : StdString
  messageError : StdString

structure SharedBufferRef where
  regionId : UInt64 := 0
  regionSize : UInt64 := 0
  offset : UInt64 := 0
  length : UInt64 := 0
  dataType : UInt32 := 0
  flags : UInt32 := 0
  version : UInt64 := 1
deriving DecidableEq, Repr

/-! ### Writing -/

/-- `Writer::string`. -/
def writeString (protocol : Protocol) (value : StdString) : ByteWriter StdString Unit :=
  fun output =>
    if kMaxStringSize < value.length then .error protocol.stringError
    else if protocol.maxMessageSize - 4 < output.length ∨
        protocol.maxMessageSize - 4 - output.length < value.length then
      .error protocol.roomError
    else .ok ((), output ++ lengthPrefixed value)

/-- The payload size is written as zero and patched by `finish_message`. -/
def encodeHeader (protocol : Protocol) (messageType : UInt16) : ByteWriter StdString Unit := do
  ByteWriter.put (bytes32 protocol.magic)
  ByteWriter.put (bytes16 protocol.version)
  ByteWriter.put (bytes16 messageType)
  ByteWriter.put (bytes32 0)

def finishMessage (protocol : Protocol) (output : List UInt8) : Except StdString (List UInt8) :=
  if output.length < kHeaderSize ∨ protocol.maxMessageSize < output.length then
    .error protocol.messageError
  else
    .ok (output.take 8 ++ bytes32 (UInt32.ofNat (output.length - kHeaderSize)) ++
      output.drop 12)

def flagByte (flag : Bool) : UInt8 :=
  if flag then 1 else 0

def referenceBytes (reference : SharedBufferRef) : List UInt8 :=
  bytes64 reference.regionId ++ bytes64 reference.regionSize ++ bytes64 reference.offset ++
    bytes64 reference.length ++ bytes32 reference.dataType ++ bytes32 reference.flags ++
    bytes64 reference.version

def encodeReference (reference : SharedBufferRef) : ByteWriter StdString Unit := do
  ByteWriter.put (bytes64 reference.regionId)
  ByteWriter.put (bytes64 reference.regionSize)
  ByteWriter.put (bytes64 reference.offset)
  ByteWriter.put (bytes64 reference.length)
  ByteWriter.put (bytes32 reference.dataType)
  ByteWriter.put (bytes32 reference.flags)
  ByteWriter.put (bytes64 reference.version)

def optionalReferenceBytes (available : Bool) (reference : SharedBufferRef) : List UInt8 :=
  if available then referenceBytes reference else []

def encodeOptionalReference (available : Bool) (reference : SharedBufferRef) :
    ByteWriter StdString Unit :=
  if available then encodeReference reference else pure ()

def metricsBytes (metrics : AgentPerformanceMetrics) : List UInt8 :=
  bytes64 metrics.queueTimeUs ++ bytes64 metrics.executionTimeUs ++
    bytes64 metrics.inputTokens ++ bytes64 metrics.outputTokens ++
    bytes64 metrics.reusedTokens ++ bytes64 metrics.cacheBytes ++
    bytes8 (flagByte metrics.cacheHit)

/-- `encode_agent` of the control protocol writes the same run of fields. -/
def encodeMetrics (metrics : AgentPerformanceMetrics) : ByteWriter StdString Unit := do
  ByteWriter.put (bytes64 metrics.queueTimeUs)
  ByteWriter.put (bytes64 metrics.executionTimeUs)
  ByteWriter.put (bytes64 metrics.inputTokens)
  ByteWriter.put (bytes64 metrics.outputTokens)
  ByteWriter.put (bytes64 metrics.reusedTokens)
  ByteWriter.put (bytes64 metrics.cacheBytes)
  ByteWriter.put (bytes8 (flagByte metrics.cacheHit))

/-! ### Reading -/

/-- `Reader::string`. -/
def readString : ByteReader StdString := ByteReader.block kMaxStringSize

structure Header where
  magic : UInt32
  version : UInt16
  messageType : UInt16
  payloadSize : UInt32

def readHeader : ByteReader Header := do
  let magic ← ByteReader.u32
  let version ← ByteReader.u16
  let messageType ← ByteReader.u16
  let payloadSize ← ByteReader.u32
  pure { magic, version, messageType, payloadSize }

/-- A byte that must be zero or one. -/
def readFlag : ByteReader Bool := do
  let value ← ByteReader.u8
  ByteReader.require (value ≤ 1)
  pure (value == 1)

/-- The fields overwrite those of `reference`; the two protocols differ in what
they accept. -/
def decodeReference (accepted : SharedBufferRef → Bool) (reference : SharedBufferRef) :
    ByteReader SharedBufferRef := do
  let regionId ← ByteReader.u64
  let regionSize ← ByteReader.u64
  let offset ← ByteReader.u64
  let length ← ByteReader.u64
  let dataType ← ByteReader.u32
  let flags ← ByteReader.u32
  let version ← ByteReader.u64
  let read := { reference with
    regionId, regionSize, offset, length, dataType, flags, version }
  ByteReader.require (accepted read = true)
  pure read

def decodeMetrics (metrics : AgentPerformanceMetrics) : ByteReader AgentPerformanceMetrics := do
  let queueTimeUs ← ByteReader.u64
  let executionTimeUs ← ByteReader.u64
  let inputTokens ← ByteReader.u64
  let outputTokens ← ByteReader.u64
  let reusedTokens ← ByteReader.u64
  let cacheBytes ← ByteReader.u64
  let cacheHit ← readFlag
  pure { metrics with
    queueTimeUs, executionTimeUs, inputTokens, outputTokens, reusedTokens, cacheBytes, cacheHit }

/-- What both protocols ask of a reference: it stays inside its region. -/
def insideRegion (reference : SharedBufferRef) : Bool :=
  reference.version == 1 && reference.regionId != 0 && reference.regionSize != 0 &&
    decide (reference.offset ≤ reference.regionSize) &&
    decide (reference.length ≤ reference.regionSize - reference.offset)

/-- A reference that is only there behind a set flag; the target was reset to
the default before. -/
def decodeOptionalReference (accepted : SharedBufferRef → Bool) (available : Bool) :
    ByteReader SharedBufferRef :=
  if available then decodeReference accepted {} else pure {}

/-- A reader that fails makes the call fail with a message. -/
def orError {α : Type} (message : StdString) : Option α → Except StdString α
  | none => .error message
  | some value => .ok value

def ensure (condition : Prop) [Decidable condition] (message : StdString) :
    Except StdString Unit :=
  if condition then .ok () else .error message

/-! ### What the readers accept -/

theorem readString_iff (bytes value rest : List UInt8) :
    readString bytes = some (value, rest) ↔
      value.length ≤ kMaxStringSize ∧ bytes = lengthPrefixed value ++ rest :=
  ByteReader.block_iff kMaxStringSize (by decide) bytes value rest

theorem readHeader_iff (header : Header) (bytes rest : List UInt8) :
    readHeader bytes = some (header, rest) ↔
      bytes = bytes32 header.magic ++ bytes16 header.version ++ bytes16 header.messageType ++
        bytes32 header.payloadSize ++ rest := by
  unfold readHeader
  simp only [ByteReader.bind_iff, ByteReader.pure_iff, ByteReader.u32_iff, ByteReader.u16_iff,
    List.append_assoc]
  constructor
  · rintro ⟨magic, _, rfl, version, _, rfl, messageType, _, rfl, payloadSize, _, rfl, rfl, rfl⟩
    rfl
  · rintro rfl
    exact ⟨header.magic, _, rfl, header.version, _, rfl, header.messageType, _, rfl,
      header.payloadSize, _, rfl, rfl, rfl⟩

private theorem flagByte_eq (value : UInt8) (small : value ≤ 1) :
    flagByte (value == 1) = value := by
  have bound := UInt8.le_iff_toNat_le.mp small
  have cases : value = 0 ∨ value = 1 := by
    rw [← UInt8.toNat_inj, ← UInt8.toNat_inj]
    change value.toNat ≤ 1 at bound
    change value.toNat = 0 ∨ value.toNat = 1
    omega
  rcases cases with rfl | rfl
  · rfl
  · rfl

theorem readFlag_iff (flag : Bool) (bytes rest : List UInt8) :
    readFlag bytes = some (flag, rest) ↔ bytes = bytes8 (flagByte flag) ++ rest := by
  unfold readFlag
  simp only [ByteReader.bind_iff, ByteReader.pure_iff, ByteReader.u8_iff, ByteReader.require_iff]
  constructor
  · rintro ⟨value, _, rfl, nothing, _, ⟨small, rfl⟩, rfl, rfl⟩
    rw [flagByte_eq value small]
  · rintro rfl
    refine ⟨flagByte flag, rest, rfl, (), rest, ⟨?_, rfl⟩, ?_, rfl⟩
    · cases flag <;> decide
    · cases flag <;> decide

theorem decodeReference_iff (accepted : SharedBufferRef → Bool)
    (old reference : SharedBufferRef) (bytes rest : List UInt8) :
    decodeReference accepted old bytes = some (reference, rest) ↔
      accepted reference = true ∧ bytes = referenceBytes reference ++ rest := by
  unfold decodeReference referenceBytes
  simp only [ByteReader.bind_iff, ByteReader.pure_iff, ByteReader.u64_iff, ByteReader.u32_iff,
    ByteReader.require_iff, List.append_assoc]
  constructor
  · rintro ⟨regionId, _, rfl, regionSize, _, rfl, offset, _, rfl, length, _, rfl, dataType, _,
      rfl, flags, _, rfl, version, _, rfl, nothing, _, ⟨good, rfl⟩, rfl, rfl⟩
    exact ⟨good, rfl⟩
  · rintro ⟨good, rfl⟩
    exact ⟨_, _, rfl, _, _, rfl, _, _, rfl, _, _, rfl, _, _, rfl, _, _, rfl, _, _, rfl, (), _,
      ⟨good, rfl⟩, rfl, rfl⟩

theorem decodeOptionalReference_iff (accepted : SharedBufferRef → Bool) (available : Bool)
    (reference : SharedBufferRef) (bytes rest : List UInt8) :
    decodeOptionalReference accepted available bytes = some (reference, rest) ↔
      (available = true → accepted reference = true) ∧
        (available = false → reference = {}) ∧
          bytes = optionalReferenceBytes available reference ++ rest := by
  unfold decodeOptionalReference optionalReferenceBytes
  cases available with
  | true =>
      rw [if_pos rfl, if_pos rfl, decodeReference_iff]
      constructor
      · rintro ⟨good, rfl⟩
        exact ⟨fun _ => good, nofun, rfl⟩
      · rintro ⟨good, _, rfl⟩
        exact ⟨good rfl, rfl⟩
  | false =>
      rw [if_neg Bool.false_ne_true, if_neg Bool.false_ne_true, ByteReader.pure_iff]
      constructor
      · rintro ⟨rfl, rfl⟩
        exact ⟨nofun, fun _ => rfl, rfl⟩
      · rintro ⟨_, default, rfl⟩
        exact ⟨(default rfl).symm, rfl⟩

theorem decodeMetrics_iff (old metrics : AgentPerformanceMetrics) (bytes rest : List UInt8) :
    decodeMetrics old bytes = some (metrics, rest) ↔ bytes = metricsBytes metrics ++ rest := by
  unfold decodeMetrics metricsBytes
  simp only [ByteReader.bind_iff, ByteReader.pure_iff, ByteReader.u64_iff, readFlag_iff,
    List.append_assoc]
  constructor
  · rintro ⟨queueTimeUs, _, rfl, executionTimeUs, _, rfl, inputTokens, _, rfl, outputTokens, _,
      rfl, reusedTokens, _, rfl, cacheBytes, _, rfl, cacheHit, _, rfl, rfl, rfl⟩
    rfl
  · rintro rfl
    exact ⟨_, _, rfl, _, _, rfl, _, _, rfl, _, _, rfl, _, _, rfl, _, _, rfl, _, _, rfl, rfl, rfl⟩

/-- A timeout that is not negative is sent as the same number. -/
theorem timeout_iff (timeout : Int64) : 0 ≤ timeout ↔ timeout.toUInt64 ≤ maxTimeoutMs := by
  have sign : timeout.toInt = if 2 * timeout.toUInt64.toNat < 2 ^ 64 then
      (timeout.toUInt64.toNat : Int) else (timeout.toUInt64.toNat : Int) - (2 ^ 64 : Nat) :=
    BitVec.toInt_eq_toNat_cond timeout.toBitVec
  have bound := timeout.toUInt64.toNat_lt
  rw [Int64.le_iff_toInt_le, UInt64.le_iff_toNat_le, sign]
  change 0 ≤ _ ↔ _ ≤ 9223372036854775807
  split
  · omega
  · omega

/-- The kinds with names are those from `model` to `tool`. -/
theorem kind_iff (kind : InvocationKind) :
    (InvocationKind.model.value ≤ kind.value ∧ kind.value ≤ InvocationKind.tool.value) ↔
      kind = .model ∨ kind = .tool := by
  obtain ⟨value⟩ := kind
  rw [UInt8.le_iff_toNat_le, UInt8.le_iff_toNat_le]
  change 1 ≤ value.toNat ∧ value.toNat ≤ 2 ↔ _
  rw [InvocationKind.mk.injEq, InvocationKind.mk.injEq, ← UInt8.toNat_inj, ← UInt8.toNat_inj]
  change _ ↔ value.toNat = 1 ∨ value.toNat = 2
  omega

theorem bind_ok_iff {α β : Type} (first : Except StdString α)
    (next : α → Except StdString β) (result : β) :
    (first >>= next) = .ok result ↔ ∃ value, first = .ok value ∧ next value = .ok result := by
  cases first with
  | error message => exact ⟨nofun, fun found => nomatch found.choose_spec.1⟩
  | ok value =>
      constructor
      · intro same
        exact ⟨value, rfl, same⟩
      · rintro ⟨other, equal, same⟩
        cases equal
        exact same

theorem orError_iff {α : Type} (message : StdString) (found : Option α) (value : α) :
    orError message found = .ok value ↔ found = some value := by
  cases found with
  | none => exact ⟨nofun, nofun⟩
  | some other =>
      change Except.ok other = Except.ok value ↔ _
      rw [Except.ok.injEq, Option.some.injEq]

theorem ensure_iff (condition : Prop) [Decidable condition] (message : StdString)
    (nothing : Unit) : ensure condition message = .ok nothing ↔ condition := by
  unfold ensure
  by_cases holds : condition
  · rw [if_pos holds]
    exact ⟨fun _ => holds, fun _ => rfl⟩
  · rw [if_neg holds]
    exact ⟨nofun, fun now => absurd now holds⟩

/-! ### What the writers emit -/

variable {protocol : Protocol}

theorem writeString_emits (value : StdString) :
    ByteWriter.Emits protocol.maxMessageSize (writeString protocol value)
      (value.length ≤ kMaxStringSize) (lengthPrefixed value) := by
  unfold writeString
  constructor
  · intro output after written
    by_cases long : kMaxStringSize < value.length
    · rw [if_pos long] at written
      cases written
    · rw [if_neg long] at written
      split at written
      · cases written
      · cases written
        exact ⟨not_lt.mp long, rfl⟩
  · intro output short fits
    rw [length_lengthPrefixed] at fits
    rw [if_neg (not_lt.mpr short), if_neg (by omega)]

theorem encodeReference_emits (reference : SharedBufferRef) (limit : Nat) :
    ByteWriter.Emits limit (encodeReference reference) True (referenceBytes reference) := by
  unfold encodeReference referenceBytes
  apply ((ByteWriter.Emits.put _).andThen ((ByteWriter.Emits.put _).andThen
    ((ByteWriter.Emits.put _).andThen ((ByteWriter.Emits.put _).andThen
      ((ByteWriter.Emits.put _).andThen ((ByteWriter.Emits.put _).andThen
        (ByteWriter.Emits.put _))))))).congr
  · simp only [and_self]
  · simp only [List.append_assoc]

theorem encodeOptionalReference_emits (available : Bool) (reference : SharedBufferRef)
    (limit : Nat) :
    ByteWriter.Emits limit (encodeOptionalReference available reference) True
      (optionalReferenceBytes available reference) := by
  unfold encodeOptionalReference optionalReferenceBytes
  cases available with
  | true => exact encodeReference_emits reference limit
  | false => exact ByteWriter.Emits.nothing

theorem encodeMetrics_emits (metrics : AgentPerformanceMetrics) (limit : Nat) :
    ByteWriter.Emits limit (encodeMetrics metrics) True (metricsBytes metrics) := by
  unfold encodeMetrics metricsBytes
  apply ((ByteWriter.Emits.put _).andThen ((ByteWriter.Emits.put _).andThen
    ((ByteWriter.Emits.put _).andThen ((ByteWriter.Emits.put _).andThen
      ((ByteWriter.Emits.put _).andThen ((ByteWriter.Emits.put _).andThen
        (ByteWriter.Emits.put _))))))).congr
  · simp only [and_self]
  · simp only [List.append_assoc]

/-! ### Messages -/

def headerBytes (protocol : Protocol) (messageType : UInt16) (payloadSize : UInt32) :
    List UInt8 :=
  bytes32 protocol.magic ++ bytes16 protocol.version ++ bytes16 messageType ++
    bytes32 payloadSize

/-- A message with its payload size. -/
def frame (protocol : Protocol) (messageType : UInt16) (body : List UInt8) : List UInt8 :=
  headerBytes protocol messageType (UInt32.ofNat body.length) ++ body

@[simp] theorem length_headerBytes (messageType : UInt16) (payloadSize : UInt32) :
    (headerBytes protocol messageType payloadSize).length = 12 := by
  unfold headerBytes bytes32 bytes16
  simp only [List.length_append, length_littleEndian]

theorem length_frame (messageType : UInt16) (body : List UInt8) :
    (frame protocol messageType body).length = 12 + body.length := by
  unfold frame
  rw [List.length_append, length_headerBytes]

/-- Header, body and patched size. -/
def buildMessage (protocol : Protocol) (messageType : UInt16) (write : ByteWriter StdString Unit) :
    Except StdString (List UInt8) := do
  let written ← (do encodeHeader protocol messageType; write : ByteWriter StdString Unit) []
  finishMessage protocol written.2

theorem encodeHeader_emits (messageType : UInt16) (limit : Nat) :
    ByteWriter.Emits limit (encodeHeader protocol messageType) True
      (headerBytes protocol messageType 0) := by
  unfold encodeHeader headerBytes
  apply ((ByteWriter.Emits.put _).andThen ((ByteWriter.Emits.put _).andThen
    ((ByteWriter.Emits.put _).andThen (ByteWriter.Emits.put _)))).congr
  · simp only [and_self]
  · simp only [List.append_assoc]

theorem finishMessage_iff (messageType : UInt16) (body bytes : List UInt8) :
    finishMessage protocol (headerBytes protocol messageType 0 ++ body) = .ok bytes ↔
      bytes = frame protocol messageType body ∧ bytes.length ≤ protocol.maxMessageSize := by
  have length : (headerBytes protocol messageType 0 ++ body).length = 12 + body.length := by
    rw [List.length_append, length_headerBytes]
  have patched : (headerBytes protocol messageType 0 ++ body).take 8 ++
      bytes32 (UInt32.ofNat ((headerBytes protocol messageType 0 ++ body).length - kHeaderSize)) ++
        (headerBytes protocol messageType 0 ++ body).drop 12 =
      frame protocol messageType body := by
    have start : (headerBytes protocol messageType 0 ++ body).take 8 =
        bytes32 protocol.magic ++ bytes16 protocol.version ++ bytes16 messageType := by
      unfold headerBytes
      rw [List.append_assoc]
      apply List.take_left'
      unfold bytes32 bytes16
      simp only [List.length_append, length_littleEndian]
    have end_eq : (headerBytes protocol messageType 0 ++ body).drop 12 = body :=
      List.drop_left' (length_headerBytes messageType 0)
    have size : 12 + body.length - kHeaderSize = body.length := Nat.add_sub_cancel_left 12 _
    rw [start, end_eq, length, size]
    rfl
  unfold finishMessage
  rw [patched, length]
  by_cases large : 12 + body.length < kHeaderSize ∨ protocol.maxMessageSize < 12 + body.length
  · rw [if_pos large]
    constructor
    · exact nofun
    · rintro ⟨rfl, fits⟩
      rw [length_frame] at fits
      unfold kHeaderSize at large
      omega
  · rw [if_neg large, Except.ok.injEq]
    constructor
    · rintro rfl
      rw [length_frame]
      exact ⟨rfl, by omega⟩
    · rintro ⟨rfl, fits⟩
      rfl

/-- A message is built exactly from good values whose frame fits. -/
theorem buildMessage_iff (messageType : UInt16) (write : ByteWriter StdString Unit) (good : Prop)
    (body bytes : List UInt8)
    (emits : ByteWriter.Emits protocol.maxMessageSize write good body) :
    buildMessage protocol messageType write = .ok bytes ↔
      good ∧ bytes = frame protocol messageType body ∧
        bytes.length ≤ protocol.maxMessageSize := by
  have whole := (@encodeHeader_emits protocol messageType protocol.maxMessageSize).andThen emits
  unfold buildMessage
  rw [bind_ok_iff]
  constructor
  · rintro ⟨⟨nothing, output⟩, written, finished⟩
    obtain ⟨holds, rfl⟩ := whole.sound [] output written
    exact ⟨holds.2, (finishMessage_iff messageType body bytes).mp finished⟩
  · rintro ⟨holds, rfl, fits⟩
    refine ⟨((), headerBytes protocol messageType 0 ++ body), ?_, ?_⟩
    · apply whole.complete [] ⟨trivial, holds⟩
      rw [length_frame] at fits
      rw [List.length_append, length_headerBytes]
      exact (Nat.zero_add _).trans_le fits
    · exact (finishMessage_iff messageType body _).mpr ⟨rfl, fits⟩

/-- A header with the right payload size is that of a frame. -/
theorem frame_iff (small : protocol.maxMessageSize < 2 ^ 32) (header : Header)
    (bytes body : List UInt8) (fits : bytes.length ≤ protocol.maxMessageSize) :
    readHeader bytes = some (header, body) ∧ header.magic = protocol.magic ∧
        header.version = protocol.version ∧ header.payloadSize.toNat = body.length ↔
      header = ⟨protocol.magic, protocol.version, header.messageType,
          UInt32.ofNat body.length⟩ ∧
        bytes = frame protocol header.messageType body := by
  rw [readHeader_iff]
  obtain ⟨magic, version, messageType, payloadSize⟩ := header
  constructor
  · rintro ⟨rfl, magicEq, versionEq, size⟩
    change magic = _ at magicEq
    change version = _ at versionEq
    change payloadSize.toNat = _ at size
    have patched : UInt32.ofNat body.length = payloadSize := by
      rw [← size]
      exact UInt32.ofNat_toNat
    subst magicEq versionEq patched
    exact ⟨rfl, rfl⟩
  · rintro ⟨same, rfl⟩
    rw [length_frame] at fits
    cases same
    have number : body.length < 2 ^ 32 := by omega
    exact ⟨rfl, rfl, rfl, UInt32.toNat_ofNat_of_lt' number⟩

end AgentNucleus.Runtime
