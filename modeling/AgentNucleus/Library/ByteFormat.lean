/-
Binary formats that are read and written front to back.  A reader consumes a
prefix of its input or fails; a writer appends to its output or fails.  Every
part of a format has one rule for each: a reader accepts exactly the layouts of
valid values, and a writer emits the layout of every valid value that fits.
-/

import Mathlib.Algebra.Order.Ring.Nat
import Mathlib.Data.List.Nodup

set_option autoImplicit false

namespace AgentNucleus.Library

/-! ### Integers -/

/-- The lowest `width` bytes of a number, the lowest first. -/
def littleEndian : Nat → Nat → List UInt8
  | 0, _ => []
  | width + 1, value => UInt8.ofNat value :: littleEndian width (value / 256)

def fromLittleEndian : List UInt8 → Nat
  | [] => 0
  | byte :: rest => byte.toNat + 256 * fromLittleEndian rest

@[simp] theorem length_littleEndian (width value : Nat) :
    (littleEndian width value).length = width := by
  induction width generalizing value with
  | zero => rfl
  | succ width ih =>
      change (littleEndian width (value / 256)).length + 1 = _
      rw [ih]

theorem fromLittleEndian_littleEndian (width value : Nat) (fits : value < 256 ^ width) :
    fromLittleEndian (littleEndian width value) = value := by
  induction width generalizing value with
  | zero =>
      change 0 = value
      rw [pow_zero] at fits
      omega
  | succ width ih =>
      have below : value / 256 < 256 ^ width := by
        rw [pow_succ] at fits
        omega
      change (UInt8.ofNat value).toNat + 256 * fromLittleEndian (littleEndian width _) = value
      rw [ih (value / 256) below, UInt8.toNat_ofNat']
      omega

theorem littleEndian_fromLittleEndian (bytes : List UInt8) :
    littleEndian bytes.length (fromLittleEndian bytes) = bytes := by
  induction bytes with
  | nil => rfl
  | cons byte rest ih =>
      have small := byte.toNat_lt
      have divided : (byte.toNat + 256 * fromLittleEndian rest) / 256 = fromLittleEndian rest := by
        omega
      have lowest : UInt8.ofNat (byte.toNat + 256 * fromLittleEndian rest) = byte := by
        apply UInt8.toNat_inj.mp
        rw [UInt8.toNat_ofNat']
        omega
      change UInt8.ofNat _ :: littleEndian rest.length _ = _
      change UInt8.ofNat (byte.toNat + 256 * fromLittleEndian rest) ::
        littleEndian rest.length ((byte.toNat + 256 * fromLittleEndian rest) / 256) = _
      rw [divided, lowest, ih]

theorem fromLittleEndian_lt (bytes : List UInt8) :
    fromLittleEndian bytes < 256 ^ bytes.length := by
  induction bytes with
  | nil => exact Nat.one_pos
  | cons byte rest ih =>
      have small := byte.toNat_lt
      change byte.toNat + 256 * fromLittleEndian rest < 256 ^ (rest.length + 1)
      rw [pow_succ]
      omega

/-! ### Readers -/

abbrev ByteReader := StateT (List UInt8) Option

namespace ByteReader

variable {α β : Type}

theorem bind_iff (first : ByteReader α) (next : α → ByteReader β) (bytes : List UInt8)
    (result : β × List UInt8) :
    (first >>= next) bytes = some result ↔
      ∃ value middle, first bytes = some (value, middle) ∧ next value middle = some result := by
  change (first bytes).bind (fun pair => next pair.1 pair.2) = some result ↔ _
  rw [Option.bind_eq_some_iff]
  constructor
  · rintro ⟨⟨value, middle⟩, before, after⟩
    exact ⟨value, middle, before, after⟩
  · rintro ⟨value, middle, before, after⟩
    exact ⟨(value, middle), before, after⟩

theorem pure_iff (value other : α) (bytes rest : List UInt8) :
    (pure value : ByteReader α) bytes = some (other, rest) ↔ value = other ∧ bytes = rest := by
  change some (value, bytes) = some (other, rest) ↔ _
  rw [Option.some.injEq, Prod.mk.injEq]

/-- Fails unless the condition holds. -/
def require (condition : Prop) [Decidable condition] : ByteReader Unit :=
  fun bytes => if condition then some ((), bytes) else none

theorem require_iff (condition : Prop) [Decidable condition] (bytes rest : List UInt8)
    (nothing : Unit) :
    require condition bytes = some (nothing, rest) ↔ condition ∧ bytes = rest := by
  unfold require
  by_cases holds : condition
  · rw [if_pos holds, Option.some.injEq, Prod.mk.injEq]
    exact ⟨fun same => ⟨holds, same.2⟩, fun both => ⟨rfl, both.2⟩⟩
  · rw [if_neg holds]
    exact ⟨nofun, fun both => absurd both.1 holds⟩

/-- The next `count` bytes. -/
def chunk (count : Nat) : ByteReader (List UInt8) :=
  fun bytes => if bytes.length < count then none else some (bytes.take count, bytes.drop count)

theorem chunk_iff (count : Nat) (bytes value rest : List UInt8) :
    chunk count bytes = some (value, rest) ↔ value.length = count ∧ bytes = value ++ rest := by
  unfold chunk
  constructor
  · intro taken
    split at taken
    · cases taken
    · cases taken
      rename_i enough
      refine ⟨?_, (List.take_append_drop count bytes).symm⟩
      rw [List.length_take]
      omega
  · rintro ⟨rfl, rfl⟩
    rw [if_neg (by rw [List.length_append]; omega), List.take_left, List.drop_left]

def integer (width : Nat) : ByteReader Nat := do
  let bytes ← chunk width
  pure (fromLittleEndian bytes)

theorem integer_iff (width value : Nat) (bytes rest : List UInt8) :
    integer width bytes = some (value, rest) ↔
      value < 256 ^ width ∧ bytes = littleEndian width value ++ rest := by
  unfold integer
  simp only [bind_iff, pure_iff, chunk_iff]
  constructor
  · rintro ⟨taken, middle, ⟨rfl, rfl⟩, rfl, rfl⟩
    exact ⟨fromLittleEndian_lt taken, by rw [littleEndian_fromLittleEndian]⟩
  · rintro ⟨fits, rfl⟩
    exact ⟨littleEndian width value, rest, ⟨length_littleEndian width value, rfl⟩,
      fromLittleEndian_littleEndian width value fits, rfl⟩

/-- A fixed-width type reads as its number. -/
private theorem number_iff (width : Nat) (ofNat : Nat → α) (toNat : α → Nat)
    (below : ∀ value, toNat value < 256 ^ width)
    (same : ∀ value, ofNat (toNat value) = value)
    (exact : ∀ number, number < 256 ^ width → toNat (ofNat number) = number)
    (value : α) (bytes rest : List UInt8) :
    (integer width bytes).map (fun pair => (ofNat pair.1, pair.2)) = some (value, rest) ↔
      bytes = littleEndian width (toNat value) ++ rest := by
  rw [Option.map_eq_some_iff]
  constructor
  · rintro ⟨⟨number, middle⟩, taken, equal⟩
    cases equal
    obtain ⟨fits, rfl⟩ := (integer_iff width number bytes middle).mp taken
    rw [exact number fits]
  · rintro rfl
    refine ⟨(toNat value, rest), (integer_iff width _ _ rest).mpr ⟨below value, rfl⟩, ?_⟩
    change (ofNat (toNat value), rest) = _
    rw [same]

def u8 : ByteReader UInt8 :=
  fun bytes => (integer 1 bytes).map fun pair => (UInt8.ofNat pair.1, pair.2)

def u16 : ByteReader UInt16 :=
  fun bytes => (integer 2 bytes).map fun pair => (UInt16.ofNat pair.1, pair.2)

def u32 : ByteReader UInt32 :=
  fun bytes => (integer 4 bytes).map fun pair => (UInt32.ofNat pair.1, pair.2)

def u64 : ByteReader UInt64 :=
  fun bytes => (integer 8 bytes).map fun pair => (UInt64.ofNat pair.1, pair.2)

end ByteReader

/-! ### Layouts of fixed width -/

def bytes8 (value : UInt8) : List UInt8 := littleEndian 1 value.toNat
def bytes16 (value : UInt16) : List UInt8 := littleEndian 2 value.toNat
def bytes32 (value : UInt32) : List UInt8 := littleEndian 4 value.toNat
def bytes64 (value : UInt64) : List UInt8 := littleEndian 8 value.toNat

namespace ByteReader

theorem u8_iff (value : UInt8) (bytes rest : List UInt8) :
    u8 bytes = some (value, rest) ↔ bytes = bytes8 value ++ rest :=
  number_iff 1 UInt8.ofNat UInt8.toNat (fun value => value.toNat_lt)
    (fun _ => UInt8.ofNat_toNat) (fun _ fits => UInt8.toNat_ofNat_of_lt' fits) value bytes rest

theorem u16_iff (value : UInt16) (bytes rest : List UInt8) :
    u16 bytes = some (value, rest) ↔ bytes = bytes16 value ++ rest :=
  number_iff 2 UInt16.ofNat UInt16.toNat (fun value => value.toNat_lt)
    (fun _ => UInt16.ofNat_toNat) (fun _ fits => UInt16.toNat_ofNat_of_lt' fits) value bytes rest

theorem u32_iff (value : UInt32) (bytes rest : List UInt8) :
    u32 bytes = some (value, rest) ↔ bytes = bytes32 value ++ rest :=
  number_iff 4 UInt32.ofNat UInt32.toNat (fun value => value.toNat_lt)
    (fun _ => UInt32.ofNat_toNat) (fun _ fits => UInt32.toNat_ofNat_of_lt' fits) value bytes rest

theorem u64_iff (value : UInt64) (bytes rest : List UInt8) :
    u64 bytes = some (value, rest) ↔ bytes = bytes64 value ++ rest :=
  number_iff 8 UInt64.ofNat UInt64.toNat (fun value => value.toNat_lt)
    (fun _ => UInt64.ofNat_toNat) (fun _ fits => UInt64.toNat_ofNat_of_lt' fits) value bytes rest

end ByteReader

/-! ### Strings and sequences -/

/-- A string behind its length. -/
def lengthPrefixed (value : List UInt8) : List UInt8 :=
  bytes32 (UInt32.ofNat value.length) ++ value

theorem length_lengthPrefixed (value : List UInt8) :
    (lengthPrefixed value).length = 4 + value.length := by
  unfold lengthPrefixed bytes32
  rw [List.length_append, length_littleEndian]

namespace ByteReader

variable {α : Type}

/-- A string behind its length, which may not exceed a limit. -/
def block (limit : Nat) : ByteReader (List UInt8) := do
  let length ← u32
  require (length.toNat ≤ limit)
  chunk length.toNat

theorem block_iff (limit : Nat) (small : limit < 2 ^ 32) (bytes value rest : List UInt8) :
    block limit bytes = some (value, rest) ↔
      value.length ≤ limit ∧ bytes = lengthPrefixed value ++ rest := by
  unfold block lengthPrefixed
  simp only [bind_iff, u32_iff, require_iff, chunk_iff, List.append_assoc]
  constructor
  · rintro ⟨length, afterLength, rfl, nothing, middle, ⟨bounded, rfl⟩, exact, rfl⟩
    have same : UInt32.ofNat value.length = length := by
      rw [exact]
      exact UInt32.ofNat_toNat
    rw [same]
    exact ⟨exact.trans_le bounded, rfl⟩
  · rintro ⟨bounded, rfl⟩
    have number : (UInt32.ofNat value.length).toNat = value.length :=
      UInt32.toNat_ofNat_of_lt' (bounded.trans_lt small)
    refine ⟨UInt32.ofNat value.length, value ++ rest, rfl, (), value ++ rest, ⟨?_, rfl⟩, ?_, rfl⟩
    · rw [number]
      exact bounded
    · exact number.symm

/-- Overwrites the elements of a sequence one after the other. -/
def each (read : α → ByteReader α) : List α → ByteReader (List α)
  | [] => pure []
  | old :: rest => do
      let value ← read old
      let values ← each read rest
      pure (value :: values)

/-- What stood in the sequence before does not matter if it does not matter to
the elements. -/
theorem each_iff (read : α → ByteReader α) (valid : α → Prop) (layout : α → List UInt8)
    (exact : ∀ old value bytes rest, read old bytes = some (value, rest) ↔
      valid value ∧ bytes = layout value ++ rest)
    (olds values : List α) (bytes rest : List UInt8) :
    each read olds bytes = some (values, rest) ↔
      values.length = olds.length ∧ (∀ value ∈ values, valid value) ∧
        bytes = values.flatMap layout ++ rest := by
  induction olds generalizing values bytes rest with
  | nil =>
      unfold each
      rw [pure_iff]
      constructor
      · rintro ⟨rfl, rfl⟩
        exact ⟨rfl, nofun, rfl⟩
      · rintro ⟨length, allValid, rfl⟩
        have empty : values = [] := List.length_eq_zero_iff.mp length
        rw [empty]
        exact ⟨rfl, rfl⟩
  | cons old others ih =>
      unfold each
      simp only [bind_iff, pure_iff, exact, ih]
      constructor
      · rintro ⟨value, middle, ⟨here, rfl⟩, later, last, ⟨length, others, rfl⟩, rfl, rfl⟩
        refine ⟨congrArg Nat.succ length, ?_, ?_⟩
        · intro item member
          rcases List.mem_cons.mp member with rfl | inside
          · exact here
          · exact others item inside
        · rw [List.flatMap_cons, List.append_assoc]
      · rintro ⟨length, allValid, rfl⟩
        cases values with
        | nil => cases length
        | cons value later =>
            refine ⟨value, later.flatMap layout ++ rest,
              ⟨allValid value (List.mem_cons_self ..), ?_⟩, later, rest,
              ⟨Nat.succ.inj length, ?_, rfl⟩, rfl, rfl⟩
            · rw [List.flatMap_cons, List.append_assoc]
            · exact fun item member => allValid item (List.mem_cons_of_mem value member)

end ByteReader

/-- `vector::resize`: the sequence keeps what fits and is filled up. -/
def resized {α : Type} (items : List α) (count : Nat) (filler : α) : List α :=
  items.take count ++ List.replicate (count - items.length) filler

@[simp] theorem length_resized {α : Type} (items : List α) (count : Nat) (filler : α) :
    (resized items count filler).length = count := by
  unfold resized
  rw [List.length_append, List.length_take, List.length_replicate]
  omega

/-! ### Enumerations -/

/-- The member of an enumeration that has a code. -/
def named {α κ : Type} [DecidableEq κ] (members : List α) (code : α → κ) (value : κ) : Option α :=
  members.find? fun item => code item = value

theorem named_iff {α κ : Type} [DecidableEq κ] (members : List α) (code : α → κ)
    (complete : ∀ item, item ∈ members) (distinct : (members.map code).Nodup) (value : κ)
    (item : α) :
    named members code value = some item ↔ value = code item := by
  unfold named
  constructor
  · intro found
    have matched := List.find?_some found
    exact (of_decide_eq_true matched).symm
  · intro coded
    cases found : members.find? fun item => code item = value with
    | none =>
        have absent := List.find?_eq_none.mp found item (complete item)
        rw [coded] at absent
        exact absurd (decide_eq_true rfl) absent
    | some other =>
        have matched := List.find?_some found
        have same := (of_decide_eq_true matched).trans coded
        rw [List.inj_on_of_nodup_map distinct (complete other) (complete item) same]

/-! ### Writers -/

/-- A writer appends to its output or fails with a message. -/
abbrev ByteWriter (ε : Type) := StateT (List UInt8) (Except ε)

namespace ByteWriter

variable {α ε : Type}

def put (bytes : List UInt8) : ByteWriter ε Unit :=
  fun output => .ok ((), output ++ bytes)

/-- Fails unless the condition holds. -/
def require (condition : Prop) [Decidable condition] (message : ε) : ByteWriter ε Unit :=
  fun output => if condition then .ok ((), output) else .error message

def each (write : α → ByteWriter ε Unit) : List α → ByteWriter ε Unit
  | [] => pure ()
  | item :: rest => do
      write item
      each write rest

/-- The writer succeeds only on good values and then appends the bytes, and it
succeeds on every good value that fits under the limit. -/
structure Emits (limit : Nat) (write : ByteWriter ε Unit) (good : Prop) (bytes : List UInt8) :
    Prop where
  sound : ∀ output after, write output = .ok ((), after) → good ∧ after = output ++ bytes
  complete : ∀ output, good → output.length + bytes.length ≤ limit →
    write output = .ok ((), output ++ bytes)

variable {limit : Nat} {first second : ByteWriter ε Unit} {good better : Prop}
  {bytes more : List UInt8}

theorem Emits.put (bytes : List UInt8) :
    Emits limit (ByteWriter.put bytes : ByteWriter ε Unit) True bytes := by
  constructor
  · intro output after written
    cases written
    exact ⟨trivial, rfl⟩
  · intro output always fits
    rfl

theorem Emits.nothing : Emits limit (pure () : ByteWriter ε Unit) True [] := by
  constructor
  · intro output after written
    cases written
    exact ⟨trivial, (List.append_nil _).symm⟩
  · intro output always fits
    rw [List.append_nil]
    rfl

theorem Emits.require (condition : Prop) [Decidable condition] (message : ε) :
    Emits limit (ByteWriter.require condition message) condition [] := by
  unfold ByteWriter.require
  constructor
  · intro output after written
    by_cases holds : condition
    · rw [if_pos holds] at written
      cases written
      exact ⟨holds, (List.append_nil _).symm⟩
    · rw [if_neg holds] at written
      cases written
  · intro output holds fits
    rw [if_pos holds, List.append_nil]

/-- One writer after the other. -/
theorem Emits.andThen (before : Emits limit first good bytes)
    (after : Emits limit second better more) :
    Emits limit (do first; second) (good ∧ better) (bytes ++ more) := by
  constructor
  · intro output final written
    change (first output).bind (fun pair => second pair.2) = _ at written
    cases outcome : first output with
    | error message =>
        rw [outcome] at written
        cases written
    | ok pair =>
        rw [outcome] at written
        obtain ⟨holds, rest⟩ := before.sound output pair.2 outcome
        obtain ⟨also, last⟩ := after.sound pair.2 final written
        rw [last, rest, List.append_assoc]
        exact ⟨⟨holds, also⟩, rfl⟩
  · intro output both fits
    rw [List.length_append] at fits
    have start := before.complete output both.1 (by omega)
    have rest := after.complete (output ++ bytes) both.2 (by
      rw [List.length_append]
      omega)
    change (first output).bind (fun pair => second pair.2) = _
    rw [start, ← List.append_assoc]
    exact rest

theorem Emits.congr (emits : Emits limit first good bytes) (same : good ↔ better)
    (equal : bytes = more) : Emits limit first better more := by
  subst equal
  constructor
  · intro output after written
    obtain ⟨holds, rest⟩ := emits.sound output after written
    exact ⟨same.mp holds, rest⟩
  · intro output holds fits
    exact emits.complete output (same.mpr holds) fits

theorem Emits.each (write : α → ByteWriter ε Unit) (good : α → Prop) (layout : α → List UInt8)
    (emits : ∀ item, Emits limit (write item) (good item) (layout item)) (items : List α) :
    Emits limit (ByteWriter.each write items) (∀ item ∈ items, good item)
      (items.flatMap layout) := by
  induction items with
  | nil => exact Emits.nothing.congr ⟨fun _ => nofun, fun _ => trivial⟩ rfl
  | cons item rest ih =>
      apply ((emits item).andThen ih).congr _ rfl
      rw [List.forall_mem_cons]

/-! ### How writers fail -/

/-- A writer fails only with messages that meet the condition. -/
def Complains (known : ε → Prop) (write : ByteWriter ε Unit) : Prop :=
  ∀ output message, write output = .error message → known message

variable {known : ε → Prop}

theorem Complains.put (bytes : List UInt8) :
    Complains known (ByteWriter.put bytes : ByteWriter ε Unit) := by
  intro output message failed
  cases failed

theorem Complains.nothing : Complains known (pure () : ByteWriter ε Unit) := by
  intro output message failed
  cases failed

theorem Complains.andThen (before : Complains known first) (after : Complains known second) :
    Complains known (do first; second) := by
  intro output message failed
  change (first output).bind (fun pair => second pair.2) = _ at failed
  cases outcome : first output with
  | error problem =>
      rw [outcome] at failed
      cases failed
      exact before output message outcome
  | ok pair =>
      rw [outcome] at failed
      exact after pair.2 message failed

theorem Complains.each (write : α → ByteWriter ε Unit)
    (complains : ∀ item, Complains known (write item)) (items : List α) :
    Complains known (ByteWriter.each write items) := by
  induction items with
  | nil => exact Complains.nothing
  | cons item rest ih => exact (complains item).andThen ih

end ByteWriter

end AgentNucleus.Library
