/-
Texts of flat JSON objects: string literals as they are written and what they
denote, members with their blanks, and the places at which a text stands in
another one.
-/

import Mathlib.Data.List.Infix
import Mathlib.Data.List.Count

set_option autoImplicit false

namespace AgentNucleus.Library.JsonText

abbrev Bytes := List UInt8

/-! ### String literals -/

def isBlank (byte : UInt8) : Bool :=
  byte == 32 || byte == 9 || byte == 10 || byte == 13

/-- Blanks between the tokens. -/
abbrev Blanks := { blanks : Bytes // ∀ byte ∈ blanks, isBlank byte = true }

/-- The character of an escape with one letter. -/
def shortEscape (byte : UInt8) : Option UInt8 :=
  if byte = 34 ∨ byte = 92 ∨ byte = 47 then some byte
  else if byte = 98 then some 8
  else if byte = 102 then some 12
  else if byte = 110 then some 10
  else if byte = 114 then some 13
  else if byte = 116 then some 9
  else none

def hexValue (byte : UInt8) : Option Nat :=
  if 48 ≤ byte ∧ byte ≤ 57 then some (byte.toNat - 48)
  else if 65 ≤ byte ∧ byte ≤ 70 then some (byte.toNat - 55)
  else if 97 ≤ byte ∧ byte ≤ 102 then some (byte.toNat - 87)
  else none

/-- Four hexadecimal digits. -/
structure Unit16 where
  bytes : Bytes
  four : bytes.length = 4
  digits : ∀ byte ∈ bytes, (hexValue byte).isSome = true

def Unit16.value (unit : Unit16) : Nat :=
  unit.bytes.foldl (fun value byte => 16 * value + (hexValue byte).getD 0) 0

/-- A unit that stands for a character of its own. -/
def Unit16.Single (unit : Unit16) : Prop :=
  unit.value < 0xD800 ∨ 0xE000 ≤ unit.value

def Unit16.High (unit : Unit16) : Prop :=
  0xD800 ≤ unit.value ∧ unit.value < 0xDC00

def Unit16.Low (unit : Unit16) : Prop :=
  0xDC00 ≤ unit.value ∧ unit.value < 0xE000

/-- What stands between two quotes. -/
inductive Piece where
  | plain (byte : UInt8) (printable : 32 ≤ byte) (quote : byte ≠ 34) (escape : byte ≠ 92)
  | short (byte character : UInt8) (known : shortEscape byte = some character)
  | unicode (unit : Unit16) (single : unit.Single)
  | surrogates (high low : Unit16) (first : high.High) (second : low.Low)

namespace Piece

/-- The bytes that are written. -/
def raw : Piece → Bytes
  | plain byte _ _ _ => [byte]
  | short byte _ _ => [92, byte]
  | unicode unit _ => 92 :: 117 :: unit.bytes
  | surrogates high low _ _ => 92 :: 117 :: high.bytes ++ 92 :: 117 :: low.bytes

/-- The bytes that are meant. -/
def denoted : Piece → Bytes
  | plain byte _ _ _ => [byte]
  | short _ character _ => [character]
  | unicode unit _ => String.utf8EncodeChar (Char.ofNat unit.value)
  | surrogates high low _ _ =>
      String.utf8EncodeChar
        (Char.ofNat (0x10000 + 1024 * (high.value - 0xD800) + (low.value - 0xDC00)))

def isPlain : Piece → Bool
  | plain _ _ _ _ => true
  | _ => false

/-- Written without hexadecimal digits. -/
def isSimple : Piece → Bool
  | plain _ _ _ _ => true
  | short _ _ _ => true
  | _ => false

end Piece

abbrev Literal := List Piece

namespace Literal

def body (literal : Literal) : Bytes := literal.flatMap Piece.raw

def denoted (literal : Literal) : Bytes := literal.flatMap Piece.denoted

/-- With its quotes. -/
def raw (literal : Literal) : Bytes := 34 :: literal.body ++ [34]

/-- Nothing is escaped. -/
def isPlain (literal : Literal) : Bool := literal.all Piece.isPlain

def isSimple (literal : Literal) : Bool := literal.all Piece.isSimple

end Literal

/-! ### Numbers -/

def isDigit (byte : UInt8) : Bool :=
  decide (48 ≤ byte) && decide (byte ≤ 57)

/-- Behind the digits of a number there may be an exponent. -/
def endsAsExponent : Bytes → Bool
  | [] => true
  | letter :: rest =>
      let digits := if rest.head? = some 43 ∨ rest.head? = some 45 then rest.drop 1 else rest
      (letter == 101 || letter == 69) && !digits.isEmpty && digits.all isDigit

/-- Behind the integral part there may be a fraction. -/
def endsAsFraction : Bytes → Bool
  | 46 :: rest => !(rest.takeWhile isDigit).isEmpty && endsAsExponent (rest.dropWhile isDigit)
  | rest => endsAsExponent rest

def isNumber (text : Bytes) : Bool :=
  let unsigned := if text.head? = some 45 then text.drop 1 else text
  let integral := unsigned.takeWhile isDigit
  !integral.isEmpty && (integral.head? != some 48 || integral.length == 1) &&
    endsAsFraction (unsigned.dropWhile isDigit)

/-! ### Objects -/

inductive Value where
  | string (literal : Literal)
  | number (digits : Bytes) (valid : isNumber digits = true)

def Value.raw : Value → Bytes
  | string literal => literal.raw
  | number digits _ => digits

structure Member where
  before : Blanks
  key : Literal
  beforeColon : Blanks
  afterColon : Blanks
  value : Value
  after : Blanks

/-- What stands behind the key. -/
def Member.tail (member : Member) : Bytes :=
  member.beforeColon.val ++ 58 :: (member.afterColon.val ++ (member.value.raw ++ member.after.val))

def Member.raw (member : Member) : Bytes :=
  member.before.val ++ (member.key.raw ++ member.tail)

/-- Members with commas between them. -/
def joined : List Member → Bytes
  | [] => []
  | [member] => member.raw
  | member :: next :: rest => member.raw ++ 44 :: joined (next :: rest)

/-- An object without nested ones. -/
structure FlatObject where
  lead : Blanks
  inner : Blanks
  members : List Member
  trail : Blanks
  distinct : (members.map fun member => member.key.denoted).Nodup

def FlatObject.render (object : FlatObject) : Bytes :=
  object.lead.val ++ 123 :: (object.inner.val ++ (joined object.members ++
    125 :: object.trail.val))

/-- A member with a string, and the members around it. -/
structure FlatObject.StringMember (object : FlatObject) where
  earlier : List Member
  member : Member
  later : List Member
  literal : Literal
  listed : object.members = earlier ++ member :: later
  isString : member.value = .string literal

/-- What stands before the key of the member. -/
def FlatObject.StringMember.front {object : FlatObject} (entry : object.StringMember) : Bytes :=
  object.lead.val ++ 123 :: (object.inner.val ++
    (entry.earlier.flatMap (fun member => member.raw ++ [44]) ++ entry.member.before.val))

/-- What stands behind the literal of the member. -/
def FlatObject.StringMember.back {object : FlatObject} (entry : object.StringMember) : Bytes :=
  entry.member.after.val ++
    ((if entry.later.isEmpty then [] else 44 :: joined entry.later) ++ 125 :: object.trail.val)

theorem joined_split (earlier : List Member) (member : Member) (later : List Member) :
    joined (earlier ++ member :: later) =
      earlier.flatMap (fun member => member.raw ++ [44]) ++
        (member.raw ++ if later.isEmpty then [] else 44 :: joined later) := by
  induction earlier with
  | nil =>
      cases later with
      | nil => simp [joined]
      | cons next rest => simp [joined]
  | cons first rest ih =>
      have longer : joined (first :: (rest ++ member :: later)) =
          first.raw ++ 44 :: joined (rest ++ member :: later) := by
        cases rest with
        | nil => rfl
        | cons next rest => rfl
      rw [List.cons_append, longer, ih]
      simp

theorem FlatObject.StringMember.render_eq {object : FlatObject} (entry : object.StringMember) :
    object.render = entry.front ++ (entry.member.key.raw ++
      (entry.member.beforeColon.val ++ 58 :: (entry.member.afterColon.val ++
        (entry.literal.raw ++ entry.back)))) := by
  unfold FlatObject.render FlatObject.StringMember.front FlatObject.StringMember.back
  rw [entry.listed, joined_split]
  unfold Member.raw Member.tail Value.raw
  rw [entry.isString]
  simp

/-! ### What is written and what is meant -/

/-- Every quote that is written within a literal is meant. -/
theorem Piece.count_quotes (piece : Piece) :
    piece.raw.count 34 ≤ piece.denoted.count 34 := by
  have spared (unit : Unit16) : unit.bytes.count 34 = 0 := by
    rw [List.count_eq_zero]
    intro member
    have digit := unit.digits 34 member
    cases digit
  cases piece with
  | plain byte printable quote escape => exact Nat.le_refl _
  | short byte character known =>
      have same : byte = 34 → character = 34 := by
        intro quote
        rw [quote] at known
        exact (Option.some.inj known).symm
      by_cases quote : byte = 34
      · rw [raw, denoted, quote, same quote]
        decide
      · simp [raw, quote]
  | unicode unit single =>
      have none : (Piece.unicode unit single).raw.count 34 = 0 := by
        simp [raw, spared]
      omega
  | surrogates high low first second =>
      have none : (Piece.surrogates high low first second).raw.count 34 = 0 := by
        simp [raw, spared]
      omega

/-- An escape is longer than what it stands for. -/
theorem Piece.length_denoted (piece : Piece) :
    piece.denoted.length + (if piece.isPlain then 0 else 1) ≤ piece.raw.length := by
  have bounded (character : Char) : (String.utf8EncodeChar character).length ≤ 4 := by
    rw [String.length_utf8EncodeChar]
    exact character.utf8Size_le_four
  cases piece with
  | plain byte printable quote escape => exact Nat.le_refl _
  | short byte character known => exact Nat.le_refl _
  | unicode unit single =>
      have few := bounded (Char.ofNat unit.value)
      have four := unit.four
      simp only [denoted, raw, isPlain, List.length_cons, Bool.false_eq_true, if_false]
      omega
  | surrogates high low first second =>
      have few := bounded
        (Char.ofNat (0x10000 + 1024 * (high.value - 0xD800) + (low.value - 0xDC00)))
      have four := high.four
      simp only [denoted, raw, isPlain, List.length_cons, List.length_append,
        Bool.false_eq_true, if_false]
      omega

namespace Literal

theorem body_cons (piece : Piece) (rest : Literal) :
    body (piece :: rest) = piece.raw ++ body rest :=
  List.flatMap_cons

theorem denoted_cons (piece : Piece) (rest : Literal) :
    denoted (piece :: rest) = piece.denoted ++ denoted rest :=
  List.flatMap_cons

theorem count_quotes (literal : Literal) :
    literal.body.count 34 ≤ literal.denoted.count 34 := by
  induction literal with
  | nil => exact Nat.le_refl _
  | cons piece rest ih =>
      have first := piece.count_quotes
      rw [body_cons, denoted_cons, List.count_append, List.count_append]
      omega

theorem length_denoted (literal : Literal) :
    literal.denoted.length + (if literal.isPlain then 0 else 1) ≤ literal.body.length := by
  induction literal with
  | nil => exact Nat.le_refl _
  | cons piece rest ih =>
      have first := piece.length_denoted
      have all : isPlain (piece :: rest) = (piece.isPlain && isPlain rest) := rfl
      rw [body_cons, denoted_cons, List.length_append, List.length_append, all]
      cases plain : piece.isPlain with
      | false =>
          rw [plain, if_neg Bool.false_ne_true] at first
          rw [Bool.false_and, if_neg Bool.false_ne_true]
          split at ih <;> omega
      | true =>
          rw [Bool.true_and]
          omega

theorem body_of_isPlain (literal : Literal) (plain : literal.isPlain = true) :
    literal.body = literal.denoted := by
  induction literal with
  | nil => rfl
  | cons piece rest ih =>
      have all : isPlain (piece :: rest) = (piece.isPlain && isPlain rest) := rfl
      rw [all, Bool.and_eq_true] at plain
      rw [body_cons, denoted_cons, ih plain.2]
      cases piece with
      | plain byte printable quote escape => rfl
      | short byte character known => cases plain.1
      | unicode unit single => cases plain.1
      | surrogates high low first second => cases plain.1

/-- A literal that begins with what it denotes is written without escapes: otherwise
it would hold one quote more than it denotes. -/
theorem isPlain_of_stands (literal : Literal) (rest : Bytes)
    (stands : literal.denoted ++ [34] <+: literal.body ++ 34 :: rest) :
    literal.isPlain = true := by
  by_contra escaped
  have longer := literal.length_denoted
  rw [if_neg escaped] at longer
  have within : literal.denoted ++ [34] <+: literal.body := by
    apply List.prefix_of_prefix_length_le stands (List.prefix_append _ _)
    rw [List.length_append]
    exact longer
  have counted := within.sublist.count_le 34
  have most := literal.count_quotes
  rw [List.count_append] at counted
  have one : List.count (34 : UInt8) [34] = 1 := rfl
  omega

end Literal

/-! ### Places in a text -/

section Places

variable {α : Type}

/-- The marker stands in the text at a position. -/
def StandsAt (marker text : List α) (position : Nat) : Prop :=
  marker <+: text.drop position

/-- It stands there and nowhere before. -/
structure FirstAt (marker text : List α) (position : Nat) : Prop where
  here : StandsAt marker text position
  first : ∀ earlier < position, ¬StandsAt marker text earlier

theorem FirstAt.unique {marker text : List α} {one other : Nat} (left : FirstAt marker text one)
    (right : FirstAt marker text other) : one = other := by
  rcases Nat.lt_trichotomy one other with before | same | behind
  · exact absurd left.here (right.first one before)
  · exact same
  · exact absurd right.here (left.first other behind)

theorem firstAt_zero {marker text : List α} (here : marker <+: text) :
    FirstAt marker text 0 :=
  ⟨here, fun earlier below => absurd below (Nat.not_lt_zero earlier)⟩

theorem firstAt_cons {marker rest : List α} {element : α}
    (notHere : ¬marker <+: element :: rest) (position : Nat) :
    FirstAt marker (element :: rest) (position + 1) ↔ FirstAt marker rest position := by
  constructor
  · intro found
    refine ⟨found.here, ?_⟩
    intro earlier below
    exact found.first (earlier + 1) (Nat.succ_lt_succ below)
  · intro found
    refine ⟨found.here, ?_⟩
    intro earlier below
    cases earlier with
    | zero => exact notHere
    | succ earlier => exact found.first earlier (Nat.lt_of_succ_lt_succ below)

end Places

end AgentNucleus.Library.JsonText
