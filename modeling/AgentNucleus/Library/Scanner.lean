/-
Readers that keep a position into a buffer.  A scanner loads bytes by their index
and moves its position, in machine words; it writes down every index, every new
position and every round of a loop.  A scanner conforms to a reader of `ByteFormat`
if it answers like it on what lies ahead and stays inside its buffer.
-/

import AgentNucleus.Library.ByteFormat

set_option autoImplicit false

namespace AgentNucleus.Library

/-- A pointer to as many bytes as its size says. -/
structure Buffer where
  bytes : List UInt8
  size : UInt64
  exact : bytes.length = size.toNat

/-- What a scanner has done. -/
inductive Access where
  | byte (index : UInt64)
  | moved (position : UInt64)
  | round (number : Nat)
deriving DecidableEq, Repr

/-- A byte of the buffer, a position from which the rest can be counted, or a round
below the limit. -/
def Access.Inside (size : UInt64) (limit : Nat) : Access → Prop
  | .byte index => index < size
  | .moved position =>
      position ≤ size ∧ (size - position).toNat = size.toNat - position.toNat
  | .round number => number < limit

structure Cursor where
  position : UInt64 := 0
  log : List Access := []

namespace Cursor

structure Inside (limit : Nat) (buffer : Buffer) (cursor : Cursor) : Prop where
  position : cursor.position ≤ buffer.size
  log : ∀ access ∈ cursor.log, access.Inside buffer.size limit

/-- The bytes that have not been read. -/
def ahead (buffer : Buffer) (cursor : Cursor) : List UInt8 :=
  buffer.bytes.drop cursor.position.toNat

def note (accesses : List Access) (cursor : Cursor) : Cursor :=
  { cursor with log := cursor.log ++ accesses }

def moveBy (count : UInt64) (cursor : Cursor) : Cursor :=
  note [.moved (cursor.position + count)] { cursor with position := cursor.position + count }

/-- The indexes of as many bytes from the position on. -/
def indexes (count : Nat) (cursor : Cursor) : List UInt64 :=
  (List.range count).map fun index => cursor.position + UInt64.ofNat index

variable {limit : Nat} {buffer : Buffer} {cursor : Cursor}

theorem start_inside : Inside limit buffer {} := by
  constructor
  · exact UInt64.le_iff_toNat_le.mpr (Nat.zero_le _)
  · intro access member
    cases member

theorem Inside.note (inside : cursor.Inside limit buffer) {accesses : List Access}
    (all : ∀ access ∈ accesses, access.Inside buffer.size limit) :
    (cursor.note accesses).Inside limit buffer := by
  constructor
  · exact inside.position
  · intro access member
    rcases List.mem_append.mp member with before | now
    · exact inside.log access before
    · exact all access now

theorem Inside.position_le (inside : cursor.Inside limit buffer) :
    cursor.position.toNat ≤ buffer.size.toNat :=
  UInt64.le_iff_toNat_le.mp inside.position

/-- The rest is counted without wrapping around. -/
theorem Inside.remaining (inside : cursor.Inside limit buffer) :
    (buffer.size - cursor.position).toNat = (cursor.ahead buffer).length := by
  unfold ahead
  rw [UInt64.toNat_sub_of_le _ _ inside.position, List.length_drop, buffer.exact]

/-- No index and no position from here to the end of the buffer wraps around. -/
theorem Inside.add_toNat (inside : cursor.Inside limit buffer) {count : UInt64}
    (room : count ≤ buffer.size - cursor.position) {index : Nat} (small : index ≤ count.toNat) :
    (cursor.position + UInt64.ofNat index).toNat = cursor.position.toNat + index ∧
      cursor.position.toNat + index ≤ buffer.size.toNat := by
  have here := inside.position_le
  have bound := buffer.size.toNat_lt
  rw [UInt64.le_iff_toNat_le, UInt64.toNat_sub_of_le _ _ inside.position] at room
  rw [UInt64.toNat_add, UInt64.toNat_ofNat']
  omega

theorem Inside.moveBy (inside : cursor.Inside limit buffer) {count : UInt64}
    (room : count ≤ buffer.size - cursor.position) :
    (cursor.moveBy count).Inside limit buffer := by
  obtain ⟨moved, below⟩ := inside.add_toNat room (Nat.le_refl _)
  rw [UInt64.ofNat_toNat] at moved
  rw [← moved, ← UInt64.le_iff_toNat_le] at below
  have start : Cursor.Inside limit buffer
      { cursor with position := cursor.position + count } := ⟨below, inside.log⟩
  apply start.note
  intro access member
  rw [List.mem_singleton.mp member]
  exact ⟨below, UInt64.toNat_sub_of_le _ _ below⟩

theorem ahead_moveBy (inside : cursor.Inside limit buffer) {count : UInt64}
    (room : count ≤ buffer.size - cursor.position) :
    (cursor.moveBy count).ahead buffer = (cursor.ahead buffer).drop count.toNat := by
  obtain ⟨moved, below⟩ := inside.add_toNat room (Nat.le_refl _)
  rw [UInt64.ofNat_toNat] at moved
  change buffer.bytes.drop (cursor.position + count).toNat = _
  unfold ahead
  rw [List.drop_drop, moved]

theorem Inside.indexes (inside : cursor.Inside limit buffer) {count : UInt64}
    (room : count ≤ buffer.size - cursor.position) :
    (cursor.note ((cursor.indexes count.toNat).map Access.byte)).Inside limit buffer := by
  apply inside.note
  intro access member
  obtain ⟨position, listed, same⟩ := List.mem_map.mp member
  obtain ⟨index, small, equal⟩ := List.mem_map.mp listed
  rw [List.mem_range] at small
  rw [← same, ← equal]
  change cursor.position + UInt64.ofNat index < buffer.size
  have next := (inside.add_toNat room (Nat.succ_le_of_lt small)).2
  rw [UInt64.lt_iff_toNat_lt, (inside.add_toNat room small.le).1]
  omega

/-- The bytes at the indexes are those ahead. -/
theorem Inside.loaded (inside : cursor.Inside limit buffer) {count : UInt64}
    (room : count ≤ buffer.size - cursor.position) :
    (cursor.indexes count.toNat).map (fun index => buffer.bytes.getD index.toNat 0) =
      (cursor.ahead buffer).take count.toNat := by
  have fits := (inside.add_toNat room (Nat.le_refl _)).2
  unfold Cursor.indexes ahead
  apply List.ext_getElem
  · simp only [List.length_map, List.length_range, List.length_take, List.length_drop,
      buffer.exact]
    omega
  · intro index small also
    rw [List.length_map, List.length_map, List.length_range] at small
    have below : cursor.position.toNat + index < buffer.bytes.length := by
      rw [buffer.exact]
      omega
    rw [List.getElem_map, List.getElem_map, List.getElem_range, List.getElem_take,
      List.getElem_drop, (inside.add_toNat room small.le).1, List.getD_eq_getElem?_getD,
      List.getElem?_eq_getElem below]
    rfl

end Cursor

/-! ### Scanners -/

/-- A scanner leaves a cursor also when it fails. -/
def Scanner (ε α : Type) := Buffer → Cursor → Except ε α × Cursor

namespace Scanner

variable {ε α β : Type}

def andThen (first : Scanner ε α) (next : α → Scanner ε β) : Scanner ε β :=
  fun buffer cursor =>
    match first buffer cursor with
    | (.error problem, after) => (.error problem, after)
    | (.ok value, after) => next value buffer after

instance : Monad (Scanner ε) where
  pure value := fun _ cursor => (.ok value, cursor)
  bind := andThen

theorem bind_ok {first : Scanner ε α} (next : α → Scanner ε β) {buffer : Buffer}
    {cursor after : Cursor} {value : α} (ran : first buffer cursor = (.ok value, after)) :
    (first >>= next : Scanner ε β) buffer cursor = next value buffer after := by
  change first.andThen next buffer cursor = _
  unfold andThen
  rw [ran]

theorem bind_error {first : Scanner ε α} (next : α → Scanner ε β) {buffer : Buffer}
    {cursor after : Cursor} {problem : ε} (ran : first buffer cursor = (.error problem, after)) :
    (first >>= next : Scanner ε β) buffer cursor = (.error problem, after) := by
  change first.andThen next buffer cursor = _
  unfold andThen
  rw [ran]

theorem pure_bind (value : α) (next : α → Scanner ε β) :
    (pure value >>= next : Scanner ε β) = next value := rfl

theorem bind_assoc {γ : Type} (scan : Scanner ε α) (next : α → Scanner ε β)
    (last : β → Scanner ε γ) :
    ((scan >>= next) >>= last : Scanner ε γ) = scan >>= fun value => next value >>= last := by
  funext buffer cursor
  change (scan.andThen next).andThen last buffer cursor =
    scan.andThen (fun value => (next value).andThen last) buffer cursor
  unfold andThen
  rcases scan buffer cursor with ⟨outcome, after⟩
  cases outcome with
  | error problem => rfl
  | ok value => rfl

/-- Fails unless the condition holds. -/
def require (condition : Prop) [Decidable condition] (problem : ε) : Scanner ε Unit :=
  fun _ cursor => if condition then (.ok (), cursor) else (.error problem, cursor)

/-- Fails unless something was found. -/
def ofOption (problem : ε) : Option α → Scanner ε α
  | none => fun _ cursor => (.error problem, cursor)
  | some value => pure value

def size : Scanner ε UInt64 :=
  fun buffer cursor => (.ok buffer.size, cursor)

def remaining : Scanner ε UInt64 :=
  fun buffer cursor => (.ok (buffer.size - cursor.position), cursor)

/-- Loads bytes from the position on; behind the buffer there is nothing to be had. -/
def load (count : Nat) : Scanner ε (List UInt8) :=
  fun buffer cursor =>
    (.ok ((cursor.indexes count).map fun index => buffer.bytes.getD index.toNat 0),
      cursor.note ((cursor.indexes count).map Access.byte))

def advance (count : UInt64) : Scanner ε Unit :=
  fun _ cursor => (.ok (), cursor.moveBy count)

/-- The next `count` bytes, unless fewer remain. -/
def chunk (count : UInt64) : Scanner Unit (List UInt8) := do
  let left ← remaining
  require (count ≤ left) ()
  let bytes ← load count.toNat
  advance count
  pure bytes

def u8 : Scanner Unit UInt8 := do
  let bytes ← chunk 1
  pure (UInt8.ofNat (fromLittleEndian bytes))

def u16 : Scanner Unit UInt16 := do
  let bytes ← chunk 2
  pure (UInt16.ofNat (fromLittleEndian bytes))

def u32 : Scanner Unit UInt32 := do
  let bytes ← chunk 4
  pure (UInt32.ofNat (fromLittleEndian bytes))

def u64 : Scanner Unit UInt64 := do
  let bytes ← chunk 8
  pure (UInt64.ofNat (fromLittleEndian bytes))

/-- A string behind its length, which may not exceed a limit. -/
def block (longest : Nat) : Scanner Unit (List UInt8) := do
  let length ← u32
  require (length.toNat ≤ longest) ()
  chunk length.toUInt64

/-- The rounds of a loop over a sequence are numbered from 0. -/
def each (scan : α → Scanner ε α) (number : Nat) : List α → Scanner ε (List α)
  | [] => pure []
  | old :: rest => do
      fun _ cursor => (.ok (), cursor.note [.round number])
      let value ← scan old
      let values ← each scan (number + 1) rest
      pure (value :: values)

/-- A failure gets its text from the caller. -/
def orError (problem : ε) (scan : Scanner Unit α) : Scanner ε α :=
  fun buffer cursor => ((scan buffer cursor).1.mapError fun _ => problem, (scan buffer cursor).2)

end Scanner

/-! ### Conforming scanners -/

/-- From inside its buffer the scanner stays inside, and it answers like the reader on
the bytes ahead. -/
def Conforms {ε α : Type} (limit : Nat) (scan : Scanner ε α) (read : ByteReader α) : Prop :=
  ∀ (buffer : Buffer) (cursor : Cursor), cursor.Inside limit buffer →
    (scan buffer cursor).2.Inside limit buffer ∧
      read (cursor.ahead buffer) = (scan buffer cursor).1.toOption.map fun value =>
        (value, (scan buffer cursor).2.ahead buffer)

namespace Conforms

variable {ε α β : Type} {limit : Nat}

protected theorem pure (value : α) :
    Conforms limit (pure value : Scanner ε α) (pure value) := by
  intro buffer cursor inside
  exact ⟨inside, rfl⟩

/-- What the reader has read is known to what follows. -/
protected theorem bind {first : Scanner ε α} {before : ByteReader α} {next : α → Scanner ε β}
    {after : α → ByteReader β} (conforms : Conforms limit first before)
    (follows : ∀ value, (∃ bytes rest, before bytes = some (value, rest)) →
      Conforms limit (next value) (after value)) :
    Conforms limit (first >>= next) (before >>= after) := by
  intro buffer cursor inside
  obtain ⟨stays, answers⟩ := conforms buffer cursor inside
  rcases ran : first buffer cursor with ⟨outcome, middle⟩
  rw [ran] at stays answers
  cases outcome with
  | error problem =>
      change before (cursor.ahead buffer) = none at answers
      rw [Scanner.bind_error next ran]
      refine ⟨stays, ?_⟩
      change (before (cursor.ahead buffer)).bind _ = none
      rw [answers]
      rfl
  | ok value =>
      change before (cursor.ahead buffer) = some (value, middle.ahead buffer) at answers
      obtain ⟨continues, same⟩ := follows value ⟨_, _, answers⟩ buffer middle stays
      rw [Scanner.bind_ok next ran]
      refine ⟨continues, ?_⟩
      rw [← same]
      change (before (cursor.ahead buffer)).bind _ = _
      rw [answers]
      rfl

theorem require (condition : Prop) [Decidable condition] (problem : ε) :
    Conforms limit (Scanner.require condition problem) (ByteReader.require condition) := by
  intro buffer cursor inside
  unfold Scanner.require ByteReader.require
  by_cases holds : condition
  · rw [if_pos holds, if_pos holds]
    exact ⟨inside, rfl⟩
  · rw [if_neg holds, if_neg holds]
    exact ⟨inside, rfl⟩

theorem ofOption (problem : ε) (found : Option α) :
    Conforms limit (Scanner.ofOption problem found)
      fun bytes => found.map fun value => (value, bytes) := by
  intro buffer cursor inside
  cases found with
  | none => exact ⟨inside, rfl⟩
  | some value => exact ⟨inside, rfl⟩

theorem chunk (count : UInt64) :
    Conforms limit (Scanner.chunk count) (ByteReader.chunk count.toNat) := by
  intro buffer cursor inside
  have decides : count ≤ buffer.size - cursor.position ↔
      ¬(cursor.ahead buffer).length < count.toNat := by
    rw [UInt64.le_iff_toNat_le, inside.remaining, Nat.not_lt]
  have split : Scanner.chunk count buffer cursor =
      ((Scanner.require (count ≤ buffer.size - cursor.position) ()).andThen fun _ =>
        (Scanner.load count.toNat).andThen fun bytes =>
          (Scanner.advance count).andThen fun _ => pure bytes) buffer cursor := rfl
  rw [split]
  unfold ByteReader.chunk Scanner.andThen Scanner.require
  by_cases enough : count ≤ buffer.size - cursor.position
  · have loads := inside.indexes enough
    have room : count ≤ buffer.size - (cursor.note
        ((cursor.indexes count.toNat).map Access.byte)).position := enough
    rw [if_pos enough, if_neg (decides.mp enough)]
    refine ⟨loads.moveBy room, ?_⟩
    change some _ = some ((cursor.indexes count.toNat).map _,
      ((cursor.note ((cursor.indexes count.toNat).map Access.byte)).moveBy count).ahead buffer)
    rw [inside.loaded enough, Cursor.ahead_moveBy loads room]
    rfl
  · rw [if_neg enough, if_pos (not_not.mp (mt decides.mpr enough))]
    exact ⟨inside, rfl⟩

private theorem number {width : UInt64} (ofNat : Nat → α) :
    Conforms limit
      (Scanner.chunk width >>= fun bytes => pure (ofNat (fromLittleEndian bytes)))
      (fun bytes => (ByteReader.integer width.toNat bytes).map fun pair =>
        (ofNat pair.1, pair.2)) := by
  have conforms := Conforms.bind (@chunk limit width) fun bytes read =>
    Conforms.pure (ofNat (fromLittleEndian bytes))
  intro buffer cursor inside
  obtain ⟨stays, answers⟩ := conforms buffer cursor inside
  refine ⟨stays, ?_⟩
  rw [← answers]
  unfold ByteReader.integer
  change ((ByteReader.chunk width.toNat (cursor.ahead buffer)).bind _).map _ =
    (ByteReader.chunk width.toNat (cursor.ahead buffer)).bind _
  cases ByteReader.chunk width.toNat (cursor.ahead buffer) with
  | none => rfl
  | some pair => rfl

theorem u8 : Conforms limit Scanner.u8 ByteReader.u8 := number UInt8.ofNat

theorem u16 : Conforms limit Scanner.u16 ByteReader.u16 := number UInt16.ofNat

theorem u32 : Conforms limit Scanner.u32 ByteReader.u32 := number UInt32.ofNat

theorem u64 : Conforms limit Scanner.u64 ByteReader.u64 := number UInt64.ofNat

theorem block (longest : Nat) :
    Conforms limit (Scanner.block longest) (ByteReader.block longest) := by
  apply Conforms.bind u32
  intro length read
  apply Conforms.bind (require _ _)
  intro nothing bounded
  have same : length.toUInt64.toNat = length.toNat := UInt32.toNat_toUInt64 length
  rw [← same]
  exact chunk length.toUInt64

/-- A loop that has not more rounds than the limit. -/
theorem each {scan : α → Scanner ε α} {read : α → ByteReader α}
    (conforms : ∀ old, Conforms limit (scan old) (read old)) (olds : List α) (number : Nat)
    (few : number + olds.length ≤ limit) :
    Conforms limit (Scanner.each scan number olds) (ByteReader.each read olds) := by
  induction olds generalizing number with
  | nil => exact Conforms.pure []
  | cons old rest ih =>
      rw [List.length_cons] at few
      have body : Conforms limit
          (scan old >>= fun value => Scanner.each scan (number + 1) rest >>= fun values =>
            pure (value :: values))
          (ByteReader.each read (old :: rest)) := by
        apply Conforms.bind (conforms old)
        intro value valueRead
        apply Conforms.bind (ih (number + 1) (by omega))
        intro values valuesRead
        exact Conforms.pure (value :: values)
      intro buffer cursor inside
      apply body buffer (cursor.note [.round number])
      apply inside.note
      intro access member
      rw [List.mem_singleton.mp member]
      change number < limit
      omega

end Conforms

/-! ### Whole calls -/

/-- From a cursor, the scanner gives an outcome and ends inside its buffer. -/
structure Gives {ε α : Type} (limit : Nat) (buffer : Buffer) (cursor : Cursor)
    (scan : Scanner ε α) (outcome : Except ε α) : Prop where
  inside : (scan buffer cursor).2.Inside limit buffer
  outcome : (scan buffer cursor).1 = outcome

namespace Gives

variable {ε α β : Type} {limit : Nat} {buffer : Buffer} {cursor : Cursor}
  {outcome : Except ε β}

protected theorem pure (inside : cursor.Inside limit buffer) (value : β) :
    Gives limit buffer cursor (pure value : Scanner ε β) (.ok value) :=
  ⟨inside, rfl⟩

theorem require {condition : Prop} [Decidable condition] {problem : ε} {next : Scanner ε β}
    (inside : cursor.Inside limit buffer)
    (refused : ¬condition → outcome = .error problem)
    (follows : condition → Gives limit buffer cursor next outcome) :
    Gives limit buffer cursor (Scanner.require condition problem >>= fun _ => next) outcome := by
  by_cases holds : condition
  · have ran : Scanner.require condition problem buffer cursor = (.ok (), cursor) := if_pos holds
    constructor
    · rw [Scanner.bind_ok _ ran]
      exact (follows holds).inside
    · rw [Scanner.bind_ok _ ran]
      exact (follows holds).outcome
  · have ran : Scanner.require condition problem buffer cursor = (.error problem, cursor) :=
      if_neg holds
    constructor
    · rw [Scanner.bind_error _ ran]
      exact inside
    · rw [Scanner.bind_error _ ran]
      exact (refused holds).symm

theorem read {scan : Scanner Unit α} {reader : ByteReader α} {problem : ε}
    {next : α → Scanner ε β} (conforms : Conforms limit scan reader)
    (inside : cursor.Inside limit buffer)
    (refused : reader (cursor.ahead buffer) = none → outcome = .error problem)
    (follows : ∀ value after, after.Inside limit buffer →
      reader (cursor.ahead buffer) = some (value, after.ahead buffer) →
        Gives limit buffer after (next value) outcome) :
    Gives limit buffer cursor (scan.orError problem >>= next) outcome := by
  obtain ⟨stays, answers⟩ := conforms buffer cursor inside
  rcases ran : scan buffer cursor with ⟨result, after⟩
  rw [ran] at stays answers
  cases result with
  | error nothing =>
      have failed : scan.orError problem buffer cursor = (.error problem, after) := by
        unfold Scanner.orError
        rw [ran]
        rfl
      constructor
      · rw [Scanner.bind_error _ failed]
        exact stays
      · rw [Scanner.bind_error _ failed]
        exact (refused answers).symm
  | ok value =>
      have succeeded : scan.orError problem buffer cursor = (.ok value, after) := by
        unfold Scanner.orError
        rw [ran]
        rfl
      have continues := follows value after stays answers
      constructor
      · rw [Scanner.bind_ok _ succeeded]
        exact continues.inside
      · rw [Scanner.bind_ok _ succeeded]
        exact continues.outcome

theorem ofOption {found : Option α} {problem : ε} {next : α → Scanner ε β}
    (inside : cursor.Inside limit buffer) (refused : found = none → outcome = .error problem)
    (follows : ∀ value, found = some value → Gives limit buffer cursor (next value) outcome) :
    Gives limit buffer cursor (Scanner.ofOption problem found >>= next) outcome := by
  cases found with
  | none => exact ⟨inside, (refused rfl).symm⟩
  | some value => exact follows value rfl

theorem size {next : UInt64 → Scanner ε β}
    (follows : Gives limit buffer cursor (next buffer.size) outcome) :
    Gives limit buffer cursor (Scanner.size >>= next) outcome :=
  ⟨follows.inside, follows.outcome⟩

/-- What remains is known exactly. -/
theorem remaining {next : UInt64 → Scanner ε β} (inside : cursor.Inside limit buffer)
    (follows : ∀ left : UInt64, left.toNat = (cursor.ahead buffer).length →
      Gives limit buffer cursor (next left) outcome) :
    Gives limit buffer cursor (Scanner.remaining >>= next) outcome := by
  have continues := follows (buffer.size - cursor.position) inside.remaining
  exact ⟨continues.inside, continues.outcome⟩

end Gives

end AgentNucleus.Library
