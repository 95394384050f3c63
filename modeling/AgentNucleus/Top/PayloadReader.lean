/-
What `json_string` reads out of a flat object, and out of the payload that the
writer of the same repository makes.  The reader goes to the first place at which
the quoted key stands in the text, whatever that place belongs to.
-/

import Mathlib.Data.List.TakeWhile
import AgentNucleus.Library.JsonText
import AgentNucleus.Top.RequestPayload

set_option autoImplicit false

namespace AgentNucleus.Top

open AgentNucleus.Library.JsonText (FirstAt FlatObject Literal Piece StandsAt firstAt_cons
  firstAt_zero isBlank shortEscape)
open AgentNucleus.Runtime (StdString text toStdString)

/-! ### The writer -/

def hex : StdString := text "0123456789abcdef"

/-- One round of the loop in `json_escape`. -/
def escapeByte (value : UInt8) : StdString :=
  if value = 34 then [92, 34]
  else if value = 92 then [92, 92]
  else if value = 8 then [92, 98]
  else if value = 12 then [92, 102]
  else if value = 10 then [92, 110]
  else if value = 13 then [92, 114]
  else if value = 9 then [92, 116]
  else if value < 32 then
    text "\\u00" ++ [hex.getD (value >>> 4).toNat 0, hex.getD (value &&& 15).toNat 0]
  else [value]

def jsonEscape (content : StdString) : StdString :=
  content.flatMap escapeByte

def modelPayload (systemPrompt prompt : StdString) (maxTokens : UInt32) : StdString :=
  text "\x7b\"system_prompt\":\"" ++ jsonEscape systemPrompt ++ text "\",\"prompt\":\"" ++
    jsonEscape prompt ++ text "\",\"max_tokens\":" ++ toStdString maxTokens.toUInt64 ++
      text ",\"temperature\":0.1,\"top_p\":0.9\x7d"

/-! ### What the reader looks for -/

/-- What the reader accepts between two quotes. -/
inductive Spells : StdString → StdString → Prop where
  | nil : Spells [] []
  | plain {byte : UInt8} {body content : StdString} (quote : byte ≠ 34) (escape : byte ≠ 92)
      (rest : Spells body content) : Spells (byte :: body) (byte :: content)
  | escaped {byte character : UInt8} {body content : StdString}
      (known : shortEscape byte = some character) (rest : Spells body content) :
      Spells (92 :: byte :: body) (character :: content)

/-- A colon and a string follow. -/
def Follows (rest content : StdString) : Prop :=
  ∃ blanks further body after : StdString,
    rest = blanks ++ 58 :: (further ++ 34 :: (body ++ 34 :: after)) ∧
      (∀ byte ∈ blanks, isSpace byte = true) ∧ (∀ byte ∈ further, isSpace byte = true) ∧
        Spells body content

def quotedKey (key : StdString) : StdString :=
  34 :: key ++ [34]

/-- The text from behind a marker is read. -/
def valueAfter (rest : StdString) : Option StdString :=
  let tail := skipSpace rest
  if tail.head? = some 58 then
    let value := skipSpace tail.tail
    if value.head? = some 34 then stringBody [] value.tail else none
  else none

/-- A text with a head is that head and its tail. -/
private theorem cons_of_head {rest : StdString} {byte : UInt8} (head : rest.head? = some byte) :
    rest = byte :: rest.tail := by
  cases rest with
  | nil => cases head
  | cons first tail =>
      cases head
      rfl

theorem jsonString_eq (json key : StdString) :
    jsonString json key = (afterMarker (quotedKey key) json).bind valueAfter := by
  unfold jsonString jsonValuePosition valueAfter quotedKey
  cases afterMarker (34 :: key ++ [34]) json with
  | none => rfl
  | some rest =>
      dsimp only [Option.bind_some]
      cases skipSpace rest with
      | nil => rfl
      | cons byte value =>
          by_cases colon : byte = 58
          · subst colon
            rw [List.head?_cons, if_pos rfl, List.tail_cons]
            split
            · rename_i rest found
              rw [Option.some.inj found, List.head?_cons, if_pos rfl, List.tail_cons]
            · rename_i other
              rw [if_neg]
              intro head
              exact other _ (congrArg some (cons_of_head head))
          · simp [colon]

/-! ### Strings -/

theorem unescaped_eq (byte : UInt8) : unescaped byte = shortEscape byte := rfl

theorem stringBody_quote (value rest : StdString) :
    stringBody value (34 :: rest) = some value := by
  cases rest with
  | nil => rfl
  | cons next rest => rfl

theorem stringBody_plain (value rest : StdString) {byte : UInt8} (quote : byte ≠ 34)
    (escape : byte ≠ 92) :
    stringBody value (byte :: rest) = stringBody (value ++ [byte]) rest := by
  cases rest with
  | nil => simp [stringBody, quote]
  | cons next rest =>
      rw [stringBody, if_neg quote, if_pos escape]

theorem stringBody_escape (value rest : StdString) (byte : UInt8) :
    stringBody value (92 :: byte :: rest) =
      (shortEscape byte).bind fun character => stringBody (value ++ [character]) rest := by
  rw [stringBody, if_neg (by decide), if_neg (by decide), unescaped_eq]
  cases shortEscape byte with
  | none => rfl
  | some character => rfl

/-- The loop stops at the first quote that is not escaped. -/
theorem stringBody_spells {body content : StdString} (spells : Spells body content)
    (value rest : StdString) :
    stringBody value (body ++ 34 :: rest) = some (value ++ content) := by
  induction spells generalizing value with
  | nil => rw [List.nil_append, stringBody_quote, List.append_nil]
  | plain quote escape inner ih =>
      rw [List.cons_append, stringBody_plain _ _ quote escape, ih, List.append_assoc]
      rfl
  | escaped known inner ih =>
      rw [List.cons_append, List.cons_append, stringBody_escape, known, Option.bind_some, ih,
        List.append_assoc]
      rfl

theorem stringBody_iff (value read result : StdString) :
    stringBody value read = some result ↔
      ∃ body content rest, read = body ++ 34 :: rest ∧ Spells body content ∧
        result = value ++ content := by
  constructor
  · intro found
    -- An escape takes two bytes away.
    induction length : read.length using Nat.strong_induction_on generalizing value read with
    | _ count ih =>
        cases read with
        | nil => cases found
        | cons byte tail =>
            by_cases quote : byte = 34
            · subst quote
              rw [stringBody_quote] at found
              cases found
              exact ⟨[], [], tail, rfl, Spells.nil, (List.append_nil _).symm⟩
            · by_cases escape : byte = 92
              · subst escape
                cases tail with
                | nil => cases found
                | cons letter tail =>
                    rw [stringBody_escape] at found
                    cases known : shortEscape letter with
                    | none =>
                        rw [known] at found
                        cases found
                    | some character =>
                        rw [known, Option.bind_some] at found
                        have shorter : tail.length < count := by
                          rw [← length]
                          exact Nat.lt_succ_of_lt (Nat.lt_succ_self _)
                        obtain ⟨body, content, rest, split, spells, same⟩ :=
                          ih tail.length shorter _ tail found rfl
                        refine ⟨92 :: letter :: body, character :: content, rest, ?_,
                          Spells.escaped known spells, ?_⟩
                        · rw [split]
                          rfl
                        · rw [same, List.append_assoc]
                          rfl
              · rw [stringBody_plain _ _ quote escape] at found
                have shorter : tail.length < count := by
                  rw [← length]
                  exact Nat.lt_succ_self _
                obtain ⟨body, content, rest, split, spells, same⟩ :=
                  ih tail.length shorter _ tail found rfl
                refine ⟨byte :: body, byte :: content, rest, ?_,
                  Spells.plain quote escape spells, ?_⟩
                · rw [split]
                  rfl
                · rw [same, List.append_assoc]
                  rfl
  · intro spelt
    obtain ⟨body, content, rest, split, spells, same⟩ := spelt
    rw [split, same]
    exact stringBody_spells spells value rest

/-! ### Values -/

theorem skipSpace_append (blanks rest : StdString) (blank : ∀ byte ∈ blanks, isSpace byte = true) :
    skipSpace (blanks ++ rest) = skipSpace rest :=
  List.dropWhile_append_of_pos blank

theorem skipSpace_cons {byte : UInt8} (rest : StdString) (printed : isSpace byte = false) :
    skipSpace (byte :: rest) = byte :: rest :=
  List.dropWhile_cons_of_neg (Bool.eq_false_iff.mp printed)

/-- Blanks are all that is skipped. -/
theorem skipSpace_split (rest : StdString) :
    ∃ blanks, rest = blanks ++ skipSpace rest ∧ ∀ byte ∈ blanks, isSpace byte = true := by
  refine ⟨rest.takeWhile isSpace, (List.takeWhile_append_dropWhile).symm, ?_⟩
  intro byte member
  exact List.mem_takeWhile_imp member

theorem valueAfter_string (blanks further body : StdString)
    (blank : ∀ byte ∈ blanks, isSpace byte = true)
    (furtherBlank : ∀ byte ∈ further, isSpace byte = true) :
    valueAfter (blanks ++ 58 :: (further ++ 34 :: body)) = stringBody [] body := by
  unfold valueAfter
  rw [skipSpace_append _ _ blank, skipSpace_cons _ (by decide)]
  dsimp only
  rw [List.head?_cons, if_pos rfl, List.tail_cons, skipSpace_append _ _ furtherBlank,
    skipSpace_cons _ (by decide), List.head?_cons, if_pos rfl, List.tail_cons]

theorem valueAfter_iff (rest content : StdString) :
    valueAfter rest = some content ↔ Follows rest content := by
  constructor
  · intro found
    obtain ⟨blanks, split, blank⟩ := skipSpace_split rest
    obtain ⟨further, furtherSplit, furtherBlank⟩ := skipSpace_split (skipSpace rest).tail
    unfold valueAfter at found
    dsimp only at found
    by_cases colon : (skipSpace rest).head? = some 58
    · rw [if_pos colon] at found
      by_cases quote : (skipSpace (skipSpace rest).tail).head? = some 34
      · rw [if_pos quote] at found
        obtain ⟨body, spelt, after, inner, spells, same⟩ := (stringBody_iff _ _ _).mp found
        refine ⟨blanks, further, body, after, ?_, blank, furtherBlank, ?_⟩
        · rw [← inner, ← cons_of_head quote, ← furtherSplit, ← cons_of_head colon]
          exact split
        · rw [same]
          exact spells
      · rw [if_neg quote] at found
        cases found
    · rw [if_neg colon] at found
      cases found
  · intro follows
    obtain ⟨blanks, further, body, after, split, blank, furtherBlank, spells⟩ := follows
    rw [split, valueAfter_string _ _ _ blank furtherBlank, stringBody_spells spells]
    rfl

/-! ### The first place of a marker -/

theorem afterMarker_iff {marker : StdString} (nonempty : marker ≠ []) (json rest : StdString) :
    afterMarker marker json = some rest ↔
      ∃ position, FirstAt marker json position ∧ rest = json.drop (position + marker.length) := by
  induction json with
  | nil =>
      have nothing : afterMarker marker [] = none := by
        unfold afterMarker
        cases marker with
        | nil => exact absurd rfl nonempty
        | cons byte marker => rfl
      rw [nothing]
      constructor
      · intro found
        cases found
      · intro found
        obtain ⟨position, first, same⟩ := found
        have here := first.here
        unfold StandsAt at here
        rw [List.drop_nil, List.prefix_nil] at here
        exact absurd here nonempty
  | cons byte json ih =>
      unfold afterMarker
      by_cases stands : marker <+: byte :: json
      · rw [if_pos (List.isPrefixOf_iff_prefix.mpr stands)]
        constructor
        · intro found
          cases found
          refine ⟨0, firstAt_zero stands, ?_⟩
          rw [Nat.zero_add]
        · intro found
          obtain ⟨position, first, same⟩ := found
          cases first.unique (firstAt_zero stands)
          rw [same, Nat.zero_add]
      · rw [if_neg (mt List.isPrefixOf_iff_prefix.mp stands), ih]
        constructor
        · intro found
          obtain ⟨position, first, same⟩ := found
          refine ⟨position + 1, (firstAt_cons stands position).mpr first, ?_⟩
          rw [same, Nat.add_right_comm]
          rfl
        · intro found
          obtain ⟨position, first, same⟩ := found
          cases position with
          | zero => exact absurd first.here stands
          | succ position =>
              refine ⟨position, (firstAt_cons stands position).mp first, ?_⟩
              rw [same, Nat.add_right_comm]
              rfl

/-- The reader takes the first place at which the quoted key stands, and succeeds
if a colon and a string follow there. -/
theorem jsonString_iff (json key content : StdString) :
    jsonString json key = some content ↔
      ∃ position, FirstAt (quotedKey key) json position ∧
        Follows (json.drop (position + (quotedKey key).length)) content := by
  have nonempty : quotedKey key ≠ [] := List.cons_ne_nil _ _
  rw [jsonString_eq]
  constructor
  · intro found
    obtain ⟨rest, behind, value⟩ := Option.bind_eq_some_iff.mp found
    obtain ⟨position, first, same⟩ := (afterMarker_iff nonempty json rest).mp behind
    refine ⟨position, first, ?_⟩
    rw [← same]
    exact (valueAfter_iff rest content).mp value
  · intro found
    obtain ⟨position, first, follows⟩ := found
    rw [(afterMarker_iff nonempty json _).mpr ⟨position, first, rfl⟩]
    exact (valueAfter_iff _ content).mpr follows

/-! ### The members of an object -/

/-- A literal with hexadecimal digits is refused, and every other one is read. -/
theorem stringBody_literal (literal : Literal) (value rest : StdString) :
    stringBody value (literal.body ++ 34 :: rest) =
      if literal.isSimple then some (value ++ literal.denoted) else none := by
  induction literal generalizing value with
  | nil =>
      change stringBody value (34 :: rest) = some (value ++ [])
      rw [stringBody_quote, List.append_nil]
  | cons piece literal ih =>
      have all : Literal.isSimple (piece :: literal) =
          (piece.isSimple && Literal.isSimple literal) := rfl
      rw [Literal.body_cons, Literal.denoted_cons, all, List.append_assoc]
      cases piece with
      | plain byte printable quote escape =>
          change stringBody value (byte :: (Literal.body literal ++ 34 :: rest)) =
            if Literal.isSimple literal then some (value ++ ([byte] ++ Literal.denoted literal))
            else none
          rw [stringBody_plain _ _ quote escape, ih, List.append_assoc]
      | short byte character known =>
          change stringBody value (92 :: byte :: (Literal.body literal ++ 34 :: rest)) =
            if Literal.isSimple literal then
              some (value ++ ([character] ++ Literal.denoted literal))
            else none
          rw [stringBody_escape, known, Option.bind_some, ih, List.append_assoc]
      | unicode unit single =>
          change stringBody value
            (92 :: 117 :: (unit.bytes ++ (Literal.body literal ++ 34 :: rest))) = none
          rw [stringBody_escape]
          rfl
      | surrogates high low first second =>
          change stringBody value (92 :: 117 :: ((high.bytes ++ 92 :: 117 :: low.bytes) ++
            (Literal.body literal ++ 34 :: rest))) = none
          rw [stringBody_escape]
          rfl

theorem isSpace_of_isBlank {byte : UInt8} (blank : isBlank byte = true) :
    isSpace byte = true := by
  unfold isBlank at blank
  simp only [Bool.or_eq_true, beq_iff_eq] at blank
  rcases blank with ((space | tab) | feed) | carriage
  · rw [space]
    rfl
  · rw [tab]
    rfl
  · rw [feed]
    rfl
  · rw [carriage]
    rfl

variable {object : FlatObject}

/-- The place of the member's key. -/
def ownPlace (entry : object.StringMember) : Nat :=
  entry.front.length

/-- The key stands in the text as it is, and its member comes before anything else
that looks like it. -/
def KeyFound (entry : object.StringMember) : Prop :=
  entry.member.key.isPlain = true ∧
    ∀ earlier < ownPlace entry,
      ¬StandsAt (quotedKey entry.member.key.denoted) object.render earlier

/-- Something else looks like the key, and the same string follows it. -/
def FoundElsewhere (entry : object.StringMember) : Prop :=
  ∃ position, position ≠ ownPlace entry ∧
    FirstAt (quotedKey entry.member.key.denoted) object.render position ∧
      Follows (object.render.drop
        (position + (quotedKey entry.member.key.denoted).length)) entry.literal.denoted

private theorem drop_ownPlace (entry : object.StringMember) :
    object.render.drop (ownPlace entry) = entry.member.key.raw ++
      (entry.member.beforeColon.val ++ 58 :: (entry.member.afterColon.val ++
        (entry.literal.raw ++ entry.back))) := by
  rw [entry.render_eq]
  exact List.drop_left

/-- The reader at the member's own key. -/
private theorem own_follows_iff (entry : object.StringMember)
    (plain : entry.member.key.isPlain = true) :
    Follows (object.render.drop
        (ownPlace entry + (quotedKey entry.member.key.denoted).length)) entry.literal.denoted ↔
      entry.literal.isSimple = true := by
  have same : quotedKey entry.member.key.denoted = entry.member.key.raw := by
    unfold quotedKey Literal.raw
    rw [Literal.body_of_isPlain _ plain]
  have behind : object.render.drop
      (ownPlace entry + (quotedKey entry.member.key.denoted).length) =
        entry.member.beforeColon.val ++ 58 :: (entry.member.afterColon.val ++
          34 :: (entry.literal.body ++ 34 :: entry.back)) := by
    rw [← List.drop_drop, drop_ownPlace, same, List.drop_left]
    unfold Literal.raw
    simp
  rw [← valueAfter_iff, behind, valueAfter_string _ _ _
    (fun byte member => isSpace_of_isBlank (entry.member.beforeColon.property byte member))
    (fun byte member => isSpace_of_isBlank (entry.member.afterColon.property byte member)),
    stringBody_literal]
  cases entry.literal.isSimple with
  | true => simp
  | false => simp

/-- Only a key without escapes stands at its own place. -/
private theorem isPlain_of_own (entry : object.StringMember)
    (stands : StandsAt (quotedKey entry.member.key.denoted) object.render (ownPlace entry)) :
    entry.member.key.isPlain = true := by
  unfold StandsAt at stands
  rw [drop_ownPlace] at stands
  unfold quotedKey Literal.raw at stands
  rw [List.cons_append, List.cons_append, List.cons_append, List.cons_prefix_cons,
    List.append_assoc] at stands
  exact entry.member.key.isPlain_of_stands _ stands.2

theorem jsonString_member_iff (entry : object.StringMember) :
    jsonString object.render entry.member.key.denoted = some entry.literal.denoted ↔
      (KeyFound entry ∧ entry.literal.isSimple = true) ∨ FoundElsewhere entry := by
  rw [jsonString_iff]
  constructor
  · intro found
    obtain ⟨position, first, follows⟩ := found
    by_cases own : position = ownPlace entry
    · left
      rw [own] at first follows
      have plain := isPlain_of_own entry first.here
      exact ⟨⟨plain, first.first⟩, (own_follows_iff entry plain).mp follows⟩
    · right
      exact ⟨position, own, first, follows⟩
  · intro found
    rcases found with ⟨⟨plain, first⟩, simple⟩ | elsewhere
    · refine ⟨ownPlace entry, ⟨?_, first⟩, (own_follows_iff entry plain).mpr simple⟩
      unfold StandsAt
      rw [drop_ownPlace]
      unfold quotedKey Literal.raw
      rw [Literal.body_of_isPlain _ plain]
      exact List.prefix_append _ _
    · obtain ⟨position, own, first, follows⟩ := elsewhere
      exact ⟨position, first, follows⟩

/-! ### What the writer writes -/

/-- The reader knows what the writer makes of the byte. -/
def Readable (byte : UInt8) : Prop :=
  32 ≤ byte ∨ byte ∈ [8, 9, 10, 12, 13]

instance (byte : UInt8) : Decidable (Readable byte) :=
  inferInstanceAs (Decidable (_ ∨ _))

def AllReadable (content : StdString) : Prop :=
  ∀ byte ∈ content, Readable byte

instance (content : StdString) : Decidable (AllReadable content) :=
  List.decidableBAll Readable content

/-- A byte is written as it is, with a letter, or with its digits. -/
inductive Escaping (byte : UInt8) : Prop where
  | plain (readable : Readable byte) (quote : byte ≠ 34) (escape : byte ≠ 92)
      (written : escapeByte byte = [byte])
  | short (letter : UInt8) (readable : Readable byte) (known : shortEscape letter = some byte)
      (quote : letter = 34 ↔ byte = 34) (special : byte < 32 ∨ byte = 34 ∨ byte = 92)
      (written : escapeByte byte = [92, letter])
  | digits (high low : UInt8) (unreadable : ¬Readable byte) (control : byte < 32)
      (first : high ≠ 34) (second : low ≠ 34)
      (written : escapeByte byte = [92, 117, 48, 48, high, low])

private theorem hex_ne_quote (index : Nat) : hex.getD index 0 ≠ 34 := by
  have digits : hex.all (fun byte => byte != 34) = true := by decide +kernel
  rw [List.getD_eq_getElem?_getD]
  cases found : hex[index]? with
  | none => exact by decide
  | some byte =>
      exact bne_iff_ne.mp (List.all_eq_true.mp digits byte (List.mem_of_getElem? found))

theorem escapeByte_escaping (byte : UInt8) : Escaping byte := by
  by_cases quote : byte = 34
  · subst quote
    exact Escaping.short 34 (by decide) rfl (by decide) (by decide) rfl
  by_cases escape : byte = 92
  · subst escape
    exact Escaping.short 92 (by decide) rfl (by decide) (by decide) rfl
  by_cases named : byte ∈ [8, 9, 10, 12, 13]
  · simp only [List.mem_cons, List.not_mem_nil, or_false] at named
    rcases named with same | same | same | same | same
    · subst same
      exact Escaping.short 98 (by decide) rfl (by decide) (by decide) rfl
    · subst same
      exact Escaping.short 116 (by decide) rfl (by decide) (by decide) rfl
    · subst same
      exact Escaping.short 110 (by decide) rfl (by decide) (by decide) rfl
    · subst same
      exact Escaping.short 102 (by decide) rfl (by decide) (by decide) rfl
    · subst same
      exact Escaping.short 114 (by decide) rfl (by decide) (by decide) rfl
  have others : byte ≠ 8 ∧ byte ≠ 9 ∧ byte ≠ 10 ∧ byte ≠ 12 ∧ byte ≠ 13 := by
    simpa using named
  obtain ⟨notBack, notTab, notFeed, notForm, notReturn⟩ := others
  by_cases control : byte < 32
  · apply Escaping.digits _ _ _ control (hex_ne_quote _) (hex_ne_quote _)
    · unfold escapeByte
      rw [if_neg quote, if_neg escape, if_neg notBack, if_neg notForm, if_neg notFeed,
        if_neg notReturn, if_neg notTab, if_pos control]
      rfl
    · intro readable
      rcases readable with printable | listed
      · exact absurd control (UInt8.not_lt.mpr printable)
      · exact named listed
  · have printable : 32 ≤ byte := UInt8.not_lt.mp control
    apply Escaping.plain (Or.inl printable) quote escape
    unfold escapeByte
    rw [if_neg quote, if_neg escape, if_neg notBack, if_neg notForm, if_neg notFeed,
      if_neg notReturn, if_neg notTab, if_neg control]

theorem jsonEscape_cons (byte : UInt8) (content : StdString) :
    jsonEscape (byte :: content) = escapeByte byte ++ jsonEscape content :=
  List.flatMap_cons

/-- The reader inverts the writer on what it can read, and refuses the rest. -/
theorem stringBody_jsonEscape (content value rest : StdString) :
    stringBody value (jsonEscape content ++ 34 :: rest) =
      if AllReadable content then some (value ++ content) else none := by
  induction content generalizing value with
  | nil =>
      have nothing : AllReadable [] := List.forall_mem_nil _
      change stringBody value (34 :: rest) = _
      rw [stringBody_quote, if_pos nothing, List.append_nil]
  | cons byte content ih =>
      have all : AllReadable (byte :: content) ↔ Readable byte ∧ AllReadable content :=
        List.forall_mem_cons
      rw [jsonEscape_cons, List.append_assoc]
      simp only [all]
      cases escapeByte_escaping byte with
      | plain readable quote escape written =>
          rw [written, List.cons_append, List.nil_append, stringBody_plain _ _ quote escape, ih]
          simp [readable]
      | short letter readable known quote special written =>
          rw [written, List.cons_append, List.cons_append, List.nil_append, stringBody_escape,
            known, Option.bind_some, ih]
          simp [readable]
      | digits high low unreadable control first second written =>
          have unknown : shortEscape 117 = none := rfl
          rw [written, List.cons_append, List.cons_append, stringBody_escape, unknown]
          simp [unreadable]

/-! ### The quoted key in what is written -/

section Key

variable {key : StdString}

/-- Keys that can be written as they are. -/
def PlainKey (key : StdString) : Prop :=
  ∀ byte ∈ key, 32 ≤ byte ∧ byte ≠ 34 ∧ byte ≠ 92

theorem jsonEscape_plain (plain : PlainKey key) : jsonEscape key = key := by
  induction key with
  | nil => rfl
  | cons byte key ih =>
      obtain ⟨⟨printable, quote, escape⟩, rest⟩ := List.forall_mem_cons.mp plain
      rw [jsonEscape_cons, ih rest]
      cases escapeByte_escaping byte with
      | plain readable notQuote notEscape written =>
          rw [written]
          rfl
      | short letter readable known same special written =>
          rcases special with control | isQuote | isEscape
          · exact absurd control (UInt8.not_lt.mpr printable)
          · exact absurd isQuote quote
          · exact absurd isEscape escape
      | digits high low unreadable control first second written =>
          exact absurd control (UInt8.not_lt.mpr printable)

/-- Written content begins like a key that ends there only if it is that key. -/
theorem key_stands_iff (plain : PlainKey key) (content rest : StdString) :
    key ++ [34] <+: jsonEscape content ++ 34 :: rest ↔ content = key := by
  induction key generalizing content with
  | nil =>
      cases content with
      | nil =>
          change [34] <+: 34 :: rest ↔ _
          simp
      | cons byte content =>
          rw [jsonEscape_cons, List.append_assoc]
          cases escapeByte_escaping byte with
          | plain readable quote escape written =>
              rw [written]
              simp [Ne.symm quote]
          | short letter readable known same special written =>
              rw [written]
              simp
          | digits high low unreadable control first second written =>
              rw [written]
              simp
  | cons letter key ih =>
      obtain ⟨⟨printable, quote, escape⟩, others⟩ := List.forall_mem_cons.mp plain
      cases content with
      | nil =>
          change letter :: (key ++ [34]) <+: 34 :: rest ↔ _
          simp [quote]
      | cons byte content =>
          rw [jsonEscape_cons, List.append_assoc]
          cases escapeByte_escaping byte with
          | plain readable notQuote notEscape written =>
              rw [written, List.cons_append, List.cons_append, List.nil_append,
                List.cons_prefix_cons, ih others, List.cons.injEq]
              exact and_congr_left fun _ => eq_comm
          | short spelled readable known same special written =>
              rw [written, List.cons_append, List.cons_append, List.cons_prefix_cons]
              constructor
              · intro stands
                exact absurd stands.1 escape
              · intro equal
                cases equal
                rcases special with control | isQuote | isEscape
                · exact absurd control (UInt8.not_lt.mpr printable)
                · exact absurd isQuote quote
                · exact absurd isEscape escape
          | digits high low unreadable control first second written =>
              rw [written, List.cons_append, List.cons_append, List.cons_prefix_cons]
              constructor
              · intro stands
                exact absurd stands.1 escape
              · intro equal
                cases equal
                exact absurd control (UInt8.not_lt.mpr printable)

theorem afterMarker_skip {byte : UInt8} (quote : byte ≠ 34) (rest : StdString) :
    afterMarker (quotedKey key) (byte :: rest) = afterMarker (quotedKey key) rest := by
  rw [afterMarker, if_neg]
  intro stands
  have here := List.isPrefixOf_iff_prefix.mp stands
  unfold quotedKey at here
  rw [List.cons_append, List.cons_prefix_cons] at here
  exact quote here.1.symm

/-- At a quote the written content is the key, or the search goes on. -/
theorem afterMarker_quote (plain : PlainKey key) (content rest : StdString) :
    afterMarker (quotedKey key) (34 :: (jsonEscape content ++ 34 :: rest)) =
      if content = key then some rest
      else afterMarker (quotedKey key) (jsonEscape content ++ 34 :: rest) := by
  have stands : (quotedKey key).isPrefixOf (34 :: (jsonEscape content ++ 34 :: rest)) = true ↔
      content = key := by
    rw [List.isPrefixOf_iff_prefix]
    unfold quotedKey
    rw [List.cons_append, List.cons_prefix_cons, ← key_stands_iff plain content rest]
    exact and_iff_right rfl
  rw [afterMarker]
  by_cases same : content = key
  · rw [if_pos (stands.mpr same), if_pos same, same, jsonEscape_plain plain]
    have whole : 34 :: (key ++ 34 :: rest) = quotedKey key ++ rest := by
      simp [quotedKey]
    rw [whole, List.drop_left]
  · rw [if_neg (mt stands.mp same), if_neg same]

/-- Behind the opening quote the written content ends like the quoted key, or the
search comes to the closing quote. -/
theorem afterMarker_content (plain : PlainKey key) (content rest : StdString) :
    afterMarker (quotedKey key) (jsonEscape content ++ 34 :: rest) =
      if 34 :: key <:+ content then some rest
      else afterMarker (quotedKey key) (34 :: rest) := by
  induction content with
  | nil =>
      rw [if_neg (by simp)]
      rfl
  | cons byte content ih =>
      rw [jsonEscape_cons, List.append_assoc]
      have ends : 34 :: key <:+ byte :: content ↔
          byte = 34 ∧ content = key ∨ 34 :: key <:+ content := by
        rw [List.suffix_cons_iff, List.cons.injEq]
        constructor
        · intro suffix
          exact suffix.imp_left fun same => ⟨same.1.symm, same.2.symm⟩
        · intro suffix
          exact suffix.imp_left fun same => ⟨same.1.symm, same.2.symm⟩
      have goesOn (quote : byte ≠ 34) :
          (34 :: key <:+ byte :: content ↔ 34 :: key <:+ content) := by
        rw [ends]
        exact or_iff_right fun same => quote same.1
      cases escapeByte_escaping byte with
      | plain readable quote escape written =>
          rw [written, List.cons_append, List.nil_append, afterMarker_skip quote, ih]
          simp only [goesOn quote]
      | short letter readable known same special written =>
          rw [written, List.cons_append, List.cons_append, List.nil_append,
            afterMarker_skip (by decide)]
          by_cases quote : byte = 34
          · rw [same.mpr quote, afterMarker_quote plain]
            by_cases isKey : content = key
            · rw [if_pos isKey, if_pos (ends.mpr (Or.inl ⟨quote, isKey⟩))]
            · rw [if_neg isKey, ih]
              simp only [ends, isKey, and_false, false_or]
          · rw [afterMarker_skip (mt same.mp quote), ih]
            simp only [goesOn quote]
      | digits high low unreadable control first second written =>
          have quote : byte ≠ 34 := by
            intro equal
            subst equal
            exact unreadable (by decide)
          rw [written]
          simp only [List.cons_append, List.nil_append]
          rw [afterMarker_skip (by decide), afterMarker_skip (by decide),
            afterMarker_skip (by decide), afterMarker_skip (by decide), afterMarker_skip first,
            afterMarker_skip second, ih]
          simp only [goesOn quote]

end Key

/-! ### The payload -/

section Payload

variable (systemPrompt prompt : StdString) (maxTokens : UInt32)

/-- What stands behind the prompt. -/
private def payloadEnd : StdString :=
  text ",\"max_tokens\":" ++ toStdString maxTokens.toUInt64 ++
    text ",\"temperature\":0.1,\"top_p\":0.9\x7d"

private theorem modelPayload_eq :
    modelPayload systemPrompt prompt maxTokens =
      text "\x7b\"system_prompt\":" ++ 34 :: (jsonEscape systemPrompt ++
        34 :: (text ",\"prompt\":" ++
          34 :: (jsonEscape prompt ++ 34 :: payloadEnd maxTokens))) := by
  have opening : text "\x7b\"system_prompt\":\"" = text "\x7b\"system_prompt\":" ++ [34] := rfl
  have middle : text "\",\"prompt\":\"" = 34 :: text ",\"prompt\":" ++ [34] := rfl
  have closing : text "\",\"max_tokens\":" = 34 :: text ",\"max_tokens\":" := rfl
  unfold modelPayload payloadEnd
  rw [opening, middle, closing]
  simp

theorem jsonString_systemPrompt :
    jsonString (modelPayload systemPrompt prompt maxTokens) (text "system_prompt") =
      if AllReadable systemPrompt then some systemPrompt else none := by
  rw [jsonString_eq, modelPayload_eq]
  generalize text ",\"prompt\":" ++ 34 :: (jsonEscape prompt ++ 34 :: payloadEnd maxTokens) = rest
  have found : afterMarker (quotedKey (text "system_prompt"))
      (text "\x7b\"system_prompt\":" ++ 34 :: (jsonEscape systemPrompt ++ 34 :: rest)) =
        some (58 :: 34 :: (jsonEscape systemPrompt ++ 34 :: rest)) := rfl
  rw [found, Option.bind_some]
  have read := valueAfter_string [] [] (jsonEscape systemPrompt ++ 34 :: rest)
    (List.forall_mem_nil _) (List.forall_mem_nil _)
  rw [List.nil_append, List.nil_append] at read
  rw [read, stringBody_jsonEscape, List.nil_append]

/-- The system prompt ends like the quoted key. -/
def EndsLikeKey : Prop :=
  systemPrompt = text "prompt" ∨ 34 :: text "prompt" <:+ systemPrompt

instance : Decidable (EndsLikeKey systemPrompt) :=
  inferInstanceAs (Decidable (_ ∨ _))

theorem jsonString_prompt :
    jsonString (modelPayload systemPrompt prompt maxTokens) (text "prompt") =
      if AllReadable prompt ∧ ¬EndsLikeKey systemPrompt then some prompt else none := by
  have printed : (text "prompt").all
      (fun byte => decide (32 ≤ byte ∧ byte ≠ 34 ∧ byte ≠ 92)) = true := by decide +kernel
  have plain : PlainKey (text "prompt") := fun byte member =>
    of_decide_eq_true (List.all_eq_true.mp printed byte member)
  -- A comma stands behind the closing quote of the system prompt.
  have refused (rest : StdString) : valueAfter (text ",\"prompt\":" ++ rest) = none := rfl
  have found (body : StdString) : afterMarker (quotedKey (text "prompt"))
      (34 :: (text ",\"prompt\":" ++ 34 :: body)) = some (58 :: 34 :: body) := rfl
  have entered (rest : StdString) : afterMarker (quotedKey (text "prompt"))
      (text "\x7b\"system_prompt\":" ++ 34 :: rest) =
        afterMarker (quotedKey (text "prompt")) (34 :: rest) := rfl
  rw [jsonString_eq, modelPayload_eq, entered, afterMarker_quote plain]
  by_cases whole : systemPrompt = text "prompt"
  · rw [if_pos whole, Option.bind_some, refused, if_neg]
    intro read
    exact read.2 (Or.inl whole)
  · rw [if_neg whole, afterMarker_content plain]
    by_cases ends : 34 :: text "prompt" <:+ systemPrompt
    · rw [if_pos ends, Option.bind_some, refused, if_neg]
      intro read
      exact read.2 (Or.inr ends)
    · have read := valueAfter_string [] [] (jsonEscape prompt ++ 34 :: payloadEnd maxTokens)
        (List.forall_mem_nil _) (List.forall_mem_nil _)
      have apart : ¬EndsLikeKey systemPrompt := not_or.mpr ⟨whole, ends⟩
      rw [List.nil_append, List.nil_append] at read
      rw [if_neg ends, found, Option.bind_some, read, stringBody_jsonEscape, List.nil_append]
      simp only [apart, not_false_eq_true, and_true]

end Payload

/-- The reader finds a member exactly if its key stands as it is before everything that
looks like it and its string has no hexadecimal escapes, or if the same string follows
what looks like the key.  In the payload of the writer these are the control characters
without a letter, and a system prompt that ends like the quoted key. -/
theorem jsonString_reads_iff (entry : object.StringMember) (systemPrompt prompt : StdString)
    (maxTokens : UInt32) :
    (jsonString object.render entry.member.key.denoted = some entry.literal.denoted ↔
      (KeyFound entry ∧ entry.literal.isSimple = true) ∨ FoundElsewhere entry) ∧
    (jsonString (modelPayload systemPrompt prompt maxTokens) (text "system_prompt") =
        some systemPrompt ↔ ∀ byte ∈ systemPrompt, Readable byte) ∧
    (jsonString (modelPayload systemPrompt prompt maxTokens) (text "prompt") = some prompt ↔
      (∀ byte ∈ prompt, Readable byte) ∧ ¬EndsLikeKey systemPrompt) := by
  refine ⟨jsonString_member_iff entry, ?_, ?_⟩
  · rw [jsonString_systemPrompt, Option.ite_none_right_eq_some]
    exact and_iff_left rfl
  · rw [jsonString_prompt, Option.ite_none_right_eq_some]
    exact and_iff_left rfl

/-- The system prompt is the quoted key itself, or the prompt holds a control character
that is written with its digits. -/
theorem payload_unread :
    jsonString (modelPayload (text "prompt") (text "hi") 16) (text "prompt") ≠ some (text "hi") ∧
      jsonString (modelPayload [] [1] 16) (text "prompt") ≠ some [1] := by
  constructor
  · decide +kernel
  · decide +kernel

end AgentNucleus.Top
