/-
Programs that come to the same outcomes although they may ask a different number of
questions.  What both ask is answered alike; the answers that only the first one has asked
for are left out, and whatever only the second one asks for is answered by a filler.
-/

import AgentNucleus.Library.Programs
import Mathlib.Data.Stream.Init

set_option autoImplicit false

namespace AgentNucleus.Library

variable {ι : Type}

/-- The second list is the first one with some answers left out and some fillers put in. -/
inductive Refilled (filler : ι) : List ι → List ι → Prop
  | nil : Refilled filler [] []
  | kept (answer : ι) {first second : List ι} (rest : Refilled filler first second) :
      Refilled filler (answer :: first) (answer :: second)
  | leftOut (answer : ι) {first second : List ι} (rest : Refilled filler first second) :
      Refilled filler (answer :: first) second
  | putIn {first second : List ι} (rest : Refilled filler first second) :
      Refilled filler first (filler :: second)

namespace Refilled

variable {filler : ι}

theorem append {first second first' second' : List ι} (left : Refilled filler first second)
    (right : Refilled filler first' second') :
    Refilled filler (first ++ first') (second ++ second') := by
  induction left with
  | nil => exact right
  | kept answer _ ih => exact .kept answer ih
  | leftOut answer _ ih => exact .leftOut answer ih
  | putIn _ ih => exact .putIn ih

/-- All answers are left out, and any number of fillers comes in. -/
theorem replaced (first : List ι) (count : Nat) :
    Refilled filler first (List.replicate count filler) := by
  induction count with
  | zero =>
      induction first with
      | nil => exact .nil
      | cons answer _ ih => exact .leftOut answer ih
  | succ count ih => exact .putIn ih

end Refilled

/-! ### Answers that come first -/

def prependAnswers (first : List ι) (rest : Answers ι) : Answers ι :=
  Stream'.appendStream' first rest

/-- The answers that are left after so many questions. -/
def dropAnswers (count : Nat) (answers : Answers ι) : Answers ι :=
  Stream'.drop count answers

theorem prependAnswers_append (first second : List ι) (rest : Answers ι) :
    prependAnswers (first ++ second) rest = prependAnswers first (prependAnswers second rest) :=
  Stream'.append_append_stream first second rest

theorem dropAnswers_dropAnswers (more count : Nat) (answers : Answers ι) :
    dropAnswers more (dropAnswers count answers) = dropAnswers (count + more) answers :=
  Stream'.drop_drop more count answers

theorem dropAnswers_replicate (filler : ι) (count : Nat) (rest : Answers ι) :
    dropAnswers count (prependAnswers (List.replicate count filler) rest) = rest := by
  have dropped : dropAnswers (List.replicate count filler).length
      (prependAnswers (List.replicate count filler) rest) = rest :=
    Stream'.drop_append_stream (List.replicate count filler) rest
  rw [List.length_replicate] at dropped
  exact dropped

theorem prependAnswers_take (count : Nat) (answers : Answers ι) :
    answers = prependAnswers (Stream'.take count answers) (dropAnswers count answers) :=
  (Stream'.append_take_drop count answers).symm

theorem allowed_prependAnswers {allowed : ι → Prop} {first : List ι} {rest : Answers ι}
    (start : ∀ answer ∈ first, allowed answer) (later : ∀ index, allowed (rest index)) :
    ∀ index, allowed (prependAnswers first rest index) := by
  induction first with
  | nil => exact later
  | cons answer more ih =>
      intro index
      cases index with
      | zero => exact start answer (List.mem_cons_self ..)
      | succ index =>
          exact ih (fun other member => start other (List.mem_cons_of_mem answer member)) index

theorem allowed_rest {allowed : ι → Prop} {first : List ι} {rest answers : Answers ι}
    (fine : ∀ index, allowed (answers index)) (split : answers = prependAnswers first rest) :
    ∀ index, allowed (rest index) := by
  intro index
  have here := fine (first.length + index)
  have there : prependAnswers first rest (first.length + index) = rest index :=
    Stream'.get_append_right index first rest
  rw [split, there] at here
  exact here

namespace Program

variable {σ α β : Type}

/-- From this state, on allowed answers, the program has this outcome after so many
questions. -/
structure Settles (allowed : ι → Prop) (count : Nat) (program : Program ι σ α) (state : σ)
    (outcome : α × σ) : Prop where
  run : ∀ answers, (∀ index, allowed (answers index)) →
    program state answers = (outcome, dropAnswers count answers)

namespace Settles

variable {allowed : ι → Prop} {count : Nat} {state : σ} {outcome : β × σ}

theorem pure (value : α) : Settles allowed 0 (pure value) state (value, state) := by
  constructor
  intro answers fine
  rfl

theorem bind {more : Nat} {program : Program ι σ α} {next : α → Program ι σ β} {value : α}
    {middle : σ} (first : Settles allowed count program state (value, middle))
    (second : Settles allowed more (next value) middle outcome) :
    Settles allowed (count + more) (program >>= next) state outcome := by
  constructor
  intro answers fine
  rw [run_bind program next state answers _ (first.run answers fine), ← dropAnswers_dropAnswers]
  exact second.run _ fun index => fine (index + count)

theorem ask_then {next : ι → Program ι σ β}
    (each : ∀ answer, allowed answer → Settles allowed count (next answer) state outcome) :
    Settles allowed (count + 1) (Program.ask >>= next) state outcome := by
  constructor
  intro answers fine
  exact (each _ (fine 0)).run _ fun index => fine (index + 1)

theorem inspect_then {view : σ → α} {next : α → Program ι σ β}
    (rest : Settles allowed count (next (view state)) state outcome) :
    Settles allowed count (Program.inspect view >>= next) state outcome := by
  constructor
  intro answers fine
  exact rest.run answers fine

theorem change_then {update : σ → σ} {next : Unit → Program ι σ β}
    (rest : Settles allowed count (next ()) (update state) outcome) :
    Settles allowed count (Program.change update >>= next) state outcome := by
  constructor
  intro answers fine
  exact rest.run answers fine

end Settles

/-- Whatever allowed answers the first program meets, the second one comes to the same
outcome when the answers consumed are refilled. -/
structure Replays (allowed : ι → Prop) (filler : ι) (left right : Program ι σ α) : Prop where
  run : ∀ state answers, (∀ index, allowed (answers index)) →
    ∃ consumed refilled : List ι, Refilled filler consumed refilled ∧
      (∀ answer ∈ refilled, allowed answer) ∧
      answers = prependAnswers consumed (left state answers).2 ∧
      ∀ rest : Answers ι, (∀ index, allowed (rest index)) →
        right state (prependAnswers refilled rest) = ((left state answers).1, rest)

namespace Replays

variable {allowed : ι → Prop} {filler : ι} {left right : Program ι σ α}

/-- A program that asks nothing. -/
theorem of_silent {program : Program ι σ α} {outcome : σ → α × σ}
    (silent : ∀ state answers, program state answers = (outcome state, answers)) :
    Replays allowed filler program program := by
  constructor
  intro state answers fine
  refine ⟨[], [], .nil, List.forall_mem_nil _, ?_, ?_⟩
  · rw [silent]
    rfl
  · intro rest good
    rw [silent, silent]
    rfl

theorem pure (value : α) :
    Replays allowed filler (pure value : Program ι σ α) (pure value) :=
  of_silent fun _ _ => rfl

theorem inspect (view : σ → α) :
    Replays allowed filler (Program.inspect view : Program ι σ α) (Program.inspect view) :=
  of_silent fun _ _ => rfl

theorem change (update : σ → σ) :
    Replays allowed filler (Program.change update : Program ι σ Unit) (Program.change update) :=
  of_silent fun _ _ => rfl

theorem bind {next other : α → Program ι σ β} (first : Replays allowed filler left right)
    (second : ∀ value, Replays allowed filler (next value) (other value)) :
    Replays allowed filler (left >>= next) (right >>= other) := by
  constructor
  intro state answers fine
  obtain ⟨sooner, soonerFilled, refills, soonerGood, split, replay⟩ := first.run state answers fine
  have between : ∀ index, allowed ((left state answers).2 index) := allowed_rest fine split
  obtain ⟨later, laterFilled, refillsLater, laterGood, splitLater, replayLater⟩ :=
    (second (left state answers).1.1).run (left state answers).1.2 _ between
  refine ⟨sooner ++ later, soonerFilled ++ laterFilled, refills.append refillsLater, ?_, ?_, ?_⟩
  · intro answer member
    rcases List.mem_append.mp member with early | late
    · exact soonerGood answer early
    · exact laterGood answer late
  · rw [prependAnswers_append]
    change answers = prependAnswers sooner (prependAnswers later
      (next (left state answers).1.1 (left state answers).1.2 (left state answers).2).2)
    rw [← splitLater]
    exact split
  · intro rest good
    rw [prependAnswers_append, run_bind right other state _ _
      (replay _ (allowed_prependAnswers laterGood good))]
    exact replayLater rest good

theorem ite {condition : Prop} [Decidable condition] {yes no yes' no' : Program ι σ α}
    (holds : Replays allowed filler yes yes') (fails : Replays allowed filler no no') :
    Replays allowed filler (if condition then yes else no)
      (if condition then yes' else no') := by
  by_cases decided : condition
  · rw [if_pos decided, if_pos decided]
    exact holds
  · rw [if_neg decided, if_neg decided]
    exact fails

/-- The same question is answered in the same way. -/
theorem ask : Replays allowed filler (Program.ask : Program ι σ ι) Program.ask := by
  constructor
  intro state answers fine
  refine ⟨[answers 0], [answers 0], .kept _ .nil, ?_, ?_, ?_⟩
  · exact List.forall_mem_singleton.mpr (fine 0)
  · exact prependAnswers_take 1 answers
  · intro rest good
    rfl

theorem ask_then {next other : ι → Program ι σ β}
    (each : ∀ answer, Replays allowed filler (next answer) (other answer)) :
    Replays allowed filler (Program.ask >>= next) (Program.ask >>= other) :=
  ask.bind each

theorem asks (view : ι → α) :
    Replays allowed filler
      (Program.ask >>= fun answer => (Pure.pure (view answer) : Program ι σ α))
      (Program.ask >>= fun answer => Pure.pure (view answer)) :=
  ask_then fun answer => pure (view answer)

/-- Two programs that always have the same outcome may take each other's place. -/
theorem of_settles (good : allowed filler) {outcome : σ → α × σ}
    (first : ∀ state, ∃ count, Settles allowed count left state (outcome state))
    (second : ∀ state, ∃ count, Settles allowed count right state (outcome state)) :
    Replays allowed filler left right := by
  constructor
  intro state answers fine
  obtain ⟨asked, settled⟩ := first state
  obtain ⟨count, settledToo⟩ := second state
  have fillers : ∀ answer ∈ List.replicate count filler, allowed answer := by
    intro answer member
    rw [List.eq_of_mem_replicate member]
    exact good
  refine ⟨Stream'.take asked answers, List.replicate count filler, Refilled.replaced _ count,
    fillers, ?_, ?_⟩
  · rw [settled.run answers fine]
    exact prependAnswers_take asked answers
  · intro rest later
    rw [settledToo.run _ (allowed_prependAnswers fillers later), settled.run answers fine,
      dropAnswers_replicate]

/-- The outcome is the same, and the same answers are left. -/
theorem same (replays : Replays allowed filler left right) (state : σ) (answers : Answers ι)
    (fine : ∀ index, allowed (answers index)) :
    ∃ (consumed refilled : List ι) (rest : Answers ι), Refilled filler consumed refilled ∧
      answers = prependAnswers consumed rest ∧
      right state (prependAnswers refilled rest) = left state answers := by
  obtain ⟨consumed, refilled, refills, _, split, replay⟩ := replays.run state answers fine
  exact ⟨consumed, refilled, _, refills, split, replay _ (allowed_rest fine split)⟩

end Replays

end Program

end AgentNucleus.Library
