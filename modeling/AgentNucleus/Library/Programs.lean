/-
Programs that change a state and ask an environment for answers, with the rules
of their pre- and postconditions.  A triple holds for every environment, so it
covers every success, failure and interruption that the environment may choose.
-/

set_option autoImplicit false

namespace AgentNucleus.Library

/-- The answers still to come, in the order in which they are asked for. -/
abbrev Answers (ι : Type) := Nat → ι

abbrev Program (ι σ : Type) := StateT σ (StateM (Answers ι))

namespace Program

variable {ι σ τ α β : Type}

/-- The next answer of the environment. -/
def ask : Program ι σ ι :=
  fun state answers => ((answers 0, state), fun index => answers (index + 1))

/-- What can be read off the state. -/
def inspect (view : σ → α) : Program ι σ α :=
  fun state answers => ((view state, state), answers)

def change (update : σ → σ) : Program ι σ Unit :=
  fun state answers => (((), update state), answers)

/-- The state that a program leaves behind. -/
def after (program : Program ι σ α) (state : σ) (answers : Answers ι) : σ :=
  (program state answers).1.2

/-- A program on a part of the state. -/
def on (part : τ → σ) (write : τ → σ → τ) (program : Program ι σ α) : Program ι τ α :=
  fun whole answers =>
    let result := program (part whole) answers
    ((result.1.1, write whole result.1.2), result.2)

/-- A program whose first part is known goes on from where that ends. -/
theorem run_bind (program : Program ι σ α) (next : α → Program ι σ β) (state : σ)
    (answers : Answers ι) (result : (α × σ) × Answers ι)
    (run : program state answers = result) :
    (program >>= next) state answers = next result.1.1 result.1.2 result.2 := by
  rw [← run]
  rfl

theorem run_inspect (view : σ → α) (next : α → Program ι σ β) (state : σ)
    (answers : Answers ι) :
    (inspect view >>= next) state answers = next (view state) state answers := rfl

theorem run_on (part : τ → σ) (write : τ → σ → τ) (program : Program ι σ α) (whole : τ)
    (answers : Answers ι) (result : (α × σ) × Answers ι)
    (run : program (part whole) answers = result) :
    program.on part write whole answers = ((result.1.1, write whole result.1.2), result.2) := by
  rw [← run]
  rfl

/-- Started in a state with `before`, the program ends with a result and a state
that satisfy `after`, whatever the environment answers. -/
structure Triple (before : σ → Prop) (program : Program ι σ α) (after : α → σ → Prop) :
    Prop where
  run : ∀ state answers, before state →
    after (program state answers).1.1 (program state answers).1.2

namespace Triple

variable {before : σ → Prop} {after : α → σ → Prop}

theorem pure (value : α) (holds : ∀ state, before state → after value state) :
    Triple before (pure value : Program ι σ α) after := by
  constructor
  intro state answers start
  exact holds state start

theorem bind {program : Program ι σ α} {next : α → Program ι σ β} {final : β → σ → Prop}
    (first : Triple before program after)
    (second : ∀ value, Triple (after value) (next value) final) :
    Triple before (program >>= next) final := by
  constructor
  intro state answers start
  exact (second _).run _ _ (first.run state answers start)

theorem weaken {program : Program ι σ α} {weaker : α → σ → Prop}
    (triple : Triple before program after)
    (implied : ∀ value state, after value state → weaker value state) :
    Triple before program weaker := by
  constructor
  intro state answers start
  exact implied _ _ (triple.run state answers start)

theorem strengthen {program : Program ι σ α} {stronger : σ → Prop}
    (triple : Triple before program after)
    (implied : ∀ state, stronger state → before state) : Triple stronger program after := by
  constructor
  intro state answers start
  exact triple.run state answers (implied state start)

theorem both {program : Program ι σ α} {other : α → σ → Prop}
    (first : Triple before program after) (second : Triple before program other) :
    Triple before program fun value state => after value state ∧ other value state := by
  constructor
  intro state answers start
  exact ⟨first.run state answers start, second.run state answers start⟩

theorem ite {condition : Prop} [Decidable condition] {yes no : Program ι σ α}
    (holds : condition → Triple before yes after)
    (fails : ¬condition → Triple before no after) :
    Triple before (if condition then yes else no) after := by
  by_cases decided : condition
  · rw [if_pos decided]
    exact holds decided
  · rw [if_neg decided]
    exact fails decided

/-- The state at the start may be named. -/
theorem from_state {program : Program ι σ α}
    (each : ∀ start, before start → Triple (fun state => state = start) program after) :
    Triple before program after := by
  constructor
  intro state answers start
  exact (each state start).run state answers rfl

/-! ### Symbolic execution from a named state -/

theorem ask_then {next : ι → Program ι σ β} {final : β → σ → Prop}
    (each : ∀ answer, Triple before (next answer) final) :
    Triple before (Program.ask >>= next) final := by
  constructor
  intro state answers start
  exact (each _).run state _ start

/-- A question changes nothing. -/
theorem asks (view : ι → α) :
    Triple before (Program.ask >>= fun answer => (Pure.pure (view answer) : Program ι σ α))
      fun _ => before := by
  apply ask_then
  intro answer
  exact pure _ fun _ holds => holds

theorem inspect_then {view : σ → α} {next : α → Program ι σ β} {final : β → σ → Prop}
    {start : σ} (triple : Triple (fun state => state = start) (next (view start)) final) :
    Triple (fun state => state = start) (Program.inspect view >>= next) final := by
  constructor
  rintro state answers rfl
  exact triple.run state answers rfl

theorem change_then {update : σ → σ} {next : Unit → Program ι σ β} {final : β → σ → Prop}
    {start : σ} (triple : Triple (fun state => state = update start) (next ()) final) :
    Triple (fun state => state = start) (Program.change update >>= next) final := by
  constructor
  rintro state answers rfl
  exact triple.run (update state) answers rfl

theorem change {update : σ → σ} {after : Unit → σ → Prop}
    (holds : ∀ state, before state → after () (update state)) :
    Triple before (Program.change update : Program ι σ Unit) after := by
  constructor
  intro state answers start
  exact holds _ start

theorem inspect {view : σ → α} {after : α → σ → Prop}
    (holds : ∀ state, before state → after (view state) state) :
    Triple before (Program.inspect view : Program ι σ α) after := by
  constructor
  intro state answers start
  exact holds _ start

/-- Looking at the state changes nothing. -/
theorem inspects (view : σ → α) :
    Triple before (Program.inspect view : Program ι σ α) fun _ => before :=
  inspect fun _ holds => holds

/-- A program on a part of the state leaves the rest as `write` does. -/
theorem on {part : τ → σ} {write : τ → σ → τ} {program : Program ι σ α}
    {before : τ → Prop} {final : α → τ → Prop}
    (holds : ∀ whole, before whole → Triple (fun state => state = part whole) program
      fun value state => final value (write whole state)) :
    Triple before (program.on part write) final := by
  constructor
  intro whole answers start
  exact (holds whole start).run (part whole) answers rfl

end Triple

end Program

end AgentNucleus.Library
