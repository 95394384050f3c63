/-
Programs that stop where a condition does not hold.  What is proved of them is proved of the
runs that come to their end.  Such a program may carry more state than another one, and then
tells more about the run of the other one on the same answers.
-/

import AgentNucleus.Library.Programs

set_option autoImplicit false

namespace AgentNucleus.Library

/-- A run that has stopped yields nothing. -/
abbrev Checked (ι σ : Type) := OptionT (Program ι σ)

namespace Checked

variable {ι σ τ σ' τ' α β γ δ : Type}

def lift (program : Program ι σ α) : Checked ι σ α :=
  OptionT.mk (some <$> program)

def require (condition : Prop) [Decidable condition] : Checked ι σ Unit :=
  if condition then pure () else failure

/-- A program on a part of the state. -/
def on (part : τ → σ) (write : τ → σ → τ) (program : Checked ι σ α) : Checked ι τ α :=
  OptionT.mk (Program.on part write program.run)

/-- A program that comes to its end goes on from where its first part ends. -/
theorem run_bind (program : Checked ι σ α) (next : α → Checked ι σ β) (state : σ)
    (answers : Answers ι) {result : β}
    (ended : ((program >>= next) state answers).1.1 = some result) :
    ∃ value, (program state answers).1.1 = some value ∧
      (program >>= next) state answers =
        next value (program state answers).1.2 (program state answers).2 := by
  have unfolded : (program >>= next) state answers =
      (match (program state answers).1.1 with
        | some value => next value
        | none => OptionT.mk (pure none)) (program state answers).1.2
          (program state answers).2 := rfl
  rw [unfolded] at ended ⊢
  cases reached : (program state answers).1.1 with
  | none =>
      rw [reached] at ended
      cases ended
  | some value => exact ⟨value, rfl, rfl⟩

/-! ### Pre- and postconditions -/

/-- Started in a state with `before`, a run that comes to its end has a result and a state
that satisfy `after`. -/
structure Triple (before : σ → Prop) (program : Checked ι σ α) (after : α → σ → Prop) :
    Prop where
  run : ∀ state answers value, before state → (program state answers).1.1 = some value →
    after value (program state answers).1.2

namespace Triple

variable {before : σ → Prop} {after : α → σ → Prop} {final : β → σ → Prop}

theorem pure (value : α) (holds : ∀ state, before state → after value state) :
    Triple before (pure value : Checked ι σ α) after := by
  constructor
  intro state answers result start ended
  cases ended
  exact holds state start

theorem bind {program : Checked ι σ α} {next : α → Checked ι σ β}
    (first : Triple before program after)
    (second : ∀ value, Triple (after value) (next value) final) :
    Triple before (program >>= next) final := by
  constructor
  intro state answers result start ended
  obtain ⟨value, reached, rest⟩ := run_bind program next state answers ended
  rw [rest] at ended ⊢
  exact (second value).run _ _ result (first.run state answers value start reached) ended

theorem weaken {program : Checked ι σ α} {weaker : α → σ → Prop}
    (triple : Triple before program after)
    (implied : ∀ value state, after value state → weaker value state) :
    Triple before program weaker := by
  constructor
  intro state answers value start ended
  exact implied _ _ (triple.run state answers value start ended)

theorem strengthen {program : Checked ι σ α} {stronger : σ → Prop}
    (triple : Triple before program after)
    (implied : ∀ state, stronger state → before state) : Triple stronger program after := by
  constructor
  intro state answers value start ended
  exact triple.run state answers value (implied state start) ended

theorem both {program : Checked ι σ α} {other : α → σ → Prop}
    (first : Triple before program after) (second : Triple before program other) :
    Triple before program fun value state => after value state ∧ other value state := by
  constructor
  intro state answers value start ended
  exact ⟨first.run state answers value start ended, second.run state answers value start ended⟩

theorem ite {condition : Prop} [Decidable condition] {yes no : Checked ι σ α}
    (holds : condition → Triple before yes after)
    (fails : ¬condition → Triple before no after) :
    Triple before (if condition then yes else no) after := by
  by_cases decided : condition
  · rw [if_pos decided]
    exact holds decided
  · rw [if_neg decided]
    exact fails decided

theorem from_state {program : Checked ι σ α}
    (each : ∀ start, before start → Triple (fun state => state = start) program after) :
    Triple before program after := by
  constructor
  intro state answers value start ended
  exact (each state start).run state answers value rfl ended

/-- The other way about: what holds from every such state holds from one of them. -/
theorem at_state {program : Checked ι σ α} (triple : Triple before program after) {start : σ}
    (here : before start) : Triple (fun state => state = start) program after := by
  apply triple.strengthen
  intro state same
  rw [same]
  exact here

theorem lift {program : Program ι σ α} (triple : Program.Triple before program after) :
    Triple before (Checked.lift program) after := by
  constructor
  intro state answers value start ended
  cases ended
  exact triple.run state answers start

/-- What goes on has met the condition. -/
theorem require_then {condition : Prop} [Decidable condition] {next : Unit → Checked ι σ β}
    (rest : condition → Triple before (next ()) final) :
    Triple before (Checked.require condition >>= next) final := by
  by_cases decided : condition
  · have met : (Checked.require condition : Checked ι σ Unit) = Pure.pure () := if_pos decided
    rw [met]
    exact bind (pure () fun _ holds => holds) fun _ => rest decided
  · have stopped : (Checked.require condition : Checked ι σ Unit) = failure := if_neg decided
    rw [stopped]
    constructor
    intro state answers value start ended
    cases ended

theorem on {part : τ → σ} {write : τ → σ → τ} {program : Checked ι σ α}
    {before : τ → Prop} {final : α → τ → Prop}
    (holds : ∀ whole, before whole → Triple (fun state => state = part whole) program
      fun value state => final value (write whole state)) :
    Triple before (program.on part write) final := by
  constructor
  intro whole answers value start ended
  exact (holds whole start).run (part whole) answers value rfl ended

end Triple

/-! ### Erasure -/

/-- Without what only the first program carries, its run is the run of the second one on the
same answers. -/
structure Erases (view : σ → τ) (erase : α → β) (left : Checked ι σ α)
    (right : Program ι τ β) : Prop where
  run : ∀ state answers value, (left state answers).1.1 = some value →
    right (view state) answers =
      ((erase value, view (left state answers).1.2), (left state answers).2)

namespace Erases

variable {view : σ → τ} {erase : α → β} {left : Checked ι σ α} {right : Program ι τ β}

theorem pure (view : σ → τ) (erase : α → β) (value : α) :
    Erases view erase (pure value : Checked ι σ α) (pure (erase value) : Program ι τ β) := by
  constructor
  intro state answers result ended
  cases ended
  rfl

/-- The rest may rely on what the first part is known to yield. -/
theorem bind_knowing {good : α → Prop} {erased : γ → δ} {next : α → Checked ι σ γ}
    {other : β → Program ι τ δ} (first : Erases view erase left right)
    (known : Triple (fun _ => True) left fun value _ => good value)
    (rest : ∀ value, good value → Erases view erased (next value) (other (erase value))) :
    Erases view erased (left >>= next) (right >>= other) := by
  constructor
  intro state answers result ended
  obtain ⟨value, reached, later⟩ := run_bind left next state answers ended
  rw [later] at ended ⊢
  rw [Program.run_bind right other _ answers _ (first.run state answers value reached)]
  have here : good value := known.run state answers value trivial reached
  exact (rest value here).run _ _ result ended

theorem bind {erased : γ → δ} {next : α → Checked ι σ γ} {other : β → Program ι τ δ}
    (first : Erases view erase left right)
    (rest : ∀ value, Erases view erased (next value) (other (erase value))) :
    Erases view erased (left >>= next) (right >>= other) := by
  have known : Triple (fun _ => True) left fun _ _ => True := ⟨fun _ _ _ _ _ => trivial⟩
  exact first.bind_knowing known fun value _ => rest value

theorem ite {condition condition' : Prop} [Decidable condition] [Decidable condition']
    {yes no : Checked ι σ α} {yes' no' : Program ι τ β} (agree : condition ↔ condition')
    (holds : condition → Erases view erase yes yes')
    (fails : ¬condition → Erases view erase no no') :
    Erases view erase (if condition then yes else no) (if condition' then yes' else no') := by
  by_cases decided : condition
  · rw [if_pos decided, if_pos (agree.mp decided)]
    exact holds decided
  · rw [if_neg decided, if_neg fun now => decided (agree.mpr now)]
    exact fails decided

/-- A program of the second kind, carried out on the part of the state that it knows. -/
theorem lift {write : σ → τ → σ} (written : ∀ whole part, view (write whole part) = part)
    (program : Program ι τ α) :
    Erases view id (Checked.lift (program.on view write)) program := by
  constructor
  intro state answers value ended
  cases ended
  change program (view state) answers =
    ((_, view (write state (program (view state) answers).1.2)), _)
  rw [written]
  rfl

/-- What only the first program checks or notes is left out. -/
theorem require_then {condition : Prop} [Decidable condition] {next : Unit → Checked ι σ α}
    (rest : condition → Erases view erase (next ()) right) :
    Erases view erase (Checked.require condition >>= next) right := by
  constructor
  intro state answers result ended
  by_cases decided : condition
  · have met : (Checked.require condition : Checked ι σ Unit) = Pure.pure () := if_pos decided
    rw [met] at ended ⊢
    exact (rest decided).run state answers result ended
  · have stopped : (Checked.require condition : Checked ι σ Unit) = failure := if_neg decided
    rw [stopped] at ended
    cases ended

theorem change_then {update : σ → σ} {next : Unit → Checked ι σ α}
    (unseen : ∀ state, view (update state) = view state)
    (rest : Erases view erase (next ()) right) :
    Erases view erase (Checked.lift (Program.change update) >>= next) right := by
  constructor
  intro state answers result ended
  rw [← unseen state]
  exact rest.run (update state) answers result ended

theorem inspect_then {look : σ → γ} {next : γ → Checked ι σ α}
    (rest : ∀ value, Erases view erase (next value) right) :
    Erases view erase (Checked.lift (Program.inspect look) >>= next) right := by
  constructor
  intro state answers result ended
  exact (rest (look state)).run state answers result ended

/-- The first program knows a part of a state, the second one the same part of its own. -/
theorem on {whole : σ' → τ'} {part : σ' → σ} {write : σ' → σ → σ'} {part' : τ' → τ}
    {write' : τ' → τ → τ'} (erases : Erases view erase left right)
    (read : ∀ state, view (part state) = part' (whole state))
    (written : ∀ state here, whole (write state here) = write' (whole state) (view here)) :
    Erases whole erase (left.on part write) (right.on part' write') := by
  constructor
  intro state answers value ended
  have run := erases.run (part state) answers value ended
  rw [read] at run
  rw [Program.run_on part' write' right (whole state) answers _ run, ← written]
  rfl

/-- What is proved of the second program holds of the first one. -/
theorem triple {before : τ → Prop} {after : β → τ → Prop}
    (erases : Erases view erase left right) (proved : Program.Triple before right after) :
    Triple (fun state => before (view state)) left
      fun value state => after (erase value) (view state) := by
  constructor
  intro state answers value start ended
  have run := proved.run (view state) answers start
  rw [erases.run state answers value ended] at run
  exact run

end Erases

end Checked

end AgentNucleus.Library
