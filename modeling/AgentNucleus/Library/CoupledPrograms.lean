/-
Programs that run side by side on the same answers, and what a program yields when only
some answers are allowed.  The rules follow the constructions of a program, so that a
relation between two states is carried through a whole call.
-/

import AgentNucleus.Library.Programs

set_option autoImplicit false

namespace AgentNucleus.Library.Program

variable {ι σ τ σ' τ' α β γ δ : Type}

/-- From related states, on the same allowed answers, both programs end in related states,
with related results and the same answers left. -/
structure Coupled (allowed : ι → Prop) (states : σ → τ → Prop) (left : Program ι σ α)
    (right : Program ι τ β) (results : α → β → Prop) : Prop where
  run : ∀ first second answers, (∀ index, allowed (answers index)) → states first second →
    results (left first answers).1.1 (right second answers).1.1 ∧
      states (left first answers).1.2 (right second answers).1.2 ∧
      (left first answers).2 = (right second answers).2 ∧
      ∀ index, allowed ((left first answers).2 index)

namespace Coupled

variable {allowed : ι → Prop} {states : σ → τ → Prop} {results : α → β → Prop}
  {final : γ → δ → Prop}

theorem pure {value : α} {other : β} (related : results value other) :
    Coupled allowed states (pure value) (pure other) results := by
  constructor
  intro first second answers good start
  exact ⟨related, start, rfl, good⟩

theorem bind {left : Program ι σ α} {right : Program ι τ β} {next : α → Program ι σ γ}
    {other : β → Program ι τ δ} (start : Coupled allowed states left right results)
    (rest : ∀ value value', results value value' →
      Coupled allowed states (next value) (other value') final) :
    Coupled allowed states (left >>= next) (right >>= other) final := by
  constructor
  intro first second answers good begun
  obtain ⟨related, between, same, still⟩ := start.run first second answers good begun
  have later := (rest _ _ related).run _ _ _ still between
  change final (next _ _ _).1.1 (other _ _ _).1.1 ∧ states (next _ _ _).1.2 (other _ _ _).1.2 ∧
    (next _ _ _).2 = (other _ _ _).2 ∧ ∀ index, allowed ((next _ _ _).2 index)
  rw [← same]
  exact later

theorem weaken {left : Program ι σ α} {right : Program ι τ β} {weaker : α → β → Prop}
    (coupled : Coupled allowed states left right results)
    (implied : ∀ value other, results value other → weaker value other) :
    Coupled allowed states left right weaker := by
  constructor
  intro first second answers good start
  obtain ⟨related, rest⟩ := coupled.run first second answers good start
  exact ⟨implied _ _ related, rest⟩

/-- Both programs take the same branch. -/
theorem ite {condition condition' : Prop} [Decidable condition] [Decidable condition']
    {yes no : Program ι σ α} {yes' no' : Program ι τ β} (agree : condition ↔ condition')
    (holds : condition → Coupled allowed states yes yes' results)
    (fails : ¬condition → Coupled allowed states no no' results) :
    Coupled allowed states (if condition then yes else no) (if condition' then yes' else no')
      results := by
  by_cases decided : condition
  · rw [if_pos decided, if_pos (agree.mp decided)]
    exact holds decided
  · rw [if_neg decided, if_neg fun now => decided (agree.mpr now)]
    exact fails decided

theorem ask : Coupled allowed states ((Program.ask : Program ι σ ι)) Program.ask
    fun answer other => answer = other ∧ allowed answer := by
  constructor
  intro first second answers good start
  exact ⟨⟨rfl, good 0⟩, start, rfl, fun index => good (index + 1)⟩

theorem ask_then {next : ι → Program ι σ γ} {other : ι → Program ι τ δ}
    (each : ∀ answer, allowed answer →
      Coupled allowed states (next answer) (other answer) final) :
    Coupled allowed states (Program.ask >>= next) (Program.ask >>= other) final := by
  refine bind ask ?_
  rintro answer _ ⟨rfl, good⟩
  exact each answer good

theorem inspect {view : σ → α} {view' : τ → β}
    (related : ∀ first second, states first second → results (view first) (view' second)) :
    Coupled allowed states (Program.inspect view) (Program.inspect view') results := by
  constructor
  intro first second answers good start
  exact ⟨related first second start, start, rfl, good⟩

theorem change {update : σ → σ} {update' : τ → τ}
    (kept : ∀ first second, states first second → states (update first) (update' second)) :
    Coupled allowed states (Program.change update) (Program.change update') Eq := by
  constructor
  intro first second answers good start
  exact ⟨rfl, kept first second start, rfl, good⟩

/-- A relation of the whole states that says how their parts are related. -/
theorem on {parts : σ → τ → Prop} {wholes : σ' → τ' → Prop} {part : σ' → σ} {part' : τ' → τ}
    {write : σ' → σ → σ'} {write' : τ' → τ → τ'} {left : Program ι σ α}
    {right : Program ι τ β} (coupled : Coupled allowed parts left right results)
    (read : ∀ first second, wholes first second → parts (part first) (part' second))
    (written : ∀ first second part part', wholes first second → parts part part' →
      wholes (write first part) (write' second part')) :
    Coupled allowed wholes (left.on part write) (right.on part' write') results := by
  constructor
  intro first second answers good start
  obtain ⟨related, between, rest⟩ :=
    coupled.run (part first) (part' second) answers good (read first second start)
  exact ⟨related, written first second _ _ start between, rest⟩

end Coupled

/-- As `Coupled`, but the states may be related otherwise at the end. -/
structure Leads (allowed : ι → Prop) (before after : σ → τ → Prop) (left : Program ι σ α)
    (right : Program ι τ β) (results : α → β → Prop) : Prop where
  run : ∀ first second answers, (∀ index, allowed (answers index)) → before first second →
    results (left first answers).1.1 (right second answers).1.1 ∧
      after (left first answers).1.2 (right second answers).1.2 ∧
      (left first answers).2 = (right second answers).2 ∧
      ∀ index, allowed ((left first answers).2 index)

namespace Leads

variable {allowed : ι → Prop} {before between after : σ → τ → Prop} {results : α → β → Prop}
  {final : γ → δ → Prop}

theorem ofCoupled {left : Program ι σ α} {right : Program ι τ β}
    (coupled : Coupled allowed before left right results)
    (kept : ∀ first second, before first second → after first second) :
    Leads allowed before after left right results := by
  constructor
  intro first second answers good start
  obtain ⟨related, still, rest⟩ := coupled.run first second answers good start
  exact ⟨related, kept _ _ still, rest⟩

theorem bind {left : Program ι σ α} {right : Program ι τ β} {next : α → Program ι σ γ}
    {other : β → Program ι τ δ} (start : Leads allowed before between left right results)
    (rest : ∀ value value', results value value' →
      Leads allowed between after (next value) (other value') final) :
    Leads allowed before after (left >>= next) (right >>= other) final := by
  constructor
  intro first second answers good begun
  obtain ⟨related, middle, same, still⟩ := start.run first second answers good begun
  have later := (rest _ _ related).run _ _ _ still middle
  change final (next _ _ _).1.1 (other _ _ _).1.1 ∧ after (next _ _ _).1.2 (other _ _ _).1.2 ∧
    (next _ _ _).2 = (other _ _ _).2 ∧ ∀ index, allowed ((next _ _ _).2 index)
  rw [← same]
  exact later

theorem ite {condition condition' : Prop} [Decidable condition] [Decidable condition']
    {yes no : Program ι σ α} {yes' no' : Program ι τ β} (agree : condition ↔ condition')
    (holds : condition → Leads allowed before after yes yes' results)
    (fails : ¬condition → Leads allowed before after no no' results) :
    Leads allowed before after (if condition then yes else no) (if condition' then yes' else no')
      results := by
  by_cases decided : condition
  · rw [if_pos decided, if_pos (agree.mp decided)]
    exact holds decided
  · rw [if_neg decided, if_neg fun now => decided (agree.mpr now)]
    exact fails decided

theorem change {update : σ → σ} {update' : τ → τ}
    (moved : ∀ first second, before first second → after (update first) (update' second)) :
    Leads allowed before after (Program.change update) (Program.change update') Eq := by
  constructor
  intro first second answers good start
  exact ⟨rfl, moved first second start, rfl, good⟩

end Leads

/-- On allowed answers the program ends with a good result and leaves allowed answers. -/
structure Yields (allowed : ι → Prop) (program : Program ι σ α) (good : α → Prop) : Prop where
  run : ∀ state answers, (∀ index, allowed (answers index)) →
    good (program state answers).1.1 ∧ ∀ index, allowed ((program state answers).2 index)

namespace Yields

variable {allowed : ι → Prop} {good : α → Prop} {final : β → Prop}

theorem pure {value : α} (holds : good value) :
    Yields allowed (pure value : Program ι σ α) good := by
  constructor
  intro state answers fine
  exact ⟨holds, fine⟩

theorem bind {program : Program ι σ α} {next : α → Program ι σ β}
    (first : Yields allowed program good)
    (second : ∀ value, good value → Yields allowed (next value) final) :
    Yields allowed (program >>= next) final := by
  constructor
  intro state answers fine
  obtain ⟨holds, still⟩ := first.run state answers fine
  exact (second _ holds).run _ _ still

theorem weaken {program : Program ι σ α} {weaker : α → Prop}
    (yields : Yields allowed program good) (implied : ∀ value, good value → weaker value) :
    Yields allowed program weaker := by
  constructor
  intro state answers fine
  obtain ⟨holds, still⟩ := yields.run state answers fine
  exact ⟨implied _ holds, still⟩

theorem ite {condition : Prop} [Decidable condition] {yes no : Program ι σ α}
    (holds : condition → Yields allowed yes good) (fails : ¬condition → Yields allowed no good) :
    Yields allowed (if condition then yes else no) good := by
  by_cases decided : condition
  · rw [if_pos decided]
    exact holds decided
  · rw [if_neg decided]
    exact fails decided

theorem ask_then {next : ι → Program ι σ β}
    (each : ∀ answer, allowed answer → Yields allowed (next answer) final) :
    Yields allowed (Program.ask >>= next) final := by
  constructor
  intro state answers fine
  exact (each _ (fine 0)).run state _ fun index => fine (index + 1)

theorem inspect {view : σ → α} (holds : ∀ state, good (view state)) :
    Yields allowed (Program.inspect view) good := by
  constructor
  intro state answers fine
  exact ⟨holds state, fine⟩

theorem inspect_then {view : σ → α} {next : α → Program ι σ β}
    (each : ∀ value, Yields allowed (next value) final) :
    Yields allowed (Program.inspect view >>= next) final := by
  constructor
  intro state answers fine
  exact (each (view state)).run state answers fine

theorem change {update : σ → σ} :
    Yields allowed (Program.change update) fun _ => True := by
  constructor
  intro state answers fine
  exact ⟨trivial, fine⟩

theorem on {part : τ → σ} {write : τ → σ → τ} {program : Program ι σ α}
    (yields : Yields allowed program good) : Yields allowed (program.on part write) good := by
  constructor
  intro whole answers fine
  exact yields.run (part whole) answers fine

/-- A program that is coupled with some program consumes its answers one by one. -/
theorem ofCoupled {states : σ → τ → Prop} {left : Program ι σ α} {right : Program ι τ β}
    {results : α → β → Prop} (coupled : Coupled allowed states left right results)
    (started : ∀ first, ∃ second, states first second) :
    Yields allowed left fun _ => True := by
  constructor
  intro state answers fine
  obtain ⟨second, start⟩ := started state
  exact ⟨trivial, (coupled.run state second answers fine start).2.2.2⟩

end Yields

end AgentNucleus.Library.Program
