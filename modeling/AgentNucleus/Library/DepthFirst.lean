/-
Three-colour depth-first search for a cycle in a finite directed graph given by
successor lists.  The recursion carries a depth bound; a bound above the number
of vertices is never exhausted, and the search then decides acyclicity.
-/

import Mathlib.Data.Finset.Card
import Mathlib.Data.Fintype.Basic
import Mathlib.Data.Fintype.Card
import Mathlib.Logic.Function.Basic
import Mathlib.Logic.Relation
import Mathlib.Order.WellFounded
import Mathlib.Data.Finite.Defs
import Mathlib.Order.Preorder.Finite

set_option autoImplicit false

namespace AgentNucleus.Library.DepthFirst

open Relation (TransGen)

universe u

variable {α : Type u} [DecidableEq α]

/-- `active` marks the vertices of the current search path. -/
inductive Visit where
  | none
  | active
  | done
deriving DecidableEq, Repr

abbrev Visits (α : Type u) : Type u := α → Visit

/-- The loop over a list of vertices, left as soon as a visit reports a cycle. -/
def visitEach (body : Visits α → α → Bool × Visits α) :
    Visits α → List α → Bool × Visits α
  | visits, [] => (false, visits)
  | visits, id :: rest =>
      match body visits id with
      | (true, after) => (true, after)
      | (false, after) => visitEach body after rest

def visit (successors : α → List α) : Nat → Visits α → α → Bool × Visits α
  | 0, visits, _ => (true, visits)
  | depth + 1, visits, id =>
      match visits id with
      | .active => (true, visits)
      | .done => (false, visits)
      | .none =>
          match visitEach (visit successors depth)
              (Function.update visits id .active) (successors id) with
          | (true, after) => (true, after)
          | (false, after) => (false, Function.update after id .done)

def hasCycle (successors : α → List α) (depth : Nat) (ids : List α) : Bool :=
  (visitEach (visit successors depth) (fun _ => .none) ids).1

/-! ### Edges and acyclicity -/

def Edge (successors : α → List α) (source target : α) : Prop :=
  target ∈ successors source

/-- Everything reachable from the vertex forms a well-founded tree. -/
def Grounded (successors : α → List α) (id : α) : Prop :=
  Acc (fun target source => Edge successors source target) id

omit [DecidableEq α] in
theorem Grounded.irreflexive {successors : α → List α} {id : α}
    (grounded : Grounded successors id) : ¬TransGen (Edge successors) id id := by
  induction grounded with
  | intro id _ ih =>
      intro loop
      rcases TransGen.head'_iff.mp loop with ⟨next, edge, back⟩
      refine ih next edge ?_
      exact TransGen.tail' back edge

section Extension

variable {edge : α → α → Prop} {known : α → Prop}

omit [DecidableEq α] in
private theorem path_outside (closed : ∀ source target, edge source target →
    ¬known source → ¬known target) {source target : α} (path : TransGen edge source target)
    (outside : ¬known source) :
    ¬known target ∧
      TransGen (fun left right => edge left right ∧ ¬known left ∧ ¬known right) source target := by
  induction path with
  | single last =>
      have next := closed _ _ last outside
      exact ⟨next, TransGen.single ⟨last, outside, next⟩⟩
  | tail _ last ih =>
      have next := closed _ _ last ih.1
      exact ⟨next, ih.2.tail ⟨last, ih.1, next⟩⟩

omit [DecidableEq α] in
private theorem path_inside (closed : ∀ source target, edge source target →
    ¬known source → ¬known target) {source target : α} (path : TransGen edge source target)
    (inside : known target) :
    TransGen (fun left right => edge left right ∧ known left ∧ known right) source target := by
  have earlier : ∀ left right, edge left right → known right → known left :=
    fun left right step reached => by_contra fun outside => closed left right step outside reached
  induction path with
  | single last => exact TransGen.single ⟨last, earlier _ _ last inside, inside⟩
  | tail _ last ih =>
      have middle := earlier _ _ last inside
      exact (ih middle).tail ⟨last, middle, inside⟩

omit [DecidableEq α] in
/-- When no edge leads back into the known part of a graph, every loop stays on
one side. -/
theorem loop_splits (known : α → Prop) (closed : ∀ source target, edge source target →
    ¬known source → ¬known target) {id : α} (loop : TransGen edge id id) :
    TransGen (fun left right => edge left right ∧ known left ∧ known right) id id ∨
      TransGen (fun left right => edge left right ∧ ¬known left ∧ ¬known right) id id := by
  by_cases inside : known id
  · exact Or.inl (path_inside closed loop inside)
  · exact Or.inr (path_outside closed loop inside).2

end Extension

/-- The vertices that no visit has reached yet. -/
def fresh (vertices : Finset α) (visits : Visits α) : Nat :=
  (vertices.filter fun id => visits id = .none).card

omit [DecidableEq α] in
theorem fresh_mono (vertices : Finset α) (before after : Visits α)
    (kept : ∀ id, after id = .none → before id = .none) :
    fresh vertices after ≤ fresh vertices before := by
  apply Finset.card_le_card
  intro id member
  rw [Finset.mem_filter] at member ⊢
  exact ⟨member.1, kept id member.2⟩

theorem fresh_activate (vertices : Finset α) (visits : Visits α) (id : α)
    (member : id ∈ vertices) (unvisited : visits id = .none) :
    fresh vertices (Function.update visits id .active) < fresh vertices visits := by
  apply Finset.card_lt_card
  rw [Finset.ssubset_iff_of_subset]
  · refine ⟨id, Finset.mem_filter.mpr ⟨member, unvisited⟩, ?_⟩
    rw [Finset.mem_filter, Function.update_self]
    rintro ⟨_, impossible⟩
    cases impossible
  · intro other present
    rw [Finset.mem_filter] at present ⊢
    refine ⟨present.1, ?_⟩
    by_cases same : other = id
    · exact same ▸ unvisited
    · rw [← present.2, Function.update_of_ne same]

omit [DecidableEq α] in
/-- In a finite graph without loops, a property that passes from all
predecessors of a vertex to the vertex holds of every vertex. -/
theorem loopFree_induction (successors : α → List α) (vertices : Finset α)
    (loopFree : ∀ id ∈ vertices, ¬TransGen (Edge successors) id id) (property : α → Prop)
    (step : ∀ id ∈ vertices,
      (∀ source ∈ vertices, Edge successors source id → property source) → property id) :
    ∀ id ∈ vertices, property id := by
  let below : vertices → vertices → Prop :=
    fun source target => TransGen (Edge successors) source.1 target.1
  have transitive : IsTrans vertices below := ⟨fun _ _ _ first second => first.trans second⟩
  have irreflexive : Std.Irrefl below := ⟨fun id => loopFree id.1 id.2⟩
  have wellFounded : WellFounded below := Finite.wellFounded_of_trans_of_irrefl below
  intro id member
  have reached : property (⟨id, member⟩ : vertices).1 := by
    induction (⟨id, member⟩ : vertices) using wellFounded.induction with
    | _ current ih =>
        refine step current.1 current.2 ?_
        intro source sourceMember edge
        exact ih ⟨source, sourceMember⟩ (TransGen.single edge)
  exact reached

/-! ### One visit -/

section Search

variable (successors : α → List α) (vertices : Finset α)

/-- What the search knows between two visits: finished vertices are grounded,
and the search path leads to every vertex about to be visited. -/
structure Sound (visits : Visits α) (pending : α → Prop) : Prop where
  finished : ∀ id, visits id = .done → Grounded successors id
  path : ∀ source, visits source = .active →
    ∀ target, pending target → TransGen (Edge successors) source target

/-- What a visit that reports no cycle leaves behind. -/
structure Advance (before after : Visits α) : Prop where
  finished : ∀ id, after id = .done → Grounded successors id
  keepsDone : ∀ id, before id = .done → after id = .done
  active_iff : ∀ id, after id = .active ↔ before id = .active
  unvisited : ∀ id, after id = .none → before id = .none

def HasLoop : Prop := ∃ id ∈ vertices, TransGen (Edge successors) id id

/-- The contract of a visit procedure, as the loop over successors uses it. -/
def VisitSpec (depth : Nat) (body : Visits α → α → Bool × Visits α) : Prop :=
  ∀ visits id, id ∈ vertices → fresh vertices visits < depth →
    Sound successors visits (fun target => target = id) →
    ((body visits id).1 = true → HasLoop successors vertices) ∧
    ((body visits id).1 = false →
      Advance successors visits (body visits id).2 ∧ (body visits id).2 id = .done)

variable {successors vertices}

omit [DecidableEq α] in
private theorem Advance.trans {first second third : Visits α}
    (left : Advance successors first second) (right : Advance successors second third) :
    Advance successors first third where
  finished := right.finished
  keepsDone := fun id done => right.keepsDone id (left.keepsDone id done)
  active_iff := fun id => (right.active_iff id).trans (left.active_iff id)
  unvisited := fun id none => left.unvisited id (right.unvisited id none)

omit [DecidableEq α] in
private theorem visitEach_spec {depth : Nat} {body : Visits α → α → Bool × Visits α}
    (spec : VisitSpec successors vertices depth body) (ids : List α) (visits : Visits α)
    (inside : ∀ id ∈ ids, id ∈ vertices) (enough : fresh vertices visits < depth)
    (sound : Sound successors visits (fun target => target ∈ ids)) :
    ((visitEach body visits ids).1 = true → HasLoop successors vertices) ∧
    ((visitEach body visits ids).1 = false →
      Advance successors visits (visitEach body visits ids).2 ∧
      ∀ id ∈ ids, (visitEach body visits ids).2 id = .done) := by
  induction ids generalizing visits with
  | nil =>
      refine ⟨nofun, fun _ => ⟨?_, ?_⟩⟩
      · exact ⟨sound.finished, fun _ done => done, fun _ => Iff.rfl, fun _ none => none⟩
      · intro id member
        cases member
  | cons head rest ih =>
      have headSound : Sound successors visits (fun target => target = head) :=
        ⟨sound.finished, fun source active target same =>
          sound.path source active target (same ▸ List.mem_cons_self ..)⟩
      have here := spec visits head (inside head (List.mem_cons_self ..)) enough headSound
      cases outcome : body visits head with
      | mk found after =>
          rw [outcome] at here
          cases found with
          | true =>
              simp only [visitEach, outcome]
              exact ⟨fun _ => here.1 rfl, nofun⟩
          | false =>
              obtain ⟨advance, headDone⟩ := here.2 rfl
              have stillEnough : fresh vertices after < depth :=
                Nat.lt_of_le_of_lt (fresh_mono vertices visits after advance.unvisited) enough
              have restSound : Sound successors after (fun target => target ∈ rest) :=
                ⟨advance.finished, fun source active target member =>
                  sound.path source ((advance.active_iff source).mp active) target
                    (List.mem_cons_of_mem head member)⟩
              have later := ih after
                (fun id member => inside id (List.mem_cons_of_mem head member))
                stillEnough restSound
              simp only [visitEach, outcome]
              refine ⟨later.1, fun clear => ?_⟩
              obtain ⟨restAdvance, restDone⟩ := later.2 clear
              refine ⟨advance.trans restAdvance, ?_⟩
              intro id member
              rcases List.mem_cons.mp member with same | inRest
              · subst same
                exact restAdvance.keepsDone id headDone
              · exact restDone id inRest

private theorem Sound.mark {visits : Visits α} {id : α}
    (sound : Sound successors visits (fun target => target = id)) :
    Sound successors (Function.update visits id .active)
      (fun target => target ∈ successors id) where
  finished := by
    intro other done
    by_cases same : other = id
    · subst same
      rw [Function.update_self] at done
      cases done
    · rw [Function.update_of_ne same] at done
      exact sound.finished other done
  path := by
    intro source active target edge
    by_cases same : source = id
    · exact same ▸ TransGen.single edge
    · rw [Function.update_of_ne same] at active
      exact TransGen.tail (sound.path source active id rfl) edge

/-- Marking the vertex `done` at the end closes the bracket opened by `active`. -/
private theorem Advance.settle {visits after : Visits α} {id : α}
    (unvisited : visits id = .none)
    (advance : Advance successors (Function.update visits id .active) after)
    (grounded : Grounded successors id) :
    Advance successors visits (Function.update after id .done) where
  finished := by
    intro other done
    by_cases same : other = id
    · exact same ▸ grounded
    · rw [Function.update_of_ne same] at done
      exact advance.finished other done
  keepsDone := by
    intro other done
    by_cases same : other = id
    · rw [same, Function.update_self]
    · rw [Function.update_of_ne same]
      apply advance.keepsDone other
      rwa [Function.update_of_ne same]
  active_iff := by
    intro other
    by_cases same : other = id
    · subst same
      rw [Function.update_self, unvisited]
      exact ⟨nofun, nofun⟩
    · rw [Function.update_of_ne same, advance.active_iff other, Function.update_of_ne same]
  unvisited := by
    intro other none
    by_cases same : other = id
    · exact same ▸ unvisited
    · rw [Function.update_of_ne same] at none
      have before := advance.unvisited other none
      rwa [Function.update_of_ne same] at before

private theorem visit_fresh (depth : Nat) (visits : Visits α) (id : α)
    (unvisited : visits id = .none) :
    visit successors (depth + 1) visits id =
      match visitEach (visit successors depth)
          (Function.update visits id .active) (successors id) with
      | (true, after) => (true, after)
      | (false, after) => (false, Function.update after id .done) := by
  rw [visit, unvisited]

/-- A visit with enough depth is sound and complete; induction on the depth,
since every nested visit has one more active vertex. -/
theorem visit_spec (closed : ∀ id ∈ vertices, ∀ target ∈ successors id, target ∈ vertices)
    (depth : Nat) : VisitSpec successors vertices depth (visit successors depth) := by
  induction depth with
  | zero => intro visits id _ enough; exact absurd enough (Nat.not_lt_zero _)
  | succ depth ih =>
      intro visits id member enough sound
      cases state : visits id with
      | active =>
          simp only [visit, state]
          exact ⟨fun _ => ⟨id, member, sound.path id state id rfl⟩, nofun⟩
      | done =>
          simp only [visit, state]
          exact ⟨nofun, fun _ => ⟨⟨sound.finished, fun _ done => done, fun _ => Iff.rfl,
            fun _ none => none⟩, trivial⟩⟩
      | none =>
          have markedEnough :
              fresh vertices (Function.update visits id .active) < depth := by
            have smaller := fresh_activate vertices visits id member state
            omega
          have inner := visitEach_spec ih (successors id) (Function.update visits id .active)
            (closed id member) markedEnough sound.mark
          rw [visit_fresh depth visits id state]
          rcases outcome : visitEach (visit successors depth)
              (Function.update visits id .active) (successors id) with ⟨found, after⟩
          rw [outcome] at inner
          cases found with
          | true => exact ⟨fun _ => inner.1 rfl, nofun⟩
          | false =>
              obtain ⟨advance, allDone⟩ := inner.2 rfl
              have grounded : Grounded successors id :=
                Acc.intro id fun target edge => advance.finished target (allDone target edge)
              exact ⟨nofun, fun _ => ⟨advance.settle state grounded, Function.update_self ..⟩⟩

end Search

/-- A search from every vertex finds a loop, or proves every vertex grounded. -/
private theorem hasCycle_spec (successors : α → List α) (vertices : Finset α)
    (closed : ∀ id ∈ vertices, ∀ target ∈ successors id, target ∈ vertices)
    (depth : Nat) (enough : vertices.card < depth)
    (ids : List α) (covers : ∀ id, id ∈ ids ↔ id ∈ vertices) :
    (hasCycle successors depth ids = true → HasLoop successors vertices) ∧
      (hasCycle successors depth ids = false → ∀ id ∈ vertices, Grounded successors id) := by
  have freshEnough : fresh vertices (fun _ => Visit.none) < depth :=
    Nat.lt_of_le_of_lt (Finset.card_filter_le ..) enough
  have sound : Sound successors (fun _ : α => Visit.none) (fun target => target ∈ ids) :=
    ⟨fun _ => nofun, fun _ => nofun⟩
  have spec := visitEach_spec (visit_spec closed depth) ids (fun _ => Visit.none)
    (fun id member => (covers id).mp member) freshEnough sound
  refine ⟨spec.1, fun clear id member => ?_⟩
  obtain ⟨advance, allDone⟩ := spec.2 clear
  exact advance.finished id (allDone id ((covers id).mpr member))

/-- The search from every vertex reports a cycle exactly when there is one,
whatever the order in which the roots are tried. -/
theorem hasCycle_iff (successors : α → List α) (vertices : Finset α)
    (closed : ∀ id ∈ vertices, ∀ target ∈ successors id, target ∈ vertices)
    (depth : Nat) (enough : vertices.card < depth)
    (ids : List α) (covers : ∀ id, id ∈ ids ↔ id ∈ vertices) :
    hasCycle successors depth ids = true ↔
      ∃ id ∈ vertices, TransGen (Edge successors) id id := by
  have spec := hasCycle_spec successors vertices closed depth enough ids covers
  refine ⟨spec.1, ?_⟩
  rintro ⟨id, member, loop⟩
  cases found : hasCycle successors depth ids with
  | true => rfl
  | false => exact absurd loop (spec.2 found id member).irreflexive

end AgentNucleus.Library.DepthFirst
