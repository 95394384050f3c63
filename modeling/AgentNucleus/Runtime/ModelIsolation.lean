/-
Whose state is in a leased context.  `acquire` hands out any resident context that
has no owner, with the state that is in it: after `release` that of the last owner,
after `suspend` and `resume` that of an agent that still has its lease.
-/

import AgentNucleus.Runtime.ModelReservations

set_option autoImplicit false

namespace AgentNucleus.Runtime

open Library

/-- All state in the context comes from the owner, and nobody else has the lease. -/
structure ContextSlot.FitFor (slot : ContextSlot) (owner : AgentId) : Prop where
  state : ∀ native, slot.context = some native →
    ∀ producer ∈ native.producers, producer = owner
  lease : slot.lessee = kInvalidAgentId ∨ slot.lessee = owner

namespace ContextSlot

def fits (slot : ContextSlot) (owner : AgentId) : Bool :=
  (slot.context.all fun native => native.producers.all (· == owner)) &&
    (slot.lessee == kInvalidAgentId || slot.lessee == owner)

theorem fits_iff (slot : ContextSlot) (owner : AgentId) :
    slot.fits owner = true ↔ slot.FitFor owner := by
  unfold fits
  rw [Bool.and_eq_true, Option.all_eq_true, Bool.or_eq_true, beq_iff_eq, beq_iff_eq]
  constructor
  · intro both
    constructor
    · intro native here producer member
      exact eq_of_beq (List.all_eq_true.mp (both.1 native here) producer member)
    · exact both.2
  · intro fit
    constructor
    · intro native here
      apply List.all_eq_true.mpr
      intro producer member
      exact beq_iff_eq.mpr (fit.state native here producer member)
    · exact fit.lease

end ContextSlot

namespace ModelEngine

/-- Every context that may be handed to the owner fits. -/
def Clear (engine : ModelEngine) (owner : AgentId) : Prop :=
  ∀ id slot, engine.contexts.lookup id = some slot → slot.free = true → slot.FitFor owner

theorem clear_iff (engine : ModelEngine) (owner : AgentId) :
    (engine.contexts.keys.all fun id =>
      (engine.contexts.lookup id).all fun slot => !slot.free || slot.fits owner) = true ↔
        engine.Clear owner := by
  rw [List.all_eq_true]
  constructor
  · intro all id slot present free
    have key : id ∈ engine.contexts.keys :=
      (UnorderedMap.mem_iff_lookup engine.contexts id).mpr ⟨slot, present⟩
    have here := (Option.all_eq_true _ _).mp (all id key) slot present
    rw [free, Bool.not_true, Bool.false_or] at here
    exact (slot.fits_iff owner).mp here
  · intro clear id _
    apply (Option.all_eq_true _ _).mpr
    intro slot present
    cases free : slot.free with
    | false => rfl
    | true => exact (slot.fits_iff owner).mpr (clear id slot present free)

instance (engine : ModelEngine) (owner : AgentId) : Decidable (engine.Clear owner) :=
  decidable_of_iff _ (engine.clear_iff owner)

/-- `acquire` finds no context of another agent, and its next id is not in use. -/
def Guarded (engine : ModelEngine) : Operation → Prop
  | .acquire owner _ =>
      engine.Clear owner ∧ engine.contexts.lookup engine.nextContextId = none
  | _ => True

instance (engine : ModelEngine) : (operation : Operation) → Decidable (engine.Guarded operation)
  | .acquire owner _ =>
      inferInstanceAs (Decidable
        (engine.Clear owner ∧ engine.contexts.lookup engine.nextContextId = none))
  | .initializeEngine _ => inferInstanceAs (Decidable True)
  | .release _ => inferInstanceAs (Decidable True)
  | .suspend _ _ _ => inferInstanceAs (Decidable True)
  | .resume _ _ => inferInstanceAs (Decidable True)
  | .requestCancel _ => inferInstanceAs (Decidable True)
  | .produce _ => inferInstanceAs (Decidable True)

/-- The context whose id `acquire` returns belongs to the owner, holds no state of
another agent, and was not leased to another one. -/
def Separate (engine : ModelEngine) : Operation → Prop
  | .acquire owner environment =>
      ∀ id, (engine.acquire owner environment).2 = .ok id →
        (∃ slot native,
          (engine.acquire owner environment).1.contexts.lookup id = some slot ∧
          slot.owner = owner ∧ slot.context = some native ∧
          ∀ producer ∈ native.producers, producer = owner) ∧
        ∀ before, engine.contexts.lookup id = some before →
          before.lessee = kInvalidAgentId ∨ before.lessee = owner
  | _ => True

/-- A context in the hands of an agent holds its state only. -/
structure Isolated (engine : ModelEngine) : Prop where
  own : ∀ id slot, engine.contexts.lookup id = some slot → slot.owner ≠ kInvalidAgentId →
    slot.FitFor slot.owner
  idle : ∀ id slot, engine.contexts.lookup id = some slot → slot.resident = false →
    slot.owner = kInvalidAgentId

section Steps

variable {engine next : ModelEngine}

theorem lookup_withSlot (engine : ModelEngine) (id other : ContextId) (slot : ContextSlot) :
    (engine.withSlot id slot).contexts.lookup other =
      if other = id then some slot else engine.contexts.lookup other :=
  UnorderedMap.lookup_insert_if engine.contexts id other slot

/-- One slot is replaced. -/
theorem Isolated.replace (isolated : Isolated engine) {id : ContextId} {slot : ContextSlot}
    (contexts : next.contexts = (engine.withSlot id slot).contexts)
    (own : slot.owner ≠ kInvalidAgentId → slot.FitFor slot.owner)
    (idle : slot.resident = false → slot.owner = kInvalidAgentId) : Isolated next where
  own := by
    intro other found present owned
    rw [contexts, lookup_withSlot] at present
    split at present
    · cases present
      exact own owned
    · exact isolated.own other found present owned
  idle := by
    intro other found present absent
    rw [contexts, lookup_withSlot] at present
    split at present
    · cases present
      exact idle absent
    · exact isolated.idle other found present absent

theorem isolated_start (config : ModelEngineConfig) : Isolated (start config) where
  own := by
    intro id slot present
    cases present
  idle := by
    intro id slot present
    cases present

/-- The owner adds to its own state. -/
theorem fitFor_produce {slot : ContextSlot} (owned : slot.owner ≠ kInvalidAgentId)
    (fit : slot.FitFor slot.owner) : slot.produce.FitFor slot.owner := by
  unfold ContextSlot.produce
  rw [if_neg owned]
  constructor
  · intro native here producer member
    obtain ⟨old, there, rfl⟩ := Option.map_eq_some_iff.mp here
    rcases List.mem_cons.mp member with own | before
    · exact own
    · exact fit.state old there producer before
  · exact fit.lease

/-- A step keeps the contexts of different agents apart if it meets the guard. -/
theorem Isolated.effect (isolated : Isolated engine) {operation : Operation} {success : Bool}
    (effect : Effect engine operation next success) (guarded : engine.Guarded operation) :
    Isolated next := by
  cases effect with
  | refused operation => exact isolated
  | ready environment => exact isolated
  | loaded environment bytes without => exact ⟨isolated.own, isolated.idle⟩
  | unloaded environment bytes without => exact ⟨isolated.own, isolated.idle⟩
  | reused owner environment id slot model chosen =>
      obtain ⟨present, free⟩ := freeContext_some chosen
      have fit := guarded.1 id slot present free
      have resident : slot.resident = true := (Bool.and_eq_true_iff.mp free).1
      apply isolated.replace
      · rfl
      · intro _
        exact ⟨fit.state, Or.inr rfl⟩
      · intro absent
        exact absurd (resident.symm.trans absent) (by decide)
  | unreserved owner environment model nobody => exact ⟨isolated.own, isolated.idle⟩
  | uncreated owner environment model nobody => exact ⟨isolated.own, isolated.idle⟩
  | created owner environment model nobody room =>
      apply isolated.replace
      · exact UnorderedMap.emplace_fresh _ _ _ guarded.2
      · intro _
        constructor
        · intro native here producer member
          cases here
          cases member
        · exact Or.inr rfl
      · intro absent
        cases absent
  | released id slot present =>
      apply isolated.replace
      · rfl
      · intro owned
        exact absurd rfl owned
      · intro _
        rfl
  | unwritten id snapshotPath environment files => exact ⟨isolated.own, isolated.idle⟩
  | suspended id snapshotPath environment slot files present resident =>
      apply isolated.replace
      · rfl
      · intro owned
        exact absurd rfl owned
      · intro _
        rfl
  | unrestored id environment slot present absent =>
      have nobody := isolated.idle id slot present absent
      apply isolated.replace
      · rfl
      · intro owned
        exact absurd nobody owned
      · intro _
        exact nobody
  | restored id environment slot native present absent room =>
      have nobody := isolated.idle id slot present absent
      apply isolated.replace
      · rfl
      · intro owned
        exact absurd nobody owned
      · intro _
        exact nobody
  | cancelled id slot present =>
      apply isolated.replace
      · rfl
      · intro owned
        have fit := isolated.own id slot present owned
        exact ⟨fit.state, fit.lease⟩
      · exact isolated.idle id slot present
  | produced id slot present =>
      apply isolated.replace
      · rfl
      · rw [ContextSlot.owner_produce]
        intro owned
        exact fitFor_produce owned (isolated.own id slot present owned)
      · rw [ContextSlot.owner_produce, ContextSlot.resident_produce]
        exact isolated.idle id slot present

/-- `acquire` under the guard. -/
theorem separate_of_guarded (operation : Operation) (guarded : engine.Guarded operation) :
    engine.Separate operation := by
  cases operation with
  | acquire owner environment =>
      intro id given
      obtain ⟨clear, unused⟩ := guarded
      rcases engine.acquire_ok given with ⟨slot, chosen, result⟩ | ⟨same, contexts⟩
      · obtain ⟨present, free⟩ := freeContext_some chosen
        have fit := clear id slot present free
        obtain ⟨native, here⟩ :=
          Option.isSome_iff_exists.mp (Bool.and_eq_true_iff.mp free).1
        rw [result]
        constructor
        · refine ⟨{ slot with owner := owner, cancelRequested := false, lessee := owner }, native,
            ?_, rfl, here, fit.state native here⟩
          exact (engine.lookup_withSlot id id _).trans (if_pos rfl)
        · intro before there
          cases present.symm.trans there
          exact fit.lease
      · rw [← same] at unused
        constructor
        · refine ⟨engine.created owner, {}, ?_, rfl, rfl, nofun⟩
          rw [contexts, UnorderedMap.lookup_emplace_fresh _ _ _ _ unused, if_pos rfl]
        · intro before there
          rw [unused] at there
          cases there
  | _ => trivial

/-- A context that does not fit is handed out if the scan comes to it first. -/
theorem clear_of_separate {owner : AgentId} (model : engine.model = true)
    (separate : ∀ environment, engine.Separate (.acquire owner environment)) :
    engine.Clear owner := by
  intro id slot present free
  let environment : AcquireEnvironment := { scan := .startingAt id, sample := .error [] }
  have chosen : engine.freeContext environment.scan = some (id, slot) := by
    have key : id ∈ engine.contexts.keys :=
      (UnorderedMap.mem_iff_lookup engine.contexts id).mpr ⟨slot, present⟩
    unfold freeContext
    change ((if id ∈ engine.contexts.keys then id :: engine.contexts.keys.erase id
      else engine.contexts.keys).findSome? _) = _
    rw [if_pos key, List.findSome?_cons, present, Option.bind_some, if_pos free]
  have answer : engine.acquire owner environment =
      (engine.withSlot id
        { slot with owner := owner, cancelRequested := false, lessee := owner }, .ok id) := by
    unfold acquire
    rw [model, if_neg (show ¬(!true) = true from Bool.false_ne_true), chosen]
  have given : (engine.acquire owner environment).2 = .ok id := by rw [answer]
  obtain ⟨⟨after, native, there, _, here, all⟩, lease⟩ := separate environment id given
  rw [answer, lookup_withSlot, if_pos rfl, Option.some.injEq] at there
  rw [← there] at here
  constructor
  · intro state held
    cases here.symm.trans held
    exact all
  · exact lease slot present

end Steps

/-- Every run in which `acquire` never meets a context of another agent, nor an id in
use, keeps the agents apart.  In every state that is reached the first condition is
needed too, since nothing fixes the order of the scan. -/
theorem contexts_stay_separate (config : ModelEngineConfig) (operations : List Operation) :
    ((machine config).Along Guarded (start config) operations →
      (machine config).Along Separate (start config) operations ∧
        (machine config).Throughout Isolated (start config) operations) ∧
    ∀ owner : AgentId, ((machine config).run operations).model = true →
      ((machine config).run operations).contexts.lookup
        ((machine config).run operations).nextContextId = none →
      ((∀ environment, ((machine config).run operations).Separate (.acquire owner environment)) ↔
        ((machine config).run operations).Clear owner) := by
  constructor
  · intro guarded
    constructor
    · exact guarded.mono fun engine operation => separate_of_guarded operation
    · apply (machine config).throughout_of_along Isolated Guarded
      · intro engine operation isolated here
        exact isolated.effect (engine.perform_effect operation) here
      · exact isolated_start config
      · exact guarded
  · intro owner model unused
    constructor
    · exact clear_of_separate model
    · intro clear environment
      exact separate_of_guarded (.acquire owner environment) ⟨clear, unused⟩

/-- Two agents with a context each; the first one is suspended, resumed, and taken back
by its agent. -/
def twoAgents : List Operation :=
  oneContext ++
    [.produce 1, .acquire 8 { sample := .ok enough }, .produce 2,
      .suspend 1 (text "seven") { stateSize := 5, copied := 5 },
      .resume 1 { sample := .ok enough, restored := 5 },
      .acquire 7 { sample := .ok enough }, .produce 1]

theorem twoAgents_separate :
    (machine smallConfig).Along Separate (start smallConfig) twoAgents ∧
      (machine smallConfig).Throughout Isolated (start smallConfig) twoAgents ∧
      ((∀ environment, ((machine smallConfig).run twoAgents).Separate (.acquire 9 environment)) ↔
        ((machine smallConfig).run twoAgents).Clear 9) := by
  have separate := contexts_stay_separate smallConfig twoAgents
  obtain ⟨along, throughout⟩ := separate.1 (by decide +kernel)
  exact ⟨along, throughout, separate.2 9 (by decide +kernel) (by decide +kernel)⟩

/-- An agent uses its context and gives it back. -/
def returnedContext : List Operation :=
  oneContext ++ [.produce 1, .release 1]

/-- The next agent gets the context with the state of the first one. -/
theorem released_state_crosses :
    ¬∀ (config : ModelEngineConfig) (operations : List Operation),
      (machine config).Along Separate (start config) operations := by
  intro separate
  have along : (machine smallConfig).Along Separate ((machine smallConfig).run returnedContext)
      [.acquire 8 { sample := .ok enough }] :=
    Machine.Along.after_segment returnedContext _ (separate smallConfig _)
  have given : (((machine smallConfig).run returnedContext).acquire 8
      { sample := .ok enough }).2 = .ok 1 := by decide +kernel
  have state : ((((machine smallConfig).run returnedContext).acquire 8
      { sample := .ok enough }).1.contexts.lookup 1).bind ContextSlot.context =
        some { producers := [7] } := by decide +kernel
  obtain ⟨⟨slot, native, present, _, here, all⟩, _⟩ := along.1 1 given
  rw [present, Option.bind_some, here, Option.some.injEq] at state
  have seven := all 7 (by rw [state]; exact List.mem_singleton_self 7)
  exact absurd seven (by decide)

end ModelEngine

end AgentNucleus.Runtime
