/-
Everything that one call of `ModelEngine` can do, call by call.
-/

import AgentNucleus.Runtime.ModelEngine

set_option autoImplicit false

namespace AgentNucleus.Runtime

open Library

namespace ModelEngine

/-! ### Slots and their number -/

theorem freeContext_some {engine : ModelEngine} {scan : IterationOrder ContextId}
    {id : ContextId} {slot : ContextSlot} (found : engine.freeContext scan = some (id, slot)) :
    engine.contexts.lookup id = some slot ∧ slot.free = true := by
  obtain ⟨key, _, here⟩ := List.exists_of_findSome?_eq_some found
  obtain ⟨held, present, chosen⟩ := Option.bind_eq_some_iff.mp here
  split at chosen
  · rename_i free
    cases chosen
    exact ⟨present, free⟩
  · cases chosen

@[simp] theorem withSlot_contexts (engine : ModelEngine) (id : ContextId) (slot : ContextSlot) :
    (engine.withSlot id slot).contexts = engine.contexts.insert id slot := rfl

theorem residentCount_withSlot {engine : ModelEngine} {id : ContextId} {old : ContextSlot}
    (slot : ContextSlot) (present : engine.contexts.lookup id = some old) :
    (engine.withSlot id slot).residentCount + old.resident.toNat =
      engine.residentCount + slot.resident.toNat :=
  UnorderedMap.total_insert_over _ engine.contexts id old slot present

/-! ### One call -/

/-- The reservation that `try_reserve` makes. -/
def granted (engine : ModelEngine) (id : AgentId) (bytes : UInt64) : MemoryAdmissionController :=
  { engine.admission with reservations := engine.admission.reservations.insert id bytes }

def Full (engine : ModelEngine) : Prop :=
  engine.residentContexts ≥ engine.config.maxContexts

/-- A new slot for the owner. -/
def created (engine : ModelEngine) (owner : AgentId) : ContextSlot :=
  { id := engine.nextContextId, owner := owner, context := some {}, lessee := owner }

/-- The engine after a call, and whether the call succeeds. -/
inductive Effect (engine : ModelEngine) : Operation → ModelEngine → Bool → Prop
  | refused (operation : Operation) : Effect engine operation engine false
  | ready (environment : InitializeEnvironment) :
      Effect engine (.initializeEngine environment) engine true
  | loaded (environment : InitializeEnvironment) (bytes : UInt64)
      (without : engine.model = false) :
      Effect engine (.initializeEngine environment)
        { engine with
          admission := (engine.granted kModelReservationId bytes).release kModelReservationId
          model := true
          backendInitialized := true }
        true
  | unloaded (environment : InitializeEnvironment) (bytes : UInt64)
      (without : engine.model = false) :
      Effect engine (.initializeEngine environment)
        { engine with
          admission := (engine.granted kModelReservationId bytes).release kModelReservationId
          backendInitialized := false }
        false
  | reused (owner : AgentId) (environment : AcquireEnvironment) (id : ContextId)
      (slot : ContextSlot) (model : engine.model = true)
      (chosen : engine.freeContext environment.scan = some (id, slot)) :
      Effect engine (.acquire owner environment)
        (engine.withSlot id
          { slot with owner := owner, cancelRequested := false, lessee := owner })
        true
  | unreserved (owner : AgentId) (environment : AcquireEnvironment)
      (model : engine.model = true) (nobody : engine.freeContext environment.scan = none) :
      Effect engine (.acquire owner environment) engine.draw false
  | uncreated (owner : AgentId) (environment : AcquireEnvironment)
      (model : engine.model = true) (nobody : engine.freeContext environment.scan = none) :
      Effect engine (.acquire owner environment)
        { engine.draw with
          admission := (engine.granted engine.nextContextId
            engine.config.contextReservationBytes).release engine.nextContextId }
        false
  | created (owner : AgentId) (environment : AcquireEnvironment)
      (model : engine.model = true) (nobody : engine.freeContext environment.scan = none)
      (room : ¬engine.Full) :
      Effect engine (.acquire owner environment)
        { engine.draw with
          admission :=
            engine.granted engine.nextContextId engine.config.contextReservationBytes
          contexts := engine.contexts.emplace engine.nextContextId (engine.created owner) }
        true
  | released (id : ContextId) (slot : ContextSlot)
      (present : engine.contexts.lookup id = some slot) :
      Effect engine (.release id)
        (engine.withSlot id
          { slot with
            owner := kInvalidAgentId
            cancelRequested := false
            lessee := kInvalidAgentId })
        true
  | unwritten (id : ContextId) (snapshotPath : StdString) (environment : SuspendEnvironment)
      (files : UnorderedMap StdString SnapshotFile) :
      Effect engine (.suspend id snapshotPath environment) { engine with files := files } false
  | suspended (id : ContextId) (snapshotPath : StdString) (environment : SuspendEnvironment)
      (slot : ContextSlot) (files : UnorderedMap StdString SnapshotFile)
      (present : engine.contexts.lookup id = some slot) (resident : slot.resident = true) :
      Effect engine (.suspend id snapshotPath environment)
        { engine.withSlot id
            { slot with
              context := none
              owner := kInvalidAgentId
              snapshotPath := snapshotPath } with
          files := files
          admission := engine.admission.release id }
        true
  | unrestored (id : ContextId) (environment : ResumeEnvironment) (slot : ContextSlot)
      (present : engine.contexts.lookup id = some slot) (absent : slot.resident = false) :
      Effect engine (.resume id environment)
        { engine.withSlot id { slot with context := none } with
          admission := (engine.granted id engine.config.contextReservationBytes).release id }
        false
  | restored (id : ContextId) (environment : ResumeEnvironment) (slot : ContextSlot)
      (native : NativeContext) (present : engine.contexts.lookup id = some slot)
      (absent : slot.resident = false) (room : ¬engine.Full) :
      Effect engine (.resume id environment)
        { engine.withSlot id
            { slot with context := some native, cancelRequested := false } with
          admission := engine.granted id engine.config.contextReservationBytes }
        true
  | cancelled (id : ContextId) (slot : ContextSlot)
      (present : engine.contexts.lookup id = some slot) :
      Effect engine (.requestCancel id)
        (engine.withSlot id { slot with cancelRequested := true }) true
  | produced (id : ContextId) (slot : ContextSlot)
      (present : engine.contexts.lookup id = some slot) :
      Effect engine (.produce id) (engine.withSlot id slot.produce) true

section Calls

variable (engine : ModelEngine)

/-- The two answers of `try_reserve`. -/
theorem tryReserve_granted (id : AgentId) (bytes : UInt64) (memory : MemorySnapshot)
    (order : IterationOrder AgentId) :
    engine.admission.tryReserve id bytes memory order = (engine.granted id bytes, .accepted) ∨
      (engine.admission.tryReserve id bytes memory order).2.ok = false ∧
        (engine.admission.tryReserve id bytes memory order).1 = engine.admission := by
  rcases engine.admission.tryReserve_cases id bytes memory order with
    ⟨_, result⟩ | ⟨_, answer, same⟩
  · exact Or.inl result
  · exact Or.inr ⟨answer, same⟩

theorem initializeEngine_effect (environment : InitializeEnvironment) :
    Effect engine (.initializeEngine environment) (engine.initializeEngine environment).1
      (engine.initializeEngine environment).2.ok := by
  unfold initializeEngine
  split
  · exact .ready environment
  · rename_i model
    have without : engine.model = false := Bool.eq_false_iff.mpr model
    split
    · exact .refused _
    · split
      · exact .refused _
      · rename_i modelFileSize _
        dsimp only
        split
        · exact .refused _
        · rename_i memory _
          generalize (if engine.config.modelReservationBytes = 0 then modelFileSize
            else engine.config.modelReservationBytes) = bytes
          rcases engine.tryReserve_granted kModelReservationId bytes memory
            environment.order with result | ⟨answer, same⟩
          · rw [result]
            cases environment.loaded with
            | false => exact .unloaded environment bytes without
            | true => exact .loaded environment bytes without
          · rw [same, if_pos (by rw [answer]; rfl)]
            change Effect engine _ engine (engine.admission.tryReserve _ _ _ _).2.ok
            rw [answer]
            exact .refused _

theorem acquire_effect (owner : AgentId) (environment : AcquireEnvironment) :
    Effect engine (.acquire owner environment) (engine.acquire owner environment).1
      (engine.acquire owner environment).2.isOk := by
  unfold acquire
  cases model : engine.model with
  | false => exact .refused _
  | true =>
      rw [if_neg (show ¬(!true) = true from Bool.false_ne_true)]
      split
      · rename_i id slot chosen
        exact .reused owner environment id slot model chosen
      · rename_i nobody
        split
        · exact .refused _
        · rename_i room
          split
          · exact .refused _
          · rename_i memory _
            unfold create
            dsimp only
            rcases engine.tryReserve_granted engine.nextContextId
              engine.config.contextReservationBytes memory environment.order with
              result | ⟨answer, same⟩
            · rw [result]
              cases success : environment.created with
              | false => exact .uncreated owner environment model nobody
              | true => exact .created owner environment model nobody room
            · rw [answer, same]
              exact .unreserved owner environment model nobody

/-- The context that `acquire` names: the first free one, or a new one. -/
theorem acquire_ok {owner : AgentId} {environment : AcquireEnvironment} {id : ContextId}
    (given : (engine.acquire owner environment).2 = .ok id) :
    (∃ slot, engine.freeContext environment.scan = some (id, slot) ∧
        (engine.acquire owner environment).1 = engine.withSlot id
          { slot with owner := owner, cancelRequested := false, lessee := owner }) ∨
      id = engine.nextContextId ∧
        (engine.acquire owner environment).1.contexts =
          engine.contexts.emplace id (engine.created owner) := by
  unfold acquire at given ⊢
  split at given
  · cases given
  · rename_i model
    rw [if_neg model]
    cases chosen : engine.freeContext environment.scan with
    | some found =>
        rw [chosen] at given
        cases given
        exact Or.inl ⟨found.2, rfl, rfl⟩
    | none =>
        apply Or.inr
        rw [chosen] at given
        dsimp only at given ⊢
        split at given
        · cases given
        · rename_i room
          rw [if_neg room]
          cases sample : environment.sample with
          | error error =>
              rw [sample] at given
              cases given
          | ok memory =>
              rw [sample] at given
              unfold create at given ⊢
              dsimp only at given ⊢
              rcases engine.tryReserve_granted engine.nextContextId
                engine.config.contextReservationBytes memory environment.order with
                result | ⟨answer, _⟩
              · rw [result] at given ⊢
                cases success : environment.created with
                | false =>
                    rw [success] at given
                    cases given
                | true =>
                    rw [success] at given
                    cases given
                    exact ⟨rfl, rfl⟩
              · rw [if_pos (by rw [answer]; rfl)] at given
                cases given

theorem release_effect (id : ContextId) :
    Effect engine (.release id) (engine.release id).1 (engine.release id).2.ok := by
  unfold release
  split
  · exact .refused _
  · rename_i slot present
    exact .released id slot present

theorem suspend_effect (id : ContextId) (snapshotPath : StdString)
    (environment : SuspendEnvironment) :
    Effect engine (.suspend id snapshotPath environment)
      (engine.suspend id snapshotPath environment).1
      (engine.suspend id snapshotPath environment).2.ok := by
  unfold suspend
  split
  · exact .refused _
  · rename_i slot present
    split
    · exact .refused _
    · rename_i native here
      split
      · exact .refused _
      · dsimp only
        split
        · exact .unwritten id snapshotPath environment _
        · have resident : slot.resident = true := by
            unfold ContextSlot.resident
            rw [here]
            rfl
          exact .suspended id snapshotPath environment slot _ present resident

theorem resume_effect (id : ContextId) (environment : ResumeEnvironment) :
    Effect engine (.resume id environment) (engine.resume id environment).1
      (engine.resume id environment).2.ok := by
  unfold resume
  split
  · exact .refused _
  · rename_i slot present
    split
    · exact .refused _
    · rename_i suspended
      have absent : slot.resident = false := by
        cases resident : slot.resident with
        | false => rfl
        | true =>
            rw [resident] at suspended
            exact absurd rfl suspended
      split
      · exact .refused _
      · rename_i room
        split
        · exact .refused _
        · rename_i memory _
          dsimp only
          rcases engine.tryReserve_granted id engine.config.contextReservationBytes memory
            environment.order with result | ⟨answer, same⟩
          · rw [result]
            change Effect engine _ (engine.restore id slot _ environment).1 _
            unfold restore
            split
            · exact .unrestored id environment slot present absent
            · split
              · exact .unrestored id environment slot present absent
              · exact .restored id environment slot _ present absent room
          · rw [same, if_pos (by rw [answer]; rfl)]
            change Effect engine _ engine (engine.admission.tryReserve _ _ _ _).2.ok
            rw [answer]
            exact .refused _

theorem requestCancel_effect (id : ContextId) :
    Effect engine (.requestCancel id) (engine.requestCancel id).1
      (engine.requestCancel id).2.ok := by
  unfold requestCancel
  split
  · exact .refused _
  · rename_i slot present
    exact .cancelled id slot present

theorem produce_effect (id : ContextId) :
    Effect engine (.produce id) (engine.produce id).1 (engine.produce id).2.ok := by
  unfold produce
  split
  · exact .refused _
  · rename_i slot present
    exact .produced id slot present

theorem perform_effect (operation : Operation) :
    Effect engine operation (engine.perform operation).1 (engine.perform operation).2 := by
  cases operation with
  | initializeEngine environment => exact engine.initializeEngine_effect environment
  | acquire owner environment => exact engine.acquire_effect owner environment
  | release id => exact engine.release_effect id
  | suspend id snapshotPath environment =>
      exact engine.suspend_effect id snapshotPath environment
  | resume id environment => exact engine.resume_effect id environment
  | requestCancel id => exact engine.requestCancel_effect id
  | produce id => exact engine.produce_effect id

end Calls

end ModelEngine

end AgentNucleus.Runtime
