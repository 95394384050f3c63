/-
The reservations of `ModelEngine` mirror its resident contexts, until
`next_context_id_` has gone through all its values and an id is taken twice.
-/

import AgentNucleus.Runtime.ModelEngineSteps

set_option autoImplicit false

namespace AgentNucleus.Runtime

open Library

namespace ModelEngine

/-- The slot behind the id has a native context. -/
def residentAt (engine : ModelEngine) (id : ContextId) : Bool :=
  (engine.contexts.lookup id).any ContextSlot.resident

/-- One reservation for each resident context, and no other. -/
def Mirrors (engine : ModelEngine) : Prop :=
  ∀ id : AgentId, engine.admission.reservations.lookup id =
    if engine.residentAt id then some engine.config.contextReservationBytes else none

section Changes

variable {engine next : ModelEngine} {id : ContextId} {slot old : ContextSlot}

theorem residentAt_of_lookup (present : engine.contexts.lookup id = some slot) :
    engine.residentAt id = slot.resident := by
  unfold residentAt
  rw [present]
  rfl

theorem residentAt_withSlot (engine : ModelEngine) (id other : ContextId) (slot : ContextSlot) :
    (engine.withSlot id slot).residentAt other =
      if other = id then slot.resident else engine.residentAt other := by
  unfold residentAt
  rw [withSlot_contexts, UnorderedMap.lookup_insert_if]
  by_cases same : other = id
  · rw [if_pos same, if_pos same]
    rfl
  · rw [if_neg same, if_neg same]

/-- A slot that stays resident, or stays without a context, changes nothing. -/
theorem residentAt_replaced (present : engine.contexts.lookup id = some old)
    (same : slot.resident = old.resident) (other : ContextId) :
    (engine.withSlot id slot).residentAt other = engine.residentAt other := by
  rw [residentAt_withSlot]
  by_cases own : other = id
  · rw [if_pos own, own, same, residentAt_of_lookup present]
  · rw [if_neg own]

theorem residentCount_replaced (present : engine.contexts.lookup id = some old)
    (same : slot.resident = old.resident) :
    (engine.withSlot id slot).residentCount = engine.residentCount := by
  have moved := residentCount_withSlot slot present
  rw [same] at moved
  omega

theorem lookup_release (admission : MemoryAdmissionController) (id other : AgentId) :
    (admission.release id).reservations.lookup other =
      if other = id then none else admission.reservations.lookup other := by
  unfold MemoryAdmissionController.release
  by_cases same : other = id
  · rw [if_pos same, same]
    exact AList.lookup_erase id admission.reservations
  · rw [if_neg same]
    exact AList.lookup_erase_ne same

theorem lookup_granted (engine : ModelEngine) (id other : AgentId) (bytes : UInt64) :
    (engine.granted id bytes).reservations.lookup other =
      if other = id then some bytes else engine.admission.reservations.lookup other :=
  UnorderedMap.lookup_insert_if engine.admission.reservations id other bytes

/-- Reservations and contexts change behind one id only, and agree there. -/
theorem Mirrors.change (mirrors : engine.Mirrors) (id : ContextId)
    (config : next.config = engine.config)
    (reservations : ∀ other, other ≠ id →
      next.admission.reservations.lookup other = engine.admission.reservations.lookup other)
    (contexts : ∀ other, other ≠ id → next.residentAt other = engine.residentAt other)
    (here : next.admission.reservations.lookup id =
      if next.residentAt id then some next.config.contextReservationBytes else none) :
    next.Mirrors := by
  intro other
  by_cases same : other = id
  · rw [same]
    exact here
  · rw [reservations other same, contexts other same, config]
    exact mirrors other

/-- A reservation that is taken back at once. -/
theorem Mirrors.undone (mirrors : engine.Mirrors) {bytes : UInt64}
    (free : engine.residentAt id = false) (config : next.config = engine.config)
    (admission : next.admission = (engine.granted id bytes).release id)
    (contexts : ∀ other, next.residentAt other = engine.residentAt other) : next.Mirrors := by
  apply mirrors.change id config
  · intro other different
    rw [admission, lookup_release, if_neg different, lookup_granted, if_neg different]
  · intro other _
    exact contexts other
  · rw [admission, lookup_release, if_pos rfl, contexts, free]
    rfl

end Changes

/-! ### The invariant -/

structure Accounted (config : ModelEngineConfig) (engine : ModelEngine) : Prop where
  fixed : engine.config = config
  limit : engine.residentCount ≤ config.maxContexts.toNat
  empty : engine.model = false → engine.contexts = ∅
  next : engine.nextContextId.toNat = (engine.drawn + 1) % 2 ^ 64
  ids : ∀ id slot, engine.contexts.lookup id = some slot →
    ∃ earlier, earlier < engine.drawn ∧ id.toNat = (earlier + 1) % 2 ^ 64
  mirrors : engine.drawn ≤ 2 ^ 64 → engine.Mirrors

section Steps

variable {config : ModelEngineConfig} {engine next : ModelEngine}

/-- A new id is unused until the numbers repeat. -/
theorem Accounted.fresh (accounted : Accounted config engine) (few : engine.drawn < 2 ^ 64) :
    engine.contexts.lookup engine.nextContextId = none := by
  cases found : engine.contexts.lookup engine.nextContextId with
  | none => rfl
  | some slot =>
      obtain ⟨earlier, below, same⟩ := accounted.ids _ slot found
      have next := accounted.next
      omega

theorem Accounted.room (accounted : Accounted config engine) (room : ¬engine.Full) :
    engine.residentCount < config.maxContexts.toNat := by
  unfold Full residentContexts at room
  rw [ge_iff_le, UInt64.le_iff_toNat_le, UInt64.toNat_ofNat', accounted.fixed] at room
  have limit := accounted.limit
  have bound := config.maxContexts.toNat_lt
  rw [Nat.mod_eq_of_lt (by omega)] at room
  omega

theorem accounted_start (config : ModelEngineConfig) : Accounted config (start config) where
  fixed := rfl
  limit := Nat.zero_le _
  empty := fun _ => rfl
  next := rfl
  ids := by
    intro id slot present
    cases present
  mirrors := by
    intro _ id
    rfl

/-- Neither slots nor reservations nor ids are touched. -/
theorem Accounted.quiet (accounted : Accounted config engine)
    (fixed : next.config = engine.config) (contexts : next.contexts = engine.contexts)
    (empty : next.model = false → engine.model = false)
    (ids : next.nextContextId = engine.nextContextId) (drawn : next.drawn = engine.drawn)
    (mirrors : engine.Mirrors → next.Mirrors) : Accounted config next where
  fixed := fixed.trans accounted.fixed
  limit := by
    unfold residentCount
    rw [contexts]
    exact accounted.limit
  empty := by
    intro without
    rw [contexts]
    exact accounted.empty (empty without)
  next := by
    rw [ids, drawn]
    exact accounted.next
  ids := by
    intro id slot present
    rw [contexts] at present
    rw [drawn]
    exact accounted.ids id slot present
  mirrors := by
    intro few
    rw [drawn] at few
    exact mirrors (accounted.mirrors few)

/-- A stored slot is replaced; the reservations follow its residency. -/
theorem Accounted.replace (accounted : Accounted config engine) {id : ContextId}
    {old slot : ContextSlot} {files : UnorderedMap StdString SnapshotFile}
    {admission : MemoryAdmissionController}
    (present : engine.contexts.lookup id = some old)
    (limit : (engine.withSlot id slot).residentCount ≤ config.maxContexts.toNat)
    (mirrors : engine.Mirrors →
      ({ engine.withSlot id slot with files := files, admission := admission } :
        ModelEngine).Mirrors) :
    Accounted config
      { engine.withSlot id slot with files := files, admission := admission } where
  fixed := accounted.fixed
  limit := limit
  empty := by
    intro without
    have nothing := accounted.empty without
    rw [nothing] at present
    cases present
  next := accounted.next
  ids := by
    intro other found there
    change (engine.contexts.insert id slot).lookup other = some found at there
    rw [UnorderedMap.lookup_insert_if] at there
    by_cases same : other = id
    · rw [same]
      exact accounted.ids id old present
    · rw [if_neg same] at there
      exact accounted.ids other found there
  mirrors := fun few => mirrors (accounted.mirrors few)

/-- A slot that keeps its residency. -/
theorem Accounted.relabel (accounted : Accounted config engine) {id : ContextId}
    {old slot : ContextSlot} (present : engine.contexts.lookup id = some old)
    (same : slot.resident = old.resident) : Accounted config (engine.withSlot id slot) := by
  apply accounted.replace present
  · rw [residentCount_replaced present same]
    exact accounted.limit
  · intro mirrors other
    change _ = if (engine.withSlot id slot).residentAt other then _ else none
    rw [residentAt_replaced present same]
    exact mirrors other

theorem Accounted.draw_next (accounted : Accounted config engine) :
    engine.draw.nextContextId.toNat = (engine.draw.drawn + 1) % 2 ^ 64 := by
  have next := accounted.next
  change (engine.nextContextId + 1).toNat = (engine.drawn + 1 + 1) % 2 ^ 64
  rw [UInt64.toNat_add, next]
  change ((engine.drawn + 1) % 2 ^ 64 + 1) % 2 ^ 64 = _
  omega

/-- An id is taken and no slot is added. -/
theorem Accounted.drawn (accounted : Accounted config engine)
    {admission : MemoryAdmissionController} (model : engine.model = true)
    (mirrors : engine.drawn < 2 ^ 64 → engine.Mirrors →
      ({ engine.draw with admission := admission } : ModelEngine).Mirrors) :
    Accounted config { engine.draw with admission := admission } where
  fixed := accounted.fixed
  limit := accounted.limit
  empty := by
    intro without
    exact absurd (model.symm.trans without) (by decide)
  next := accounted.draw_next
  ids := by
    intro id slot present
    obtain ⟨earlier, below, same⟩ := accounted.ids id slot present
    exact ⟨earlier, Nat.lt_succ_of_lt below, same⟩
  mirrors := by
    intro few
    change engine.drawn + 1 ≤ 2 ^ 64 at few
    exact mirrors (by omega) (accounted.mirrors (by omega))

theorem residentCount_created (engine : ModelEngine) (owner : AgentId) :
    UnorderedMap.total (fun _ slot => slot.resident.toNat)
        (engine.contexts.emplace engine.nextContextId (engine.created owner)) ≤
      engine.residentCount + 1 := by
  cases found : engine.contexts.lookup engine.nextContextId with
  | none =>
      rw [UnorderedMap.emplace_fresh _ _ _ found,
        UnorderedMap.total_insert_fresh _ _ _ _ found]
      exact Nat.le_of_eq (Nat.add_comm _ _)
  | some slot =>
      rw [UnorderedMap.emplace_present _ _ _ slot found]
      exact Nat.le_succ _

theorem Accounted.created (accounted : Accounted config engine) (owner : AgentId)
    (model : engine.model = true) (room : ¬engine.Full) :
    Accounted config
      { engine.draw with
        admission := engine.granted engine.nextContextId engine.config.contextReservationBytes
        contexts := engine.contexts.emplace engine.nextContextId (engine.created owner) } where
  fixed := accounted.fixed
  limit := by
    have added := engine.residentCount_created owner
    have below := accounted.room room
    exact Nat.le_trans added below
  empty := by
    intro without
    exact absurd (model.symm.trans without) (by decide)
  next := accounted.draw_next
  ids := by
    intro id slot present
    have member := (UnorderedMap.mem_emplace _ _ id _).mp
      ((UnorderedMap.mem_iff_lookup _ id).mpr ⟨slot, present⟩)
    rcases member with new | old
    · exact ⟨engine.drawn, Nat.lt_succ_self _, by rw [new]; exact accounted.next⟩
    · obtain ⟨held, before⟩ := (UnorderedMap.mem_iff_lookup _ id).mp old
      obtain ⟨earlier, below, same⟩ := accounted.ids id held before
      exact ⟨earlier, Nat.lt_succ_of_lt below, same⟩
  mirrors := by
    intro few
    change engine.drawn + 1 ≤ 2 ^ 64 at few
    have fresh := accounted.fresh (by omega)
    have mirrors := accounted.mirrors (by omega)
    have contexts : ∀ other,
        (engine.contexts.emplace engine.nextContextId (engine.created owner)).lookup other =
          if other = engine.nextContextId then some (engine.created owner)
          else engine.contexts.lookup other :=
      fun other => UnorderedMap.lookup_emplace_fresh _ _ other _ fresh
    apply mirrors.change engine.nextContextId
    · rfl
    · intro other different
      exact (engine.lookup_granted _ other _).trans (if_neg different)
    · intro other different
      unfold residentAt
      dsimp only
      rw [contexts, if_neg different]
    · unfold residentAt
      dsimp only
      rw [contexts, if_pos rfl, lookup_granted, if_pos rfl]
      rfl

/-- What a call does keeps the account. -/
theorem Accounted.effect (accounted : Accounted config engine) {operation : Operation}
    {success : Bool} (effect : Effect engine operation next success) :
    Accounted config next := by
  cases effect with
  | refused operation => exact accounted
  | ready environment => exact accounted
  | loaded environment bytes without =>
      refine accounted.quiet rfl rfl nofun rfl rfl ?_
      intro mirrors
      have nothing : engine.residentAt kModelReservationId = false := by
        unfold residentAt
        rw [accounted.empty without]
        rfl
      exact mirrors.undone nothing rfl rfl fun _ => rfl
  | unloaded environment bytes without =>
      refine accounted.quiet rfl rfl (fun same => same) rfl rfl ?_
      intro mirrors
      have nothing : engine.residentAt kModelReservationId = false := by
        unfold residentAt
        rw [accounted.empty without]
        rfl
      exact mirrors.undone nothing rfl rfl fun _ => rfl
  | reused owner environment id slot model chosen =>
      exact accounted.relabel (freeContext_some chosen).1 rfl
  | unreserved owner environment model nobody =>
      exact accounted.drawn model fun _ mirrors => mirrors
  | uncreated owner environment model nobody =>
      apply accounted.drawn model
      intro few mirrors
      have free : engine.residentAt engine.nextContextId = false := by
        unfold residentAt
        rw [accounted.fresh few]
        rfl
      exact mirrors.undone free rfl rfl fun _ => rfl
  | created owner environment model nobody room => exact accounted.created owner model room
  | released id slot present => exact accounted.relabel present rfl
  | unwritten id snapshotPath environment files =>
      exact accounted.quiet rfl rfl (fun same => same) rfl rfl fun mirrors => mirrors
  | suspended id snapshotPath environment slot files present resident =>
      apply accounted.replace present
      · have count := residentCount_withSlot
          { slot with
            context := none
            owner := kInvalidAgentId
            snapshotPath := snapshotPath } present
        have limit := accounted.limit
        change _ = engine.residentCount + 0 at count
        omega
      · intro mirrors
        apply mirrors.change id
        · rfl
        · intro other different
          exact (lookup_release _ id other).trans (if_neg different)
        · intro other different
          exact (engine.residentAt_withSlot id other _).trans (if_neg different)
        · rw [lookup_release, if_pos rfl]
          change none = if (engine.withSlot id _).residentAt id then _ else none
          rw [residentAt_withSlot, if_pos rfl]
          rfl
  | unrestored id environment slot present absent =>
      have same : ContextSlot.resident { slot with context := none } = slot.resident :=
        absent.symm
      apply accounted.replace present
      · rw [residentCount_replaced present same]
        exact accounted.limit
      · intro mirrors
        refine mirrors.undone ((residentAt_of_lookup present).trans absent) rfl rfl ?_
        intro other
        exact residentAt_replaced present same other
  | restored id environment slot native present absent room =>
      apply accounted.replace present
      · have count := residentCount_withSlot
          { slot with context := some native, cancelRequested := false } present
        have below := accounted.room room
        rw [absent] at count
        change _ + 0 = engine.residentCount + 1 at count
        omega
      · intro mirrors
        apply mirrors.change id
        · rfl
        · intro other different
          exact (engine.lookup_granted id other _).trans (if_neg different)
        · intro other different
          exact (engine.residentAt_withSlot id other _).trans (if_neg different)
        · rw [lookup_granted, if_pos rfl]
          change _ = if (engine.withSlot id _).residentAt id then _ else none
          rw [residentAt_withSlot, if_pos rfl]
          rfl
  | cancelled id slot present => exact accounted.relabel present rfl
  | produced id slot present => exact accounted.relabel present slot.resident_produce

theorem accounted_run (config : ModelEngineConfig) (operations : List Operation) :
    Accounted config ((machine config).run operations) := by
  apply (machine config).runFrom_invariant (Accounted config)
  · intro engine operation accounted
    exact accounted.effect (engine.perform_effect operation)
  · exact accounted_start config

/-- A call that fails leaves every slot as it was. -/
theorem Effect.failed {operation : Operation} (effect : Effect engine operation next false)
    (id : ContextId) : next.contexts.lookup id = engine.contexts.lookup id := by
  cases effect with
  | unrestored key environment slot present absent =>
      have same : ({ slot with context := none } : ContextSlot) = slot := by
        have nothing : slot.context = none :=
          Option.isNone_iff_eq_none.mp (Option.isSome_eq_false_iff.mp absent)
        rw [← nothing]
      change (engine.contexts.insert key _).lookup id = _
      rw [same, UnorderedMap.lookup_insert_if]
      by_cases own : id = key
      · rw [if_pos own, own, present]
      · rw [if_neg own]
  | _ => rfl

end Steps

/-- The reservations are those of the resident contexts as long as no id has been
taken twice; the limit and the frame of a failed call hold in every run. -/
theorem reservations_mirror_contexts (config : ModelEngineConfig) (operations : List Operation) :
    ((machine config).run operations).residentCount ≤ config.maxContexts.toNat ∧
      (((machine config).run operations).drawn ≤ 2 ^ 64 →
        ∀ id : AgentId, ((machine config).run operations).admission.reservations.lookup id =
          if ((machine config).run operations).residentAt id then
            some config.contextReservationBytes
          else none) ∧
      ∀ operation : Operation,
        (((machine config).run operations).perform operation).2 = false → ∀ id : ContextId,
        (((machine config).run operations).perform operation).1.contexts.lookup id =
          ((machine config).run operations).contexts.lookup id := by
  have accounted := accounted_run config operations
  refine ⟨accounted.limit, ?_, ?_⟩
  · intro few id
    have mirror := accounted.mirrors few id
    rw [accounted.fixed] at mirror
    exact mirror
  · intro operation failed id
    have effect := ((machine config).run operations).perform_effect operation
    rw [failed] at effect
    exact effect.failed id

/-! ### An id taken twice -/

def smallConfig : ModelEngineConfig where
  modelPath := text "model.gguf"
  contextReservationBytes := 10
  safetyMarginBytes := 0

def enough : MemorySnapshot := { availableBytes := 100 }

/-- The model is loaded and one agent gets a context. -/
def oneContext : List Operation :=
  [.initializeEngine { fileSize := some 50, sample := .ok enough },
    .acquire 7 { sample := .ok enough }]

/-- A call that is refused by admission takes an id. -/
def refusedAcquire : Operation :=
  .acquire 8 { sample := .ok {} }

/-- llama.cpp cannot create the context. -/
def failingAcquire : Operation :=
  .acquire 8 { sample := .ok enough, created := false }

theorem reservations_of_one_context :
    ∀ id : AgentId, ((machine smallConfig).run oneContext).admission.reservations.lookup id =
      if ((machine smallConfig).run oneContext).residentAt id then some 10 else none :=
  (reservations_mirror_contexts smallConfig oneContext).2.1 (by decide +kernel)

/-- Every further call goes as far as the reservation. -/
structure Drawing (engine : ModelEngine) : Prop where
  model : engine.model = true
  nobody : engine.freeContext .asStored = none
  room : ¬engine.Full
  positive : 0 < engine.config.contextReservationBytes

theorem Drawing.refused {engine : ModelEngine} (drawing : Drawing engine) :
    engine.step refusedAcquire = engine.draw := by
  have rejected : ∃ reason, engine.admission.tryReserve engine.nextContextId
      engine.config.contextReservationBytes {} .asStored =
        (engine.admission, .rejected reason) := by
    unfold MemoryAdmissionController.tryReserve MemoryAdmissionController.grant
    have nothing : engine.admission.allocatable engine.nextContextId {} .asStored = 0 := by
      unfold MemoryAdmissionController.allocatable MemoryAdmissionController.protectedBytes
      dsimp only
      rw [if_pos (Or.inl (UInt64.le_iff_toNat_le.mpr (Nat.zero_le _)))]
      rfl
    rw [nothing, if_pos drawing.positive]
    exact ⟨_, rfl⟩
  obtain ⟨reason, rejected⟩ := rejected
  change (engine.acquire 8 { sample := .ok {} }).1 = _
  unfold acquire
  rw [drawing.model, if_neg (show ¬(!true) = true from Bool.false_ne_true)]
  dsimp only
  rw [drawing.nobody]
  dsimp only
  rw [if_neg (show ¬engine.residentContexts ≥ engine.config.maxContexts from drawing.room)]
  unfold create
  dsimp only
  rw [rejected]
  rfl

theorem Drawing.draw {engine : ModelEngine} (drawing : Drawing engine) : Drawing engine.draw where
  model := drawing.model
  nobody := drawing.nobody
  room := drawing.room
  positive := drawing.positive

/-- The engine after `count` ids have been taken. -/
def waited (engine : ModelEngine) (count : Nat) : ModelEngine :=
  { engine with
    nextContextId := engine.nextContextId + UInt64.ofNat count
    drawn := engine.drawn + count }

theorem waited_draw (engine : ModelEngine) (count : Nat) :
    engine.draw.waited count = engine.waited (count + 1) := by
  unfold waited draw
  congr 1
  · change engine.nextContextId + 1 + UInt64.ofNat count = _
    rw [UInt64.add_assoc, UInt64.ofNat_add, UInt64.add_comm 1]
    rfl
  · change engine.drawn + 1 + count = _
    omega

/-- The engine after `count` refused calls. -/
theorem Drawing.run {engine : ModelEngine} (drawing : Drawing engine)
    (config : ModelEngineConfig) (count : Nat) :
    (machine config).runFrom engine (List.replicate count refusedAcquire) =
      engine.waited count := by
  induction count generalizing engine with
  | zero =>
      have same : engine.nextContextId + UInt64.ofNat 0 = engine.nextContextId :=
        UInt64.add_zero _
      unfold waited
      rw [same]
      rfl
  | succ count ih =>
      rw [List.replicate_succ, Machine.runFrom_cons]
      change (machine config).runFrom (engine.step refusedAcquire) _ = _
      rw [drawing.refused, ih drawing.draw, waited_draw]

theorem drawing_oneContext : Drawing ((machine smallConfig).run oneContext) where
  model := by decide +kernel
  nobody := by decide +kernel
  room := by
    unfold Full
    decide +kernel
  positive := by decide +kernel

/-- `count` ids are used up, and then llama.cpp cannot create the next context. -/
def afterIds (count : Nat) : List Operation :=
  oneContext ++ List.replicate count refusedAcquire ++ [failingAcquire]

theorem run_afterIds (count : Nat) :
    (machine smallConfig).run (afterIds count) =
      (((machine smallConfig).run oneContext).waited count).step failingAcquire := by
  unfold afterIds
  rw [Machine.run_snoc]
  unfold Machine.run
  rw [Machine.runFrom_append]
  change ((machine smallConfig).runFrom ((machine smallConfig).run oneContext) _).step _ = _
  rw [drawing_oneContext.run]
  rfl

/-- With all other ids used up the first one is taken again, and the failure of
llama.cpp releases the reservation of the context that has it. -/
theorem unmirrored_after_wrap :
    ¬∀ (config : ModelEngineConfig) (operations : List Operation) (id : AgentId),
      ((machine config).run operations).admission.reservations.lookup id =
        if ((machine config).run operations).residentAt id then
          some config.contextReservationBytes
        else none := by
  intro mirrors
  have first := mirrors smallConfig (afterIds (2 ^ 64 - 1)) 1
  rw [run_afterIds] at first
  revert first
  decide +kernel

end ModelEngine

end AgentNucleus.Runtime
