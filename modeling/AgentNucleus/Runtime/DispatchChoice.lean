/-
Which agent a dispatch chooses, and what it leaves behind: the choice fits and has
the best score of all that fit, whatever the order in which `ready_` is traversed.
-/

import AgentNucleus.Runtime.RepresentationInvariants

set_option autoImplicit false

namespace AgentNucleus.Runtime

open Library

namespace AgentScheduler

/-- The request is within what is left of both resources, over the naturals. -/
structure FitsRemaining (scheduler : AgentScheduler) (resources : MemorySnapshot) (node : Node) :
    Prop where
  cpu : node.spec.resources.cpuThreads.toNat ≤
    resources.availableCpuThreads.toNat - scheduler.reservedCpuThreads.toNat
  memory : node.spec.resources.memoryBytes.toNat ≤
    resources.availableBytes.toNat - scheduler.reservedMemoryBytes.toNat

/-- A member of `ready_` that fits. -/
structure Fitting (scheduler : AgentScheduler) (resources : MemorySnapshot) (id : AgentId)
    (node : Node) : Prop where
  queued : id ∈ scheduler.ready
  found : scheduler.node? id = some node
  fits : scheduler.FitsRemaining resources node

/-- What the dispatch makes of one agent. -/
structure Sorted (before after : AgentScheduler) (resources : MemorySnapshot)
    (chosen : Option AgentId) (id : AgentId) (old : Node) : Prop where
  selected : chosen = some id →
    after.node? id = some { old.setState .dispatched with resourcesReserved := true }
  waiting : chosen ≠ some id → id ∈ before.ready → ¬before.FitsRemaining resources old →
    after.node? id = some (old.setState .waitingResource)
  ready : chosen ≠ some id → id ∈ before.ready → before.FitsRemaining resources old →
    after.node? id = some (old.setState .ready)
  untouched : id ∉ before.ready → after.node? id = some old

/-- A dispatch returns an agent of the best score among those that fit, or nothing if
none fits. -/
structure DispatchesBest (before after : AgentScheduler) (resources : MemorySnapshot)
    (now : TimePoint) (chosen : Option AgentId) : Prop where
  nothing : chosen = none ↔ ∀ id node, ¬before.Fitting resources id node
  best : ∀ id, chosen = some id → ∃ node, before.Fitting resources id node ∧
    (∀ other rival, before.Fitting resources other rival →
      dispatchScore now rival ≤ dispatchScore now node)
  agents : ∀ id old, before.node? id = some old → before.Sorted after resources chosen id old
  missing : ∀ id, before.node? id = none → after.node? id = none
  waitingExactly : ∀ id node, after.node? id = some node →
    (node.state = .waitingResource ↔ id ∈ before.ready ∧ ¬before.FitsRemaining resources node)
  queue : ∀ id, id ∈ after.ready ↔ id ∈ before.ready ∧ chosen ≠ some id

end AgentScheduler

private theorem le_allocatable_iff (amount available reserved : UInt64) :
    ¬amount > allocatable available reserved ↔
      amount.toNat ≤ available.toNat - reserved.toNat := by
  unfold allocatable
  rw [gt_iff_lt, UInt64.lt_iff_toNat_lt, Nat.not_lt]
  by_cases room : available > reserved
  · rw [if_pos room, UInt64.toNat_sub_of_le _ _ (UInt64.le_of_lt room)]
  · rw [if_neg room]
    rw [gt_iff_lt, UInt64.lt_iff_toNat_lt, Nat.not_lt] at room
    have zero : (0 : UInt64).toNat = 0 := rfl
    omega

theorem dispatchScore_relabel (now : TimePoint) (node : Node) (fitting : Bool) :
    dispatchScore now (node.relabel fitting) = dispatchScore now node := by
  unfold Node.relabel
  split
  · split
    · rfl
    · rfl
  · rfl

/-- A queued agent that fits is ready afterwards. -/
theorem Node.relabel_fitting {node : Node}
    (queued : node.state = .ready ∨ node.state = .waitingResource) :
    node.relabel true = node.setState .ready := by
  unfold Node.relabel
  rw [if_pos rfl]
  rcases queued with ready | parked
  · rw [if_neg (by rw [ready]; nofun)]
    unfold Node.setState
    rw [← ready]
    rfl
  · rw [if_pos parked]

namespace AgentScheduler

theorem fits_iff (scheduler : AgentScheduler) (resources : MemorySnapshot) (node : Node) :
    scheduler.fits resources node = true ↔ scheduler.FitsRemaining resources node := by
  unfold fits
  rw [Bool.not_eq_true', Bool.or_eq_false_iff, decide_eq_false_iff_not,
    decide_eq_false_iff_not, le_allocatable_iff, le_allocatable_iff]
  have cpu : node.spec.resources.cpuThreads.toUInt64.toNat =
      node.spec.resources.cpuThreads.toNat := UInt32.toNat_toUInt64 _
  have available : resources.availableCpuThreads.toUInt64.toNat =
      resources.availableCpuThreads.toNat := UInt32.toNat_toUInt64 _
  rw [cpu, available]
  exact ⟨fun both => ⟨both.1, both.2⟩, fun fits => ⟨fits.cpu, fits.memory⟩⟩

/-! ### The running maximum -/

/-- The locals of the loop, after the agents `seen`. -/
structure Leading (resources : MemorySnapshot) (now : TimePoint) (before : AgentScheduler)
    (seen : List AgentId) (selection : Selection) : Prop where
  nothing : selection.selected = kInvalidAgentId → ∀ id ∈ seen, ∀ node,
    before.node? id = some node → before.fits resources node = false
  best : selection.selected ≠ kInvalidAgentId → ∃ node, selection.selected ∈ seen ∧
    before.node? selection.selected = some node ∧ before.fits resources node = true ∧
    selection.bestScore = dispatchScore now node ∧
    ∀ id ∈ seen, ∀ rival, before.node? id = some rival → before.fits resources rival = true →
      dispatchScore now rival ≤ dispatchScore now node

section Loop

variable {resources : MemorySnapshot} {now : TimePoint} {before : AgentScheduler}

/-- A turn that keeps the selection, as the agent is no better. -/
private theorem Leading.keep {seen : List AgentId} {selection next : Selection} {id : AgentId}
    {node : Node} (leading : Leading resources now before seen selection)
    (found : before.node? id = some node)
    (worse : before.fits resources node = true → selection.selected ≠ kInvalidAgentId ∧
      dispatchScore now node ≤ selection.bestScore)
    (selected : next.selected = selection.selected)
    (score : next.bestScore = selection.bestScore) :
    Leading resources now before (seen ++ [id]) next := by
  constructor
  · intro nobody other member rival present
    rw [selected] at nobody
    rcases List.mem_append.mp member with earlier | last
    · exact leading.nothing nobody other earlier rival present
    · rw [List.mem_singleton.mp last, found, Option.some.injEq] at present
      rw [← present]
      apply Bool.eq_false_iff.mpr
      intro fitting
      exact (worse fitting).1 nobody
  · intro somebody
    rw [selected] at somebody
    obtain ⟨leader, member, present, fits, same, above⟩ := leading.best somebody
    rw [selected, score]
    refine ⟨leader, List.mem_append_left _ member, present, fits, same, ?_⟩
    intro other listed rival rivalFound rivalFits
    rcases List.mem_append.mp listed with earlier | last
    · exact above other earlier rival rivalFound rivalFits
    · rw [List.mem_singleton.mp last, found, Option.some.injEq] at rivalFound
      rw [← rivalFound, ← same]
      exact (worse (rivalFound ▸ rivalFits)).2

/-- A turn that takes the agent, as it is better or the first one that fits. -/
private theorem Leading.take {seen : List AgentId} {selection next : Selection} {id : AgentId}
    {node : Node} (leading : Leading resources now before seen selection) (named : id ≠ 0)
    (found : before.node? id = some node) (fits : before.fits resources node = true)
    (better : selection.selected = kInvalidAgentId ∨
      selection.bestScore < dispatchScore now node)
    (selected : next.selected = id) (score : next.bestScore = dispatchScore now node) :
    Leading resources now before (seen ++ [id]) next := by
  constructor
  · intro nobody
    rw [selected] at nobody
    exact absurd nobody named
  · intro _
    rw [selected, score]
    refine ⟨node, List.mem_append_right _ (List.mem_singleton.mpr rfl), found, fits, rfl, ?_⟩
    intro other listed rival present rivalFits
    rcases List.mem_append.mp listed with earlier | last
    · by_cases nobody : selection.selected = kInvalidAgentId
      · have unfit := leading.nothing nobody other earlier rival present
        rw [rivalFits] at unfit
        cases unfit
      · obtain ⟨leader, _, _, _, same, above⟩ := leading.best nobody
        have below := above other earlier rival present rivalFits
        have beaten := better.resolve_left nobody
        omega
    · rw [List.mem_singleton.mp last, found, Option.some.injEq] at present
      rw [present]

/-- One turn of the loop, for an agent that has not been looked at before. -/
private theorem Leading.turn {seen : List AgentId} {selection : Selection} {id : AgentId}
    {node : Node} (leading : Leading resources now before seen selection) (named : id ≠ 0)
    (found : before.node? id = some node)
    (current : selection.scheduler.node? id = some node)
    (same : selection.scheduler.fits resources node = before.fits resources node) :
    Leading resources now before (seen ++ [id])
      (considerReady resources now selection id) := by
  have label : (if node.state = .waitingResource then node.setState .ready else node) =
      node.relabel true := rfl
  unfold considerReady
  simp only [current, label, same, dispatchScore_relabel]
  cases fits : before.fits resources node with
  | false =>
      rw [if_neg Bool.false_ne_true]
      refine leading.keep found ?_ rfl rfl
      intro fitting
      rw [fits] at fitting
      cases fitting
  | true =>
      rw [if_pos rfl]
      by_cases better : selection.selected = kInvalidAgentId ∨
          dispatchScore now node > selection.bestScore
      · rw [if_pos better]
        exact leading.take named found fits better rfl rfl
      · rw [if_neg better]
        refine leading.keep found ?_ rfl rfl
        intro _
        obtain ⟨somebody, notAbove⟩ := not_or.mp better
        exact ⟨somebody, by omega⟩

theorem leading_all (ids : List AgentId) (distinct : ids.Nodup)
    (named : ∀ id ∈ ids, id ≠ 0) (stored : ∀ id ∈ ids, ∃ node, before.node? id = some node) :
    Leading resources now before ids
      (ids.foldl (considerReady resources now) { scheduler := before }) := by
  induction ids using List.reverseRecOn with
  | nil =>
      exact ⟨fun _ id member => absurd member List.not_mem_nil,
        fun chosen => absurd rfl chosen⟩
  | append_singleton earlier id ih =>
      obtain ⟨earlierDistinct, _, apart⟩ := List.nodup_append.mp distinct
      have fresh : id ∉ earlier := fun member =>
        apart id member id (List.mem_singleton.mpr rfl) rfl
      have leading := ih earlierDistinct
        (fun other member => named other (List.mem_append_left _ member))
        (fun other member => stored other (List.mem_append_left _ member))
      have last : id ∈ earlier ++ [id] := List.mem_append_right _ (List.mem_singleton.mpr rfl)
      obtain ⟨node, found⟩ := stored id last
      have loop := considered_all resources now earlier earlierDistinct { scheduler := before }
      have current := loop.node id
      rw [if_neg fresh] at current
      rw [List.foldl_append]
      exact leading.turn (named id last) found (current.trans found)
        (fits_congr resources node loop.cpu loop.memory)

end Loop

/-! ### The dispatch -/

section Dispatch

variable {scheduler : AgentScheduler}

theorem Sound.leading (sound : scheduler.Sound) (resources : MemorySnapshot) (now : TimePoint)
    (order : IterationOrder AgentId) :
    Leading resources now scheduler (order.visit scheduler.ready.keys)
      (scheduler.considerAll resources now order) := by
  have stored (id : AgentId) (member : id ∈ order.visit scheduler.ready.keys) :
      ∃ node, scheduler.node? id = some node := by
    rw [IterationOrder.mem_visit, ← AList.mem_keys] at member
    exact sound.stored id member
  apply leading_all _ (order.nodup_visit _ (AList.keys_nodup scheduler.ready)) _ stored
  intro id member
  obtain ⟨node, found⟩ := stored id member
  exact sound.graph.identified id node found

/-- What `dispatch_locked` returns is what the loop has selected. -/
theorem Sound.dispatched_eq (sound : scheduler.Sound) (resources : MemorySnapshot)
    (now : TimePoint) (order : IterationOrder AgentId) :
    (scheduler.dispatchLocked resources now order).2 =
      if (scheduler.considerAll resources now order).selected = kInvalidAgentId then none
      else some (scheduler.considerAll resources now order).selected := by
  have leading := sound.leading resources now order
  unfold dispatchLocked
  by_cases nobody : (scheduler.considerAll resources now order).selected = kInvalidAgentId
  · simp only [nobody, if_true]
  · obtain ⟨node, member, found, _⟩ := leading.best nobody
    have stored := node?_relabelled scheduler resources now order
      (scheduler.considerAll resources now order).selected
    rw [IterationOrder.mem_visit, ← AList.mem_keys] at member
    rw [if_pos member, found, Option.map_some] at stored
    unfold relabelled at stored
    simp only [nobody, if_false, stored]

private theorem fitting_iff (resources : MemorySnapshot) (order : IterationOrder AgentId)
    (id : AgentId) (node : Node) :
    scheduler.Fitting resources id node ↔
      id ∈ order.visit scheduler.ready.keys ∧ scheduler.node? id = some node ∧
        scheduler.fits resources node = true := by
  rw [IterationOrder.mem_visit, ← AList.mem_keys, fits_iff]
  exact ⟨fun fitting => ⟨fitting.queued, fitting.found, fitting.fits⟩,
    fun parts => ⟨parts.1, parts.2.1, parts.2.2⟩⟩

/-- The agents after the loop and the reservation. -/
private theorem Sound.sorted (sound : scheduler.Sound) (resources : MemorySnapshot)
    (now : TimePoint) (order : IterationOrder AgentId) (id : AgentId) (old : Node)
    (found : scheduler.node? id = some old) :
    scheduler.Sorted (scheduler.dispatchLocked resources now order).1 resources
      (scheduler.dispatchLocked resources now order).2 id old := by
  have state (queued : id ∈ scheduler.ready) :
      old.state = .ready ∨ old.state = .waitingResource :=
    (isQueued_iff old.state).mp ((sound.coherent id old found).queue.mp queued)
  have labelled := node?_relabelled scheduler resources now order id
  rw [found] at labelled
  have unselected (after : AgentScheduler)
      (same : after.node? id = (scheduler.relabelled resources now order).node? id)
      (chosen : Option AgentId) (other : chosen ≠ some id) :
      scheduler.Sorted after resources chosen id old := by
    refine ⟨fun selected => absurd selected other, ?_, ?_, ?_⟩
    · intro _ queued unfit
      have refused : scheduler.fits resources old = false := by
        rw [Bool.eq_false_iff, ne_eq, fits_iff]
        exact unfit
      rw [same, labelled, if_pos queued, Option.map_some, refused]
      rfl
    · intro _ queued fits
      rw [same, labelled, if_pos queued, Option.map_some,
        (scheduler.fits_iff resources old).mpr fits, Node.relabel_fitting (state queued)]
    · intro outside
      rw [same, labelled, if_neg outside]
  rcases dispatchLocked_cases scheduler resources now order with
    nothing | ⟨chosen, node, queued, present, fits, result⟩
  · rw [nothing]
    exact unselected _ rfl none nofun
  · rw [result]
    by_cases here : id = chosen
    · subst here
      rw [found, Option.some.injEq] at present
      subst present
      refine ⟨?_, fun other => absurd rfl other, fun other => absurd rfl other,
        fun outside => absurd queued outside⟩
      intro _
      rw [node?_reserve, if_pos rfl, Node.relabel_fitting (state queued)]
      rfl
    · apply unselected
      · rw [node?_reserve, if_neg here]
      · intro same
        exact here (Option.some.inj same).symm

private theorem Sound.queue (resources : MemorySnapshot) (now : TimePoint)
    (order : IterationOrder AgentId) (id : AgentId) :
    id ∈ (scheduler.dispatchLocked resources now order).1.ready ↔
      id ∈ scheduler.ready ∧ (scheduler.dispatchLocked resources now order).2 ≠ some id := by
  rcases dispatchLocked_cases scheduler resources now order with
    nothing | ⟨chosen, node, queued, _, _, result⟩
  · rw [nothing, relabelled_ready]
    exact ⟨fun member => ⟨member, nofun⟩, fun both => both.1⟩
  · rw [result, mem_ready_reserve, relabelled_ready]
    constructor
    · intro both
      exact ⟨both.2, fun same => both.1 (Option.some.inj same).symm⟩
    · intro both
      exact ⟨fun same => both.2 (by rw [same]), both.1⟩

private theorem dispatched_missing (resources : MemorySnapshot) (now : TimePoint)
    (order : IterationOrder AgentId) (id : AgentId) (missing : scheduler.node? id = none) :
    (scheduler.dispatchLocked resources now order).1.node? id = none := by
  have labelled := node?_relabelled scheduler resources now order id
  rw [missing, Option.map_none, ite_self] at labelled
  rcases dispatchLocked_cases scheduler resources now order with
    nothing | ⟨chosen, node, _, present, _, result⟩
  · rw [nothing]
    exact labelled
  · rw [result, node?_reserve, if_neg]
    · exact labelled
    · intro same
      rw [same, present] at missing
      cases missing

/-- `waiting_resource` is the label of those that were queued and do not fit. -/
private theorem Sorted.waiting_iff {after : AgentScheduler} {resources : MemorySnapshot}
    {chosen : Option AgentId} {id : AgentId} {old node : Node} (sound : scheduler.Sound)
    (found : scheduler.node? id = some old)
    (sorted : scheduler.Sorted after resources chosen id old)
    (fits : chosen = some id → scheduler.FitsRemaining resources old)
    (present : after.node? id = some node) :
    node.state = .waitingResource ↔
      id ∈ scheduler.ready ∧ ¬scheduler.FitsRemaining resources node := by
  by_cases selected : chosen = some id
  · have stored := (sorted.selected selected).symm.trans present
    rw [← Option.some.inj stored]
    constructor
    · intro state
      cases state
    · intro unfit
      have room := fits selected
      exact absurd ⟨room.cpu, room.memory⟩ unfit.2
  · by_cases queued : id ∈ scheduler.ready
    · by_cases room : scheduler.FitsRemaining resources old
      · have stored := (sorted.ready selected queued room).symm.trans present
        rw [← Option.some.inj stored]
        constructor
        · intro state
          cases state
        · intro unfit
          exact absurd ⟨room.cpu, room.memory⟩ unfit.2
      · have stored := (sorted.waiting selected queued room).symm.trans present
        rw [← Option.some.inj stored]
        constructor
        · intro _
          exact ⟨queued, fun fitting => room ⟨fitting.cpu, fitting.memory⟩⟩
        · intro _
          rfl
    · have stored := (sorted.untouched queued).symm.trans present
      rw [← Option.some.inj stored]
      constructor
      · intro state
        apply absurd _ queued
        apply (sound.coherent id old found).queue.mpr
        rw [state]
        rfl
      · intro both
        exact absurd both.1 queued

end Dispatch

/-- Every dispatch from a reachable state picks a best fitting agent, for every
sample, clock and order of traversal. -/
theorem dispatch_picks_best {scheduler : AgentScheduler} (reached : Reachable scheduler)
    (resources : MemorySnapshot) (now : TimePoint) (order : IterationOrder AgentId) :
    scheduler.DispatchesBest (scheduler.dispatchLocked resources now order).1 resources now
      (scheduler.dispatchLocked resources now order).2 := by
  have sound := reached.sound
  have leading := sound.leading resources now order
  have result := sound.dispatched_eq resources now order
  have best (id : AgentId)
      (chosen : (scheduler.dispatchLocked resources now order).2 = some id) :
      ∃ node, scheduler.Fitting resources id node ∧
        ∀ other rival, scheduler.Fitting resources other rival →
          dispatchScore now rival ≤ dispatchScore now node := by
    rw [result] at chosen
    by_cases nobody : (scheduler.considerAll resources now order).selected = kInvalidAgentId
    · rw [if_pos nobody] at chosen
      cases chosen
    · rw [if_neg nobody, Option.some.injEq] at chosen
      obtain ⟨node, member, found, fits, _, above⟩ := leading.best nobody
      rw [chosen] at member found
      refine ⟨node, (fitting_iff resources order id node).mpr ⟨member, found, fits⟩, ?_⟩
      intro other rival fitting
      obtain ⟨listed, present, rivalFits⟩ := (fitting_iff resources order other rival).mp fitting
      exact above other listed rival present rivalFits
  refine ⟨?_, best, sound.sorted resources now order,
    dispatched_missing resources now order, ?_, Sound.queue resources now order⟩
  · rw [result]
    by_cases nobody : (scheduler.considerAll resources now order).selected = kInvalidAgentId
    · rw [if_pos nobody]
      refine ⟨fun _ => ?_, fun _ => rfl⟩
      intro id node fitting
      obtain ⟨listed, present, fits⟩ := (fitting_iff resources order id node).mp fitting
      rw [leading.nothing nobody id listed node present] at fits
      cases fits
    · rw [if_neg nobody]
      obtain ⟨node, member, found, fits, _⟩ := leading.best nobody
      refine ⟨nofun, fun unfit => ?_⟩
      exact absurd ((fitting_iff resources order _ node).mpr ⟨member, found, fits⟩)
        (unfit _ node)
  · intro id node present
    cases found : scheduler.node? id with
    | none =>
        have missing := dispatched_missing resources now order id found
        exact absurd (missing.symm.trans present) nofun
    | some old =>
        refine (sound.sorted resources now order id old found).waiting_iff sound found ?_ present
        intro chosen
        obtain ⟨winner, fitting, _⟩ := best id chosen
        rw [fitting.found, Option.some.injEq] at found
        rw [← found]
        exact fitting.fits

/-- Three agents of different priorities, of which the most urgent one does not fit. -/
def threeRequests : List Operation :=
  [ .submitBatch
      [ { id := 1, priority := 5, resources := { memoryBytes := 900 } },
        { id := 2, priority := 1, resources := { memoryBytes := 400 } },
        { id := 3, priority := 2, resources := { memoryBytes := 400 } } ]
      0 IterationOrder.asStored ]

theorem threeRequests_best :
    ((machine.run threeRequests).dispatchLocked { availableBytes := 500 } 7
      IterationOrder.asStored).2 = some 3 ∧
    (machine.run threeRequests).DispatchesBest
      ((machine.run threeRequests).dispatchLocked { availableBytes := 500 } 7
        IterationOrder.asStored).1 { availableBytes := 500 } 7
      ((machine.run threeRequests).dispatchLocked { availableBytes := 500 } 7
        IterationOrder.asStored).2 :=
  ⟨by decide, dispatch_picks_best (machine.reachable_run threeRequests) _ _ _⟩

end AgentScheduler

end AgentNucleus.Runtime
