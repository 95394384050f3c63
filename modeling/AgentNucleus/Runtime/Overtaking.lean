/-
How long an agent can be passed over.  A dispatch weighs the priority against the time
since the submission, so that a waiting agent is only passed over by agents that were
submitted early enough, and by each of them only as often as it is dispatched at all.
-/

import AgentNucleus.Runtime.AttemptBounds
import AgentNucleus.Runtime.DispatchChoice

set_option autoImplicit false

namespace AgentNucleus.Runtime

open Library

/-- The rival was submitted before the agent, or so shortly after it that its priority
makes up for it: a million milliseconds for each level, and the truncation of both waits. -/
def Node.MayPass (node rival : Node) : Prop :=
  rival.snapshot.createdAt ≤
    node.snapshot.createdAt +
      ((rival.spec.priority.toInt - node.spec.priority.toInt) * 1000000 + 2) * 1000000

instance (node rival : Node) : Decidable (node.MayPass rival) :=
  inferInstanceAs (Decidable (_ ≤ _))

namespace AgentScheduler

/-- The agent is queued and fits, and another one is dispatched. -/
def passedBy (scheduler : AgentScheduler) (id : AgentId) (resources : MemorySnapshot)
    (chosen : Option AgentId) : Bool :=
  scheduler.ready.contains id && (scheduler.node? id).any (scheduler.fits resources) &&
    chosen.any fun other => other != id

def passesOver (id : AgentId) (scheduler : AgentScheduler) : Operation → Bool
  | .tryDispatch resources now order =>
      scheduler.passedBy id resources (scheduler.tryDispatch resources now order).2
  | .waitDispatch resources now order =>
      scheduler.passedBy id resources (scheduler.waitDispatch resources now order).2
  | _ => false

/-- The other agents that may be dispatched before the given one. -/
def rivals (scheduler : AgentScheduler) (id : AgentId) (node : Node) :
    List (Sigma fun _ : AgentId => Node) :=
  scheduler.nodes.entries.filter fun entry => entry.1 != id && decide (node.MayPass entry.2)

/-! ### Submission times do not change -/

def KeepsTimes (before after : AgentScheduler) : Prop :=
  ∀ id old, before.node? id = some old → ∃ new, after.node? id = some new ∧
    new.snapshot.createdAt = old.snapshot.createdAt

namespace KeepsTimes

variable {before middle after : AgentScheduler}

theorem refl (scheduler : AgentScheduler) : KeepsTimes scheduler scheduler :=
  fun _ old found => ⟨old, found, rfl⟩

theorem trans (first : KeepsTimes before middle) (second : KeepsTimes middle after) :
    KeepsTimes before after := by
  intro id old found
  obtain ⟨new, present, same⟩ := first id old found
  obtain ⟨newer, present', same'⟩ := second id new present
  exact ⟨newer, present', same'.trans same⟩

theorem of_same (same : ∀ id, after.node? id = before.node? id) : KeepsTimes before after :=
  fun id old found => ⟨old, (same id).trans found, rfl⟩

/-- One node is written back. -/
theorem store {id : AgentId} {node : Node} (scheduler : AgentScheduler)
    (same : ∀ other, scheduler.node? other = before.node? other)
    (found : before.node? id = some node) (new : Node)
    (kept : new.snapshot.createdAt = node.snapshot.createdAt) :
    KeepsTimes before (scheduler.store id new) := by
  intro other old present
  rw [node?_store]
  by_cases here : other = id
  · rw [if_pos here]
    rw [here, found] at present
    cases present
    exact ⟨new, rfl, kept⟩
  · rw [if_neg here, same]
    exact ⟨old, present, rfl⟩

theorem cancels (cancelled : before.Cancels after) : KeepsTimes before after := by
  intro id old found
  rcases cancelled id with ⟨same, _⟩ | ⟨node, new, present, _, after', ended, _⟩
  · exact ⟨old, same.trans found, rfl⟩
  · cases found.symm.trans present
    obtain ⟨_, _, rfl⟩ := ended
    exact ⟨_, after', rfl⟩

theorem resolveAll (scheduler : AgentScheduler) (ids : List AgentId) :
    KeepsTimes scheduler (ids.foldl resolveDependency scheduler) := by
  intro id old found
  refine ⟨old.resolve (ids.count id), ?_, rfl⟩
  rw [node?_resolveAll, found]
  rfl

end KeepsTimes

section Step

variable {scheduler : AgentScheduler}

theorem relabel_createdAt (node : Node) (fitting : Bool) :
    (node.relabel fitting).snapshot.createdAt = node.snapshot.createdAt := by
  unfold Node.relabel
  split
  · split <;> rfl
  · rfl

theorem release_createdAt (node : Node) :
    (scheduler.releaseResourcesLocked node).2.snapshot.createdAt = node.snapshot.createdAt := by
  rw [release_node]
  rfl

theorem keepsTimes_submit (graph : scheduler.Graph) (tasks : List AgentTaskSpec)
    (now : TimePoint) (order : IterationOrder AgentId) :
    KeepsTimes scheduler (scheduler.submitBatchLocked tasks now order).1 := by
  rcases submitBatchLocked_cases scheduler tasks now order with
    ⟨admissible, _, accepted⟩ | ⟨_, rejected, _⟩
  · rw [accepted]
    intro id old found
    exact ⟨_, (admissible.submitted graph.keyed now).old id old found, rfl⟩
  · rw [rejected]
    exact KeepsTimes.refl scheduler

theorem keepsTimes_dispatch (resources : MemorySnapshot) (now : TimePoint)
    (order : IterationOrder AgentId) :
    KeepsTimes scheduler (scheduler.dispatchLocked resources now order).1 := by
  have labelled : KeepsTimes scheduler (scheduler.relabelled resources now order) := by
    intro id old found
    rw [node?_relabelled, found]
    split
    · exact ⟨_, rfl, relabel_createdAt old _⟩
    · exact ⟨old, rfl, rfl⟩
  rcases dispatchLocked_cases scheduler resources now order with
    nothing | ⟨chosen, node, _, found, _, result⟩
  · rw [nothing]
    exact labelled
  · rw [result]
    intro id old present
    rw [node?_reserve]
    by_cases here : id = chosen
    · rw [here, found] at present
      cases present
      rw [if_pos here]
      exact ⟨_, rfl, relabel_createdAt node true⟩
    · rw [if_neg here]
      exact labelled id old present

/-- A transition that is stored. -/
theorem keepsTimes_transition {id : AgentId} {node moved : Node} {next : AgentState}
    (found : scheduler.node? id = some node) (accepted : transitionLocked node next = .ok moved)
    (new : Node) (kept : new.snapshot.createdAt = moved.snapshot.createdAt) :
    KeepsTimes scheduler (scheduler.store id new) := by
  apply KeepsTimes.store scheduler (fun _ => rfl) found new
  rw [kept, (transitionLocked_ok accepted).2]
  rfl

theorem keepsTimes_annotate (id : AgentId) (acceptable : Bool) (message : StdString)
    (write : AgentSnapshot → AgentSnapshot)
    (kept : ∀ snapshot, (write snapshot).createdAt = snapshot.createdAt) :
    KeepsTimes scheduler (scheduler.annotate id acceptable message write).1 := by
  unfold annotate
  split
  · exact KeepsTimes.refl scheduler
  · next node found =>
      split
      · exact KeepsTimes.refl scheduler
      · exact KeepsTimes.store scheduler (fun _ => rfl) found _ (kept node.snapshot)

theorem keepsTimes_complete (id : AgentId) (now : TimePoint) :
    KeepsTimes scheduler (scheduler.complete id now).1 := by
  unfold complete
  split
  · exact KeepsTimes.refl scheduler
  · next node found =>
      split
      · exact KeepsTimes.refl scheduler
      · next moved accepted =>
          have stored : KeepsTimes scheduler
              ((scheduler.releaseResourcesLocked (moved.finishAt now)).1.store id
                (scheduler.releaseResourcesLocked (moved.finishAt now)).2) := by
            apply KeepsTimes.store _ (fun other => release_node? _ _ other) found
            rw [release_createdAt, (transitionLocked_ok accepted).2]
            rfl
          exact stored.trans (KeepsTimes.resolveAll _ _)

theorem keepsTimes_fail (id : AgentId) (message : StdString) (now : TimePoint) :
    KeepsTimes scheduler (scheduler.fail id message now).1 := by
  unfold fail
  split
  · exact KeepsTimes.refl scheduler
  · next node found =>
      have kept : ∀ new : Node, new.snapshot.createdAt =
          (scheduler.releaseResourcesLocked node).2.snapshot.createdAt →
          KeepsTimes scheduler ((scheduler.releaseResourcesLocked node).1.store id new) := by
        intro new same
        exact KeepsTimes.store _ (fun other => release_node? _ _ other) found new
          (same.trans (release_createdAt node))
      dsimp only
      split
      · have retried := kept ((scheduler.releaseResourcesLocked node).2.retryWith message) rfl
        exact retried.trans (KeepsTimes.of_same fun _ => rfl)
      · split
        · exact kept _ rfl
        · next moved accepted =>
            apply (kept _ _).trans (KeepsTimes.cancels (cancelDescendants_cancels _ _ _ _))
            rw [(transitionLocked_ok accepted).2]
            rfl

theorem keepsTimes_cancel (id : AgentId) (now : TimePoint) :
    KeepsTimes scheduler (scheduler.cancel id now).1 := by
  unfold cancel
  split
  · exact KeepsTimes.refl scheduler
  · next node found =>
      split
      · exact KeepsTimes.refl scheduler
      · next moved accepted =>
          have stored : KeepsTimes scheduler
              (((scheduler.dequeue id).releaseResourcesLocked moved).1.store id
                (((scheduler.dequeue id).releaseResourcesLocked moved).2.finishAt now)) := by
            have same : ∀ other, ((scheduler.dequeue id).releaseResourcesLocked moved).1.node?
                other = scheduler.node? other :=
              fun other => release_node? (scheduler.dequeue id) moved other
            apply KeepsTimes.store _ same found
            change ((scheduler.dequeue id).releaseResourcesLocked moved).2.snapshot.createdAt = _
            rw [release_createdAt, (transitionLocked_ok accepted).2]
            rfl
          exact stored.trans (KeepsTimes.cancels (cancelDescendants_cancels _ _ _ _))

theorem keepsTimes_step (graph : scheduler.Graph) (operation : Operation) :
    KeepsTimes scheduler (scheduler.step operation) := by
  cases operation with
  | submit task now order => exact keepsTimes_submit graph [task] now order
  | submitBatch tasks now order => exact keepsTimes_submit graph tasks now order
  | spawn parent task now order =>
      change KeepsTimes scheduler (scheduler.spawn parent task now order).1
      unfold spawn
      split
      · exact keepsTimes_submit graph _ now order
      · exact KeepsTimes.refl scheduler
  | tryDispatch resources now order => exact keepsTimes_dispatch resources now order
  | waitDispatch resources now order => exact keepsTimes_dispatch resources now order
  | markRunning id processId now =>
      change KeepsTimes scheduler (scheduler.markRunning id processId now).1
      unfold markRunning
      split
      · exact KeepsTimes.refl scheduler
      · next node found =>
          split
          · exact KeepsTimes.refl scheduler
          · next moved accepted => exact keepsTimes_transition found accepted _ rfl
  | markBlocked id =>
      change KeepsTimes scheduler (scheduler.markBlocked id).1
      unfold markBlocked
      split
      · exact KeepsTimes.refl scheduler
      · next node found =>
          split
          · exact KeepsTimes.refl scheduler
          · next moved accepted => exact keepsTimes_transition found accepted _ rfl
  | wake id =>
      change KeepsTimes scheduler (scheduler.wake id).1
      unfold wake
      split
      · exact KeepsTimes.refl scheduler
      · next node found =>
          split
          · exact KeepsTimes.refl scheduler
          · next moved accepted =>
              exact (keepsTimes_transition found accepted moved rfl).trans
                (KeepsTimes.of_same fun _ => rfl)
  | complete id now => exact keepsTimes_complete id now
  | fail id message now => exact keepsTimes_fail id message now
  | cancel id now => exact keepsTimes_cancel id now
  | bindContext id contextId => exact keepsTimes_annotate id _ _ _ fun _ => rfl
  | bindProcess id processId => exact keepsTimes_annotate id _ _ _ fun _ => rfl
  | recordMetrics id metrics => exact keepsTimes_annotate id _ _ _ fun _ => rfl

end Step

/-! ### Who passes over whom -/

/-- The truncation of both waits loses less than two milliseconds. -/
theorem created_le_of_score {now mine other level rival : Int}
    (better : level * 1000000 + (now - mine).tdiv 1000000 ≤
      rival * 1000000 + (now - other).tdiv 1000000) :
    other ≤ mine + ((rival - level) * 1000000 + 2) * 1000000 := by
  have waited := Int.tdiv_mul_add_tmod (now - mine) 1000000
  have rivalWaited := Int.tdiv_mul_add_tmod (now - other) 1000000
  have below := Int.tmod_lt_of_pos (now - mine) (show (0 : Int) < 1000000 by decide)
  have above := Int.lt_tmod_of_pos (now - other) (show (0 : Int) < 1000000 by decide)
  omega

/-- A score that is no worse is that of an agent that may pass. -/
theorem mayPass_of_score {now : TimePoint} {node rival : Node}
    (better : dispatchScore now node ≤ dispatchScore now rival) : node.MayPass rival :=
  created_le_of_score better

theorem MayPass.congr {node rival other later : Node} (spec : other.spec = node.spec)
    (time : other.snapshot.createdAt = node.snapshot.createdAt)
    (rivalSpec : later.spec = rival.spec)
    (rivalTime : later.snapshot.createdAt = rival.snapshot.createdAt)
    (may : node.MayPass rival) : other.MayPass later := by
  unfold Node.MayPass at may ⊢
  rw [spec, time, rivalSpec, rivalTime]
  exact may

section Passing

variable {before : AgentScheduler} {id : AgentId}

/-- The agent that a dispatch returns has no worse a score than any that fits. -/
theorem Sound.dispatched_above (sound : before.Sound) (resources : MemorySnapshot)
    (now : TimePoint) (order : IterationOrder AgentId) {other : AgentId} {node : Node}
    (chosen : (before.dispatchLocked resources now order).2 = some other)
    (queued : before.ready.contains id = true) (found : before.node? id = some node)
    (fits : before.fits resources node = true) :
    ∃ rival, before.node? other = some rival ∧
      dispatchScore now node ≤ dispatchScore now rival := by
  rw [sound.dispatched_eq resources now order] at chosen
  by_cases nobody : (before.considerAll resources now order).selected = kInvalidAgentId
  · rw [if_pos nobody] at chosen
    cases chosen
  · rw [if_neg nobody, Option.some.injEq] at chosen
    obtain ⟨rival, _, present, _, _, above⟩ :=
      (sound.leading resources now order).best nobody
    rw [chosen] at present
    have listed : id ∈ order.visit before.ready.keys := by
      rw [IterationOrder.mem_visit, ← AList.mem_keys]
      exact (UnorderedMap.contains_iff before.ready id).mp queued
    exact ⟨rival, present, above id listed node found fits⟩

/-- Whoever passes over an agent is a rival of it, at that time. -/
theorem Sound.passesOver_rival (sound : before.Sound) {operation : Operation}
    (passes : passesOver id before operation = true) :
    ∃ node other rival, before.node? id = some node ∧ other ≠ id ∧
      before.node? other = some rival ∧ node.MayPass rival ∧
      dispatchesAgent other before operation = true := by
  have dispatch (resources : MemorySnapshot) (now : TimePoint) (order : IterationOrder AgentId)
      (passed : before.passedBy id resources (before.dispatchLocked resources now order).2 = true)
      (same : before.dispatched operation = (before.dispatchLocked resources now order).2) :
      ∃ node other rival, before.node? id = some node ∧ other ≠ id ∧
        before.node? other = some rival ∧ node.MayPass rival ∧
        dispatchesAgent other before operation = true := by
    unfold passedBy at passed
    simp only [Bool.and_eq_true, Option.any_eq_true, bne_iff_ne] at passed
    obtain ⟨⟨queued, node, found, fits⟩, other, chosen, apart⟩ := passed
    obtain ⟨rival, present, score⟩ :=
      sound.dispatched_above resources now order chosen queued found fits
    refine ⟨node, other, rival, found, apart, present, mayPass_of_score score, ?_⟩
    exact beq_iff_eq.mpr (same.trans chosen)
  cases operation with
  | tryDispatch resources now order => exact dispatch resources now order passes rfl
  | waitDispatch resources now order => exact dispatch resources now order passes rfl
  | _ => cases passes

/-- The task and the submission time of an agent, to the end of the run. -/
theorem Sound.run_keeps (sound : before.Sound) (later : List Operation) {old : Node}
    (found : before.node? id = some old) :
    ∃ new, (machine.runFrom before later).node? id = some new ∧ new.spec = old.spec ∧
      new.snapshot.createdAt = old.snapshot.createdAt := by
  induction later generalizing before old with
  | nil => exact ⟨old, found, rfl, rfl⟩
  | cons operation rest ih =>
      obtain ⟨next, kept, same⟩ := (sound.effect operation).keepsTask found
      obtain ⟨timed, stored, time⟩ := keepsTimes_step sound.graph operation id old found
      have one : timed = next := Option.some.inj (stored.symm.trans kept)
      rw [one] at time
      obtain ⟨new, present, spec, created⟩ := ih (sound.step operation) kept
      exact ⟨new, present, spec.trans same, created.trans time⟩

end Passing

/-! ### Runs -/

theorem mem_rivals {scheduler : AgentScheduler} {id other : AgentId} {node rival : Node}
    (apart : other ≠ id) (found : scheduler.node? other = some rival)
    (may : node.MayPass rival) : ⟨other, rival⟩ ∈ scheduler.rivals id node := by
  unfold rivals
  rw [List.mem_filter]
  refine ⟨AList.mem_lookup_iff.mp found, ?_⟩
  simp [apart, may]

/-- Every time the agent is passed over, one of the rivals it has in the end is
dispatched. -/
theorem passesOver_named (operations : List Operation) (id : AgentId) (node : Node)
    (found : (machine.run operations).node? id = some node) :
    machine.Along (fun state operation => passesOver id state operation = true →
      ∃ entry ∈ (machine.run operations).rivals id node,
        dispatchesAgent entry.1 state operation = true) machine.initial operations := by
  apply machine.along_of_segments
  intro first operation second same passes
  have sound := Reachable.sound (machine.reachable_run first)
  obtain ⟨old, other, rival, here, apart, present, may, dispatches⟩ :=
    sound.passesOver_rival passes
  have final : machine.run operations =
      machine.runFrom (machine.run first) (operation :: second) := by
    rw [same]
    exact machine.runFrom_append machine.initial first (operation :: second)
  obtain ⟨last, stored, spec, time⟩ := sound.run_keeps (operation :: second) here
  obtain ⟨lastRival, rivalStored, rivalSpec, rivalTime⟩ :=
    sound.run_keeps (operation :: second) present
  rw [← final] at stored rivalStored
  have one : last = node := Option.some.inj (stored.symm.trans found)
  rw [one] at spec time
  exact ⟨⟨other, lastRival⟩,
    mem_rivals apart rivalStored (MayPass.congr spec time rivalSpec rivalTime may), dispatches⟩

/-- An agent that is queued and fits is passed over at most as often as its rivals may be
dispatched: by each one once, and once more for each retry that its limit allows and each
time it was woken.  Agents that were submitted too late are not among them. -/
theorem overtakes_bounded (operations : List Operation) (id : AgentId) (node : Node)
    (found : (machine.run operations).node? id = some node) :
    machine.count (passesOver id) machine.initial operations ≤
      (((machine.run operations).rivals id node).map fun entry =>
        1 + entry.2.spec.retryLimit.toNat +
          machine.count (wakesAgent entry.1) machine.initial operations).sum := by
  have counted := machine.count_le_sum (passesOver id)
    (fun entry : Sigma fun _ : AgentId => Node => dispatchesAgent entry.1)
    ((machine.run operations).rivals id node) machine.initial operations
    (passesOver_named operations id node found)
  apply Nat.le_trans counted
  apply List.sum_le_sum
  intro entry member
  have stored : (machine.run operations).node? entry.1 = some entry.2 :=
    AList.mem_lookup_iff.mpr (List.mem_of_mem_filter member)
  obtain ⟨dispatches, retries⟩ := (run_paidFor operations entry.1).2 entry.2 stored
  have below := UInt32.le_iff_toNat_le.mp retries
  omega

/-- A patient agent, one of a higher priority that is retried once, and one that comes
too late to pass. -/
def retriedRival : List Operation :=
  [ .submit { id := 1, priority := 4 } 0 IterationOrder.asStored,
    .submit { id := 2, priority := 5, retryLimit := 1 } 0 IterationOrder.asStored,
    .submit { id := 3, priority := 5 } 1000003000000 IterationOrder.asStored,
    .tryDispatch { availableCpuThreads := 1 } 0 IterationOrder.asStored,
    .fail 2 [] 0,
    .waitDispatch { availableCpuThreads := 1 } 1 IterationOrder.asStored,
    .complete 2 2,
    .tryDispatch { availableCpuThreads := 1 } 1000003000000 IterationOrder.asStored ]

/-- It is passed over twice, as the bound allows, and then dispatched. -/
theorem retriedRival_overtakes : ∃ node, (machine.run retriedRival).node? 1 = some node ∧
    machine.count (passesOver 1) machine.initial retriedRival = 2 ∧
    machine.count (passesOver 1) machine.initial retriedRival ≤
      (((machine.run retriedRival).rivals 1 node).map fun entry =>
        1 + entry.2.spec.retryLimit.toNat +
          machine.count (wakesAgent entry.1) machine.initial retriedRival).sum :=
  ⟨_, rfl, by decide, overtakes_bounded retriedRival 1 _ rfl⟩

end AgentScheduler

end AgentNucleus.Runtime
