/-
The cascade of a failure or a cancellation.  It only cancels live agents, and
with its depth bound it leaves no live successor behind any agent it cancels.
-/

import AgentNucleus.Runtime.SchedulerEffects

set_option autoImplicit false

namespace AgentNucleus.Runtime

open Library

/-- What the cascade makes of an agent. -/
def Node.CancelledFrom (old new : Node) : Prop :=
  ∃ error now, new = old.ended .cancelled error now

namespace AgentScheduler

/-- Every agent is untouched, or it was live and is now cancelled and dequeued. -/
def Cancels (before after : AgentScheduler) : Prop :=
  ∀ id,
    (after.node? id = before.node? id ∧ (id ∈ after.ready ↔ id ∈ before.ready)) ∨
    ∃ old new, before.node? id = some old ∧ isTerminal old.state = false ∧
      after.node? id = some new ∧ old.CancelledFrom new ∧ id ∉ after.ready

theorem Cancels.refl (scheduler : AgentScheduler) : scheduler.Cancels scheduler :=
  fun _ => Or.inl ⟨rfl, Iff.rfl⟩

theorem CancelledFrom_terminal {old new : Node} (cancelled : old.CancelledFrom new) :
    isTerminal new.state = true := by
  obtain ⟨_, _, rfl⟩ := cancelled
  rfl

theorem Cancels.trans {first second third : AgentScheduler}
    (left : first.Cancels second) (right : second.Cancels third) : first.Cancels third := by
  intro id
  rcases left id with ⟨sameNode, sameReady⟩ | ⟨old, new, found, live, after, cancelled, gone⟩
  · rcases right id with ⟨nextNode, nextReady⟩ | ⟨old, new, found, rest⟩
    · exact Or.inl ⟨nextNode.trans sameNode, nextReady.trans sameReady⟩
    · exact Or.inr ⟨old, new, sameNode ▸ found, rest⟩
  · rcases right id with ⟨nextNode, nextReady⟩ | ⟨late, _, lateFound, lateLive, _⟩
    · exact Or.inr ⟨old, new, found, live, nextNode.trans after, cancelled,
        fun member => gone (nextReady.mp member)⟩
    · rw [after, Option.some.injEq] at lateFound
      subst lateFound
      rw [CancelledFrom_terminal cancelled] at lateLive
      cases lateLive

theorem Cancels.successorsOf {before after : AgentScheduler} (cancels : before.Cancels after)
    (id : AgentId) : successorsOf after.nodes id = successorsOf before.nodes id := by
  rcases cancels id with ⟨same, _⟩ | ⟨old, new, found, _, afterFound, cancelled, _⟩
  · unfold Runtime.successorsOf
    unfold node? at same
    rw [same]
  · obtain ⟨_, _, rfl⟩ := cancelled
    rw [successorsOf_some found, successorsOf_some afterFound, Node.ended_successors]

/-- The agent is terminal, or there is no such agent. -/
def Settled (scheduler : AgentScheduler) (id : AgentId) : Prop :=
  ∀ node, scheduler.node? id = some node → isTerminal node.state = true

theorem Settled.mono {before after : AgentScheduler} {id : AgentId}
    (settled : before.Settled id) (cancels : before.Cancels after) : after.Settled id := by
  intro node found
  rcases cancels id with ⟨same, _⟩ | ⟨old, new, _, _, afterFound, cancelled, _⟩
  · exact settled node (same ▸ found)
  · rw [afterFound, Option.some.injEq] at found
    subst found
    exact CancelledFrom_terminal cancelled

/-! ### One cancelled successor -/

section Turn

variable (reason : StdString) (now : TimePoint)

theorem cancelSuccessor_nodes (scheduler : AgentScheduler) (id successorId : AgentId)
    (successor : Node) :
    (scheduler.cancelSuccessor reason now id successorId successor).nodes =
      scheduler.nodes.insert successorId
        (successor.ended .cancelled (reason ++ text ": " ++ toStdString id) now) := by
  simp only [cancelSuccessor, release_node, store, release_nodes]
  rfl

theorem node?_cancelSuccessor (scheduler : AgentScheduler) (id successorId other : AgentId)
    (successor : Node) :
    (scheduler.cancelSuccessor reason now id successorId successor).node? other =
      if other = successorId then
        some (successor.ended .cancelled (reason ++ text ": " ++ toStdString id) now)
      else scheduler.node? other := by
  unfold node?
  rw [cancelSuccessor_nodes]
  exact UnorderedMap.lookup_insert_if scheduler.nodes successorId other _

theorem mem_ready_cancelSuccessor (scheduler : AgentScheduler)
    (id successorId other : AgentId) (successor : Node) :
    other ∈ (scheduler.cancelSuccessor reason now id successorId successor).ready ↔
      other ≠ successorId ∧ other ∈ scheduler.ready := by
  simp only [cancelSuccessor, store_ready, release_ready, mem_ready_dequeue]

theorem cancelSuccessor_cancels (scheduler : AgentScheduler) (id successorId : AgentId)
    (successor : Node) (found : scheduler.node? successorId = some successor)
    (live : isTerminal successor.state = false) :
    scheduler.Cancels (scheduler.cancelSuccessor reason now id successorId successor) := by
  intro other
  rw [node?_cancelSuccessor, mem_ready_cancelSuccessor]
  by_cases same : other = successorId
  · subst same
    rw [if_pos rfl]
    exact Or.inr ⟨successor, _, found, live, rfl, ⟨_, _, rfl⟩, fun both => both.1 rfl⟩
  · rw [if_neg same]
    exact Or.inl ⟨rfl, fun both => both.2, fun member => ⟨same, member⟩⟩

/-! ### Induction along the cascade -/

/-- A reflexive and transitive relation that covers one cancelled successor
covers the whole cascade. -/
theorem cascade_induction (relation : AgentScheduler → AgentScheduler → Prop)
    (refl : ∀ scheduler, relation scheduler scheduler)
    (trans : ∀ first second third, relation first second → relation second third →
      relation first third)
    (one : ∀ scheduler id successorId successor,
      scheduler.node? successorId = some successor → isTerminal successor.state = false →
      relation scheduler (scheduler.cancelSuccessor reason now id successorId successor))
    (depth : Nat) (scheduler : AgentScheduler) (id : AgentId) :
    relation scheduler (cascade reason now depth scheduler id) := by
  induction depth generalizing scheduler id with
  | zero => exact refl scheduler
  | succ depth ih =>
      have turn : ∀ current successorId, relation current
          (cascadeTurn (cascade reason now depth) reason now id current successorId) := by
        intro current successorId
        unfold cascadeTurn
        cases found : current.node? successorId with
        | none => exact refl current
        | some successor =>
            cases terminal : isTerminal successor.state with
            | true => simp only [terminal, if_true]; exact refl current
            | false =>
                simp only [terminal]
                exact trans _ _ _ (one current id successorId successor found terminal)
                  (ih _ successorId)
      unfold cascade
      generalize successorsOf scheduler.nodes id = ids
      induction ids generalizing scheduler with
      | nil => exact refl scheduler
      | cons head rest restIh => exact trans _ _ _ (turn scheduler head) (restIh _)

theorem cascade_cancels (depth : Nat) (scheduler : AgentScheduler) (id : AgentId) :
    scheduler.Cancels (cascade reason now depth scheduler id) :=
  cascade_induction reason now Cancels Cancels.refl (fun _ _ _ => Cancels.trans)
    (cancelSuccessor_cancels reason now) depth scheduler id

/-! ### The depth bound -/

/-- The number of agents that are not terminal. -/
def liveCount (scheduler : AgentScheduler) : Nat :=
  UnorderedMap.total (fun _ node => if isTerminal node.state then 0 else 1) scheduler.nodes

theorem liveCount_le_keys (scheduler : AgentScheduler) :
    scheduler.liveCount ≤ scheduler.nodes.keys.length := by
  have bounded : scheduler.liveCount ≤
      UnorderedMap.total (fun _ _ => 1) scheduler.nodes := by
    apply UnorderedMap.total_le_total
    intro _ node _
    split <;> omega
  have length : UnorderedMap.total (fun _ _ => 1) scheduler.nodes =
      scheduler.nodes.keys.length := by
    simp [UnorderedMap.total, AList.keys, List.keys]
  omega

theorem liveCount_cancelSuccessor (scheduler : AgentScheduler) (id successorId : AgentId)
    (successor : Node) (found : scheduler.node? successorId = some successor)
    (live : isTerminal successor.state = false) :
    (scheduler.cancelSuccessor reason now id successorId successor).liveCount + 1 =
      scheduler.liveCount := by
  have moved := UnorderedMap.total_insert_over
    (fun _ node => if isTerminal node.state then 0 else 1) scheduler.nodes successorId successor
    (successor.ended .cancelled (reason ++ text ": " ++ toStdString id) now) found
  have dead : isTerminal
      (successor.ended .cancelled (reason ++ text ": " ++ toStdString id) now).state = true := rfl
  simp only [live, dead, if_true, Nat.add_zero] at moved
  unfold liveCount
  rw [cancelSuccessor_nodes]
  exact moved

theorem liveCount_cascade (depth : Nat) (scheduler : AgentScheduler) (id : AgentId) :
    (cascade reason now depth scheduler id).liveCount ≤ scheduler.liveCount :=
  cascade_induction reason now (fun before after => after.liveCount ≤ before.liveCount)
    (fun _ => Nat.le_refl _) (fun _ _ _ left right => Nat.le_trans right left)
    (fun current source successorId successor found live => by
      have moved := liveCount_cancelSuccessor reason now current source successorId successor
        found live
      omega)
    depth scheduler id

/-- No live agent is left behind an agent that was settled on the way. -/
def ClosedBetween (before after : AgentScheduler) : Prop :=
  ∀ id, ¬before.Settled id → after.Settled id →
    ∀ successor ∈ successorsOf before.nodes id, after.Settled successor

theorem ClosedBetween.trans {first second third : AgentScheduler}
    (leftCancels : first.Cancels second) (rightCancels : second.Cancels third)
    (left : first.ClosedBetween second) (right : second.ClosedBetween third) :
    first.ClosedBetween third := by
  intro id unsettled settled successor member
  by_cases middle : second.Settled id
  · exact (left id unsettled middle successor member).mono rightCancels
  · exact right id middle settled successor (leftCancels.successorsOf id ▸ member)

/-- What one turn of the loop guarantees about its successor. -/
private def TurnSpec (depth : Nat)
    (turn : AgentScheduler → AgentId → AgentScheduler) : Prop :=
  ∀ current successorId, current.liveCount ≤ depth →
    current.Cancels (turn current successorId) ∧
    (turn current successorId).liveCount ≤ current.liveCount ∧
    (turn current successorId).Settled successorId ∧
    current.ClosedBetween (turn current successorId)

private theorem loop_settles {depth : Nat} {turn : AgentScheduler → AgentId → AgentScheduler}
    (spec : TurnSpec depth turn) (ids : List AgentId) (current : AgentScheduler)
    (bounded : current.liveCount ≤ depth) :
    current.Cancels (ids.foldl turn current) ∧
    (∀ id ∈ ids, (ids.foldl turn current).Settled id) ∧
    current.ClosedBetween (ids.foldl turn current) := by
  induction ids generalizing current with
  | nil =>
      refine ⟨Cancels.refl current, ?_, ?_⟩
      · intro id member
        cases member
      · intro id unsettled settled
        exact absurd settled unsettled
  | cons head rest ih =>
      obtain ⟨cancels, fewer, settled, closed⟩ := spec current head bounded
      obtain ⟨restCancels, restSettled, restClosed⟩ :=
        ih (turn current head) (Nat.le_trans fewer bounded)
      refine ⟨cancels.trans restCancels, ?_, closed.trans cancels restCancels restClosed⟩
      intro id member
      rcases List.mem_cons.mp member with same | inRest
      · exact same ▸ settled.mono restCancels
      · exact restSettled id inRest

theorem cascadeTurn_live (recurse : AgentScheduler → AgentId → AgentScheduler)
    (id successorId : AgentId) (current : AgentScheduler) (successor : Node)
    (found : current.node? successorId = some successor)
    (live : isTerminal successor.state = false) :
    cascadeTurn recurse reason now id current successorId =
      recurse (current.cancelSuccessor reason now id successorId successor) successorId := by
  unfold cascadeTurn
  simp only [found, live]
  rfl

theorem cascadeTurn_settled (recurse : AgentScheduler → AgentId → AgentScheduler)
    (id successorId : AgentId) (current : AgentScheduler)
    (settled : current.Settled successorId) :
    cascadeTurn recurse reason now id current successorId = current := by
  unfold cascadeTurn
  cases found : current.node? successorId with
  | none => rfl
  | some successor =>
      simp only [settled successor found, if_true]

/-- The cascade settles every successor of its root and of each agent it
cancels; induction on the depth, since a cancelled agent leaves one fewer live. -/
theorem cascade_settles (depth : Nat) (scheduler : AgentScheduler) (id : AgentId)
    (enough : scheduler.liveCount < depth) :
    (∀ successor ∈ successorsOf scheduler.nodes id,
      (cascade reason now depth scheduler id).Settled successor) ∧
    scheduler.ClosedBetween (cascade reason now depth scheduler id) := by
  induction depth generalizing scheduler id with
  | zero => exact absurd enough (Nat.not_lt_zero _)
  | succ depth ih =>
      have spec : TurnSpec depth (cascadeTurn (cascade reason now depth) reason now id) := by
        intro current successorId bounded
        by_cases settled : current.Settled successorId
        · rw [cascadeTurn_settled reason now _ id successorId current settled]
          exact ⟨Cancels.refl current, Nat.le_refl _, settled,
            fun other unsettled nowSettled => absurd nowSettled unsettled⟩
        · have alive : ∃ successor, current.node? successorId = some successor ∧
              isTerminal successor.state = false := by
            cases found : current.node? successorId with
            | none =>
                exact absurd (fun node present => by rw [found] at present; cases present) settled
            | some successor =>
                refine ⟨successor, rfl, Bool.eq_false_iff.mpr fun terminal => settled ?_⟩
                intro node present
                rw [found, Option.some.injEq] at present
                exact present ▸ terminal
          obtain ⟨successor, found, live⟩ := alive
          rw [cascadeTurn_live reason now _ id successorId current successor found live]
          let marked := current.cancelSuccessor reason now id successorId successor
          have markedCancels : current.Cancels marked :=
            cancelSuccessor_cancels reason now current id successorId successor found live
          have fewer : marked.liveCount + 1 = current.liveCount :=
            liveCount_cancelSuccessor reason now current id successorId successor found live
          have inner := cascade_cancels reason now depth marked successorId
          have innerCount := liveCount_cascade reason now depth marked successorId
          obtain ⟨below, closed⟩ := ih marked successorId (by omega)
          have markedSettled : marked.Settled successorId := by
            intro node nodeFound
            rw [node?_cancelSuccessor, if_pos rfl, Option.some.injEq] at nodeFound
            subst nodeFound
            rfl
          refine ⟨markedCancels.trans inner, Nat.le_trans innerCount (by omega),
            markedSettled.mono inner, ?_⟩
          intro other unsettled nowSettled target member
          by_cases same : other = successorId
          · subst same
            exact below target (markedCancels.successorsOf other ▸ member)
          · have stillUnsettled : ¬marked.Settled other := by
              intro early
              apply unsettled
              intro node nodeFound
              apply early node
              rw [node?_cancelSuccessor, if_neg same]
              exact nodeFound
            exact closed other stillUnsettled nowSettled target
              (markedCancels.successorsOf other ▸ member)
      have loop := loop_settles spec (successorsOf scheduler.nodes id) scheduler
        (Nat.lt_succ_iff.mp enough)
      exact ⟨loop.2.1, loop.2.2⟩

end Turn

theorem cancelDescendants_cancels (scheduler : AgentScheduler) (id : AgentId)
    (reason : StdString) (now : TimePoint) :
    scheduler.Cancels (scheduler.cancelDescendantsLocked id reason now) :=
  cascade_cancels reason now _ scheduler id

/-- The bound used by the model is never exhausted. -/
theorem cancelDescendants_settles (scheduler : AgentScheduler) (id : AgentId)
    (reason : StdString) (now : TimePoint) :
    (∀ successor ∈ successorsOf scheduler.nodes id,
      (scheduler.cancelDescendantsLocked id reason now).Settled successor) ∧
    scheduler.ClosedBetween (scheduler.cancelDescendantsLocked id reason now) :=
  cascade_settles reason now _ scheduler id
    (Nat.lt_succ_of_le (liveCount_le_keys scheduler))

end AgentScheduler

end AgentNucleus.Runtime
