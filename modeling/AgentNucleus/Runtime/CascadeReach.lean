/-
Whom a cascade reaches.  The recursion ends without its depth bound, cancels exactly
the agents that live successor entries lead to, and releases each of them once.
-/

import AgentNucleus.Runtime.ResourceLedger

set_option autoImplicit false

namespace AgentNucleus.Runtime

open Library
open Library.DepthFirst (Edge)
open Relation (TransGen)

namespace AgentScheduler

/-- The agent is stored and has not ended. -/
def Live (scheduler : AgentScheduler) (id : AgentId) : Prop :=
  ∃ node, scheduler.node? id = some node ∧ isTerminal node.state = false

/-- A successor entry that leads to a live agent. -/
def LiveEdge (scheduler : AgentScheduler) (source target : AgentId) : Prop :=
  Edge (successorsOf scheduler.nodes) source target ∧ scheduler.Live target

/-- Reachable along successor entries, through live agents only. -/
def LiveBelow (scheduler : AgentScheduler) (root id : AgentId) : Prop :=
  TransGen scheduler.LiveEdge root id

theorem LiveBelow.live {scheduler : AgentScheduler} {root id : AgentId}
    (below : scheduler.LiveBelow root id) : scheduler.Live id := by
  cases below with
  | single edge => exact edge.2
  | tail _ edge => exact edge.2

theorem LiveBelow.edges {scheduler : AgentScheduler} {root id : AgentId}
    (below : scheduler.LiveBelow root id) :
    TransGen (Edge (successorsOf scheduler.nodes)) root id :=
  TransGen.mono (fun _ _ edge => edge.1) _ _ below

theorem live_unsettled {scheduler : AgentScheduler} {id : AgentId}
    (live : scheduler.Live id) : ¬scheduler.Settled id := by
  obtain ⟨node, found, alive⟩ := live
  intro settled
  rw [settled node found] at alive
  cases alive

/-- A cascade leaves the agents alone that are live after it. -/
theorem Cancels.node?_live {before after : AgentScheduler} (cancels : before.Cancels after)
    {id : AgentId} (live : after.Live id) : after.node? id = before.node? id := by
  rcases cancels id with ⟨same, _⟩ | ⟨old, new, _, _, found, cancelled, _⟩
  · exact same
  · obtain ⟨node, present, alive⟩ := live
    rw [found, Option.some.injEq] at present
    subst present
    rw [CancelledFrom_terminal cancelled] at alive
    cases alive

theorem Cancels.live {before after : AgentScheduler} (cancels : before.Cancels after)
    {id : AgentId} (live : after.Live id) : before.Live id := by
  have same := cancels.node?_live live
  unfold Live at live ⊢
  rw [← same]
  exact live

theorem Cancels.liveBelow {before after : AgentScheduler} (cancels : before.Cancels after)
    {root id : AgentId} (below : after.LiveBelow root id) : before.LiveBelow root id := by
  refine TransGen.mono ?_ _ _ below
  intro source target edge
  refine ⟨?_, cancels.live edge.2⟩
  have listed := edge.1
  unfold Edge at listed ⊢
  rw [← cancels.successorsOf source]
  exact listed

/-! ### The recursion without a bound -/

section Cascades

variable {reason : StdString} {now : TimePoint}

/-- The loop of `cancel_descendants_locked` for `id` over a part of its successors:
the agents it releases, in order, and the scheduler it leaves behind.  `nodes_.at`
finds every agent it is asked for. -/
inductive Cascades (reason : StdString) (now : TimePoint) :
    AgentId → List AgentId → AgentScheduler → List AgentId → AgentScheduler → Prop where
  | done (id : AgentId) (current : AgentScheduler) : Cascades reason now id [] current [] current
  | skipped {id successorId : AgentId} {rest released : List AgentId}
      {current after : AgentScheduler} (successor : Node)
      (found : current.node? successorId = some successor)
      (terminal : isTerminal successor.state = true)
      (onward : Cascades reason now id rest current released after) :
      Cascades reason now id (successorId :: rest) current released after
  | cancelled {id successorId : AgentId} {rest below released : List AgentId}
      {current marked middle after : AgentScheduler} (successor : Node)
      (found : current.node? successorId = some successor)
      (live : isTerminal successor.state = false)
      (mark : marked = current.cancelSuccessor reason now id successorId successor)
      (inner : Cascades reason now successorId (successorsOf marked.nodes successorId) marked
        below middle)
      (onward : Cascades reason now id rest middle released after) :
      Cascades reason now id (successorId :: rest) current
        ((successorId :: below) ++ released) after

/-- Every entry of a successor list names a stored agent. -/
def Closed (scheduler : AgentScheduler) : Prop :=
  ∀ id, ∀ successorId ∈ successorsOf scheduler.nodes id,
    ∃ successor, scheduler.node? successorId = some successor

theorem Graph.closed {scheduler : AgentScheduler} (graph : scheduler.Graph) :
    scheduler.Closed := by
  intro id successorId listed
  cases found : scheduler.node? id with
  | none =>
      rw [successorsOf_none found] at listed
      cases listed
  | some node =>
      rw [successorsOf_some found] at listed
      exact graph.successors id node found successorId listed

theorem Cancels.stored {before after : AgentScheduler} (cancels : before.Cancels after)
    {id : AgentId} (stored : ∃ node, before.node? id = some node) :
    ∃ node, after.node? id = some node := by
  rcases cancels id with ⟨same, _⟩ | ⟨_, new, _, _, found, _⟩
  · rw [same]
    exact stored
  · exact ⟨new, found⟩

theorem Closed.cancels {before after : AgentScheduler} (closed : before.Closed)
    (cancels : before.Cancels after) : after.Closed := by
  intro id successorId listed
  rw [cancels.successorsOf id] at listed
  exact cancels.stored (closed id successorId listed)

/-- The recursion ends: every nested call has one live agent less, so the bound on
the depth is never used up. -/
theorem cascade_terminates (depth : Nat) (scheduler : AgentScheduler) (id : AgentId)
    (enough : scheduler.liveCount < depth) (closed : scheduler.Closed) :
    ∃ released, Cascades reason now id (successorsOf scheduler.nodes id) scheduler released
      (cascade reason now depth scheduler id) := by
  induction depth generalizing scheduler id with
  | zero => exact absurd enough (Nat.not_lt_zero _)
  | succ depth ih =>
      have loop : ∀ (ids : List AgentId) (current : AgentScheduler),
          current.liveCount ≤ depth → current.Closed →
          (∀ successorId ∈ ids, ∃ successor, current.node? successorId = some successor) →
          ∃ released, Cascades reason now id ids current released
            (ids.foldl (cascadeTurn (cascade reason now depth) reason now id) current) := by
        intro ids
        induction ids with
        | nil => exact fun current _ _ _ => ⟨[], Cascades.done id current⟩
        | cons head rest restIh =>
            intro current bounded currentClosed stored
            obtain ⟨successor, found⟩ := stored head List.mem_cons_self
            have storedRest := fun entry member => stored entry (List.mem_cons_of_mem head member)
            rw [List.foldl_cons]
            cases terminal : isTerminal successor.state with
            | true =>
                have settled : current.Settled head := by
                  intro node present
                  rw [found, Option.some.injEq] at present
                  exact present ▸ terminal
                rw [cascadeTurn_settled reason now _ id head current settled]
                obtain ⟨released, onward⟩ := restIh current bounded currentClosed storedRest
                exact ⟨released, Cascades.skipped successor found terminal onward⟩
            | false =>
                rw [cascadeTurn_live reason now _ id head current successor found terminal]
                have marks := cancelSuccessor_cancels reason now current id head successor found
                  terminal
                have fewer := liveCount_cancelSuccessor reason now current id head successor found
                  terminal
                generalize mark : current.cancelSuccessor reason now id head successor = marked
                  at marks fewer
                obtain ⟨below, inner⟩ := ih marked head (by omega) (currentClosed.cancels marks)
                have innerCancels := cascade_cancels reason now depth marked head
                have innerCount := liveCount_cascade reason now depth marked head
                have cancels := marks.trans innerCancels
                obtain ⟨released, onward⟩ := restIh (cascade reason now depth marked head)
                  (by omega) (currentClosed.cancels cancels)
                  (fun entry member => cancels.stored (storedRest entry member))
                exact ⟨_, Cascades.cancelled successor found terminal mark.symm inner onward⟩
      exact loop _ scheduler (Nat.lt_succ_iff.mp enough) closed (closed id)

/-! ### What a derivation says -/

variable {id : AgentId} {ids released : List AgentId} {current after : AgentScheduler}

theorem Cascades.cancels (cascades : Cascades reason now id ids current released after) :
    current.Cancels after := by
  induction cascades with
  | done id current => exact Cancels.refl current
  | skipped successor found terminal onward ih => exact ih
  | cancelled successor found live mark inner onward innerIh ih =>
      subst mark
      exact ((cancelSuccessor_cancels reason now _ _ _ successor found live).trans innerIh).trans ih

theorem marked_settled {id successorId : AgentId} {successor : Node} {current : AgentScheduler} :
    (current.cancelSuccessor reason now id successorId successor).Settled successorId := by
  intro node found
  rw [node?_cancelSuccessor, if_pos rfl, Option.some.injEq] at found
  subst found
  rfl

/-- Whom the loop does not release, it does not touch. -/
theorem Cascades.untouched (cascades : Cascades reason now id ids current released after)
    (other : AgentId) (outside : other ∉ released) :
    after.node? other = current.node? other ∧ (other ∈ after.ready ↔ other ∈ current.ready) := by
  induction cascades with
  | done id current => exact ⟨rfl, Iff.rfl⟩
  | skipped successor found terminal onward ih => exact ih outside
  | @cancelled id successorId rest below released current marked middle after successor found
      live mark inner onward innerIh ih =>
      rw [List.mem_append, List.mem_cons, not_or, not_or] at outside
      obtain ⟨⟨different, notBelow⟩, notLater⟩ := outside
      obtain ⟨innerNode, innerReady⟩ := innerIh notBelow
      obtain ⟨laterNode, laterReady⟩ := ih notLater
      rw [laterNode, laterReady, innerNode, innerReady, mark, node?_cancelSuccessor,
        mem_ready_cancelSuccessor, if_neg different]
      exact ⟨rfl, fun both => both.2, fun member => ⟨different, member⟩⟩

/-- Whom the loop releases was live before it and is not live after it. -/
theorem Cascades.ended (cascades : Cascades reason now id ids current released after)
    (other : AgentId) (member : other ∈ released) :
    current.Live other ∧ after.Settled other := by
  induction cascades with
  | done id current => cases member
  | skipped successor found terminal onward ih => exact ih member
  | @cancelled id successorId rest below released current marked middle after successor found
      live mark inner onward innerIh ih =>
      have marks : current.Cancels marked :=
        mark ▸ cancelSuccessor_cancels reason now current id successorId successor found live
      rw [List.mem_append, List.mem_cons] at member
      rcases member with (same | inBelow) | later
      · subst same
        have settled : marked.Settled other := mark ▸ marked_settled
        exact ⟨⟨successor, found, live⟩, (settled.mono inner.cancels).mono onward.cancels⟩
      · obtain ⟨wasLive, settled⟩ := innerIh inBelow
        exact ⟨marks.live wasLive, settled.mono onward.cancels⟩
      · obtain ⟨wasLive, settled⟩ := ih later
        exact ⟨(marks.trans inner.cancels).live wasLive, settled⟩

/-- No agent is released twice: it is terminal from its release on. -/
theorem Cascades.nodup (cascades : Cascades reason now id ids current released after) :
    released.Nodup := by
  induction cascades with
  | done id current => exact List.nodup_nil
  | skipped successor found terminal onward ih => exact ih
  | @cancelled id successorId rest below released current marked middle after successor found
      live mark inner onward innerIh ih =>
      have settled : marked.Settled successorId := mark ▸ marked_settled
      rw [List.nodup_append]
      refine ⟨List.nodup_cons.mpr ⟨?_, innerIh⟩, ih, ?_⟩
      · intro again
        exact live_unsettled (inner.ended successorId again).1 settled
      · intro early earlyMember late lateMember same
        subst same
        apply live_unsettled (onward.ended early lateMember).1
        rcases List.mem_cons.mp earlyMember with here | inBelow
        · exact here ▸ settled.mono inner.cancels
        · exact (inner.ended early inBelow).2

/-- Live entries lead to everyone whom the loop releases. -/
theorem Cascades.reached (cascades : Cascades reason now id ids current released after)
    (listed : ∀ successorId ∈ ids, successorId ∈ successorsOf current.nodes id)
    (other : AgentId) (member : other ∈ released) : current.LiveBelow id other := by
  induction cascades with
  | done id current => cases member
  | skipped successor found terminal onward ih =>
      exact ih (fun entry inRest => listed entry (List.mem_cons_of_mem _ inRest)) member
  | @cancelled id successorId rest below released current marked middle after successor found
      live mark inner onward innerIh ih =>
      have marks : current.Cancels marked :=
        mark ▸ cancelSuccessor_cancels reason now current id successorId successor found live
      have cancels := marks.trans inner.cancels
      have edge : current.LiveEdge id successorId :=
        ⟨listed successorId List.mem_cons_self, successor, found, live⟩
      rw [List.mem_append, List.mem_cons] at member
      rcases member with (same | inBelow) | later
      · exact same ▸ TransGen.single edge
      · have below := innerIh (fun _ entry => entry) inBelow
        exact TransGen.head edge (marks.liveBelow below)
      · refine cancels.liveBelow (ih ?_ later)
        intro entry inRest
        rw [cancels.successorsOf id]
        exact listed entry (List.mem_cons_of_mem _ inRest)

end Cascades

/-! ### The reservations given back -/

/-- The sum of all reservations drops by what the released agents held before the
loop, each counted once. -/
theorem Cascades.held {reason : StdString} {now : TimePoint} {id : AgentId}
    {ids released : List AgentId} {current after : AgentScheduler}
    (cascades : Cascades reason now id ids current released after) (resource : Resource) :
    resource.held after + resource.heldByAll current released = resource.held current := by
  induction cascades with
  | done id current => rfl
  | skipped successor found terminal onward ih => exact ih
  | @cancelled id successorId rest below released current marked middle after successor found
      live mark inner onward innerIh ih =>
      have marks : current.Cancels marked :=
        mark ▸ cancelSuccessor_cancels reason now current id successorId successor found live
      have belowSame : resource.heldByAll marked below = resource.heldByAll current below :=
        resource.heldByAll_congr fun other member =>
          resource.heldAt_congr (marks.node?_live (inner.ended other member).1)
      have laterSame : resource.heldByAll middle released = resource.heldByAll current released :=
        resource.heldByAll_congr fun other member =>
          resource.heldAt_congr
            ((marks.trans inner.cancels).node?_live (onward.ended other member).1)
      have written := UnorderedMap.total_insert_over (fun _ node => resource.heldBy node)
        current.nodes successorId successor
        (successor.ended .cancelled (reason ++ text ": " ++ toStdString id) now) found
      rw [← cancelSuccessor_nodes reason now current id, ← mark,
        resource.heldBy_free (Node.ended_reserved _ _ _ _)] at written
      change resource.held marked + resource.heldBy successor = resource.held current + 0
        at written
      rw [resource.heldByAll_append, resource.heldByAll_cons, resource.heldAt_some found]
      omega

/-! ### The agent that the call ends -/

/-- The other agent is the same in both, and so is its place in `ready_`. -/
def SameAgent (before after : AgentScheduler) (id : AgentId) : Prop :=
  after.node? id = before.node? id ∧ (id ∈ after.ready ↔ id ∈ before.ready)

/-- The call has ended `id`, which was live, and has looked at no other agent yet. -/
structure RootEnded (before : AgentScheduler) (id : AgentId) (ended : AgentScheduler) :
    Prop where
  root : ∃ old state error now, before.node? id = some old ∧ isTerminal old.state = false ∧
    isTerminal state = true ∧ ended.node? id = some (old.ended state error now)
  others : ∀ other, other ≠ id → before.SameAgent ended other

/-- The call returns true and ends the agent: `cancel`, or `fail` without a retry
left. -/
inductive Collapses (scheduler : AgentScheduler) (id : AgentId) : Operation → Prop where
  | cancel (now : TimePoint) (accepted : (scheduler.cancel id now).2.ok = true) :
      Collapses scheduler id (.cancel id now)
  | fail (message : StdString) (now : TimePoint) (node : Node)
      (found : scheduler.node? id = some node)
      (exhausted : ¬node.snapshot.retryCount < node.spec.retryLimit)
      (accepted : (scheduler.fail id message now).2.ok = true) :
      Collapses scheduler id (.fail id message now)

/-- What the release and the write of the ended agent do to the ledger. -/
structure RootReleased (before : AgentScheduler) (id : AgentId) (ended : AgentScheduler) :
    Prop where
  slack : before.KeepsSlack ended
  held : ∀ resource : Resource,
    resource.held ended + resource.heldAt before id = resource.held before

private theorem root_written {before : AgentScheduler} (current : AgentScheduler)
    {id : AgentId} {old : Node} (state : AgentState) (error : StdString) (now : TimePoint)
    (found : before.node? id = some old) (live : isTerminal old.state = false)
    (ends : isTerminal state = true) (nodes : current.nodes = before.nodes)
    (cpu : current.reservedCpuThreads = before.reservedCpuThreads)
    (memory : current.reservedMemoryBytes = before.reservedMemoryBytes)
    (queue : ∀ other, other ≠ id → (other ∈ current.ready ↔ other ∈ before.ready)) :
    before.RootEnded id
        ((current.releaseResourcesLocked old).1.store id (old.ended state error now)) ∧
      before.RootReleased id
        ((current.releaseResourcesLocked old).1.store id (old.ended state error now)) := by
  have here : current.node? id = some old := by
    unfold node? at found ⊢
    rw [nodes]
    exact found
  refine ⟨⟨⟨old, state, error, now, found, live, ends, ?_⟩, ?_⟩, ⟨?_, ?_⟩⟩
  · exact node?_store_self _ id _
  · intro other different
    refine ⟨?_, ?_⟩
    · rw [node?_store_other _ _ different, release_node?]
      unfold node?
      rw [nodes]
    · rw [store_ready, release_ready]
      exact queue other different
  · exact (keepsSlack_queue nodes cpu memory).trans (keepsSlack_release _ here rfl)
  · intro resource
    have written := resource.held_store (old.ended state error now) found
      ((release_nodes current old).trans nodes)
    rw [resource.heldBy_free (Node.ended_reserved _ _ _ _), Nat.add_zero] at written
    rw [resource.heldAt_some found]
    exact written

private theorem collapse_cancel {scheduler : AgentScheduler} {id : AgentId} {now : TimePoint}
    (accepted : (scheduler.cancel id now).2.ok = true) :
    ∃ ended, scheduler.RootEnded id ended ∧ scheduler.RootReleased id ended ∧
      (scheduler.cancel id now).1 =
        ended.cancelDescendantsLocked id (text "dependency agent was cancelled") now := by
  unfold cancel at accepted ⊢
  cases found : scheduler.node? id with
  | none =>
      rw [found] at accepted
      cases accepted
  | some node =>
      rw [found] at accepted
      dsimp only at accepted ⊢
      cases moved : transitionLocked node .cancelled with
      | error message =>
          rw [moved] at accepted
          cases accepted
      | ok next =>
          obtain ⟨live, rfl⟩ := transitionLocked_cancelled moved
          simp only [release_node]
          rw [(scheduler.dequeue id).release_congr (node.setState .cancelled) node rfl rfl]
          have queue : ∀ other, other ≠ id →
              (other ∈ (scheduler.dequeue id).ready ↔ other ∈ scheduler.ready) := by
            intro other different
            rw [mem_ready_dequeue]
            exact ⟨fun both => both.2, fun member => ⟨different, member⟩⟩
          obtain ⟨rootEnded, released⟩ := root_written (scheduler.dequeue id) .cancelled
            node.snapshot.error now found live rfl rfl rfl rfl queue
          exact ⟨_, rootEnded, released, rfl⟩

private theorem collapse_fail {scheduler : AgentScheduler} {id : AgentId} {message : StdString}
    {now : TimePoint} {node : Node} (found : scheduler.node? id = some node)
    (exhausted : ¬node.snapshot.retryCount < node.spec.retryLimit)
    (accepted : (scheduler.fail id message now).2.ok = true) :
    ∃ ended, scheduler.RootEnded id ended ∧ scheduler.RootReleased id ended ∧
      (scheduler.fail id message now).1 =
        ended.cancelDescendantsLocked id (text "dependency agent failed") now := by
  have stays : ¬node.unreserved.snapshot.retryCount < node.unreserved.spec.retryLimit := exhausted
  unfold fail at accepted ⊢
  simp only [found, release_node, stays, if_false] at accepted ⊢
  cases moved : transitionLocked node.unreserved .failed with
  | error failure =>
      rw [moved] at accepted
      cases accepted
  | ok next =>
      obtain ⟨allowed, rfl⟩ := transitionLocked_ok moved
      rw [(transitionAllowed_end _).2] at allowed
      obtain ⟨rootEnded, released⟩ := root_written scheduler .failed message now found
        (isActive_unqueued allowed).2 rfl rfl rfl rfl (fun _ _ => Iff.rfl)
      exact ⟨_, rootEnded, released, rfl⟩

/-- The common shape of the two calls. -/
private theorem Collapses.cascade {scheduler : AgentScheduler} {id : AgentId}
    {operation : Operation} (collapses : scheduler.Collapses id operation) :
    ∃ reason now ended, scheduler.RootEnded id ended ∧ scheduler.RootReleased id ended ∧
      scheduler.step operation = ended.cancelDescendantsLocked id reason now := by
  cases collapses with
  | cancel now accepted =>
      obtain ⟨ended, rootEnded, released, result⟩ := collapse_cancel accepted
      exact ⟨_, now, ended, rootEnded, released, result⟩
  | fail message now node found exhausted accepted =>
      obtain ⟨ended, rootEnded, released, result⟩ := collapse_fail found exhausted accepted
      exact ⟨_, now, ended, rootEnded, released, result⟩

/-! ### The root is not below itself -/

section Root

variable {before ended : AgentScheduler} {id : AgentId}

theorem RootEnded.successorsOf (rootEnded : before.RootEnded id ended) (source : AgentId) :
    successorsOf ended.nodes source = successorsOf before.nodes source := by
  by_cases same : source = id
  · obtain ⟨old, state, error, now, found, _, _, stored⟩ := rootEnded.root
    rw [same, successorsOf_some found, successorsOf_some stored, Node.ended_successors]
  · have kept := (rootEnded.others source same).1
    unfold Runtime.successorsOf
    unfold node? at kept
    rw [kept]

theorem RootEnded.settled (rootEnded : before.RootEnded id ended) : ended.Settled id := by
  obtain ⟨old, state, error, now, _, _, ends, stored⟩ := rootEnded.root
  intro node found
  rw [stored, Option.some.injEq] at found
  subst found
  exact ends

theorem RootEnded.live_iff (rootEnded : before.RootEnded id ended) {other : AgentId}
    (different : other ≠ id) : ended.Live other ↔ before.Live other := by
  unfold Live
  rw [(rootEnded.others other different).1]

theorem RootEnded.closed (rootEnded : before.RootEnded id ended) (closed : before.Closed) :
    ended.Closed := by
  intro source successorId listed
  rw [rootEnded.successorsOf source] at listed
  by_cases same : successorId = id
  · obtain ⟨_, _, _, _, _, _, _, stored⟩ := rootEnded.root
    exact ⟨_, same ▸ stored⟩
  · rw [(rootEnded.others successorId same).1]
    exact closed source successorId listed

theorem Graph.not_liveBelow_self (graph : before.Graph) : ¬before.LiveBelow id id :=
  fun below => graph.loopFree id below.edges

/-- Ending the root changes nothing about who is below it. -/
theorem RootEnded.liveBelow (rootEnded : before.RootEnded id ended) {root other : AgentId}
    (below : ended.LiveBelow root other) : before.LiveBelow root other := by
  refine TransGen.mono ?_ _ _ below
  intro source target edge
  obtain ⟨listed, live⟩ := edge
  have different : target ≠ id := fun same => live_unsettled live (same ▸ rootEnded.settled)
  refine ⟨?_, (rootEnded.live_iff different).mp live⟩
  unfold Edge at listed ⊢
  rw [← rootEnded.successorsOf source]
  exact listed

/-- Everyone below the root is settled by the cascade: along the path, each agent was
live when the cascade began and is settled at its end. -/
theorem RootEnded.settles (rootEnded : before.RootEnded id ended) (graph : before.Graph)
    (reason : StdString) (now : TimePoint) {other : AgentId}
    (below : before.LiveBelow id other) :
    (ended.cancelDescendantsLocked id reason now).Settled other := by
  obtain ⟨successors, closedBetween⟩ := cancelDescendants_settles ended id reason now
  induction below with
  | single edge =>
      refine successors _ ?_
      rw [rootEnded.successorsOf id]
      exact edge.1
  | @tail middle target path edge ih =>
      have different : middle ≠ id := fun same => graph.not_liveBelow_self (same ▸ path)
      have unsettled : ¬ended.Settled middle :=
        live_unsettled ((rootEnded.live_iff different).mpr (LiveBelow.live path))
      refine closedBetween middle unsettled ih target ?_
      rw [rootEnded.successorsOf middle]
      exact edge.1

end Root

/-! ### The cascade is exact -/

/-- The agents that the call changes, other than the one it is about, and the
reservations that come back. -/
structure CascadeExact (scheduler : AgentScheduler) (id : AgentId) (after : AgentScheduler)
    (released : List AgentId) : Prop where
  changed : ∀ other, other ≠ id →
    (¬scheduler.SameAgent after other ↔ scheduler.LiveBelow id other)
  cancelled : ∀ other, scheduler.LiveBelow id other → ∃ old new,
    scheduler.node? other = some old ∧ after.node? other = some new ∧
      old.CancelledFrom new ∧ new.state = .cancelled ∧ new.resourcesReserved = false ∧
      other ∉ after.ready
  once : released.Nodup ∧ ∀ other, other ∈ released ↔ scheduler.LiveBelow id other
  counters : ∀ resource : Resource,
    (resource.counter after).toNat + resource.heldByAll scheduler (id :: released) =
      (resource.counter scheduler).toNat

theorem mem_released_iff {reason : StdString} {now : TimePoint} {id : AgentId}
    {before ended : AgentScheduler} {released : List AgentId} (graph : before.Graph)
    (rootEnded : before.RootEnded id ended)
    (cascades : Cascades reason now id (successorsOf ended.nodes id) ended released
      (ended.cancelDescendantsLocked id reason now)) (other : AgentId) :
    other ∈ released ↔ before.LiveBelow id other := by
  constructor
  · intro member
    exact rootEnded.liveBelow (cascades.reached (fun _ listed => listed) other member)
  · intro below
    by_contra outside
    have different : other ≠ id := fun same => graph.not_liveBelow_self (same ▸ below)
    have live := (rootEnded.live_iff different).mpr below.live
    have settled := rootEnded.settles graph reason now below
    apply live_unsettled live
    intro node found
    exact settled node ((cascades.untouched other outside).1.trans found)

private theorem cascadeExact_of_root {scheduler ended : AgentScheduler} {id : AgentId}
    (sound : scheduler.Sound) (covered : scheduler.Covered)
    (rootEnded : scheduler.RootEnded id ended) (rootReleased : scheduler.RootReleased id ended)
    (reason : StdString) (now : TimePoint) {released : List AgentId}
    (cascades : Cascades reason now id (successorsOf ended.nodes id) ended released
      (ended.cancelDescendantsLocked id reason now)) :
    scheduler.CascadeExact id (ended.cancelDescendantsLocked id reason now) released := by
  have graph := sound.graph
  have reached := mem_released_iff graph rootEnded cascades
  have cancelled : ∀ other, other ∈ released → ∃ old new,
      scheduler.node? other = some old ∧ isTerminal old.state = false ∧
        (ended.cancelDescendantsLocked id reason now).node? other = some new ∧
        old.CancelledFrom new ∧
        other ∉ (ended.cancelDescendantsLocked id reason now).ready := by
    intro other member
    have different : other ≠ id := fun same =>
      graph.not_liveBelow_self (same ▸ (reached other).mp member)
    obtain ⟨live, settled⟩ := cascades.ended other member
    rcases cascades.cancels other with ⟨same, _⟩ | ⟨old, new, found, alive, after, origin, gone⟩
    · exact absurd (fun node found => settled node (same.trans found)) (live_unsettled live)
    · exact ⟨old, new, (rootEnded.others other different).1 ▸ found, alive, after, origin, gone⟩
  refine ⟨?_, ?_, ⟨cascades.nodup, reached⟩, ?_⟩
  · intro other different
    rw [← reached other]
    constructor
    · intro moved
      by_contra outside
      obtain ⟨sameNode, sameReady⟩ := cascades.untouched other outside
      obtain ⟨rootNode, rootReady⟩ := rootEnded.others other different
      exact moved ⟨sameNode.trans rootNode, sameReady.trans rootReady⟩
    · intro member same
      obtain ⟨old, new, found, live, after, origin, _⟩ := cancelled other member
      rw [same.1, found, Option.some.injEq] at after
      rw [after, CancelledFrom_terminal origin] at live
      cases live
  · intro other below
    obtain ⟨old, new, found, _, after, origin, gone⟩ := cancelled other ((reached other).mpr below)
    obtain ⟨error, time, rfl⟩ := origin
    exact ⟨old, _, found, after, ⟨error, time, rfl⟩, rfl, rfl, gone⟩
  · intro resource
    have slack := (rootReleased.slack.trans (keepsSlack_cascade reason now ended id)) resource
      (covered resource)
    have root := rootReleased.held resource
    have below := cascades.held resource
    have same : resource.heldByAll ended released = resource.heldByAll scheduler released := by
      refine resource.heldByAll_congr fun other member => resource.heldAt_congr ?_
      refine (rootEnded.others other fun same => ?_).1
      exact graph.not_liveBelow_self (same ▸ (reached other).mp member)
    rw [resource.heldByAll_cons]
    omega

/-- In every reachable state the recursion ends, and it changes exactly the live
agents behind the one that the call is about. -/
theorem cascade_exact (history : List Operation) (id : AgentId) (operation : Operation)
    (collapses : (machine.run history).Collapses id operation) :
    ∃ reason now ended released, (machine.run history).RootEnded id ended ∧
      Cascades reason now id (successorsOf ended.nodes id) ended released
        ((machine.run history).step operation) ∧
      (machine.run history).CascadeExact id ((machine.run history).step operation) released := by
  have reached : Reachable (machine.run history) := machine.reachable_run history
  obtain ⟨reason, now, ended, rootEnded, rootReleased, result⟩ := collapses.cascade
  obtain ⟨released, cascades⟩ : ∃ released, Cascades reason now id
      (successorsOf ended.nodes id) ended released
      (ended.cancelDescendantsLocked id reason now) :=
    cascade_terminates _ ended id (Nat.lt_succ_of_le (liveCount_le_keys ended))
      (rootEnded.closed reached.sound.graph.closed)
  rw [result]
  exact ⟨reason, now, ended, released, rootEnded, cascades,
    cascadeExact_of_root reached.sound reached.covered rootEnded rootReleased reason now cascades⟩

/-- Agent 1 has completed once, which let agent 3 be dispatched, and is to be tried
again; agent 4 depends on agents 2 and 3. -/
def revivedDiamond : List Operation :=
  [ .submitBatch
      [{ id := 1, retryLimit := 1 }, { id := 2, dependencies := [1] },
        { id := 3, dependencies := [1] }, { id := 4, dependencies := [2, 3] }]
      0 IterationOrder.asStored,
    .tryDispatch { availableCpuThreads := 2 } 0 IterationOrder.asStored,
    .complete 1 0,
    .tryDispatch { availableCpuThreads := 2 } 0 IterationOrder.asStored,
    .fail 1 [] 0 ]

/-- Agents 2, 3 and 4 are cancelled, and the thread of the dispatched one comes
back. -/
theorem revivedDiamond_cancelled :
    (machine.run revivedDiamond).reservedCpuThreads = 1 ∧
      ((machine.run revivedDiamond).step (.cancel 1 0)).reservedCpuThreads = 0 ∧
      ∃ reason now ended released, (machine.run revivedDiamond).RootEnded 1 ended ∧
        Cascades reason now 1 (successorsOf ended.nodes 1) ended released
          ((machine.run revivedDiamond).step (.cancel 1 0)) ∧
        (machine.run revivedDiamond).CascadeExact 1
          ((machine.run revivedDiamond).step (.cancel 1 0)) released := by
  have collapses : (machine.run revivedDiamond).Collapses 1 (.cancel 1 0) :=
    Collapses.cancel 0 (by decide)
  exact ⟨by decide, by decide, cascade_exact revivedDiamond 1 (.cancel 1 0) collapses⟩

end AgentScheduler

end AgentNucleus.Runtime
