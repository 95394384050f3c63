/-
Whether a cancellation reaches the execution it is meant for.  `cancel` sets the
token first and asks the scheduler afterwards, so it is lost on an execution
that starts, or inserts its token, in between.
-/

import AgentNucleus.Runtime.CancelProtocol
import AgentNucleus.Runtime.TerminalStates

set_option autoImplicit false

namespace AgentNucleus.Runtime

open AgentNucleus.Library

/-! ### Engaged agents -/

/-- The states an agent can be in while a worker executes it. -/
def isEngaged (state : AgentState) : Bool :=
  isActive state || isTerminal state

theorem isEngaged_iff (state : AgentState) :
    isEngaged state = true ↔ isActive state = true ∨ isTerminal state = true := by
  unfold isEngaged
  rw [Bool.or_eq_true]

namespace AgentScheduler

theorem isEngaged_unqueued {state : AgentState} (engaged : isEngaged state = true) :
    isQueued state = false := by
  rcases (isEngaged_iff state).mp engaged with active | terminal
  · exact (isActive_unqueued active).1
  · exact (isTerminal_unqueued terminal).1

/-- An engaged agent stays engaged until it is woken or its failure is reported. -/
theorem Change.engaged {operation : Operation} {completing collapsing : Option AgentId}
    {id : AgentId} {old new : Node} {queued requeued : Prop}
    (change : Change operation completing collapsing id old queued requeued new)
    (coherent : old.Coherent queued) (engaged : isEngaged old.state = true)
    (asleep : operation ≠ .wake id)
    (unreported : ∀ message now, operation ≠ .fail id message now) :
    isEngaged new.state = true := by
  have outside : ¬queued := by
    rw [coherent.queue, isEngaged_unqueued engaged]
    exact Bool.false_ne_true
  cases change with
  | kept queue => exact engaged
  | linked ids queue => exact engaged
  | relabelled fitting was is => exact absurd was outside
  | reserved was gone => exact absurd was outside
  | moved moved queue =>
      rcases moved.state with same | ⟨_, active⟩
      · rw [same]
        exact engaged
      · exact (isEngaged_iff _).mpr (Or.inl active)
  | woken waking slept is => exact absurd waking asleep
  | resolved source completed queue =>
      have sleeps : ¬old.Wakes (old.spec.dependencies.count source) := by
        intro wakes
        rw [wakes.1] at engaged
        cases engaged
      rw [Node.resolve_state_of_not_wakes sleeps]
      exact engaged
  | retried message now failing left is => exact absurd failing (unreported message now)
  | released inactive queue => exact engaged
  | finished state error now ends active queue =>
      rw [Node.ended_state]
      rcases ends with ⟨rfl, _⟩ | ⟨rfl, _⟩
      · rfl
      · rfl
  | cancelled root error now collapses live gone => rfl

/-- The agent is stored and engaged. -/
def Engaged (scheduler : AgentScheduler) (id : AgentId) : Prop :=
  ∃ node, scheduler.node? id = some node ∧ isEngaged node.state = true

theorem Engaged.step {scheduler : AgentScheduler} {id : AgentId}
    (engaged : scheduler.Engaged id) (sound : scheduler.Sound) (operation : Operation)
    (asleep : operation ≠ .wake id)
    (unreported : ∀ message now, operation ≠ .fail id message now) :
    (scheduler.step operation).Engaged id := by
  obtain ⟨old, found, state⟩ := engaged
  obtain ⟨new, newFound, change⟩ := (sound.effect operation).change sound.graph id old found
  exact ⟨new, newFound,
    change.engaged (sound.coherent id old found) state asleep unreported⟩

/-- A terminal agent stays terminal until its failure is reported. -/
theorem Settled.step {scheduler : AgentScheduler} {id : AgentId}
    (settled : scheduler.Settled id) (engaged : scheduler.Engaged id) (sound : scheduler.Sound)
    (operation : Operation) (unreported : ∀ message now, operation ≠ .fail id message now) :
    (scheduler.step operation).Settled id := by
  obtain ⟨old, found, _⟩ := engaged
  obtain ⟨new, newFound, change⟩ := (sound.effect operation).change sound.graph id old found
  have terminal := settled old found
  rcases change.terminal (sound.coherent id old found) terminal with
    same | ⟨_, message, now, failing⟩
  · intro node present
    rw [newFound, Option.some.injEq] at present
    subst present
    rw [same]
    exact terminal
  · exact absurd failing (unreported message now)

/-- An agent in the queue is not engaged. -/
theorem Engaged.not_queued {scheduler : AgentScheduler} {id : AgentId}
    (engaged : scheduler.Engaged id) (sound : scheduler.Sound) : id ∉ scheduler.ready := by
  obtain ⟨node, found, state⟩ := engaged
  intro queued
  have listed := (sound.coherent id node found).queue.mp queued
  rw [isEngaged_unqueued state] at listed
  cases listed

theorem waitDispatch_some {scheduler : AgentScheduler} {resources : MemorySnapshot}
    {now : TimePoint} {order : IterationOrder AgentId} {id : AgentId}
    (chosen : (scheduler.waitDispatch resources now order).2 = some id) :
    id ∈ scheduler.ready ∧ (scheduler.waitDispatch resources now order).1.Engaged id := by
  obtain ⟨queued, node, found, state⟩ := waitDispatch_dispatched chosen
  refine ⟨queued, node, found, ?_⟩
  rw [state]
  rfl

/-- A cancellation that returns true has found a live agent and ends it. -/
theorem cancel_accepted {scheduler : AgentScheduler} {id : AgentId} {now : TimePoint}
    (accepted : (scheduler.cancel id now).2.ok = true) :
    (∃ node, scheduler.node? id = some node ∧ isTerminal node.state = false) ∧
      (scheduler.cancel id now).1.Settled id := by
  unfold cancel at accepted ⊢
  cases found : scheduler.node? id with
  | none =>
      rw [found] at accepted
      cases accepted
  | some node =>
      simp only [found] at accepted ⊢
      cases moved : transitionLocked node .cancelled with
      | error message =>
          rw [moved] at accepted
          cases accepted
      | ok next =>
          obtain ⟨live, rfl⟩ := transitionLocked_cancelled moved
          refine ⟨⟨node, rfl, live⟩, ?_⟩
          refine Settled.mono ?_ (cancelDescendants_cancels _ id _ now)
          intro ended present
          rw [node?_store_self, Option.some.injEq] at present
          subst present
          rw [release_node]
          rfl

/-- A terminal agent does not start. -/
theorem markRunning_settled {scheduler : AgentScheduler} {id : AgentId} {processId : Int64}
    {now : TimePoint} (settled : scheduler.Settled id) :
    (scheduler.markRunning id processId now).2.ok = false := by
  unfold markRunning
  cases found : scheduler.node? id with
  | none => rfl
  | some node =>
      have terminal := settled node found
      have refused : transitionAllowed node.state .running = false := by
        change (node.state == .dispatched) = false
        cases state : node.state with
        | dispatched =>
            rw [state] at terminal
            cases terminal
        | _ => rfl
      simp only [transitionLocked, refused, Bool.false_eq_true, if_false]
      rfl

end AgentScheduler

/-- The agent that a worker holds, from its dispatch to the report. -/
def Worker.agent : Worker → Option AgentId
  | .idle => none
  | .executing execution => some execution.id
  | .reporting id _ => some id

namespace AgentRuntime

/-! ### The promise and its condition -/

/-- A cancelled execution reads true from its token, and one that is not started
yet fails in `mark_running`. -/
def Honoured (runtime : AgentRuntime) : Action → Prop
  | .poll worker =>
      ∀ execution, runtime.workers worker = .executing execution →
        execution.place = .running → execution.cancelled = true →
          runtime.reads execution = true
  | .markRunning worker processId now =>
      ∀ execution, runtime.workers worker = .executing execution →
        (startedPlace execution).isSome = true → execution.cancelled = true →
          (runtime.scheduler.markRunning execution.id processId now).2.ok = false
  | _ => True

/-- An execution past `mark_running` has inserted its token, and the lookup has
found this token, unless it is set already. -/
def Informed (runtime : AgentRuntime) (found : Option TokenId) (execution : Execution) : Prop :=
  match execution.place with
  | .marked => False
  | .running => ∃ token, execution.token = some token ∧
      (found = some token ∨ runtime.tokens token = true)
  | _ => True

/-- The second half of a cancellation of a live agent meets only executions that
its first half has informed. -/
def LookupInTime (runtime : AgentRuntime) : Action → Prop
  | .cancel client _ =>
      ∀ id found, runtime.clients client = .cancelling id found →
        (∃ node, runtime.scheduler.node? id = some node ∧ isTerminal node.state = false) →
          ∀ worker execution, runtime.workers worker = .executing execution →
            execution.id = id → runtime.Informed found execution
  | _ => True

/-! ### The invariant -/

/-- What a cancelled execution has to show for it. -/
def Covered (runtime : AgentRuntime) (execution : Execution) : Prop :=
  match execution.place with
  | .entered | .armed | .launching => runtime.scheduler.Settled execution.id
  | .marked => False
  | .running => runtime.reads execution = true
  | .handling | .stopping | .refused => True

structure Consistent (runtime : AgentRuntime) : Prop where
  sound : runtime.scheduler.Sound
  held : ∀ worker id, (runtime.workers worker).agent = some id → runtime.scheduler.Engaged id
  unique : ∀ worker other id, (runtime.workers worker).agent = some id →
    (runtime.workers other).agent = some id → worker = other
  found : ∀ client id token, runtime.clients client = .cancelling id (some token) →
    token < runtime.nextToken ∧ runtime.tokens token = true
  stored : ∀ id token, runtime.cancelTokens.lookup id = some token → token < runtime.nextToken
  allocated : ∀ worker execution token, runtime.workers worker = .executing execution →
    execution.token = some token → token < runtime.nextToken
  covered : ∀ worker execution, runtime.workers worker = .executing execution →
    execution.cancelled = true → runtime.Covered execution

theorem initial_consistent : ({} : AgentRuntime).Consistent :=
  { sound := AgentScheduler.sound_initial
    held := nofun
    unique := nofun
    found := nofun
    stored := nofun
    allocated := nofun
    covered := nofun }

variable {runtime : AgentRuntime}

/-- Settled agents and set tokens are all that counts. -/
theorem Covered.mono {other : AgentRuntime} {execution : Execution}
    (covered : runtime.Covered execution)
    (settles : runtime.scheduler.Settled execution.id → other.scheduler.Settled execution.id)
    (reads : runtime.reads execution = true → other.reads execution = true) :
    other.Covered execution := by
  unfold Covered at covered ⊢
  generalize execution.place = place at covered ⊢
  cases place with
  | entered | armed | launching => exact settles covered
  | marked => exact covered
  | running => exact reads covered
  | handling | stopping | refused => trivial

/-! ### The scheduler moves -/

/-- A scheduler call that wakes nobody and reports nothing a worker holds. -/
theorem Consistent.call (consistent : runtime.Consistent)
    (operation : AgentScheduler.Operation) (asleep : ∀ id, operation ≠ .wake id)
    (unreported : ∀ id message now, operation = .fail id message now →
      ∀ worker, (runtime.workers worker).agent ≠ some id) :
    ({ runtime with scheduler := runtime.scheduler.step operation } : AgentRuntime).Consistent := by
  have foreign : ∀ worker id, (runtime.workers worker).agent = some id →
      ∀ message now, operation ≠ .fail id message now := by
    intro worker id holds message now failing
    exact unreported id message now failing worker holds
  exact
    { sound := consistent.sound.step operation
      held := by
        intro worker id holds
        exact (consistent.held worker id holds).step consistent.sound operation (asleep id)
          (foreign worker id holds)
      unique := consistent.unique
      found := consistent.found
      stored := consistent.stored
      allocated := consistent.allocated
      covered := by
        intro worker execution executes cancelled
        have holds : (runtime.workers worker).agent = some execution.id := by
          rw [executes]
          rfl
        have before := consistent.covered worker execution executes cancelled
        have settles : runtime.scheduler.Settled execution.id →
            (runtime.scheduler.step operation).Settled execution.id := fun settled =>
          settled.step (consistent.held worker _ holds) consistent.sound operation
            (foreign worker _ holds)
        exact before.mono settles fun reads => reads }

/-! ### A worker moves -/

/-- A worker goes on with an agent it holds, puts it down, or takes one that
nobody holds. -/
theorem Consistent.setWorker (consistent : runtime.Consistent) (worker : WorkerId)
    (state : Worker)
    (takes : ∀ id, state.agent = some id → (runtime.workers worker).agent = some id ∨
      runtime.scheduler.Engaged id ∧ ∀ other, (runtime.workers other).agent ≠ some id)
    (allocated : ∀ execution token, state = .executing execution →
      execution.token = some token → token < runtime.nextToken)
    (covered : ∀ execution, state = .executing execution → execution.cancelled = true →
      runtime.Covered execution) :
    (runtime.setWorker worker state).Consistent := by
  have here : (runtime.setWorker worker state).workers worker = state := by
    change Function.update runtime.workers worker state worker = _
    rw [Function.update_self]
  have there : ∀ other, other ≠ worker →
      (runtime.setWorker worker state).workers other = runtime.workers other := by
    intro other different
    change Function.update runtime.workers worker state other = _
    rw [Function.update_of_ne different]
  have alone : ∀ other id, other ≠ worker → state.agent = some id →
      (runtime.workers other).agent ≠ some id := by
    intro other id different taken holds
    rcases takes id taken with kept | ⟨_, free⟩
    · exact different (consistent.unique other worker id holds kept)
    · exact free other holds
  exact
    { sound := consistent.sound
      held := by
        intro other id holds
        by_cases same : other = worker
        · subst same
          rw [here] at holds
          rcases takes id holds with kept | ⟨engaged, _⟩
          · exact consistent.held other id kept
          · exact engaged
        · rw [there other same] at holds
          exact consistent.held other id holds
      unique := by
        intro first second id one two
        by_cases left : first = worker
        · by_cases right : second = worker
          · rw [left, right]
          · rw [left, here] at one
            rw [there second right] at two
            exact absurd two (alone second id right one)
        · by_cases right : second = worker
          · rw [there first left] at one
            rw [right, here] at two
            exact absurd one (alone first id left two)
          · rw [there first left] at one
            rw [there second right] at two
            exact consistent.unique first second id one two
      found := consistent.found
      stored := consistent.stored
      allocated := by
        intro other execution token executes given
        by_cases same : other = worker
        · rw [same, here] at executes
          exact allocated execution token executes given
        · rw [there other same] at executes
          exact consistent.allocated other execution token executes given
      covered := by
        intro other execution executes cancelled
        by_cases same : other = worker
        · rw [same, here] at executes
          exact covered execution executes cancelled
        · rw [there other same] at executes
          exact consistent.covered other execution executes cancelled }

/-- The execution of a worker changes its place alone. -/
theorem Consistent.advance (consistent : runtime.Consistent) (worker : WorkerId)
    (execution : Execution) (next : Place)
    (executes : runtime.workers worker = .executing execution)
    (covered : execution.cancelled = true → runtime.Covered { execution with place := next }) :
    (runtime.advance worker execution next).Consistent := by
  refine consistent.setWorker worker _ ?_ ?_ ?_
  · intro id same
    rw [executes]
    exact Or.inl same
  · intro moved token same given
    cases same
    exact consistent.allocated worker execution token executes given
  · intro moved same cancelled
    cases same
    exact covered cancelled

/-! ### The tokens -/

/-- New tokens may appear, and tokens may be set. -/
theorem Consistent.grow (consistent : runtime.Consistent) (tokens : TokenId → Bool)
    (next : TokenId) (more : runtime.nextToken ≤ next)
    (kept : ∀ token, token < runtime.nextToken → runtime.tokens token = true →
      tokens token = true) :
    ({ runtime with tokens := tokens, nextToken := next } : AgentRuntime).Consistent :=
  { sound := consistent.sound
    held := consistent.held
    unique := consistent.unique
    found := by
      intro client id token place
      obtain ⟨below, set⟩ := consistent.found client id token place
      exact ⟨lt_of_lt_of_le below more, kept token below set⟩
    stored := by
      intro id token present
      exact lt_of_lt_of_le (consistent.stored id token present) more
    allocated := by
      intro worker execution token executes given
      exact lt_of_lt_of_le (consistent.allocated worker execution token executes given) more
    covered := by
      intro worker execution executes cancelled
      refine (consistent.covered worker execution executes cancelled).mono id ?_
      intro set
      unfold AgentRuntime.reads at set ⊢
      cases given : execution.token with
      | none =>
          rw [given] at set
          cases set
      | some token =>
          rw [given] at set
          exact kept token (consistent.allocated worker execution token executes given) set }

theorem Consistent.setTable (consistent : runtime.Consistent)
    (table : UnorderedMap AgentId TokenId)
    (stored : ∀ id token, table.lookup id = some token → token < runtime.nextToken) :
    ({ runtime with cancelTokens := table } : AgentRuntime).Consistent :=
  { sound := consistent.sound
    held := consistent.held
    unique := consistent.unique
    found := consistent.found
    stored := stored
    allocated := consistent.allocated
    covered := consistent.covered }

theorem Consistent.setClient (consistent : runtime.Consistent) (client : ClientId)
    (state : Client)
    (found : ∀ id token, state = .cancelling id (some token) →
      token < runtime.nextToken ∧ runtime.tokens token = true) :
    ({ runtime with clients := Function.update runtime.clients client state } :
      AgentRuntime).Consistent :=
  { sound := consistent.sound
    held := consistent.held
    unique := consistent.unique
    found := by
      intro other id token place
      change Function.update runtime.clients client state other = _ at place
      by_cases same : other = client
      · subst same
        rw [Function.update_self] at place
        exact found id token place
      · rw [Function.update_of_ne same] at place
        exact consistent.found other id token place
    stored := consistent.stored
    allocated := consistent.allocated
    covered := consistent.covered }

/-! ### The steps of a worker -/

theorem Consistent.dispatch (consistent : runtime.Consistent) (worker : WorkerId)
    (resources : MemorySnapshot) (now : TimePoint) (order : IterationOrder AgentId)
    (stillRunning : Bool) :
    (runtime.dispatch worker resources now order stillRunning).Consistent := by
  have after := consistent.call (.waitDispatch resources now order) nofun nofun
  unfold AgentRuntime.dispatch
  dsimp only
  cases chosen : (runtime.scheduler.waitDispatch resources now order).2 with
  | none => exact after
  | some id =>
      obtain ⟨queued, engaged⟩ := AgentScheduler.waitDispatch_some chosen
      dsimp only
      split
      · exact after
      · split
        · refine after.setWorker worker _ ?_ ?_ ?_
          · intro other same
            cases same
            refine Or.inr ⟨engaged, ?_⟩
            intro holder holds
            exact (consistent.held holder id holds).not_queued consistent.sound queued
          · intro execution token same given
            cases same
            cases given
          · intro execution same cancelled
            cases same
            cases cancelled
        · exact after

theorem Consistent.insertToken (consistent : runtime.Consistent) (worker : WorkerId)
    (execution : Execution) (place : Place)
    (executes : runtime.workers worker = .executing execution)
    (due : armedPlace execution = some place) :
    (runtime.insertToken worker execution place).Consistent := by
  have grown := consistent.grow
    (Function.update runtime.tokens runtime.nextToken runtime.cancelRequested)
    (runtime.nextToken + 1) (Nat.le_succ _) (by
      intro token below set
      rw [Function.update_of_ne (Nat.ne_of_lt below)]
      exact set)
  have tabled := grown.setTable
    (runtime.cancelTokens.insert execution.id runtime.nextToken) (by
      intro id token present
      rw [UnorderedMap.lookup_insert_if] at present
      split at present
      · cases present
        exact Nat.lt_succ_self _
      · exact Nat.lt_succ_of_lt (consistent.stored id token present))
  refine tabled.setWorker worker _ ?_ ?_ ?_
  · intro id same
    change (runtime.workers worker).agent = some id ∨ _
    rw [executes]
    exact Or.inl same
  · intro moved token same given
    cases same
    cases given
    exact Nat.lt_succ_self _
  · intro moved same cancelled
    cases same
    have before := consistent.covered worker execution executes cancelled
    unfold armedPlace at due
    split at due
    case h_1 command entered =>
      cases due
      unfold Covered at before
      rw [entered] at before
      exact before
    case h_2 invocation marked =>
      unfold Covered at before
      rw [marked] at before
      exact before.elim
    case h_3 => cases due

/-- A cancelled execution does not get past `mark_running`. -/
theorem Consistent.markRunning_refused (consistent : runtime.Consistent) (worker : WorkerId)
    (execution : Execution) (processId : Int64) (now : TimePoint)
    (executes : runtime.workers worker = .executing execution)
    (due : (startedPlace execution).isSome = true) (cancelled : execution.cancelled = true) :
    (runtime.scheduler.markRunning execution.id processId now).2.ok = false := by
  have before := consistent.covered worker execution executes cancelled
  refine AgentScheduler.markRunning_settled ?_
  unfold startedPlace at due
  unfold Covered at before
  split at due
  case h_1 command launching =>
    rw [launching] at before
    exact before
  case h_2 invocation entered =>
    rw [entered] at before
    exact before
  case h_3 handler entered =>
    rw [entered] at before
    exact before
  case h_4 => cases due

theorem Consistent.markRunning (consistent : runtime.Consistent) (worker : WorkerId)
    (execution : Execution) (started : Place) (processId : Int64) (now : TimePoint)
    (executes : runtime.workers worker = .executing execution)
    (due : startedPlace execution = some started) :
    (runtime.markRunning worker execution started processId now).Consistent := by
  have after := consistent.call (.markRunning execution.id processId now) nofun nofun
  refine after.advance worker execution _ executes ?_
  intro cancelled
  have refused := consistent.markRunning_refused worker execution processId now executes
    (by rw [due]; rfl) cancelled
  rw [refused]
  trivial

theorem Consistent.leave (consistent : runtime.Consistent) (worker : WorkerId)
    (execution : Execution) (success : Bool)
    (executes : runtime.workers worker = .executing execution) :
    (runtime.leave worker execution success).Consistent := by
  have tabled := consistent.setTable
    (if execution.token.isSome then runtime.cancelTokens.erase execution.id
      else runtime.cancelTokens) (by
      intro id token present
      split at present
      · by_cases same : id = execution.id
        · subst same
          rw [AList.lookup_erase] at present
          cases present
        · rw [AList.lookup_erase_ne same] at present
          exact consistent.stored id token present
      · exact consistent.stored id token present)
  refine tabled.setWorker worker _ ?_ nofun nofun
  intro id same
  change (runtime.workers worker).agent = some id ∨ _
  rw [executes]
  exact Or.inl same

theorem Consistent.report (consistent : runtime.Consistent) (worker : WorkerId) (id : AgentId)
    (success : Bool) (message : StdString) (now : TimePoint)
    (reports : runtime.workers worker = .reporting id success) :
    (runtime.report worker id success message now).Consistent := by
  have down := consistent.setWorker worker .idle nofun nofun nofun
  have nobody : ∀ other, ((runtime.setWorker worker .idle).workers other).agent ≠ some id := by
    intro other holds
    change (Function.update runtime.workers worker .idle other).agent = some id at holds
    by_cases same : other = worker
    · subst same
      rw [Function.update_self] at holds
      cases holds
    · rw [Function.update_of_ne same] at holds
      refine same (consistent.unique other worker id holds ?_)
      rw [reports]
      rfl
  cases success with
  | true => exact down.call (.complete id now) nofun nofun
  | false =>
      refine down.call (.fail id message now) nofun ?_
      intro other text later same
      cases same
      exact nobody

/-! ### The steps of a client -/

theorem Consistent.setToken (consistent : runtime.Consistent) (found : Option TokenId) :
    (runtime.setToken found).Consistent := by
  cases found with
  | none => exact consistent
  | some token =>
      refine consistent.grow _ runtime.nextToken (le_refl _) ?_
      intro other below set
      by_cases same : other = token
      · subst same
        exact Function.update_self other true runtime.tokens
      · rw [Function.update_of_ne same]
        exact set

theorem Consistent.lookupAndSet (consistent : runtime.Consistent) (client : ClientId)
    (id : AgentId) : (runtime.lookupAndSet client id).Consistent := by
  refine (consistent.setToken (runtime.cancelTokens.lookup id)).setClient client _ ?_
  intro other token same
  cases found : runtime.cancelTokens.lookup id with
  | none =>
      rw [found] at same
      cases same
  | some stored =>
      rw [found] at same
      cases same
      refine ⟨consistent.stored id token found, ?_⟩
      change Function.update runtime.tokens token true token = true
      rw [Function.update_self]

theorem Worker.agent_markCancelled (id : AgentId) (worker : Worker) :
    (worker.markCancelled id).agent = worker.agent := by
  cases worker with
  | executing execution =>
      unfold Worker.markCancelled
      dsimp only
      split <;> rfl
  | _ => rfl

/-- Where a marked execution comes from. -/
theorem Worker.markCancelled_executing {id : AgentId} {worker : Worker} {execution : Execution}
    (marked : worker.markCancelled id = .executing execution) :
    ∃ before, worker = .executing before ∧ execution.token = before.token ∧
      execution.place = before.place ∧ execution.id = before.id ∧
      (execution.cancelled = true → before.cancelled = true ∨ before.id = id) := by
  cases worker with
  | idle => cases marked
  | reporting _ _ => cases marked
  | executing before =>
      unfold Worker.markCancelled at marked
      dsimp only at marked
      split at marked
      · rename_i same
        cases marked
        exact ⟨before, rfl, rfl, rfl, rfl, fun _ => Or.inr same⟩
      · cases marked
        exact ⟨execution, rfl, rfl, rfl, rfl, Or.inl⟩

/-- The second half of `cancel` keeps the invariant if the first half has
informed the executions it meets. -/
theorem Consistent.schedulerCancel (consistent : runtime.Consistent) (client : ClientId)
    (id : AgentId) (found : Option TokenId) (now : TimePoint)
    (place : runtime.clients client = .cancelling id found)
    (inTime : runtime.LookupInTime (.cancel client now)) :
    (runtime.schedulerCancel client id now).Consistent := by
  have called := (consistent.call (.cancel id now) nofun nofun).setClient client .idle nofun
  unfold AgentRuntime.schedulerCancel
  dsimp only
  cases accepted : (runtime.scheduler.cancel id now).2.ok with
  | false => exact called
  | true =>
      obtain ⟨live, settled⟩ := AgentScheduler.cancel_accepted accepted
      have informed := inTime id found place live
      rw [if_pos rfl]
      have holder : ∀ worker other,
          ((runtime.workers worker).markCancelled id).agent = some other →
            (runtime.workers worker).agent = some other := by
        intro worker other holds
        rw [Worker.agent_markCancelled] at holds
        exact holds
      exact
        { sound := called.sound
          held := fun worker other holds => called.held worker other (holder worker other holds)
          unique := fun first second other one two =>
            consistent.unique first second other (holder first other one)
              (holder second other two)
          found := called.found
          stored := called.stored
          allocated := by
            intro worker execution token executes given
            obtain ⟨before, previous, sameToken, _⟩ := Worker.markCancelled_executing executes
            rw [sameToken] at given
            exact consistent.allocated worker before token previous given
          covered := by
            intro worker execution executes cancelled
            obtain ⟨before, previous, sameToken, samePlace, sameId, cause⟩ :=
              Worker.markCancelled_executing executes
            rcases cause cancelled with earlier | target
            · have covered := called.covered worker before previous earlier
              unfold Covered AgentRuntime.reads at covered ⊢
              rw [sameToken, samePlace, sameId]
              exact covered
            · have told := informed worker before previous target
              unfold Informed at told
              unfold Covered AgentRuntime.reads
              rw [samePlace, sameToken, sameId, target]
              generalize before.place = here at told ⊢
              cases here with
              | entered | armed | launching => exact settled
              | marked => exact told
              | running =>
                  obtain ⟨token, given, same | set⟩ := told
                  · subst same
                    rw [given]
                    exact (consistent.found client id token place).2
                  · rw [given]
                    exact set
              | handling | stopping | refused => trivial }

/-! ### Runs -/

theorem Consistent.within (consistent : runtime.Consistent) (worker : WorkerId)
    (next : Execution → AgentRuntime)
    (kept : ∀ execution, runtime.workers worker = .executing execution →
      (next execution).Consistent) :
    (runtime.within worker next).Consistent := by
  unfold AgentRuntime.within
  split
  · rename_i execution executes
    exact kept execution executes
  · exact consistent

/-- Client calls wake nobody and report nothing. -/
theorem isClientCall_harmless {operation : AgentScheduler.Operation}
    (client : isClientCall operation = true) :
    (∀ id, operation ≠ .wake id) ∧ ∀ id message now, operation ≠ .fail id message now := by
  cases operation with
  | wake id => cases client
  | fail id message now => cases client
  | _ => exact ⟨nofun, nofun⟩

theorem step_consistent (action : Action) (consistent : runtime.Consistent)
    (inTime : runtime.LookupInTime action) : (runtime.step action).Consistent := by
  cases action with
  | call operation =>
      simp only [step]
      split
      · rename_i client
        obtain ⟨asleep, unreported⟩ := isClientCall_harmless client
        exact consistent.call operation asleep fun id message now failing =>
          absurd failing (unreported id message now)
      · exact consistent
  | dispatch worker resources now order stillRunning =>
      simp only [step]
      split
      · exact consistent.dispatch worker resources now order stillRunning
      · exact consistent
  | insertToken worker =>
      refine consistent.within worker _ ?_
      intro execution executes
      split
      · rename_i place due
        exact consistent.insertToken worker execution place executes due
      · exact consistent
  | launch worker =>
      refine consistent.within worker _ ?_
      intro execution executes
      split
      · rename_i armed
        refine consistent.advance worker execution _ executes ?_
        intro cancelled
        have before := consistent.covered worker execution executes cancelled
        unfold Covered at before
        rw [armed] at before
        cases runtime.reads execution with
        | true => trivial
        | false => exact before
      · exact consistent
  | markRunning worker processId now =>
      refine consistent.within worker _ ?_
      intro execution executes
      split
      · rename_i started due
        exact consistent.markRunning worker execution started processId now executes due
      · exact consistent
  | poll worker =>
      refine consistent.within worker _ ?_
      intro execution executes
      split
      · exact consistent.advance worker execution .stopping executes fun _ => trivial
      · exact consistent
  | leave worker success =>
      refine consistent.within worker _ ?_
      intro execution executes
      split
      · exact consistent.leave worker execution _ executes
      · exact consistent
  | report worker message now =>
      simp only [step]
      split
      · rename_i id success reports
        exact consistent.report worker id success message now reports
      · exact consistent
  | lookup client id =>
      simp only [step]
      split
      · exact consistent.lookupAndSet client id
      · exact consistent
  | cancel client now =>
      simp only [step]
      split
      · rename_i id found place
        exact consistent.schedulerCancel client id found now place inTime
      · exact consistent
  | request value =>
      exact
        { sound := consistent.sound
          held := consistent.held
          unique := consistent.unique
          found := consistent.found
          stored := consistent.stored
          allocated := consistent.allocated
          covered := consistent.covered }
  | setAllTokens =>
      refine consistent.grow _ runtime.nextToken (le_refl _) ?_
      intro token below set
      rw [set]
      rfl

theorem Consistent.honoured (consistent : runtime.Consistent) (action : Action) :
    runtime.Honoured action := by
  cases action with
  | poll worker =>
      intro execution executes running cancelled
      have before := consistent.covered worker execution executes cancelled
      unfold Covered at before
      rw [running] at before
      exact before
  | markRunning worker processId now =>
      intro execution executes due cancelled
      exact consistent.markRunning_refused worker execution processId now executes due cancelled
  | _ => trivial

/-- In every run in which the second half of each cancellation meets only
executions that its first half has informed, no cancellation is lost. -/
theorem cancellation_reaches_execution (actions : List Action)
    (inTime : machine.Along LookupInTime {} actions) : machine.Along Honoured {} actions :=
  inTime.of_invariant Consistent
    (fun _ action consistent guard => step_consistent action consistent guard)
    (fun _ action consistent _ => consistent.honoured action) initial_consistent

/-- A command is cancelled while it polls its token. -/
def promptCancellation : List Action :=
  [ .call (.submit { id := 1, command := [text "sleep"] } 0 .asStored),
    .dispatch 0 { availableCpuThreads := 1 } 0 .asStored true,
    .insertToken 0,
    .launch 0,
    .markRunning 0 100 0,
    .lookup 0 1,
    .cancel 0 0,
    .poll 0 ]

theorem promptCancellation_honoured : machine.Along Honoured {} promptCancellation := by
  refine cancellation_reaches_execution promptCancellation
    ⟨trivial, trivial, trivial, trivial, trivial, trivial, ?_, trivial, trivial⟩
  intro id found place live worker execution executes target
  cases worker with
  | zero =>
      cases executes
      exact ⟨0, rfl, Or.inr rfl⟩
  | succ worker => cases executes

/-! ### A cancelled invocation that keeps running -/

def generateTask : AgentTaskSpec :=
  { id := 1
    invocation := some { target := text "default", operation := text "generate" } }

/-- The client looks for the token between `mark_running` and the insertion. -/
def lateToken : List Action :=
  [ .call (.submit generateTask 0 .asStored),
    .dispatch 0 { availableCpuThreads := 1 } 0 .asStored true,
    .markRunning 0 (-1) 0,
    .lookup 0 1,
    .cancel 0 0,
    .insertToken 0 ]

theorem cancelled_invocation_reads_false :
    ¬machine.Along Honoured {} (lateToken ++ [.poll 0]) := by
  intro honoured
  have executes : (machine.runFrom {} lateToken).workers 0 =
      .executing { id := 1, kind := .invocation, place := .running, token := some 0,
                   cancelled := true } := by
    decide
  have poll := (Machine.Along.after_segment lateToken [.poll 0] honoured).1
  have set := poll _ executes rfl rfl
  revert set
  decide

end AgentRuntime

end AgentNucleus.Runtime
