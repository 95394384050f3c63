/-
The uncompleted entries of a dependency list, and how a step changes their number
and the counter that stands for it.
-/

import AgentNucleus.Runtime.SchedulerLifecycle

set_option autoImplicit false

namespace AgentNucleus.Runtime

open Library

namespace AgentScheduler

section Count

variable (scheduler : AgentScheduler)

theorem pendingIn_some {dependency : AgentId} {node : Node}
    (found : scheduler.node? dependency = some node) :
    scheduler.pendingIn dependency = true ↔ node.state ≠ .completed := by
  unfold pendingIn
  rw [found]
  exact bne_iff_ne

theorem pendingIn_eq_false_iff (dependency : AgentId) :
    scheduler.pendingIn dependency = false ↔
      ∃ node, scheduler.node? dependency = some node ∧ node.state = .completed := by
  unfold pendingIn
  cases scheduler.node? dependency with
  | none => simp
  | some node => simp

theorem pendingCount_eq_zero_iff (dependencies : List AgentId) :
    scheduler.pendingCount dependencies = 0 ↔
      ∀ dependency ∈ dependencies,
        ∃ node, scheduler.node? dependency = some node ∧ node.state = .completed := by
  unfold pendingCount
  rw [List.countP_eq_zero]
  refine forall₂_congr fun dependency _ => ?_
  rw [Bool.not_eq_true, pendingIn_eq_false_iff]

theorem pendingCount_pos_iff (dependencies : List AgentId) :
    0 < scheduler.pendingCount dependencies ↔
      ∃ dependency ∈ dependencies, scheduler.pendingIn dependency = true := by
  unfold pendingCount
  rw [List.countP_pos_iff]

theorem pendingCount_congr {left right : AgentScheduler} {dependencies : List AgentId}
    (same : ∀ dependency ∈ dependencies,
      left.pendingIn dependency = right.pendingIn dependency) :
    left.pendingCount dependencies = right.pendingCount dependencies := by
  apply List.countP_congr
  intro dependency listed
  rw [same dependency listed]

theorem pendingCount_mono {left right : AgentScheduler} {dependencies : List AgentId}
    (grows : ∀ dependency, left.pendingIn dependency = true →
      right.pendingIn dependency = true) :
    left.pendingCount dependencies ≤ right.pendingCount dependencies :=
  List.countP_mono_left fun dependency _ pending => grows dependency pending

/-- Without one pending id, the pending entries are fewer by the occurrences of
that id. -/
theorem pendingCount_without {before after : AgentScheduler} {id : AgentId}
    (pending : before.pendingIn id = true)
    (same : ∀ other, after.pendingIn other = (before.pendingIn other && other != id))
    (dependencies : List AgentId) :
    after.pendingCount dependencies + dependencies.count id =
      before.pendingCount dependencies := by
  unfold pendingCount
  induction dependencies with
  | nil => rfl
  | cons head rest ih =>
      rw [List.countP_cons, List.countP_cons, List.count_cons, same]
      by_cases here : head = id
      · subst here
        simp only [pending, bne_self_eq_false, Bool.and_false, Bool.false_eq_true, if_false,
          beq_self_eq_true, if_true]
        omega
      · have different : (head != id) = true := bne_iff_ne.mpr here
        have unequal : (head == id) = false := beq_eq_false_iff_ne.mpr here
        simp only [different, Bool.and_true, unequal, Bool.false_eq_true, if_false]
        omega

end Count

/-! ### One step -/

variable {before after : AgentScheduler} {operation : Operation}

/-- A submission makes nothing more or less pending. -/
theorem Submitted.pendingIn {tasks : List AgentTaskSpec} {now : TimePoint}
    (submitted : Submitted tasks now before after) (dependency : AgentId) :
    after.pendingIn dependency = before.pendingIn dependency := by
  unfold AgentScheduler.pendingIn
  cases known : before.node? dependency with
  | some old => rw [submitted.old dependency old known]; rfl
  | none =>
      rw [submitted.fresh dependency known]
      cases taskOf tasks dependency with
      | none => rfl
      | some task =>
          have state : (before.submittedNode tasks now task).state =
              if UInt32.ofNat (before.pendingCount task.dependencies) = 0 then .ready
              else .waitingDependency := rfl
          simp only [Option.map_some, state]
          split
          · rfl
          · rfl

/-- The operation puts a completed agent back. -/
def RetriesCompleted (scheduler : AgentScheduler) (operation : Operation) (id : AgentId) :
    Prop :=
  ∃ message now node, operation = .fail id message now ∧ scheduler.node? id = some node ∧
    node.state = .completed ∧ node.snapshot.retryCount < node.spec.retryLimit

section Change

variable {completing collapsing : Option AgentId} {id : AgentId} {old new : Node}
  {queued requeued : Prop}

/-- Only a completion enters `completed`, and only a retry leaves it. -/
theorem Change.completed_cases
    (change : Change operation completing collapsing id old queued requeued new)
    (coherent : old.Coherent queued) :
    (new.state = .completed ↔ old.state = .completed) ∨
      completing = some id ∧ new.state = .completed ∨
      old.state = .completed ∧ new.state = .ready ∧
        old.snapshot.retryCount < old.spec.retryLimit ∧
        ∃ message now, operation = .fail id message now := by
  have apart : new.state ≠ .completed → old.state ≠ .completed →
      (new.state = .completed ↔ old.state = .completed) :=
    fun left right => ⟨fun done => absurd done left, fun done => absurd done right⟩
  have queuedLive : queued → old.state ≠ .completed := by
    intro member done
    have state := coherent.queue.mp member
    rw [done] at state
    cases state
  have activeLive : isActive old.state = true → old.state ≠ .completed := by
    intro active done
    rw [done] at active
    cases active
  cases change with
  | kept queue => exact Or.inl Iff.rfl
  | linked ids queue => exact Or.inl Iff.rfl
  | relabelled fitting was is =>
      refine Or.inl (apart ?_ (queuedLive was))
      have labels := Node.relabel_state fitting ((isQueued_iff _).mp (coherent.queue.mp was))
      rcases labels with state | state
      · rw [state]
        nofun
      · rw [state]
        nofun
  | reserved was gone => exact Or.inl (apart nofun (queuedLive was))
  | moved moved queue =>
      rcases moved.state with kept | ⟨oldActive, newActive⟩
      · rw [kept]
        exact Or.inl Iff.rfl
      · refine Or.inl (apart ?_ (activeLive oldActive))
        intro done
        rw [done] at newActive
        cases newActive
  | woken waking asleep is =>
      refine Or.inl (apart nofun fun done => ?_)
      rw [done] at asleep
      rcases asleep with state | state | state
      · cases state
      · cases state
      · cases state
  | resolved source completed queue =>
      by_cases wakes : old.Wakes (old.spec.dependencies.count source)
      · refine Or.inl (apart ?_ ?_)
        · rw [Node.resolve_state_of_wakes wakes]
          nofun
        · rw [wakes.1]
          nofun
      · rw [Node.resolve_state_of_not_wakes wakes]
        exact Or.inl Iff.rfl
  | retried message now failing left is =>
      by_cases done : old.state = .completed
      · exact Or.inr (Or.inr ⟨done, rfl, left, message, now, failing⟩)
      · exact Or.inl (apart nofun done)
  | released inactive queue => exact Or.inl Iff.rfl
  | finished state error now ends active queue =>
      rcases ends with ⟨rfl, completes⟩ | ⟨rfl, _⟩
      · exact Or.inr (Or.inl ⟨completes, rfl⟩)
      · exact Or.inl (apart nofun (activeLive active))
  | cancelled root error now collapses live gone =>
      refine Or.inl (apart nofun fun done => ?_)
      rw [done] at live
      cases live

/-- A live agent was live and waits as before, unless the step resolves or retries it. -/
theorem Change.live_cases
    (change : Change operation completing collapsing id old queued requeued new)
    (coherent : old.Coherent queued) (live : isTerminal new.state = false) :
    (isTerminal old.state = false ∧
        (new.state = .waitingDependency ↔ old.state = .waitingDependency)) ∨
      (∃ source, completing = some source) ∨
      new.state = .ready ∧ old.snapshot.retryCount < old.spec.retryLimit ∧
        ∃ message now, operation = .fail id message now := by
  have apart : isTerminal old.state = false → new.state ≠ .waitingDependency →
      old.state ≠ .waitingDependency → isTerminal old.state = false ∧
        (new.state = .waitingDependency ↔ old.state = .waitingDependency) :=
    fun oldLive left right =>
      ⟨oldLive, fun waits => absurd waits left, fun waits => absurd waits right⟩
  have queuedApart : queued → isTerminal old.state = false ∧ old.state ≠ .waitingDependency := by
    intro member
    have state := coherent.queue.mp member
    refine ⟨(isQueued_inactive state).2, fun waits => ?_⟩
    rw [waits] at state
    cases state
  cases change with
  | kept queue => exact Or.inl ⟨live, Iff.rfl⟩
  | linked ids queue => exact Or.inl ⟨live, Iff.rfl⟩
  | relabelled fitting was is =>
      obtain ⟨oldLive, oldApart⟩ := queuedApart was
      refine Or.inl (apart oldLive ?_ oldApart)
      have labels := Node.relabel_state fitting ((isQueued_iff _).mp (coherent.queue.mp was))
      rcases labels with state | state
      · rw [state]
        nofun
      · rw [state]
        nofun
  | reserved was gone =>
      obtain ⟨oldLive, oldApart⟩ := queuedApart was
      exact Or.inl (apart oldLive nofun oldApart)
  | moved moved queue =>
      rcases moved.state with kept | ⟨oldActive, newActive⟩
      · rw [kept] at live ⊢
        exact Or.inl ⟨live, Iff.rfl⟩
      · refine Or.inl (apart (isActive_unqueued oldActive).2 ?_ ?_)
        · intro waits
          rw [waits] at newActive
          cases newActive
        · intro waits
          rw [waits] at oldActive
          cases oldActive
  | woken waking asleep is =>
      rcases asleep with state | state | state
      · exact Or.inl (apart (by rw [state]; rfl) nofun (by rw [state]; nofun))
      · exact Or.inl (apart (by rw [state]; rfl) nofun (by rw [state]; nofun))
      · exact Or.inl (apart (by rw [state]; rfl) nofun (by rw [state]; nofun))
  | resolved source completed queue => exact Or.inr (Or.inl ⟨source, completed⟩)
  | retried message now failing left is =>
      exact Or.inr (Or.inr ⟨rfl, left, message, now, failing⟩)
  | released inactive queue => exact Or.inl ⟨live, Iff.rfl⟩
  | finished state error now ends active queue =>
      rcases ends with ⟨rfl, _⟩ | ⟨rfl, _⟩
      · cases live
      · cases live
  | cancelled root error now collapses _ gone => cases live

/-- Only a completion lowers a counter. -/
theorem Change.unresolved
    (change : Change operation completing collapsing id old queued requeued new) :
    new.spec = old.spec ∧ (new.unresolved = old.unresolved ∨
      ∃ source, completing = some source ∧
        new = old.resolve (old.spec.dependencies.count source)) := by
  cases change with
  | kept queue => exact ⟨rfl, Or.inl rfl⟩
  | linked ids queue => exact ⟨rfl, Or.inl rfl⟩
  | relabelled fitting was is =>
      exact ⟨Node.relabel_spec old fitting, Or.inl (Node.relabel_unresolved old fitting)⟩
  | reserved was gone =>
      exact ⟨Node.relabel_spec old true, Or.inl (Node.relabel_unresolved old true)⟩
  | moved moved queue => exact ⟨moved.spec, Or.inl moved.unresolved⟩
  | woken waking asleep is => exact ⟨rfl, Or.inl rfl⟩
  | resolved source completed queue => exact ⟨rfl, Or.inr ⟨source, completed, rfl⟩⟩
  | retried message now failing left is => exact ⟨rfl, Or.inl rfl⟩
  | released inactive queue => exact ⟨rfl, Or.inl rfl⟩
  | finished state error now ends active queue => exact ⟨rfl, Or.inl rfl⟩
  | cancelled root error now collapses live gone => exact ⟨rfl, Or.inl rfl⟩

end Change

/-- What is pending changes only for a completed agent and a retried one. -/
theorem Sound.pendingIn (sound : before.Sound) (effect : Effect before operation after)
    (id : AgentId) :
    after.pendingIn id = before.pendingIn id ∨
      before.completing operation = some id ∨
      before.RetriesCompleted operation id ∧ after.pendingIn id = true := by
  cases known : before.node? id with
  | none =>
      rcases effect.skeleton with same | ⟨tasks, now, _, _, _, _, submitted⟩
      · refine Or.inl ?_
        cases found : after.node? id with
        | none =>
            unfold AgentScheduler.pendingIn
            rw [known, found]
        | some node =>
            obtain ⟨old, present, _⟩ := same.symm.forward found
            rw [known] at present
            cases present
      · exact Or.inl (submitted.pendingIn id)
  | some old =>
      obtain ⟨new, found, change⟩ := effect.change sound.graph id old known
      rcases change.completed_cases (sound.coherent id old known) with
        same | ⟨completes, _⟩ | ⟨done, state, left, message, now, failing⟩
      · refine Or.inl ?_
        rw [Bool.eq_iff_iff, pendingIn_some after found, pendingIn_some before known]
        exact not_congr same
      · exact Or.inr (Or.inl completes)
      · refine Or.inr (Or.inr ⟨⟨message, now, old, failing, known, done, left⟩, ?_⟩)
        rw [pendingIn_some after found, state]
        nofun

theorem completing_eq_some {id : AgentId} (completes : before.completing operation = some id) :
    ∃ old now, operation = .complete id now ∧ before.node? id = some old ∧
      isActive old.state = true := by
  unfold completing at completes
  split at completes
  · rename_i target now
    split at completes
    · rename_i node found
      split at completes
      · rename_i active
        cases completes
        exact ⟨node, now, rfl, found, active⟩
      · cases completes
    · cases completes
  · cases completes

/-- What a successful completion does to every agent. -/
structure Completes (before after : AgentScheduler) (id : AgentId) : Prop where
  pending : before.pendingIn id = true
  pendingIn : ∀ other, after.pendingIn other = (before.pendingIn other && other != id)
  self : ∀ old, before.node? id = some old → ∃ new, after.node? id = some new ∧
    new.state = .completed ∧ new.unresolved = old.unresolved ∧ new.spec = old.spec
  others : ∀ other, other ≠ id → after.node? other =
    (before.node? other).map fun node => node.resolve (node.spec.dependencies.count id)

private theorem Graph.completes (graph : before.Graph) {id : AgentId} {old : Node}
    (found : before.node? id = some old) (active : isActive old.state = true)
    (error : StdString) (now : TimePoint)
    (nodes : ∀ other, after.node? other =
      if other = id then some (old.ended .completed error now)
      else (before.node? other).map fun node => node.resolve (old.successors.count other)) :
    Completes before after id := by
  have pending : before.pendingIn id = true := by
    rw [pendingIn_some before found]
    intro done
    rw [done] at active
    cases active
  have self := nodes id
  rw [if_pos rfl] at self
  refine ⟨pending, ?_, ?_, ?_⟩
  · intro other
    by_cases same : other = id
    · subst same
      unfold AgentScheduler.pendingIn
      rw [self]
      simp
    · have here := nodes other
      rw [if_neg same] at here
      have different : (other != id) = true := bne_iff_ne.mpr same
      rw [different, Bool.and_true]
      unfold AgentScheduler.pendingIn
      rw [here]
      cases before.node? other with
      | none => rfl
      | some node =>
          simp only [Option.map_some]
          by_cases wakes : node.Wakes (old.successors.count other)
          · rw [Node.resolve_state_of_wakes wakes, wakes.1]
            rfl
          · rw [Node.resolve_state_of_not_wakes wakes]
  · intro previous present
    rw [found, Option.some.injEq] at present
    subst present
    exact ⟨_, self, rfl, rfl, rfl⟩
  · intro other different
    have here := nodes other
    rw [if_neg different] at here
    rw [here]
    cases known : before.node? other with
    | none => rfl
    | some node =>
        rw [Option.map_some, Option.map_some, graph.linked id old other node found known]

theorem Sound.completes (sound : before.Sound) (effect : Effect before operation after)
    {id : AgentId} (completes : before.completing operation = some id) :
    Completes before after id := by
  cases effect with
  | idle quiet =>
      rw [quiet.1] at completes
      cases completes
  | submitted tasks now order quiet offered admissible loopFree submitted =>
      rw [quiet.1] at completes
      cases completes
  | relabelled dispatches nothing =>
      cases dispatches with
      | tryDispatch _ _ _ => cases completes
      | waitDispatch _ _ _ => cases completes
  | reserved chosen old dispatches selected queued found fitting =>
      cases dispatches with
      | tryDispatch _ _ _ => cases completes
      | waitDispatch _ _ _ => cases completes
  | moved target old new quiet found moved =>
      rw [quiet.1] at completes
      cases completes
  | woken target old found asleep => cases completes
  | completed target old now found active =>
      obtain ⟨other, time, same, _⟩ := completing_eq_some completes
      cases same
      exact sound.graph.completes found active old.snapshot.error now
        (node?_completed sound.graph found old.snapshot.error now)
  | retried target old message now found left => cases completes
  | released target old message now found exhausted inactive => cases completes
  | failed target old message now found exhausted active => cases completes
  | cancelled target old now found live => cases completes

/-- Outside completions every counter stays, and what is pending stays pending. -/
structure KeepsCounters (before after : AgentScheduler) (operation : Operation) : Prop where
  unresolved : ∀ id old, before.node? id = some old →
    ∃ new, after.node? id = some new ∧ new.unresolved = old.unresolved ∧ new.spec = old.spec
  pendingIn : ∀ id, after.pendingIn id = before.pendingIn id ∨
    before.RetriesCompleted operation id ∧ after.pendingIn id = true

theorem Sound.keepsCounters (sound : before.Sound) (effect : Effect before operation after)
    (quiet : before.completing operation = none) : KeepsCounters before after operation := by
  refine ⟨?_, ?_⟩
  · intro id old found
    obtain ⟨new, newFound, change⟩ := effect.change sound.graph id old found
    obtain ⟨spec, same | ⟨source, completes, _⟩⟩ := change.unresolved
    · exact ⟨new, newFound, same, spec⟩
    · rw [quiet] at completes
      cases completes
  · intro id
    rcases sound.pendingIn effect id with same | completes | reopened
    · exact Or.inl same
    · rw [quiet] at completes
      cases completes
    · exact Or.inr reopened

theorem KeepsCounters.pendingCount_le (keeps : KeepsCounters before after operation)
    (dependencies : List AgentId) :
    before.pendingCount dependencies ≤ after.pendingCount dependencies := by
  refine pendingCount_mono fun id pending => ?_
  rcases keeps.pendingIn id with same | ⟨_, reopened⟩
  · rw [same]
    exact pending
  · exact reopened

/-- A counter never exceeds the number of uncompleted entries. -/
def CountersBounded (scheduler : AgentScheduler) : Prop :=
  ∀ id node, scheduler.node? id = some node →
    node.unresolved.toNat ≤ scheduler.pendingCount node.spec.dependencies

theorem CountersBounded.step (bounded : before.CountersBounded) (sound : before.Sound)
    (operation : Operation) : (before.step operation).CountersBounded := by
  have effect := sound.effect operation
  intro id new found
  cases known : before.node? id with
  | none =>
      obtain ⟨tasks, now, task, _, _, submitted, given, rfl⟩ :=
        effect.fresh sound.graph known found
      have same : (before.step operation).pendingCount task.dependencies =
          before.pendingCount task.dependencies :=
        pendingCount_congr fun dependency _ => submitted.pendingIn dependency
      rw [submittedNode_spec, same]
      change (UInt32.ofNat (before.pendingCount task.dependencies)).toNat ≤ _
      rw [UInt32.toNat_ofNat']
      exact Nat.mod_le _ _
  | some old =>
      have start := bounded id old known
      cases completes : before.completing operation with
      | none =>
          have keeps := sound.keepsCounters effect completes
          obtain ⟨next, nextFound, counter, spec⟩ := keeps.unresolved id old known
          rw [found, Option.some.injEq] at nextFound
          subst nextFound
          rw [counter, spec]
          exact Nat.le_trans start (keeps.pendingCount_le old.spec.dependencies)
      | some source =>
          have completed := sound.completes effect completes
          have fewer := pendingCount_without completed.pending completed.pendingIn
            old.spec.dependencies
          by_cases same : id = source
          · subst same
            obtain ⟨next, nextFound, _, counter, spec⟩ := completed.self old known
            rw [found, Option.some.injEq] at nextFound
            subst nextFound
            have own : old.spec.dependencies.count id = 0 := by
              rw [← sound.graph.linked id old id old known known]
              exact List.count_eq_zero.mpr (sound.graph.not_own_successor known)
            rw [counter, spec]
            omega
          · have next := completed.others id same
            rw [found, known, Option.map_some, Option.some.injEq] at next
            subst next
            rw [Node.resolve_spec, Node.resolve_unresolved]
            omega

theorem countersBounded_initial : ({} : AgentScheduler).CountersBounded := by
  intro id node found
  rw [node?_initial] at found
  cases found

end AgentScheduler

end AgentNucleus.Runtime
