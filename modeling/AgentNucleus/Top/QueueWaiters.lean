/-
The threads of scheduler.c that wait in `scheduler_pick_next`.  Every call holds the lock
between two waits, so that the steps below are those of any interleaving; the kernel
chooses whom a signal wakes, and may wake a thread without one.
-/

import AgentNucleus.Library.ConditionVariables
import AgentNucleus.Top.ReadyQueue

set_option autoImplicit false

namespace AgentNucleus.Top

open AgentNucleus.Library

/-- `g_scheduler` with its statistics, and the threads that use it. -/
structure WaitingQueue where
  scheduler : AgentQueue
  threads : List Waiter
  totalSchedules : UInt64 := 0
  contextSwitches : UInt64 := 0

inductive WaitingStep
  /-- `scheduler_add_agent`, and `scheduler_yield` and `scheduler_unblock`, which call it. -/
  | add (id : UInt64) (signalled : Nat)
  /-- `scheduler_remove_agent`, and `scheduler_block`, which calls it. -/
  | remove (id : UInt64)
  | update (id : UInt64)
  | start
  | stop
  /-- A thread calls `scheduler_pick_next`. -/
  | pick (thread : Nat)
  /-- A thread that was woken has the lock again. -/
  | resume (thread : Nat)
  | spurious (thread : Nat)

namespace WaitingQueue

variable (waiting : WaitingQueue)

def schedulerAdd (id : UInt64) (signalled : Nat) : WaitingQueue :=
  if (waiting.scheduler.schedulerAddAgent id).2 then
    { waiting with
      scheduler := (waiting.scheduler.schedulerAddAgent id).1
      threads := Waiter.signal signalled waiting.threads }
  else waiting

/-- The rest of `scheduler_pick_next`, from the test of the loop on, and the id that it
returns unless the thread falls asleep. -/
def pickNext (thread : Nat) : WaitingQueue × Option UInt64 :=
  match waiting.scheduler.schedulerPickNext with
  | none => ({ waiting with threads := waiting.threads.set thread .asleep }, none)
  | some (scheduler, id) =>
      if waiting.scheduler.count = 0 then
        ({ waiting with scheduler, threads := waiting.threads.set thread .outside }, some id)
      else
        ({ waiting with
            scheduler
            threads := waiting.threads.set thread .outside
            totalSchedules := waiting.totalSchedules + 1
            contextSwitches := waiting.contextSwitches + 1 }, some id)

/-- A thread at the place `old` goes on with the test of the loop. -/
def enter (old : Waiter) (thread : Nat) : WaitingQueue × Option UInt64 :=
  if waiting.threads[thread]? = some old then waiting.pickNext thread else (waiting, none)

/-- A step, and the id that a thread leaves `scheduler_pick_next` with. -/
def perform : WaitingStep → WaitingQueue × Option UInt64
  | .add id signalled => (waiting.schedulerAdd id signalled, none)
  | .remove id =>
      ({ waiting with scheduler := (waiting.scheduler.schedulerRemoveAgent id).1 }, none)
  | .update id =>
      ({ waiting with scheduler := (waiting.scheduler.schedulerUpdateAgent id).1 }, none)
  | .start =>
      ({ waiting with
          scheduler := waiting.scheduler.schedulerStart
          threads := Waiter.broadcast waiting.threads }, none)
  | .stop =>
      ({ waiting with
          scheduler := waiting.scheduler.schedulerStop
          threads := Waiter.broadcast waiting.threads }, none)
  | .pick thread => waiting.enter .outside thread
  | .resume thread => waiting.enter .woken thread
  | .spurious thread =>
      if waiting.threads[thread]? = some .asleep then
        ({ waiting with threads := waiting.threads.set thread .woken }, none)
      else (waiting, none)

/-- The call puts the agent into the queue. -/
def adds (id : UInt64) (waiting : WaitingQueue) : WaitingStep → Bool
  | .add target _ => target == id && (waiting.scheduler.schedulerAddAgent target).2
  | _ => false

def removes (id : UInt64) (waiting : WaitingQueue) : WaitingStep → Bool
  | .remove target => target == id && (waiting.scheduler.schedulerRemoveAgent target).2
  | _ => false

/-- A thread gets the agent. -/
def hands (id : UInt64) (waiting : WaitingQueue) (step : WaitingStep) : Bool :=
  (waiting.perform step).2 == some id

/-- A thread gets any agent. -/
def handsOut (waiting : WaitingQueue) (step : WaitingStep) : Bool :=
  (waiting.perform step).2.any fun id => id != 0

end WaitingQueue

/-- After `scheduler_init`, with any number of threads. -/
def waitingMachine (initial : AgentQueue) (threads : Nat) : Machine WaitingQueue WaitingStep where
  initial := { scheduler := initial, threads := List.replicate threads .outside }
  step := fun waiting step => (waiting.perform step).1

namespace WaitingQueue

variable {waiting : WaitingQueue}

/-- What holds in every state: nobody sleeps on a stopped scheduler, and no agent waits
for a thread that sleeps without being called. -/
structure Attended (waiting : WaitingQueue) : Prop where
  sound : waiting.scheduler.Sound
  running : 0 < Waiter.sleepers waiting.threads → waiting.scheduler.running = true
  stock : Waiter.Attended waiting.scheduler.contents.length waiting.threads

/-! ### What the calls do to the list -/

section Calls

variable {scheduler : AgentQueue}

/-- The list after a call, and the answer of the call. -/
theorem perform_ready (sound : scheduler.Sound) (call : QueueCall) :
    (scheduler.step call).ready = (scheduler.ready.perform scheduler.queueSize.toNat call).1 ∧
      (scheduler.perform call).2 = (scheduler.ready.perform scheduler.queueSize.toNat call).2 :=
  ⟨congrArg Prod.fst (sound.simulates call).agrees,
    congrArg Prod.snd (sound.simulates call).agrees⟩

theorem add_contents (sound : scheduler.Sound) (id : UInt64) :
    ((scheduler.schedulerAddAgent id).2 = false ∧ (scheduler.schedulerAddAgent id).1 = scheduler) ∨
      ((scheduler.schedulerAddAgent id).2 = true ∧
        (scheduler.schedulerAddAgent id).1.contents = scheduler.contents ++ [id] ∧
        (scheduler.schedulerAddAgent id).1.running = scheduler.running) := by
  obtain ⟨list, answer⟩ := perform_ready sound (.add id)
  change (scheduler.schedulerAddAgent id).1.ready = _ at list
  change QueueAnswer.done (scheduler.schedulerAddAgent id).2 = _ at answer
  simp only [ReadyList.perform] at list answer
  split at answer
  · next refused =>
      left
      refine ⟨QueueAnswer.done.inj answer, ?_⟩
      have failed := QueueAnswer.done.inj answer
      unfold AgentQueue.schedulerAddAgent at failed ⊢
      split
      · rfl
      · next nonzero =>
          split
          · rfl
          · next room =>
              rw [if_neg nonzero, if_neg room] at failed
              cases failed
  · next accepted =>
      right
      rw [if_neg accepted] at list
      exact ⟨QueueAnswer.done.inj answer, congrArg ReadyList.agents list,
        congrArg ReadyList.running list⟩

theorem remove_contents (sound : scheduler.Sound) (id : UInt64) :
    (scheduler.schedulerRemoveAgent id).1.contents = scheduler.contents.erase id ∧
      (scheduler.schedulerRemoveAgent id).1.running = scheduler.running ∧
      (scheduler.schedulerRemoveAgent id).2 = decide (id ∈ scheduler.contents) := by
  obtain ⟨list, answer⟩ := perform_ready sound (.remove id)
  change (scheduler.schedulerRemoveAgent id).1.ready = _ at list
  change QueueAnswer.done (scheduler.schedulerRemoveAgent id).2 = _ at answer
  simp only [ReadyList.perform] at list answer
  by_cases member : id ∈ scheduler.ready.agents
  · rw [if_pos member] at list answer
    exact ⟨congrArg ReadyList.agents list, congrArg ReadyList.running list,
      (QueueAnswer.done.inj answer).trans (decide_eq_true member).symm⟩
  · rw [if_neg member] at list answer
    refine ⟨?_, congrArg ReadyList.running list,
      (QueueAnswer.done.inj answer).trans (decide_eq_false member).symm⟩
    rw [List.erase_of_not_mem (show id ∉ scheduler.contents from member)]
    exact congrArg ReadyList.agents list

theorem update_contents (sound : scheduler.Sound) (id : UInt64) :
    (scheduler.schedulerUpdateAgent id).1.contents.Perm scheduler.contents ∧
      (scheduler.schedulerUpdateAgent id).1.running = scheduler.running := by
  obtain ⟨list, _⟩ := perform_ready sound (.update id)
  change (scheduler.schedulerUpdateAgent id).1.ready = _ at list
  simp only [ReadyList.perform] at list
  by_cases member : id ∈ scheduler.ready.agents
  · rw [if_pos member] at list
    refine ⟨?_, congrArg ReadyList.running list⟩
    have front : (scheduler.schedulerUpdateAgent id).1.contents =
        id :: scheduler.ready.agents.erase id := congrArg ReadyList.agents list
    rw [front]
    exact (List.perm_cons_erase member).symm
  · rw [if_neg member] at list
    refine ⟨?_, congrArg ReadyList.running list⟩
    rw [show (scheduler.schedulerUpdateAgent id).1.contents = scheduler.contents from
      congrArg ReadyList.agents list]

/-- What a thread meets at the test of the loop. -/
inductive Picked (scheduler : AgentQueue) : Option (AgentQueue × UInt64) → Prop
  | sleeps (running : scheduler.running = true) (empty : scheduler.contents = []) :
      Picked scheduler none
  | leaves (stopped : scheduler.running = false) (empty : scheduler.contents = []) :
      Picked scheduler (some (scheduler, 0))
  | takes {after : AgentQueue} {id : UInt64} (nonzero : id ≠ 0) (sound : after.Sound)
      (first : scheduler.contents = id :: after.contents)
      (same : after.running = scheduler.running) : Picked scheduler (some (after, id))

theorem count_eq_zero_iff (scheduler : AgentQueue) :
    scheduler.count = 0 ↔ scheduler.contents = [] := by
  rw [← List.length_eq_zero_iff, AgentQueue.length_contents, ← UInt32.toNat_inj]
  rfl

theorem pick_contents (sound : scheduler.Sound) :
    Picked scheduler scheduler.schedulerPickNext := by
  obtain ⟨list, answer⟩ := perform_ready sound .pick
  have after := (sound.simulates .pick).sound
  unfold AgentQueue.step at list after
  unfold AgentQueue.perform at list answer after
  unfold AgentQueue.schedulerPickNext at list answer after ⊢
  by_cases empty : scheduler.count = 0
  · have nothing := (count_eq_zero_iff scheduler).mp empty
    rw [if_pos empty]
    cases running : scheduler.running with
    | true => exact .sleeps running nothing
    | false => exact .leaves running nothing
  · rw [if_neg empty] at list answer after ⊢
    have some_ : scheduler.contents ≠ [] := fun nothing =>
      empty ((count_eq_zero_iff scheduler).mpr nothing)
    simp only [ReadyList.perform] at list answer
    cases contents : scheduler.contents with
    | nil => exact absurd contents some_
    | cons first rest =>
        have agents : scheduler.ready.agents = first :: rest := contents
        rw [agents] at list answer
        have same : _ = first := QueueAnswer.picked.inj answer
        refine .takes ?_ after ?_ rfl
        · rw [same]
          intro zero
          apply sound.valid
          rw [contents, zero]
          exact List.mem_cons_self ..
        · rw [contents, same]
          exact congrArg (first :: ·) (congrArg ReadyList.agents list).symm

end Calls

/-! ### One step -/

/-- The sleepers are the same, and there is no more to hand out. -/
theorem Attended.quiet (attended : waiting.Attended) {scheduler : AgentQueue}
    (sound : scheduler.Sound) (running : scheduler.running = waiting.scheduler.running)
    (fewer : scheduler.contents.length ≤ waiting.scheduler.contents.length) :
    ({ waiting with scheduler } : WaitingQueue).Attended :=
  ⟨sound, fun some_ => running.trans (attended.running some_), attended.stock.fewer fewer⟩

/-- Nobody sleeps after a broadcast. -/
theorem Attended.awake {scheduler : AgentQueue} (sound : scheduler.Sound) :
    ({ waiting with
        scheduler, threads := Waiter.broadcast waiting.threads } : WaitingQueue).Attended := by
  have none_ := Waiter.sleepers_broadcast waiting.threads
  exact ⟨sound, fun some_ => absurd none_ (Nat.ne_of_gt some_),
    Waiter.Attended.of_no_sleepers none_⟩

theorem Attended.add (attended : waiting.Attended) (id : UInt64) (signalled : Nat) :
    (waiting.schedulerAdd id signalled).Attended := by
  have after := (attended.sound.simulates (.add id)).sound
  unfold schedulerAdd
  rcases add_contents attended.sound id with ⟨refused, _⟩ | ⟨accepted, contents, running⟩
  · rw [refused, if_neg Bool.false_ne_true]
    exact attended
  · rw [if_pos accepted]
    refine ⟨after, ?_, ?_⟩
    · intro some_
      rw [running]
      apply attended.running
      rcases Waiter.signal_cases signalled waiting.threads with ⟨_, same⟩ | ⟨slept, _⟩
      · rw [same] at some_
        exact some_
      · omega
    · have put := attended.stock.put signalled
      rw [contents, List.length_append]
      exact put

/-- What a thread leaves behind at the test of the loop. -/
theorem Attended.pickNext (attended : waiting.Attended) {thread : Nat} {old : Waiter}
    (place : waiting.threads[thread]? = some old) (awake : old ≠ .asleep) :
    (waiting.pickNext thread).1.Attended := by
  have slept : Waiter.sleepers (waiting.threads.set thread .outside) =
      Waiter.sleepers waiting.threads := by
    have moved := Waiter.sleepers_set .outside place
    rw [decide_eq_false awake] at moved
    exact moved
  have picked := pick_contents attended.sound
  unfold WaitingQueue.pickNext
  generalize waiting.scheduler.schedulerPickNext = result at picked
  cases picked with
  | sleeps running empty =>
      refine ⟨attended.sound, fun _ => running, ?_⟩
      rw [show waiting.scheduler.contents.length = 0 by rw [empty]; rfl]
      exact Waiter.Attended.of_empty _
  | leaves stopped empty =>
      dsimp only
      rw [if_pos ((count_eq_zero_iff _).mpr empty)]
      refine ⟨attended.sound, fun some_ => attended.running (slept ▸ some_), ?_⟩
      rw [show waiting.scheduler.contents.length = 0 by rw [empty]; rfl]
      exact Waiter.Attended.of_empty _
  | takes nonzero sound first same =>
      have some_ : ¬waiting.scheduler.count = 0 := by
        rw [count_eq_zero_iff, first]
        nofun
      dsimp only
      rw [if_neg some_]
      refine ⟨sound, fun sleeping => same.trans (attended.running (slept ▸ sleeping)), ?_⟩
      have stock := attended.stock
      rw [first] at stock
      exact stock.take place awake

theorem Attended.enter (attended : waiting.Attended) {old : Waiter} (thread : Nat)
    (awake : old ≠ .asleep) : (waiting.enter old thread).1.Attended := by
  unfold WaitingQueue.enter
  split
  · next place => exact attended.pickNext place awake
  · exact attended

theorem Attended.perform (attended : waiting.Attended) (step : WaitingStep) :
    (waiting.perform step).1.Attended := by
  cases step with
  | add id signalled => exact attended.add id signalled
  | remove id =>
      obtain ⟨contents, running, _⟩ := remove_contents attended.sound id
      apply attended.quiet (attended.sound.simulates (.remove id)).sound running
      change (waiting.scheduler.schedulerRemoveAgent id).1.contents.length ≤ _
      rw [contents]
      exact List.length_erase_le ..
  | update id =>
      obtain ⟨same, running⟩ := update_contents attended.sound id
      exact attended.quiet (attended.sound.simulates (.update id)).sound running
        (Nat.le_of_eq same.length_eq)
  | start => exact Attended.awake (attended.sound.simulates .start).sound
  | stop => exact Attended.awake (attended.sound.simulates .stop).sound
  | pick thread => exact attended.enter thread nofun
  | resume thread => exact attended.enter thread nofun
  | spurious thread =>
      change (if _ then _ else _ : WaitingQueue × Option UInt64).1.Attended
      split
      · next asleep =>
          refine ⟨attended.sound, ?_, attended.stock.spurious asleep⟩
          intro some_
          apply attended.running
          have slept := (Waiter.wake asleep).1
          omega
      · exact attended

/-! ### Where the agents are -/

/-- A thread that goes on takes what it returns. -/
theorem count_enter (attended : waiting.Attended) (old : Waiter) (thread : Nat) {id : UInt64}
    (named : id ≠ 0) :
    (waiting.enter old thread).1.scheduler.contents.count id +
        ((waiting.enter old thread).2 == some id).toNat =
      waiting.scheduler.contents.count id := by
  unfold WaitingQueue.enter
  split
  · have picked := pick_contents attended.sound
    unfold WaitingQueue.pickNext
    generalize waiting.scheduler.schedulerPickNext = result at picked
    cases picked with
    | sleeps running empty => rfl
    | leaves stopped empty =>
        have other : ((some 0 : Option UInt64) == some id) = false := by
          simpa using named.symm
        dsimp only
        rw [if_pos ((count_eq_zero_iff _).mpr empty), other]
        rfl
    | @takes after chosen nonzero sound first same =>
        have some_ : ¬waiting.scheduler.count = 0 := by
          rw [count_eq_zero_iff, first]
          nofun
        dsimp only
        rw [if_neg some_, first, List.count_cons]
        by_cases here : chosen = id
        · simp [here]
        · simp [here]
  · rfl

/-- What a step does to the number of times that an agent is queued. -/
theorem count_perform (attended : waiting.Attended) (step : WaitingStep) {id : UInt64}
    (named : id ≠ 0) :
    (waiting.perform step).1.scheduler.contents.count id + (waiting.hands id step).toNat +
        (waiting.removes id step).toNat =
      waiting.scheduler.contents.count id + (waiting.adds id step).toNat := by
  cases step with
  | add target signalled =>
      change (waiting.schedulerAdd target signalled).scheduler.contents.count id + 0 + 0 =
        _ + (target == id && (waiting.scheduler.schedulerAddAgent target).2).toNat
      unfold schedulerAdd
      rcases add_contents attended.sound target with ⟨refused, _⟩ | ⟨accepted, contents, _⟩
      · rw [refused, if_neg Bool.false_ne_true, Bool.and_false]
        rfl
      · rw [if_pos accepted, accepted, Bool.and_true, contents, List.count_append]
        by_cases here : target = id
        · simp [here]
        · simp [here]
  | remove target =>
      obtain ⟨contents, _, answer⟩ := remove_contents attended.sound target
      change (waiting.scheduler.schedulerRemoveAgent target).1.contents.count id + 0 +
        (target == id && (waiting.scheduler.schedulerRemoveAgent target).2).toNat = _ + 0
      rw [contents, answer]
      by_cases here : target = id
      · subst here
        rw [List.count_erase_self, beq_self_eq_true, Bool.true_and]
        by_cases member : target ∈ waiting.scheduler.contents
        · have positive := List.count_pos_iff.mpr member
          rw [decide_eq_true member, Bool.toNat_true]
          omega
        · rw [decide_eq_false member, List.count_eq_zero_of_not_mem member]
          rfl
      · rw [List.count_erase_of_ne (Ne.symm here), beq_eq_false_iff_ne.mpr here]
        rfl
  | update target =>
      obtain ⟨same, _⟩ := update_contents attended.sound target
      exact same.count_eq id
  | start => rfl
  | stop => rfl
  | pick thread => exact count_enter attended .outside thread named
  | resume thread => exact count_enter attended .woken thread named
  | spurious thread =>
      change (if _ then _ else _ : WaitingQueue × Option UInt64).1.scheduler.contents.count id +
        ((if _ then _ else _ : WaitingQueue × Option UInt64).2 == some id).toNat + 0 = _ + 0
      split
      · rfl
      · rfl

/-- The statistics count the agents that are handed out. -/
theorem schedules_enter (attended : waiting.Attended) (old : Waiter) (thread : Nat) :
    (waiting.enter old thread).1.totalSchedules =
        waiting.totalSchedules +
          UInt64.ofNat ((waiting.enter old thread).2.any fun id => id != 0).toNat ∧
      (waiting.enter old thread).1.contextSwitches =
        waiting.contextSwitches +
          UInt64.ofNat ((waiting.enter old thread).2.any fun id => id != 0).toNat := by
  unfold WaitingQueue.enter
  split
  · have picked := pick_contents attended.sound
    unfold WaitingQueue.pickNext
    generalize waiting.scheduler.schedulerPickNext = result at picked
    cases picked with
    | sleeps running empty => simp
    | leaves stopped empty =>
        dsimp only
        rw [if_pos ((count_eq_zero_iff _).mpr empty)]
        simp
    | @takes after chosen nonzero sound first same =>
        have some_ : ¬waiting.scheduler.count = 0 := by
          rw [count_eq_zero_iff, first]
          nofun
        have valid : (chosen != 0) = true := bne_iff_ne.mpr nonzero
        dsimp only
        rw [if_neg some_]
        simp [valid]
  · simp

theorem schedules_perform (attended : waiting.Attended) (step : WaitingStep) :
    (waiting.perform step).1.totalSchedules =
        waiting.totalSchedules + UInt64.ofNat (waiting.handsOut step).toNat ∧
      (waiting.perform step).1.contextSwitches =
        waiting.contextSwitches + UInt64.ofNat (waiting.handsOut step).toNat := by
  have still : ∀ after : WaitingQueue, after.totalSchedules = waiting.totalSchedules →
      after.contextSwitches = waiting.contextSwitches →
      after.totalSchedules = waiting.totalSchedules + UInt64.ofNat 0 ∧
        after.contextSwitches = waiting.contextSwitches + UInt64.ofNat 0 := by
    intro after schedules switches
    rw [schedules, switches]
    simp
  cases step with
  | add id signalled =>
      change (waiting.schedulerAdd id signalled).totalSchedules = _ ∧
        (waiting.schedulerAdd id signalled).contextSwitches = _
      apply still
      · unfold schedulerAdd
        split
        · rfl
        · rfl
      · unfold schedulerAdd
        split
        · rfl
        · rfl
  | remove id => exact still _ rfl rfl
  | update id => exact still _ rfl rfl
  | start => exact still _ rfl rfl
  | stop => exact still _ rfl rfl
  | pick thread => exact schedules_enter attended .outside thread
  | resume thread => exact schedules_enter attended .woken thread
  | spurious thread =>
      unfold handsOut perform
      dsimp only
      split
      · exact still _ rfl rfl
      · exact still _ rfl rfl

end WaitingQueue

/-! ### Runs -/

section Runs

variable {maxAgents : UInt32} {initial : AgentQueue}

theorem run_attended (bounded : maxAgents.toNat ≤ 2 ^ 31)
    (created : schedulerInit maxAgents = some initial) (threads : Nat)
    (steps : List WaitingStep) : ((waitingMachine initial threads).run steps).Attended := by
  obtain ⟨sound, _, _⟩ := schedulerInit_sound bounded created
  have nobody : Waiter.sleepers (List.replicate threads .outside) = 0 := by
    unfold Waiter.sleepers
    rw [List.countP_replicate]
    rfl
  apply (waitingMachine initial threads).runFrom_invariant WaitingQueue.Attended
  · intro waiting step attended
    exact attended.perform step
  · exact ⟨sound, fun some_ => absurd nobody (Nat.ne_of_gt some_),
      Waiter.Attended.of_no_sleepers nobody⟩

/-- No wake-up is lost: a thread sleeps in `scheduler_pick_next` only while the scheduler
runs and every agent in the queue has a woken thread on its way to the lock. -/
theorem no_lost_wakeup (bounded : maxAgents.toNat ≤ 2 ^ 31)
    (created : schedulerInit maxAgents = some initial) (threads : Nat)
    (steps : List WaitingStep)
    (asleep : 0 < Waiter.sleepers ((waitingMachine initial threads).run steps).threads) :
    ((waitingMachine initial threads).run steps).scheduler.running = true ∧
      ((waitingMachine initial threads).run steps).scheduler.count.toNat ≤
        Waiter.coming ((waitingMachine initial threads).run steps).threads := by
  have attended := run_attended bounded created threads steps
  refine ⟨attended.running asleep, ?_⟩
  rw [← AgentQueue.length_contents]
  exact attended.stock asleep

/-- Every agent that was put into the queue is in it, or was taken out again, or was handed
to one thread; and the statistics count what was handed out. -/
theorem agents_handed_out (bounded : maxAgents.toNat ≤ 2 ^ 31)
    (created : schedulerInit maxAgents = some initial) (threads : Nat)
    (steps : List WaitingStep) :
    (∀ id, id ≠ 0 →
      ((waitingMachine initial threads).run steps).scheduler.contents.count id +
          (waitingMachine initial threads).count (WaitingQueue.hands id)
            (waitingMachine initial threads).initial steps +
          (waitingMachine initial threads).count (WaitingQueue.removes id)
            (waitingMachine initial threads).initial steps =
        (waitingMachine initial threads).count (WaitingQueue.adds id)
          (waitingMachine initial threads).initial steps) ∧
      ((waitingMachine initial threads).run steps).totalSchedules =
        UInt64.ofNat ((waitingMachine initial threads).count WaitingQueue.handsOut
          (waitingMachine initial threads).initial steps) ∧
      ((waitingMachine initial threads).run steps).contextSwitches =
        UInt64.ofNat ((waitingMachine initial threads).count WaitingQueue.handsOut
          (waitingMachine initial threads).initial steps) := by
  induction steps using List.reverseRecOn with
  | nil =>
      refine ⟨fun id _ => ?_, rfl, rfl⟩
      obtain ⟨_, _, empty⟩ := schedulerInit_sound bounded created
      have contents : initial.contents = [] := congrArg ReadyList.agents empty
      change initial.contents.count id + 0 + 0 = 0
      rw [contents]
      rfl
  | append_singleton earlier step ih =>
      obtain ⟨counts, schedules, switches⟩ := ih
      have attended := run_attended bounded created threads earlier
      have last (event : WaitingQueue → WaitingStep → Bool) :
          (waitingMachine initial threads).count event
              (waitingMachine initial threads).initial (earlier ++ [step]) =
            (waitingMachine initial threads).count event
                (waitingMachine initial threads).initial earlier +
              (event ((waitingMachine initial threads).run earlier) step).toNat :=
        (waitingMachine initial threads).count_append event _ earlier [step]
      obtain ⟨scheduled, switched⟩ := WaitingQueue.schedules_perform attended step
      rw [(waitingMachine initial threads).run_snoc, last, UInt64.ofNat_add, ← schedules]
      refine ⟨?_, scheduled, ?_⟩
      · intro id named
        have moved := WaitingQueue.count_perform attended step named
        have before := counts id named
        rw [last, last, last]
        change ((WaitingQueue.perform _ step).1).scheduler.contents.count id + _ + _ = _
        omega
      · rw [schedules, ← switches]
        exact switched

end Runs

/-- Two threads wait; each agent wakes one of them. -/
def twoWaiters : List WaitingStep :=
  [ .start, .pick 0, .pick 1, .add 7 1, .add 8 1, .resume 1, .pick 1, .resume 0, .pick 0 ]

theorem twoWaiters_awake : ∃ initial, schedulerInit 2 = some initial ∧
    0 < Waiter.sleepers ((waitingMachine initial 2).run twoWaiters).threads ∧
    ((waitingMachine initial 2).run twoWaiters).scheduler.running = true ∧
    ((waitingMachine initial 2).run twoWaiters).scheduler.count.toNat ≤
      Waiter.coming ((waitingMachine initial 2).run twoWaiters).threads :=
  ⟨_, rfl, by decide, no_lost_wakeup
    (show (2 : UInt32).toNat ≤ 2 ^ 31 by decide) rfl 2 twoWaiters (by decide)⟩

theorem twoWaiters_handed : ∃ initial, schedulerInit 2 = some initial ∧
    (waitingMachine initial 2).count (WaitingQueue.hands 8) (waitingMachine initial 2).initial
      twoWaiters = 1 ∧
    ((waitingMachine initial 2).run twoWaiters).scheduler.contents.count 8 + 1 + 0 = 1 := by
  refine ⟨_, rfl, by decide, ?_⟩
  exact (agents_handed_out (show (2 : UInt32).toNat ≤ 2 ^ 31 by decide) rfl 2 twoWaiters).1 8
    (by decide)

end AgentNucleus.Top
