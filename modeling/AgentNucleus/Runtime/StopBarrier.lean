/-
What `stop` waits for.  The counter is exact and within its limit in every
interleaving; it falls to zero before the last client has called `notify_all`, so a
`stop` that looks in between returns while that client still uses the server.
-/

import Mathlib.Data.List.Count
import AgentNucleus.Runtime.ServerThreads

set_option autoImplicit false

namespace AgentNucleus.Runtime

open AgentNucleus.Library

/-- A client thread after its decrement and before its notification. -/
def ServerPlace.unseen (place : ServerPlace) : Bool :=
  place == .leaving .notifying

namespace InvocationServer

/-- What one step does: to the counter, to the places that it is about, and to the
rest of the server. -/
inductive Effect (before : InvocationServer) : Action → InvocationServer → Prop where
  | idle {action : Action} : Effect before action before
  | called (entry : EntryPoint) :
      Effect before (.call entry) { before with threads := before.threads ++ [entry.place] }
  /-- No connection is taken or given back. -/
  | moved {action : Action} (thread : Nat) (old new : ServerPlace)
      (running listening ownsSocket : Bool)
      (place : before.threads[thread]? = some old) (counted : new.counted = old.counted)
      (unseen : new.unseen = false) (waits : new ≠ .unlinking) :
      Effect before action
        ({ before with
          running := running
          listening := listening
          ownsSocket := ownsSocket }.moveTo thread new)
  | restarted (thread : Nat) (answer : SystemAnswer)
      (place : before.threads[thread]? = some .exchanging) :
      Effect before (.advance thread answer)
        ({ before with running := true, stopped := false }.moveTo thread .opening)
  | counted (thread : Nat) (answer : SystemAnswer)
      (place : before.threads[thread]? = some .counting)
      (room : before.activeClients < maxConcurrentInvocationClients) :
      Effect before (.advance thread answer)
        ({ before with activeClients := before.activeClients + 1 }.moveTo thread .spawning)
  | spawned (thread : Nat) (answer : SystemAnswer)
      (place : before.threads[thread]? = some .spawning) :
      Effect before (.advance thread answer)
        ({ before with threads := before.threads ++ [ServerPlace.handling] }.moveTo thread
          .condition)
  | uncounted (thread : Nat) (answer : SystemAnswer) (old new : ServerPlace)
      (place : before.threads[thread]? = some old) (held : old.counted = true)
      (given : new.counted = false) (waits : new ≠ .unlinking) :
      Effect before (.advance thread answer)
        ({ before with activeClients := before.activeClients - 1 }.moveTo thread new)
  | notified (thread : Nat) (answer : SystemAnswer) (old new : ServerPlace)
      (place : before.threads[thread]? = some old) (awake : old ≠ .sleeping)
      (given : old.counted = false)
      (uncounted : new.counted = false) (unseen : new.unseen = false) (waits : new ≠ .unlinking) :
      Effect before (.advance thread answer) (before.notifyAll.moveTo thread new)
  /-- The wait of `stop` is over. -/
  | passed (thread : Nat) (answer : SystemAnswer)
      (place : before.threads[thread]? = some .testing) (nobody : before.activeClients = 0) :
      Effect before (.advance thread answer) (before.moveTo thread .unlinking)
  | returned (thread : Nat) (answer : SystemAnswer)
      (place : before.threads[thread]? = some .unlinking) :
      Effect before (.advance thread answer)
        ({ before with ownsSocket := false, stopped := true }.moveTo thread .finished)

section Effects

variable (server : InvocationServer) (thread : Nat) (answer : SystemAnswer)

private theorem effect_start (place : ServerPlace)
    (present : server.threads[thread]? = some place) :
    Effect server (.advance thread answer) (server.stepStart thread answer place) := by
  cases place with
  | exchanging =>
      cases runs : server.running with
      | true =>
          simp only [stepStart, runs, if_true]
          exact Effect.moved thread _ _ _ _ _ present rfl rfl nofun
      | false =>
          simp only [stepStart, runs, Bool.false_eq_true, if_false]
          exact Effect.restarted thread answer present
  | opening =>
      cases opened : answer.succeeds with
      | true =>
          simp only [stepStart, opened, if_true]
          exact Effect.moved thread _ _ _ true true present rfl rfl nofun
      | false =>
          simp only [stepStart, opened, Bool.false_eq_true, if_false]
          exact Effect.moved thread _ _ _ _ _ present rfl rfl nofun
  | resetting => exact Effect.moved thread _ _ false _ _ present rfl rfl nofun
  | _ => exact Effect.idle

private theorem effect_release (place : Release → ServerPlace) (next : ServerPlace)
    (stage : Release) (present : server.threads[thread]? = some (place stage))
    (held : ∀ stage, (place stage).counted = (stage != .notifying))
    (unseen : (place .uncounting).unseen = false) (waits : ∀ stage, place stage ≠ .unlinking)
    (awake : place .notifying ≠ .sleeping) (left : next.counted = false)
    (seen : next.unseen = false) (free : next ≠ .unlinking) :
    Effect server (.advance thread answer) (server.release thread place next stage) := by
  cases stage with
  | closing =>
      have counted : (place .uncounting).counted = (place .closing).counted := by
        rw [held, held]
        rfl
      exact Effect.moved thread _ _ _ _ _ present counted unseen (waits _)
  | uncounting =>
      exact Effect.uncounted thread answer _ _ present (held _) (held _) (waits _)
  | notifying => exact Effect.notified thread answer _ _ present awake (held _) left seen free

private theorem effect_serve (place : ServerPlace)
    (present : server.threads[thread]? = some place) :
    Effect server (.advance thread answer) (server.stepServe thread answer place) := by
  cases place with
  | entering =>
      cases opened : server.listening with
      | true =>
          simp only [stepServe, opened, if_true]
          exact Effect.moved thread _ _ _ _ _ present rfl rfl nofun
      | false =>
          simp only [stepServe, opened, Bool.false_eq_true, if_false]
          exact Effect.moved thread _ _ _ _ _ present rfl rfl nofun
  | condition =>
      cases goesOn : server.running && !answer.externalStop with
      | true =>
          simp only [stepServe, goesOn, if_true]
          exact Effect.moved thread _ _ _ _ _ present rfl rfl nofun
      | false =>
          simp only [stepServe, goesOn, Bool.false_eq_true, if_false]
          exact Effect.moved thread _ _ _ _ _ present rfl rfl nofun
  | polling =>
      cases result : answer.result with
      | _ =>
          simp only [stepServe, result]
          exact Effect.moved thread _ _ _ _ _ present rfl rfl nofun
  | accepting =>
      cases result : answer.result with
      | nothing =>
          simp only [stepServe, result]
          exact Effect.idle
      | _ =>
          simp only [stepServe, result]
          exact Effect.moved thread _ _ _ _ _ present rfl rfl nofun
  | failing =>
      cases runs : server.running with
      | true =>
          simp only [stepServe, runs, if_true]
          exact Effect.moved thread _ _ _ _ _ present rfl rfl nofun
      | false =>
          simp only [stepServe, runs, Bool.false_eq_true, if_false]
          exact Effect.moved thread _ _ _ _ _ present rfl rfl nofun
  | counting =>
      by_cases full : server.activeClients ≥ maxConcurrentInvocationClients
      · simp only [stepServe, if_pos full]
        exact Effect.moved thread _ _ _ _ _ present rfl rfl nofun
      · simp only [stepServe, if_neg full]
        exact Effect.counted thread answer present (UInt64.not_le.mp full)
  | spawning =>
      cases created : answer.succeeds with
      | true =>
          simp only [stepServe, created, if_true]
          exact Effect.spawned thread answer present
      | false =>
          simp only [stepServe, created, Bool.false_eq_true, if_false]
          exact Effect.moved thread _ _ _ _ _ present rfl rfl nofun
  | discarding stage =>
      exact effect_release server thread answer .discarding .condition stage present
        (fun _ => rfl) rfl nofun nofun rfl rfl nofun
  | _ => exact Effect.idle

private theorem effect_stop (place : ServerPlace)
    (present : server.threads[thread]? = some place) :
    Effect server (.advance thread answer) (server.stepStop thread place) := by
  cases place with
  | storing => exact Effect.moved thread _ _ false _ _ present rfl rfl nofun
  | closingListener => exact Effect.moved thread _ _ _ false _ present rfl rfl nofun
  | testing =>
      by_cases nobody : server.activeClients = 0
      · simp only [stepStop, if_pos nobody]
        exact Effect.passed thread answer present nobody
      · simp only [stepStop, if_neg nobody]
        exact Effect.moved thread _ _ _ _ _ present rfl rfl nofun
  | unlinking => exact Effect.returned thread answer present
  | _ => exact Effect.idle

private theorem effect_client (place : ServerPlace)
    (present : server.threads[thread]? = some place) :
    Effect server (.advance thread answer) (server.stepClient thread place) := by
  cases place with
  | handling => exact Effect.moved thread _ _ _ _ _ present rfl rfl nofun
  | leaving stage =>
      exact effect_release server thread answer .leaving .finished stage present
        (fun _ => rfl) rfl nofun nofun rfl rfl nofun
  | _ => exact Effect.idle

/-- Every step is one of the effects. -/
theorem step_effect (action : Action) : Effect server action (server.step action) := by
  cases action with
  | call entry => exact Effect.called entry
  | advance thread answer =>
      cases present : server.threads[thread]? with
      | none =>
          simp only [step, present]
          exact Effect.idle
      | some place =>
          simp only [step, present]
          have start := effect_start server thread answer place present
          have serve := effect_serve server thread answer place present
          have stop := effect_stop server thread answer place present
          have client := effect_client server thread answer place present
          cases place with
          | exchanging => exact start
          | opening => exact start
          | resetting => exact start
          | storing => exact stop
          | closingListener => exact stop
          | testing => exact stop
          | unlinking => exact stop
          | handling => exact client
          | leaving _ => exact client
          | sleeping => exact Effect.idle
          | finished => exact Effect.idle
          | _ => exact serve
  | wake thread =>
      by_cases asleep : server.threads[thread]? = some .sleeping
      · simp only [step, if_pos asleep]
        exact Effect.moved thread _ _ _ _ _ asleep rfl rfl nofun
      · simp only [step, if_neg asleep]
        exact Effect.idle

end Effects

/-! ### The counter -/

/-- `active_clients_` is the number of client threads that were counted and have not
given their place back. -/
structure ClientsCounted (server : InvocationServer) : Prop where
  exact : server.activeClients.toNat = server.threads.countP ServerPlace.counted
  bounded : server.activeClients ≤ maxConcurrentInvocationClients

section Counter

variable {server : InvocationServer}

theorem countP_moveTo (server : InvocationServer) {thread : Nat} {old : ServerPlace}
    (new : ServerPlace) (place : server.threads[thread]? = some old) :
    (server.moveTo thread new).threads.countP ServerPlace.counted + old.counted.toNat =
      server.threads.countP ServerPlace.counted + new.counted.toNat :=
  countP_set_place ServerPlace.counted server.threads thread old new place

theorem notifyAll_counted (server : InvocationServer) :
    server.notifyAll.threads.countP ServerPlace.counted =
      server.threads.countP ServerPlace.counted := by
  unfold notifyAll
  change (server.threads.map _).countP ServerPlace.counted = _
  rw [List.countP_map]
  apply List.countP_congr
  intro place _
  by_cases asleep : place = .sleeping
  · simp only [Function.comp_apply, asleep, if_true]
    rfl
  · simp only [Function.comp_apply, asleep, if_false]

/-- The place of a thread that is not asleep is not touched by a notification. -/
theorem notifyAll_place {thread : Nat} {place : ServerPlace}
    (present : server.threads[thread]? = some place) (awake : place ≠ .sleeping) :
    server.notifyAll.threads[thread]? = some place := by
  unfold notifyAll
  change (server.threads.map _)[thread]? = _
  rw [List.getElem?_map, present, Option.map_some, if_neg awake]

theorem ClientsCounted.append (counted : server.ClientsCounted) (place : ServerPlace)
    (uncounted : place.counted = false) :
    ClientsCounted { server with threads := server.threads ++ [place] } where
  exact := by
    rw [counted.exact]
    change _ = (server.threads ++ [place]).countP ServerPlace.counted
    rw [List.countP_append, List.countP_singleton, uncounted]
    rfl
  bounded := counted.bounded

theorem ClientsCounted.moved (counted : server.ClientsCounted) {thread : Nat}
    {old new : ServerPlace} (place : server.threads[thread]? = some old)
    (same : new.counted = old.counted) : (server.moveTo thread new).ClientsCounted where
  exact := by
    have balance := countP_moveTo server new place
    have before := counted.exact
    rw [same] at balance
    change server.activeClients.toNat = _
    omega
  bounded := counted.bounded

theorem ClientsCounted.counted (counted : server.ClientsCounted) {thread : Nat}
    (place : server.threads[thread]? = some .counting)
    (room : server.activeClients < maxConcurrentInvocationClients) :
    ({ server with activeClients := server.activeClients + 1 }.moveTo thread
      .spawning).ClientsCounted := by
  have below : server.activeClients.toNat < 64 := UInt64.lt_iff_toNat_lt.mp room
  have raised : (server.activeClients + 1).toNat = server.activeClients.toNat + 1 := by
    rw [UInt64.toNat_add]
    exact Nat.mod_eq_of_lt (by change server.activeClients.toNat + 1 < _; omega)
  refine ⟨?_, ?_⟩
  · have balance := countP_moveTo server .spawning place
    have before := counted.exact
    change (server.activeClients + 1).toNat = (server.moveTo thread .spawning).threads.countP _
    change _ + 0 = _ + 1 at balance
    omega
  · rw [UInt64.le_iff_toNat_le]
    change (server.activeClients + 1).toNat ≤ 64
    omega

theorem ClientsCounted.uncounted (counted : server.ClientsCounted) {thread : Nat}
    {old new : ServerPlace} (place : server.threads[thread]? = some old)
    (held : old.counted = true) (given : new.counted = false) :
    ({ server with activeClients := server.activeClients - 1 }.moveTo thread
      new).ClientsCounted := by
  have balance := countP_moveTo server new place
  rw [held, given] at balance
  change _ + 1 = _ + 0 at balance
  have before := counted.exact
  have bounded := UInt64.le_iff_toNat_le.mp counted.bounded
  have positive : 1 ≤ server.activeClients := by
    rw [UInt64.le_iff_toNat_le]
    change 1 ≤ server.activeClients.toNat
    omega
  have lowered : (server.activeClients - 1).toNat = server.activeClients.toNat - 1 :=
    UInt64.toNat_sub_of_le _ _ positive
  refine ⟨?_, ?_⟩
  · change (server.activeClients - 1).toNat = (server.moveTo thread new).threads.countP _
    omega
  · rw [UInt64.le_iff_toNat_le]
    change (server.activeClients - 1).toNat ≤ _
    omega

theorem ClientsCounted.spawned (counted : server.ClientsCounted) {thread : Nat}
    (place : server.threads[thread]? = some .spawning) :
    ({ server with threads := server.threads ++ [ServerPlace.handling] }.moveTo thread
      .condition).ClientsCounted where
  exact := by
    have within : thread < server.threads.length := (List.getElem?_eq_some_iff.mp place).1
    have there : (server.threads ++ [ServerPlace.handling])[thread]? = some .spawning :=
      (List.getElem?_append_left within).trans place
    have balance := countP_set_place ServerPlace.counted
      (server.threads ++ [ServerPlace.handling]) thread .spawning .condition there
    rw [List.countP_append, List.countP_singleton] at balance
    change _ + 1 = _ + 1 + 0 at balance
    have before := counted.exact
    change server.activeClients.toNat =
      ((server.threads ++ [ServerPlace.handling]).set thread .condition).countP _
    omega
  bounded := counted.bounded

theorem ClientsCounted.notified (counted : server.ClientsCounted) :
    server.notifyAll.ClientsCounted where
  exact := counted.exact.trans (notifyAll_counted server).symm
  bounded := counted.bounded

theorem ClientsCounted.step (counted : server.ClientsCounted) (action : Action) :
    (server.step action).ClientsCounted := by
  have effect := step_effect server action
  generalize server.step action = after at effect
  cases effect with
  | idle => exact counted
  | called entry =>
      apply counted.append entry.place
      cases entry with
      | _ => rfl
  | moved thread old new running listening ownsSocket place same unseen waits =>
      have others : ClientsCounted { server with
          running := running
          listening := listening
          ownsSocket := ownsSocket } := ⟨counted.exact, counted.bounded⟩
      exact others.moved place same
  | restarted thread answer place =>
      have others : ClientsCounted { server with running := true, stopped := false } :=
        ⟨counted.exact, counted.bounded⟩
      exact others.moved place rfl
  | counted thread answer place room => exact counted.counted place room
  | spawned thread answer place => exact counted.spawned place
  | uncounted thread answer old new place held given waits =>
      exact counted.uncounted place held given
  | notified thread answer old new place awake given uncounted unseen waits =>
      exact counted.notified.moved (notifyAll_place place awake) (uncounted.trans given.symm)
  | passed thread answer place nobody => exact counted.moved place rfl
  | returned thread answer place =>
      have others : ClientsCounted { server with ownsSocket := false, stopped := true } :=
        ⟨counted.exact, counted.bounded⟩
      exact others.moved place rfl

end Counter

/-! ### The barrier -/

/-- After a call of `stop` has returned, no client thread takes a step that uses the
server. -/
def StaysOut (server : InvocationServer) : Action → Prop
  | .advance thread _ =>
      server.stopped = true → ∀ place ∈ server.threads[thread]?, place.clientAccess = false
  | .call _ | .wake _ => True

/-- A `stop` that finds the counter at zero finds no client thread between its
decrement and its notification, and no connection is counted once a `stop` has found
that, until the server is started again. -/
def EndsUnobserved (server : InvocationServer) : Action → Prop
  | .advance thread _ =>
      (server.threads[thread]? = some .testing → server.activeClients = 0 →
        ∀ place ∈ server.threads, place.unseen = false) ∧
      (server.threads[thread]? = some .counting →
        server.activeClients < maxConcurrentInvocationClients →
        server.stopped = false ∧ .unlinking ∉ server.threads)
  | .call _ | .wake _ => True

instance decidableEndsUnobserved (server : InvocationServer) :
    (action : Action) → Decidable (server.EndsUnobserved action)
  | .advance _ _ => inferInstanceAs (Decidable (_ ∧ _))
  | .call _ => inferInstanceAs (Decidable True)
  | .wake _ => inferInstanceAs (Decidable True)

/-- A call of `stop` has seen that no client is left. -/
def Passed (server : InvocationServer) : Prop :=
  server.stopped = true ∨ .unlinking ∈ server.threads

/-- No client thread is left, and none is about to be created. -/
def Vacant (server : InvocationServer) : Prop :=
  ∀ place ∈ server.threads, place.counted = false ∧ place.unseen = false

structure Guarded (server : InvocationServer) : Prop where
  counted : server.ClientsCounted
  vacant : server.Passed → server.Vacant

theorem clientAccess_of_gone {place : ServerPlace} (uncounted : place.counted = false)
    (unseen : place.unseen = false) : place.clientAccess = false := by
  cases place with
  | handling => cases uncounted
  | leaving stage =>
      cases stage with
      | closing => rfl
      | uncounting => cases uncounted
      | notifying => cases unseen
  | _ => rfl

section Barrier

variable {server : InvocationServer}

theorem mem_moveTo {thread : Nat} {new place : ServerPlace}
    (member : place ∈ (server.moveTo thread new).threads) :
    place = new ∨ place ∈ server.threads :=
  (List.mem_or_eq_of_mem_set member).symm

/-- Every place of the server is the new one of a thread or one that was there. -/
theorem Vacant.moveTo (vacant : server.Vacant) (thread : Nat) {new : ServerPlace}
    (uncounted : new.counted = false) (unseen : new.unseen = false) :
    (server.moveTo thread new).Vacant := by
  intro place member
  rcases mem_moveTo member with rfl | before
  · exact ⟨uncounted, unseen⟩
  · exact vacant place before

theorem Passed.of_moveTo {thread : Nat} {new : ServerPlace}
    (passed : (server.moveTo thread new).Passed) (waits : new ≠ .unlinking) :
    server.Passed := by
  rcases passed with stopped | unlinking
  · exact Or.inl stopped
  · rcases mem_moveTo unlinking with same | before
    · exact absurd same.symm waits
    · exact Or.inr before

theorem mem_notifyAll {place : ServerPlace} (member : place ∈ server.notifyAll.threads) :
    place = .testing ∨ place ∈ server.threads := by
  obtain ⟨before, present, rfl⟩ := List.mem_map.mp member
  by_cases asleep : before = .sleeping
  · rw [if_pos asleep]
    exact Or.inl rfl
  · rw [if_neg asleep]
    exact Or.inr present

theorem Vacant.notifyAll (vacant : server.Vacant) : server.notifyAll.Vacant := by
  intro place member
  rcases mem_notifyAll member with rfl | before
  · exact ⟨rfl, rfl⟩
  · exact vacant place before

theorem Passed.of_notifyAll (passed : server.notifyAll.Passed) : server.Passed := by
  rcases passed with stopped | unlinking
  · exact Or.inl stopped
  · rcases mem_notifyAll unlinking with same | before
    · cases same
    · exact Or.inr before

/-- With the counter at zero, only a client that has not notified yet is left. -/
theorem ClientsCounted.vacant (counted : server.ClientsCounted)
    (nobody : server.activeClients = 0)
    (unseen : ∀ place ∈ server.threads, place.unseen = false) : server.Vacant := by
  have none := counted.exact
  rw [nobody] at none
  intro place member
  have gone := List.countP_eq_zero.mp none.symm place member
  exact ⟨by simpa using gone, unseen place member⟩

theorem Guarded.step (guarded : server.Guarded) (action : Action)
    (unobserved : server.EndsUnobserved action) : (server.step action).Guarded := by
  refine ⟨guarded.counted.step action, ?_⟩
  have effect := step_effect server action
  generalize server.step action = after at effect
  cases effect with
  | idle => exact guarded.vacant
  | called entry =>
      intro passed
      have before : server.Passed := by
        rcases passed with stopped | unlinking
        · exact Or.inl stopped
        · rcases List.mem_append.mp unlinking with old | new
          · exact Or.inr old
          · cases entry with
            | _ => cases List.mem_singleton.mp new
      intro place member
      rcases List.mem_append.mp member with old | new
      · exact guarded.vacant before place old
      · rw [List.mem_singleton.mp new]
        cases entry with
        | _ => exact ⟨rfl, rfl⟩
  | moved thread old new running listening ownsSocket place counted unseen waits =>
      intro passed
      have vacant := guarded.vacant (Passed.of_moveTo passed waits)
      have gone := (vacant old (List.mem_of_getElem? place)).1
      exact Vacant.moveTo vacant thread (counted.trans gone) unseen
  | restarted thread answer place =>
      intro passed
      have before : Passed { server with running := true, stopped := false } :=
        Passed.of_moveTo passed nofun
      rcases before with stopped | unlinking
      · cases stopped
      · exact Vacant.moveTo (guarded.vacant (Or.inr unlinking)) thread rfl rfl
  | counted thread answer place room =>
      intro passed
      obtain ⟨running, nobody⟩ := unobserved.2 place room
      have before : server.Passed := Passed.of_moveTo passed nofun
      rcases before with stopped | unlinking
      · rw [running] at stopped
        cases stopped
      · exact absurd unlinking nobody
  | spawned thread answer place =>
      intro passed
      have before : server.Passed := by
        have appended : Passed { server with
            threads := server.threads ++ [ServerPlace.handling] } :=
          Passed.of_moveTo passed nofun
        rcases appended with stopped | unlinking
        · exact Or.inl stopped
        · rcases List.mem_append.mp unlinking with old | new
          · exact Or.inr old
          · cases List.mem_singleton.mp new
      have gone := (guarded.vacant before _ (List.mem_of_getElem? place)).1
      cases gone
  | uncounted thread answer old new place held given waits =>
      intro passed
      have before : server.Passed := Passed.of_moveTo passed waits
      have gone := (guarded.vacant before old (List.mem_of_getElem? place)).1
      rw [held] at gone
      cases gone
  | notified thread answer old new place awake given uncounted unseen waits =>
      intro passed
      have before := Passed.of_notifyAll (Passed.of_moveTo passed waits)
      exact (guarded.vacant before).notifyAll.moveTo thread uncounted unseen
  | passed thread answer place nobody =>
      intro _
      have unseen := unobserved.1 place nobody
      exact (guarded.counted.vacant nobody unseen).moveTo thread rfl rfl
  | returned thread answer place =>
      intro _
      exact Vacant.moveTo (guarded.vacant (Or.inr (List.mem_of_getElem? place))) thread rfl rfl

theorem guarded_initial : ({} : InvocationServer).Guarded :=
  ⟨⟨rfl, by decide⟩, fun _ => nofun⟩

theorem Guarded.staysOut (guarded : server.Guarded) (action : Action) :
    server.StaysOut action := by
  cases action with
  | call _ => trivial
  | wake _ => trivial
  | advance thread _ =>
      intro stopped place present
      obtain ⟨uncounted, unseen⟩ :=
        guarded.vacant (Or.inl stopped) place (List.mem_of_getElem? present)
      exact clientAccess_of_gone uncounted unseen

end Barrier

/-- The counter is exact in every interleaving, and `stop` is a barrier in those in
which it does not look between a decrement and its notification, and nothing is
counted behind its back. -/
theorem stop_is_barrier (actions : List Action) :
    machine.Throughout ClientsCounted {} actions ∧
      (machine.Along EndsUnobserved {} actions → machine.Along StaysOut {} actions) := by
  constructor
  · exact machine.throughout_of_invariant ClientsCounted
      (fun _ action counted => counted.step action) _ actions guarded_initial.counted
  · intro unobserved
    apply Machine.Along.of_invariant Guarded _ _ guarded_initial unobserved
    · intro server action guarded held
      exact guarded.step action held
    · intro server action guarded _
      exact guarded.staysOut action

/-- The server is started and answers one client. -/
def oneClient : List Action :=
  [ .call .start, .advance 0 {}, .advance 0 {}, .call .serve, .advance 1 {}, .advance 1 {},
    .advance 1 {}, .advance 1 {}, .advance 1 {}, .advance 1 {}, .advance 2 {}, .advance 2 {},
    .advance 2 {} ]

/-- `serve` leaves its loop and runs `stop` to its end. -/
def stopServing : List Action :=
  [ .advance 1 { externalStop := true }, .advance 1 {}, .advance 1 {}, .advance 1 {},
    .advance 1 {} ]

def notifiedStop : List Action :=
  oneClient ++ .advance 2 {} :: stopServing

theorem notifiedStop_is_barrier : machine.Along StaysOut {} notifiedStop :=
  (stop_is_barrier notifiedStop).2 (by decide)

/-- `serve` has returned when the client thread notifies. -/
theorem stop_overtakes_notification :
    ¬∀ actions : List Action,
      machine.Throughout ClientsCounted {} actions ∧ machine.Along StaysOut {} actions := by
  intro always
  have late := (always (oneClient ++ stopServing ++ [.advance 2 {}])).2
  have last := (late.after_segment (oneClient ++ stopServing) _).1
  have access := last rfl (.leaving .notifying) rfl
  cases access

end InvocationServer

end AgentNucleus.Runtime
