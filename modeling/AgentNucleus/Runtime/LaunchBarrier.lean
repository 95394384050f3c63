/-
What the start barrier of `ProcessExecutor::run` guarantees in every interleaving of
workers and children, and where it can hang.  A command runs only after `on_started` has
accepted its process.  A worker whose process was refused waits for it without a kill;
the child learns of the refusal from the end of its barrier, and this end may be held
open by the children of other workers that wait in the same way.
-/

import Mathlib.Data.List.Basic
import AgentNucleus.Runtime.ProcessLaunch

set_option autoImplicit false

namespace AgentNucleus.Runtime

open AgentNucleus.Library

namespace LaunchPlace

/-- The launch that the worker is at. -/
def launch? : LaunchPlace → Option Nat
  | .idle | .opening => none
  | .piping launch | .forking launch | .abandoning launch | .closingRead launch
  | .isolating launch | .configuring launch | .admitting launch | .sending launch
  | .closingWrite launch _ | .killing launch | .awaiting launch | .supervising launch
  | .terminating launch | .reaping launch _ => some launch

/-- `start_barrier[1]` is still open. -/
def holdsWrite : LaunchPlace → Bool
  | .piping _ | .forking _ | .abandoning _ | .closingRead _ | .isolating _ | .configuring _
  | .admitting _ | .sending _ | .closingWrite _ _ => true
  | _ => false

/-- The start token was sent. -/
def hasSent : LaunchPlace → Bool
  | .closingWrite _ .supervise | .supervising _ | .terminating _ | .reaping _ true => true
  | _ => false

def hasChild : LaunchPlace → Bool
  | .idle | .opening | .piping _ | .forking _ | .abandoning _ | .closingWrite _ .leave => false
  | _ => true

def wasAccepted : LaunchPlace → Bool
  | .sending _ => true
  | _ => false

def wasRefused : LaunchPlace → Bool
  | .closingWrite _ .wait | .awaiting _ => true
  | _ => false

def hasKilled : LaunchPlace → Bool
  | .reaping _ _ => true
  | _ => false

/-- What a worker at this place knows about its launch. -/
structure Fits (place : LaunchPlace) (entry : Launch) : Prop where
  unfinished : entry.started = none
  token : entry.token = place.hasSent
  writeOpen : entry.writeOpen = place.holdsWrite
  child : entry.child.isSome = place.hasChild
  accepted : place.wasAccepted = true → entry.accepted = some true
  refused : place.wasRefused = true → entry.accepted = some false
  killed : place.hasKilled = true → (entry.child.any fun child => child.place.hasEnded) = true

end LaunchPlace

/-- The child has seen the token. -/
def ChildPlace.hasToken : ChildPlace → Bool
  | .closingOwn token => token
  | .executing | .running => true
  | .ended ran => ran
  | _ => false

/-- The child has none of its inherited descriptors any more. -/
def ChildPlace.hasLeft : ChildPlace → Bool
  | .running | .ended _ => true
  | _ => false

structure Child.Sound (child : Child) (launch : Nat) (token : Bool) : Prop where
  own : child.place ≠ .closingOther → launch ∉ child.writeEnds
  closed : child.place.hasLeft = true → child.writeEnds = []
  token : child.place.hasToken = true → token = true

structure Launch.Sound (entry : Launch) (launch : Nat) : Prop where
  accepted : entry.token = true → entry.accepted = some true
  child : ∀ child, entry.child = some child → child.Sound launch entry.token
  result : ∀ started, entry.started = some started →
    entry.token = started ∧ entry.writeOpen = false ∧
      (started = false → (entry.child.all fun child => child.place.hasEnded) = true)

/-! ### The steps of a child -/

namespace Child

variable (child : Child) (launch : Nat)

theorem sound_forked (readEnds writeEnds : List Nat) (token : Bool) :
    ({ readEnds := readEnds, writeEnds := writeEnds } : Child).Sound launch token := by
  constructor
  · intro moved
    exact absurd rfl moved
  · intro left
    cases left
  · intro seen
    cases seen

theorem hasToken_of_hasRun (place : ChildPlace) (ran : place.hasRun = true) :
    place.hasToken = true := by
  cases place with
  | running => rfl
  | ended ran' => exact ran
  | _ => cases ran

theorem Sound.leaveAt {child : Child} {launch : Nat} {token : Bool}
    (sound : child.Sound launch token) (place : ChildPlace)
    (seen : place.hasToken = true → child.place.hasToken = true) :
    (child.leaveAt place).Sound launch token where
  own := fun _ => List.not_mem_nil
  closed := fun _ => rfl
  token := fun after => sound.token (seen after)

theorem Sound.exit {child : Child} {launch : Nat} {token : Bool}
    (sound : child.Sound launch token) : child.exit.Sound launch token :=
  sound.leaveAt _ fun ran => hasToken_of_hasRun child.place ran

theorem Sound.step {child : Child} {launch : Nat} {token : Bool}
    (sound : child.Sound launch token) (writeHeld succeeds : Bool) :
    (child.step launch token writeHeld succeeds).Sound launch token := by
  unfold Child.step
  cases at_ : child.place with
  | closingOther =>
      constructor
      · intro _ member
        simpa using List.mem_filter.mp member
      · intro left
        cases left
      · intro seen
        cases seen
  | redirecting =>
      have own := sound.own (by rw [at_]; nofun)
      cases succeeds with
      | true => exact ⟨fun _ => own, fun left => (by cases left), fun seen => (by cases seen)⟩
      | false => exact sound.exit
  | grouping =>
      have own := sound.own (by rw [at_]; nofun)
      cases succeeds with
      | true => exact ⟨fun _ => own, fun left => (by cases left), fun seen => (by cases seen)⟩
      | false => exact sound.exit
  | reading =>
      have own := sound.own (by rw [at_]; nofun)
      cases token with
      | true => exact ⟨fun _ => own, fun left => (by cases left), fun _ => rfl⟩
      | false =>
          cases writeHeld with
          | true => exact sound
          | false => exact ⟨fun _ => own, fun left => (by cases left), fun seen => (by cases seen)⟩
  | closingOwn token' =>
      have own := sound.own (by rw [at_]; nofun)
      cases token' with
      | true =>
          have seen : token = true := sound.token (by rw [at_]; rfl)
          exact ⟨fun _ => own, fun left => (by cases left), fun _ => seen⟩
      | false =>
          constructor
          · exact fun _ => List.not_mem_nil
          · exact fun _ => rfl
          · intro ran
            cases ran
  | executing =>
      cases succeeds with
      | true => exact sound.leaveAt .running fun _ => by rw [at_]; rfl
      | false => exact sound.exit
  | running =>
      cases succeeds with
      | true => exact sound.exit
      | false => exact sound
  | ended ran => exact sound

/-- A child that has ended stays as it is. -/
theorem step_ended (token writeHeld succeeds : Bool) (ended : child.place.hasEnded = true) :
    child.step launch token writeHeld succeeds = child := by
  unfold Child.step
  cases at_ : child.place with
  | ended ran => rfl
  | _ => rw [at_] at ended; cases ended

theorem exit_ended : child.exit.place.hasEnded = true := rfl

end Child

/-- A change of the child that keeps it sound, and gone once it is gone. -/
theorem Launch.Sound.changeChild {entry : Launch} {launch : Nat} (kept : entry.Sound launch)
    (change : Child → Child)
    (holds : ∀ child, child.Sound launch entry.token → (change child).Sound launch entry.token)
    (gone : ∀ child, child.place.hasEnded = true → (change child).place.hasEnded = true) :
    ({ entry with child := entry.child.map change } : Launch).Sound launch := by
  refine ⟨kept.accepted, ?_, ?_⟩
  · intro child found
    obtain ⟨before, present, rfl⟩ := Option.map_eq_some_iff.mp found
    exact holds before (kept.child before present)
  · intro started finished
    obtain ⟨token, closed, ended⟩ := kept.result started finished
    refine ⟨token, closed, fun failed => ?_⟩
    have before := ended failed
    change ((entry.child.map change).all _) = true
    cases present : entry.child with
    | none => rfl
    | some child =>
        rw [present] at before
        exact gone child before

theorem LaunchPlace.Fits.changeChild {place : LaunchPlace} {entry : Launch}
    (fits : place.Fits entry) (change : Child → Child)
    (gone : ∀ child, child.place.hasEnded = true → (change child).place.hasEnded = true) :
    place.Fits { entry with child := entry.child.map change } := by
  refine ⟨fits.unfinished, fits.token, fits.writeOpen, ?_, fits.accepted, fits.refused, ?_⟩
  · change (entry.child.map change).isSome = _
    rw [Option.isSome_map]
    exact fits.child
  · intro killed
    have before := fits.killed killed
    change ((entry.child.map change).any _) = true
    cases present : entry.child with
    | none => rw [present] at before; cases before
    | some child =>
        rw [present] at before
        exact gone child before

/-! ### The steps of the system -/

namespace Launches

structure Sound (state : Launches) : Prop where
  works : ∀ (worker : Nat) (place : LaunchPlace) (launch : Nat),
    state.workers[worker]? = some place → place.launch? = some launch →
      ∃ entry, state.launches[launch]? = some entry ∧ place.Fits entry
  alone : ∀ (worker : Nat) (place : LaunchPlace) (other : Nat) (place' : LaunchPlace)
    (launch : Nat), state.workers[worker]? = some place →
      state.workers[other]? = some place' → place.launch? = some launch →
        place'.launch? = some launch → worker = other
  staffed : ∀ (launch : Nat) (entry : Launch), state.launches[launch]? = some entry →
    entry.started = none →
      ∃ (worker : Nat) (place : LaunchPlace), state.workers[worker]? = some place ∧
        place.launch? = some launch
  entries : ∀ (launch : Nat) (entry : Launch), state.launches[launch]? = some entry →
    entry.Sound launch

section Preservation

variable {state : Launches} {worker launch : Nat} {old : LaunchPlace} {entry : Launch}

theorem workers_moveTo (place : LaunchPlace) (other : Nat) (at_ : LaunchPlace)
    (found : (state.moveTo worker place).workers[other]? = some at_) :
    (other = worker ∧ at_ = place) ∨ (other ≠ worker ∧ state.workers[other]? = some at_) := by
  change (state.workers.set worker place)[other]? = some at_ at found
  rw [List.getElem?_set] at found
  by_cases same : worker = other
  · rw [if_pos same] at found
    split at found
    · cases found
      exact .inl ⟨same.symm, rfl⟩
    · cases found
  · rw [if_neg same] at found
    exact .inr ⟨fun equal => same equal.symm, found⟩

theorem getElem?_moveTo (place : LaunchPlace) (present : state.workers[worker]? = some old) :
    (state.moveTo worker place).workers[worker]? = some place := by
  have inside : worker < state.workers.length := by
    rw [List.getElem?_eq_some_iff] at present
    exact present.1
  change (state.workers.set worker place)[worker]? = some place
  rw [List.getElem?_set_self inside]

theorem getElem?_moveTo_ne (place : LaunchPlace) (other : Nat) (different : other ≠ worker) :
    (state.moveTo worker place).workers[other]? = state.workers[other]? :=
  List.getElem?_set_ne fun same => different same.symm

theorem launches_modify (change : Launch → Launch) (other : Nat) (entry : Launch)
    (found : (state.modify launch change).launches[other]? = some entry) :
    ∃ before, state.launches[other]? = some before ∧
      entry = if launch = other then change before else before := by
  change (state.launches.modify launch change)[other]? = some entry at found
  rw [List.getElem?_modify] at found
  cases present : state.launches[other]? with
  | none => rw [present] at found; cases found
  | some before =>
      rw [present] at found
      exact ⟨before, rfl, (Option.some.inj found).symm⟩

theorem getElem?_modify (change : Launch → Launch)
    (present : state.launches[launch]? = some entry) :
    (state.modify launch change).launches[launch]? = some (change entry) := by
  change (state.launches.modify launch change)[launch]? = _
  rw [List.getElem?_modify, present]
  simp

theorem getElem?_modify_ne (change : Launch → Launch) (other : Nat) (different : launch ≠ other) :
    (state.modify launch change).launches[other]? = state.launches[other]? := by
  change (state.launches.modify launch change)[other]? = _
  rw [List.getElem?_modify]
  simp [different]

theorem entry_eq {found : Launch} (present : state.launches[launch]? = some entry)
    (other : state.launches[launch]? = some found) : found = entry :=
  Option.some.inj (other.symm.trans present)

/-- A worker goes on within its launch, or leaves it with a result. -/
theorem Sound.moved (sound : state.Sound) (new : LaunchPlace) (change : Launch → Launch)
    (present : state.workers[worker]? = some old) (at_ : old.launch? = some launch)
    (known : state.launches[launch]? = some entry)
    (fits : ∀ number, new.launch? = some number → number = launch ∧ new.Fits (change entry))
    (stays : (change entry).started = none → new.launch? = some launch)
    (kept : (change entry).Sound launch) :
    ((state.modify launch change).moveTo worker new).Sound := by
  constructor
  · intro other place number found named
    change ∃ entry, (state.modify launch change).launches[number]? = some entry ∧ _
    rcases workers_moveTo new other place found with ⟨rfl, rfl⟩ | ⟨different, before⟩
    · obtain ⟨rfl, here⟩ := fits number named
      exact ⟨_, getElem?_modify change known, here⟩
    · have apart : launch ≠ number := by
        intro same
        rw [← same] at named
        exact different (sound.alone other place worker old launch before present named at_)
      obtain ⟨entry', found', fits'⟩ := sound.works other place number before named
      rw [getElem?_modify_ne change number apart]
      exact ⟨entry', found', fits'⟩
  · intro first place second place' number found found' named named'
    rcases workers_moveTo new first place found with ⟨rfl, rfl⟩ | ⟨different, before⟩
    · rcases workers_moveTo _ second place' found' with ⟨same, -⟩ | ⟨-, before'⟩
      · exact same.symm
      · obtain ⟨rfl, -⟩ := fits number named
        exact sound.alone _ old second place' number present before' at_ named'
    · rcases workers_moveTo new second place' found' with ⟨rfl, rfl⟩ | ⟨-, before'⟩
      · obtain ⟨rfl, -⟩ := fits number named'
        exact sound.alone first place _ old number before present named at_
      · exact sound.alone first place second place' number before before' named named'
  · intro number entry' found unfinished
    obtain ⟨before, found', rfl⟩ := launches_modify change number entry' found
    by_cases same : launch = number
    · rw [← same] at found'
      cases entry_eq known found'
      rw [if_pos same] at unfinished
      refine ⟨worker, new, getElem?_moveTo new present, ?_⟩
      rw [← same]
      exact stays unfinished
    · rw [if_neg same] at unfinished
      obtain ⟨other, place, at', named⟩ := sound.staffed number before found' unfinished
      have different : other ≠ worker := by
        intro equal
        rw [equal] at at'
        cases present.symm.trans at'
        exact same (Option.some.inj (at_.symm.trans named))
      exact ⟨other, place, (getElem?_moveTo_ne new other different).trans at', named⟩
  · intro number entry' found
    obtain ⟨before, found', rfl⟩ := launches_modify change number entry' found
    by_cases same : launch = number
    · rw [← same] at found' ⊢
      cases entry_eq known found'
      rw [if_pos rfl]
      exact kept
    · rw [if_neg same]
      exact sound.entries number before found'

/-- The child of a launch changes. -/
theorem Sound.childChanged (sound : state.Sound) (launch : Nat) (change : Launch → Launch)
    (same : ∀ entry, (change entry).started = entry.started)
    (fits : ∀ place : LaunchPlace, ∀ entry, place.Fits entry → place.Fits (change entry))
    (kept : ∀ entry : Launch, entry.Sound launch → (change entry).Sound launch) :
    (state.modify launch change).Sound := by
  constructor
  · intro other place number found named
    obtain ⟨entry, found', fits'⟩ := sound.works other place number found named
    by_cases equal : launch = number
    · rw [← equal] at found' ⊢
      exact ⟨_, getElem?_modify change found', fits place entry fits'⟩
    · rw [getElem?_modify_ne change number equal]
      exact ⟨entry, found', fits'⟩
  · exact sound.alone
  · intro number entry' found unfinished
    obtain ⟨before, found', rfl⟩ := launches_modify change number entry' found
    have before' : before.started = none := by
      split at unfinished
      · rw [← same]
        exact unfinished
      · exact unfinished
    exact sound.staffed number before found' before'
  · intro number entry' found
    obtain ⟨before, found', rfl⟩ := launches_modify change number entry' found
    by_cases equal : launch = number
    · rw [← equal] at found' ⊢
      rw [if_pos rfl]
      exact kept before (sound.entries launch before found')
    · rw [if_neg equal]
      exact sound.entries number before found'

/-- A worker moves outside its launches. -/
theorem Sound.outside (sound : state.Sound) (new : LaunchPlace)
    (present : state.workers[worker]? = some old) (outside : old.launch? = none)
    (stays : new.launch? = none) : (state.moveTo worker new).Sound := by
  constructor
  · intro other place number found named
    rcases workers_moveTo new other place found with ⟨-, rfl⟩ | ⟨-, before⟩
    · cases stays.symm.trans named
    · exact sound.works other place number before named
  · intro first place second place' number found found' named named'
    rcases workers_moveTo new first place found with ⟨-, rfl⟩ | ⟨-, before⟩
    · cases stays.symm.trans named
    · rcases workers_moveTo new second place' found' with ⟨-, rfl⟩ | ⟨-, before'⟩
      · cases stays.symm.trans named'
      · exact sound.alone first place second place' number before before' named named'
  · intro number entry found unfinished
    obtain ⟨other, place, at_, named⟩ := sound.staffed number entry found unfinished
    have different : other ≠ worker := by
      intro same
      rw [same] at at_
      cases present.symm.trans at_
      cases outside.symm.trans named
    exact ⟨other, place, (getElem?_moveTo_ne new other different).trans at_, named⟩
  · exact sound.entries

theorem sound_newLaunch (launch : Nat) : ({} : Launch).Sound launch where
  accepted := fun sent => by cases sent
  child := fun _ found => by cases found
  result := fun _ finished => by cases finished

/-- A worker has a new barrier. -/
theorem Sound.opened (sound : state.Sound) (present : state.workers[worker]? = some .opening) :
    ({ state with launches := state.launches ++ [({} : Launch)] }.moveTo worker
      (.piping state.launches.length)).Sound := by
  have last : (state.launches ++ [({} : Launch)])[state.launches.length]? = some {} := by simp
  have inside : ∀ (number : Nat) (entry : Launch), state.launches[number]? = some entry →
      (state.launches ++ [({} : Launch)])[number]? = some entry := by
    intro number entry found
    rw [List.getElem?_append_left (List.getElem?_eq_some_iff.mp found).1]
    exact found
  have older : ∀ (other : Nat) (place : LaunchPlace) (number : Nat),
      state.workers[other]? = some place →
      place.launch? = some number → number < state.launches.length := by
    intro other place number found named
    obtain ⟨_, found', -⟩ := sound.works other place number found named
    exact (List.getElem?_eq_some_iff.mp found').1
  constructor
  · intro other place number found named
    change ∃ entry, (state.launches ++ [({} : Launch)])[number]? = some entry ∧ _
    rcases workers_moveTo _ other place found with ⟨-, rfl⟩ | ⟨-, before⟩
    · cases named
      exact ⟨{}, last, ⟨rfl, rfl, rfl, rfl, nofun, nofun, nofun⟩⟩
    · obtain ⟨entry, found', fits⟩ := sound.works other place number before named
      exact ⟨entry, inside number entry found', fits⟩
  · intro first place second place' number found found' named named'
    rcases workers_moveTo _ first place found with ⟨rfl, rfl⟩ | ⟨-, before⟩
    · rcases workers_moveTo _ second place' found' with ⟨same, -⟩ | ⟨-, before'⟩
      · exact same.symm
      · cases named
        exact absurd (older second place' _ before' named') (Nat.lt_irrefl _)
    · rcases workers_moveTo _ second place' found' with ⟨rfl, rfl⟩ | ⟨-, before'⟩
      · cases named'
        exact absurd (older first place _ before named) (Nat.lt_irrefl _)
      · exact sound.alone first place second place' number before before' named named'
  · intro number entry found unfinished
    change (state.launches ++ [({} : Launch)])[number]? = some entry at found
    rcases Nat.lt_or_ge number state.launches.length with below | above
    · rw [List.getElem?_append_left below] at found
      obtain ⟨other, place, at_, named⟩ := sound.staffed number entry found unfinished
      have different : other ≠ worker := by
        intro same
        rw [same] at at_
        cases present.symm.trans at_
        cases named
      refine ⟨other, place, ?_, named⟩
      exact (List.getElem?_set_ne fun same => different same.symm).trans at_
    · have inside' := (List.getElem?_eq_some_iff.mp found).1
      rw [List.length_append] at inside'
      have exactly : number = state.launches.length :=
        Nat.le_antisymm (Nat.lt_succ_iff.mp inside') above
      refine ⟨worker, .piping state.launches.length, ?_, by rw [exactly]; rfl⟩
      exact List.getElem?_set_self (List.getElem?_eq_some_iff.mp present).1
  · intro number entry found
    change (state.launches ++ [({} : Launch)])[number]? = some entry at found
    rcases Nat.lt_or_ge number state.launches.length with below | above
    · rw [List.getElem?_append_left below] at found
      exact sound.entries number entry found
    · have inside' := (List.getElem?_eq_some_iff.mp found).1
      rw [List.length_append] at inside'
      have exactly : number = state.launches.length :=
        Nat.le_antisymm (Nat.lt_succ_iff.mp inside') above
      rw [exactly, last] at found
      cases found
      exact sound_newLaunch number

theorem Sound.goesOn (sound : state.Sound) (new : LaunchPlace)
    (present : state.workers[worker]? = some old) (at_ : old.launch? = some launch)
    (known : state.launches[launch]? = some entry) (stays : new.launch? = some launch)
    (fits : new.Fits entry) : (state.moveTo worker new).Sound := by
  have unchanged : state.modify launch id = state := by
    unfold modify
    rw [List.modify_id]
  rw [← unchanged]
  exact sound.moved new id present at_ known
    (fun number named => ⟨Option.some.inj (named.symm.trans stays), fits⟩) (fun _ => stays)
    (sound.entries launch entry known)

theorem modify_modify (first second : Launch → Launch) :
    (state.modify launch first).modify launch second = state.modify launch (second ∘ first) := by
  unfold modify
  rw [List.modify_modify_eq]

theorem childEnded_eq (known : state.launches[launch]? = some entry) :
    state.childEnded launch = entry.child.any fun child => child.place.hasEnded := by
  unfold childEnded childOf
  rw [known]
  rfl

theorem all_of_any (isAt : Child → Bool) (child : Option Child) (found : child.any isAt = true) :
    child.all isAt = true := by
  cases child with
  | none => rfl
  | some child => exact found

/-- A worker returns without having changed the launch otherwise. -/
theorem Sound.finish (sound : state.Sound) (started : Bool)
    (present : state.workers[worker]? = some old) (at_ : old.launch? = some launch)
    (known : state.launches[launch]? = some entry) (token : entry.token = started)
    (closed : entry.writeOpen = false)
    (ended : started = false → (entry.child.all fun child => child.place.hasEnded) = true) :
    (state.finish worker launch started).Sound := by
  have kept := sound.entries launch entry known
  refine sound.moved .idle _ present at_ known nofun nofun ⟨kept.accepted, kept.child, ?_⟩
  intro result same
  cases Option.some.inj same
  exact ⟨token, closed, ended⟩

theorem Sound.stepStart (sound : state.Sound) (answer : LaunchAnswer)
    (present : state.workers[worker]? = some old) :
    (state.stepStart worker answer old).Sound := by
  cases old with
  | opening =>
      cases opened : answer.succeeds with
      | true =>
          simp only [Launches.stepStart, opened, if_true]
          exact sound.opened present
      | false =>
          simp only [Launches.stepStart, opened, Bool.false_eq_true, if_false]
          exact sound.outside .idle present rfl rfl
  | piping launch =>
      obtain ⟨entry, known, fits⟩ := sound.works worker _ launch present rfl
      change (state.moveTo worker _).Sound
      cases answer.succeeds with
      | true =>
          exact sound.goesOn _ present rfl known rfl
            ⟨fits.unfinished, fits.token, fits.writeOpen, fits.child, nofun, nofun, nofun⟩
      | false =>
          exact sound.goesOn _ present rfl known rfl
            ⟨fits.unfinished, fits.token, fits.writeOpen, fits.child, nofun, nofun, nofun⟩
  | forking launch =>
      obtain ⟨entry, known, fits⟩ := sound.works worker _ launch present rfl
      have kept := sound.entries launch entry known
      cases forked : answer.succeeds with
      | true =>
          simp only [Launches.stepStart, forked, if_true]
          refine sound.moved _ _ present rfl known ?_ (fun _ => rfl) ⟨kept.accepted, ?_, ?_⟩
          · rintro number ⟨⟩
            exact ⟨rfl, fits.unfinished, fits.token, fits.writeOpen, rfl, nofun, nofun, nofun⟩
          · rintro child ⟨⟩
            exact Child.sound_forked launch _ _ _
          · intro started finished
            cases fits.unfinished.symm.trans finished
      | false =>
          simp only [Launches.stepStart, forked, Bool.false_eq_true, if_false]
          exact sound.goesOn _ present rfl known rfl
            ⟨fits.unfinished, fits.token, fits.writeOpen, fits.child, nofun, nofun, nofun⟩
  | abandoning launch =>
      obtain ⟨entry, known, fits⟩ := sound.works worker _ launch present rfl
      have kept := sound.entries launch entry known
      refine sound.moved _ _ present rfl known ?_ (fun _ => rfl)
        ⟨kept.accepted, kept.child, kept.result⟩
      rintro number ⟨⟩
      exact ⟨rfl, fits.unfinished, fits.token, fits.writeOpen, fits.child, nofun, nofun, nofun⟩
  | closingRead launch =>
      obtain ⟨entry, known, fits⟩ := sound.works worker _ launch present rfl
      have kept := sound.entries launch entry known
      refine sound.moved _ _ present rfl known ?_ (fun _ => rfl)
        ⟨kept.accepted, kept.child, kept.result⟩
      rintro number ⟨⟩
      exact ⟨rfl, fits.unfinished, fits.token, fits.writeOpen, fits.child, nofun, nofun, nofun⟩
  | isolating launch =>
      obtain ⟨entry, known, fits⟩ := sound.works worker _ launch present rfl
      change (state.moveTo worker _).Sound
      cases answer.succeeds with
      | true =>
          exact sound.goesOn _ present rfl known rfl
            ⟨fits.unfinished, fits.token, fits.writeOpen, fits.child, nofun, nofun, nofun⟩
      | false =>
          exact sound.goesOn _ present rfl known rfl
            ⟨fits.unfinished, fits.token, fits.writeOpen, fits.child, nofun, nofun, nofun⟩
  | configuring launch =>
      obtain ⟨entry, known, fits⟩ := sound.works worker _ launch present rfl
      change (state.moveTo worker _).Sound
      cases answer.succeeds with
      | true =>
          exact sound.goesOn _ present rfl known rfl
            ⟨fits.unfinished, fits.token, fits.writeOpen, fits.child, nofun, nofun, nofun⟩
      | false =>
          exact sound.goesOn _ present rfl known rfl
            ⟨fits.unfinished, fits.token, fits.writeOpen, fits.child, nofun, nofun, nofun⟩
  | admitting launch =>
      obtain ⟨entry, known, fits⟩ := sound.works worker _ launch present rfl
      have kept := sound.entries launch entry known
      have unsent : ¬entry.token = true := by
        rw [fits.token]
        nofun
      change ((state.modify launch _).moveTo worker _).Sound
      cases answer.succeeds with
      | true =>
          refine sound.moved _ _ present rfl known ?_ (fun _ => rfl)
            ⟨fun _ => rfl, kept.child, kept.result⟩
          rintro number ⟨⟩
          exact ⟨rfl, fits.unfinished, fits.token, fits.writeOpen, fits.child, fun _ => rfl, nofun,
            nofun⟩
      | false =>
          refine sound.moved _ _ present rfl known ?_ (fun _ => rfl)
            ⟨fun sent => absurd sent unsent, kept.child, kept.result⟩
          rintro number ⟨⟩
          exact ⟨rfl, fits.unfinished, fits.token, fits.writeOpen, fits.child, nofun, fun _ => rfl,
            nofun⟩
  | sending launch =>
      obtain ⟨entry, known, fits⟩ := sound.works worker _ launch present rfl
      have kept := sound.entries launch entry known
      cases sent : answer.succeeds && state.readHeld launch with
      | true =>
          simp only [Launches.stepStart, sent, if_true]
          refine sound.moved _ _ present rfl known ?_ (fun _ => rfl)
            ⟨fun _ => fits.accepted rfl, ?_, ?_⟩
          · rintro number ⟨⟩
            exact ⟨rfl, fits.unfinished, rfl, fits.writeOpen, fits.child, nofun, nofun, nofun⟩
          · intro child found
            have before := kept.child child found
            exact ⟨before.own, before.closed, fun _ => rfl⟩
          · intro started finished
            cases fits.unfinished.symm.trans finished
      | false =>
          simp only [Launches.stepStart, sent, Bool.false_eq_true, if_false]
          exact sound.goesOn _ present rfl known rfl
            ⟨fits.unfinished, fits.token, fits.writeOpen, fits.child, nofun, nofun, nofun⟩
  | closingWrite launch next =>
      obtain ⟨entry, known, fits⟩ := sound.works worker _ launch present rfl
      have kept := sound.entries launch entry known
      have shut : ({ entry with writeOpen := false } : Launch).Sound launch := by
        refine ⟨kept.accepted, kept.child, ?_⟩
        intro started finished
        cases fits.unfinished.symm.trans finished
      cases next with
      | leave =>
          change (((state.modify launch _).modify launch _).moveTo worker .idle).Sound
          rw [modify_modify]
          refine sound.moved .idle _ present rfl known nofun nofun ⟨shut.accepted, shut.child, ?_⟩
          intro started finished
          cases Option.some.inj finished
          refine ⟨fits.token, rfl, fun _ => ?_⟩
          have nobody : entry.child = none := Option.isNone_iff_eq_none.mp (by
            rw [← Option.not_isSome, fits.child]
            rfl)
          change (entry.child.all _) = true
          rw [nobody]
          rfl
      | kill =>
          refine sound.moved _ _ present rfl known ?_ (fun _ => rfl) shut
          rintro number ⟨⟩
          exact ⟨rfl, fits.unfinished, fits.token, rfl, fits.child, nofun, nofun, nofun⟩
      | wait =>
          refine sound.moved _ _ present rfl known ?_ (fun _ => rfl) shut
          rintro number ⟨⟩
          exact ⟨rfl, fits.unfinished, fits.token, rfl, fits.child, nofun, fits.refused, nofun⟩
      | supervise =>
          refine sound.moved _ _ present rfl known ?_ (fun _ => rfl) shut
          rintro number ⟨⟩
          exact ⟨rfl, fits.unfinished, fits.token, rfl, fits.child, nofun, nofun, nofun⟩
  | _ => exact sound

theorem Sound.kill (sound : state.Sound) (launch : Nat) : (state.kill launch).Sound :=
  sound.childChanged launch _ (fun _ => rfl)
    (fun _ _ fits => fits.changeChild Child.exit fun child _ => child.exit_ended)
    (fun _ kept => kept.changeChild Child.exit (fun _ before => before.exit)
      fun child _ => child.exit_ended)

theorem Sound.stepChild (sound : state.Sound) (launch : Nat) (succeeds : Bool) :
    (state.stepChild launch succeeds).Sound := by
  have stays : ∀ (token : Bool) (child : Child), child.place.hasEnded = true →
      (child.step launch token (state.writeHeld launch) succeeds).place.hasEnded = true := by
    intro token child ended
    rw [child.step_ended launch token _ succeeds ended]
    exact ended
  exact sound.childChanged launch _ (fun _ => rfl)
    (fun _ entry fits => fits.changeChild _ (stays entry.token))
    (fun entry kept => kept.changeChild _ (fun _ before => before.step _ succeeds)
      (stays entry.token))

/-- The worker has killed its child. -/
theorem Sound.killedBy (sound : state.Sound) (started : Bool)
    (present : state.workers[worker]? = some old) (at_ : old.launch? = some launch)
    (known : state.launches[launch]? = some entry) (fits : old.Fits entry)
    (forked : old.hasChild = true) (closed : old.holdsWrite = false)
    (sent : old.hasSent = (LaunchPlace.reaping launch started).hasSent) :
    ((state.kill launch).moveTo worker (.reaping launch started)).Sound := by
  have kept := sound.entries launch entry known
  refine sound.moved _ _ present at_ known ?_ (fun _ => rfl)
    (kept.changeChild Child.exit (fun _ before => before.exit) fun child _ => child.exit_ended)
  rintro number ⟨⟩
  have some_ : entry.child.isSome = true := fits.child.trans forked
  obtain ⟨child, found⟩ := Option.isSome_iff_exists.mp some_
  refine ⟨rfl, fits.unfinished, fits.token.trans sent, fits.writeOpen.trans closed, ?_, nofun,
    nofun, fun _ => ?_⟩
  · change (entry.child.map Child.exit).isSome = true
    rw [found]
    rfl
  · change ((entry.child.map Child.exit).any _) = true
    rw [found]
    rfl

theorem Sound.stepWait (sound : state.Sound) (answer : LaunchAnswer)
    (present : state.workers[worker]? = some old) :
    (state.stepWait worker answer old).Sound := by
  cases old with
  | killing launch =>
      obtain ⟨entry, known, fits⟩ := sound.works worker _ launch present rfl
      exact sound.killedBy false present rfl known fits rfl rfl rfl
  | awaiting launch =>
      obtain ⟨entry, known, fits⟩ := sound.works worker _ launch present rfl
      cases ended : state.childEnded launch with
      | true =>
          simp only [Launches.stepWait, ended, if_true]
          rw [childEnded_eq known] at ended
          exact sound.finish false present rfl known fits.token fits.writeOpen
            fun _ => all_of_any _ _ ended
      | false =>
          simp only [Launches.stepWait, ended, Bool.false_eq_true, if_false]
          exact sound
  | supervising launch =>
      obtain ⟨entry, known, fits⟩ := sound.works worker _ launch present rfl
      have leaves : (state.finish worker launch true).Sound :=
        sound.finish true present rfl known fits.token fits.writeOpen nofun
      cases ended : state.childEnded launch with
      | true =>
          simp only [Launches.stepWait, ended, if_true]
          exact leaves
      | false =>
          simp only [Launches.stepWait, ended, Bool.false_eq_true, if_false]
          cases answer.supervision with
          | nothing => exact sound
          | failed => exact leaves
          | cancelledOrExpired =>
              exact sound.goesOn _ present rfl known rfl
                ⟨fits.unfinished, fits.token, fits.writeOpen, fits.child, nofun, nofun, nofun⟩
  | terminating launch =>
      obtain ⟨entry, known, fits⟩ := sound.works worker _ launch present rfl
      exact sound.killedBy true present rfl known fits rfl rfl rfl
  | reaping launch started =>
      obtain ⟨entry, known, fits⟩ := sound.works worker _ launch present rfl
      cases ended : state.childEnded launch with
      | true =>
          simp only [Launches.stepWait, ended, if_true]
          rw [childEnded_eq known] at ended
          have token : entry.token = started := by
            rw [fits.token]
            cases started <;> rfl
          exact sound.finish started present rfl known token fits.writeOpen
            fun _ => all_of_any _ _ ended
      | false =>
          simp only [Launches.stepWait, ended, Bool.false_eq_true, if_false]
          exact sound
  | _ => exact sound

theorem Sound.step (sound : state.Sound) (action : Action) : (state.step action).Sound := by
  cases action with
  | call worker =>
      by_cases outside : state.workers[worker]? = some .idle
      · simp only [Launches.step, if_pos outside]
        exact sound.outside .opening outside rfl rfl
      · simp only [Launches.step, if_neg outside]
        exact sound
  | advance worker answer =>
      cases present : state.workers[worker]? with
      | none =>
          simp only [Launches.step, present]
          exact sound
      | some place =>
          simp only [Launches.step, present]
          cases place with
          | idle => exact sound
          | killing _ | awaiting _ | supervising _ | terminating _ | reaping _ _ =>
              exact sound.stepWait answer present
          | _ => exact sound.stepStart answer present
  | child launch succeeds => exact sound.stepChild launch succeeds
  | killed launch => exact sound.kill launch

end Preservation

theorem sound_initial (workerCount : Nat) : (machine workerCount).initial.Sound := by
  have outside : ∀ (worker : Nat) (place : LaunchPlace),
      (machine workerCount).initial.workers[worker]? = some place → place = .idle := by
    intro worker place found
    exact List.eq_of_mem_replicate (List.mem_of_getElem? found)
  constructor
  · intro worker place launch found named
    rw [outside worker place found] at named
    cases named
  · intro worker place other place' launch found _ named
    rw [outside worker place found] at named
    cases named
  · intro launch entry found
    cases found
  · intro launch entry found
    cases found

theorem sound_of_reachable (workerCount : Nat) (state : Launches)
    (reached : (machine workerCount).Reachable state) : state.Sound :=
  (machine workerCount).reachable_invariant Sound (sound_initial workerCount)
    (fun _ action sound => sound.step action) state reached

/-! ### What a step leaves alone -/

/-- The other workers and the other launches stay as they are. -/
structure KeepsOthers (state : Launches) (worker : Nat) (launch : Option Nat)
    (after : Launches) : Prop where
  count : after.workers.length = state.workers.length
  workers : ∀ other : Nat, other ≠ worker → after.workers[other]? = state.workers[other]?
  launches : ∀ number : Nat, launch ≠ some number → number < state.launches.length →
    after.launches[number]? = state.launches[number]?

section Frames

variable {state after : Launches} {worker : Nat} {launch : Option Nat}

theorem KeepsOthers.refl : state.KeepsOthers worker launch state :=
  ⟨rfl, fun _ _ => rfl, fun _ _ _ => rfl⟩

theorem KeepsOthers.moveTo (keeps : state.KeepsOthers worker launch after)
    (place : LaunchPlace) : state.KeepsOthers worker launch (after.moveTo worker place) where
  count := List.length_set.trans keeps.count
  workers := fun other different =>
    (getElem?_moveTo_ne place other different).trans (keeps.workers other different)
  launches := keeps.launches

theorem KeepsOthers.modify {number : Nat} (keeps : state.KeepsOthers worker (some number) after)
    (change : Launch → Launch) :
    state.KeepsOthers worker (some number) (after.modify number change) where
  count := keeps.count
  workers := keeps.workers
  launches := fun other different inside =>
    (getElem?_modify_ne change other fun same => different (congrArg some same)).trans
      (keeps.launches other different inside)

theorem keepsOthers_stepStart (answer : LaunchAnswer) (place : LaunchPlace) :
    state.KeepsOthers worker place.launch? (state.stepStart worker answer place) := by
  cases place with
  | opening =>
      cases opened : answer.succeeds with
      | true =>
          simp only [stepStart, opened, if_true]
          apply KeepsOthers.moveTo
          constructor
          · rfl
          · intro other _
            rfl
          · intro number _ inside
            exact List.getElem?_append_left inside
      | false =>
          simp only [stepStart, opened, Bool.false_eq_true, if_false]
          exact KeepsOthers.refl.moveTo .idle
  | piping launch => exact KeepsOthers.refl.moveTo _
  | forking launch =>
      cases forked : answer.succeeds with
      | true =>
          simp only [stepStart, forked, if_true]
          exact (KeepsOthers.refl.modify _).moveTo _
      | false =>
          simp only [stepStart, forked, Bool.false_eq_true, if_false]
          exact KeepsOthers.refl.moveTo _
  | abandoning launch => exact (KeepsOthers.refl.modify _).moveTo _
  | closingRead launch => exact (KeepsOthers.refl.modify _).moveTo _
  | isolating launch => exact KeepsOthers.refl.moveTo _
  | configuring launch => exact KeepsOthers.refl.moveTo _
  | admitting launch => exact (KeepsOthers.refl.modify _).moveTo _
  | sending launch =>
      cases sent : answer.succeeds && state.readHeld launch with
      | true =>
          simp only [stepStart, sent, if_true]
          exact (KeepsOthers.refl.modify _).moveTo _
      | false =>
          simp only [stepStart, sent, Bool.false_eq_true, if_false]
          exact KeepsOthers.refl.moveTo _
  | closingWrite launch next =>
      cases next with
      | leave => exact ((KeepsOthers.refl.modify _).modify _).moveTo _
      | kill => exact (KeepsOthers.refl.modify _).moveTo _
      | wait => exact (KeepsOthers.refl.modify _).moveTo _
      | supervise => exact (KeepsOthers.refl.modify _).moveTo _
  | _ => exact KeepsOthers.refl

theorem keepsOthers_stepWait (answer : LaunchAnswer) (place : LaunchPlace) :
    state.KeepsOthers worker place.launch? (state.stepWait worker answer place) := by
  cases place with
  | killing launch => exact (KeepsOthers.refl.modify _).moveTo _
  | terminating launch => exact (KeepsOthers.refl.modify _).moveTo _
  | awaiting launch =>
      cases ended : state.childEnded launch with
      | true =>
          simp only [stepWait, ended, if_true]
          exact (KeepsOthers.refl.modify _).moveTo _
      | false =>
          simp only [stepWait, ended, Bool.false_eq_true, if_false]
          exact KeepsOthers.refl
  | supervising launch =>
      cases ended : state.childEnded launch with
      | true =>
          simp only [stepWait, ended, if_true]
          exact (KeepsOthers.refl.modify _).moveTo _
      | false =>
          simp only [stepWait, ended, Bool.false_eq_true, if_false]
          cases answer.supervision with
          | nothing => exact KeepsOthers.refl
          | failed => exact (KeepsOthers.refl.modify _).moveTo _
          | cancelledOrExpired => exact KeepsOthers.refl.moveTo _
  | reaping launch started =>
      cases ended : state.childEnded launch with
      | true =>
          simp only [stepWait, ended, if_true]
          exact (KeepsOthers.refl.modify _).moveTo _
      | false =>
          simp only [stepWait, ended, Bool.false_eq_true, if_false]
          exact KeepsOthers.refl
  | _ => exact KeepsOthers.refl

theorem keepsOthers_stepWorker (answer : LaunchAnswer) (place : LaunchPlace) :
    state.KeepsOthers worker place.launch? (state.stepWorker worker answer place) := by
  cases place with
  | idle => exact KeepsOthers.refl
  | killing _ | awaiting _ | supervising _ | terminating _ | reaping _ _ =>
      exact keepsOthers_stepWait answer _
  | _ => exact keepsOthers_stepStart answer _

theorem workers_step (action : Action) :
    (state.step action).workers.length = state.workers.length := by
  cases action with
  | call worker =>
      by_cases outside : state.workers[worker]? = some .idle
      · simp only [Launches.step, if_pos outside]
        exact List.length_set
      · simp only [Launches.step, if_neg outside]
  | advance worker answer =>
      cases present : state.workers[worker]? with
      | none => simp only [Launches.step, present]
      | some place =>
          simp only [Launches.step, present]
          exact (keepsOthers_stepWorker answer place).count
  | child launch succeeds => rfl
  | killed launch => rfl

theorem workers_of_reachable (workerCount : Nat) (state : Launches)
    (reached : (machine workerCount).Reachable state) : state.workers.length = workerCount :=
  (machine workerCount).reachable_invariant (fun state => state.workers.length = workerCount)
    List.length_replicate (fun _ action before => (workers_step action).trans before) state reached

end Frames

/-! ### What runs -/

/-- A command has been executed only if `on_started` had accepted its process, and a
call of `run` that returns without `started` has not executed it and leaves no process
behind. -/
theorem executed_only_accepted (workerCount : Nat) (state : Launches)
    (reached : (machine workerCount).Reachable state) (launch : Nat) (entry : Launch)
    (present : state.launches[launch]? = some entry) :
    ((entry.child.any fun child => child.place.hasRun) = true → entry.accepted = some true) ∧
      (entry.started = some true → entry.accepted = some true) ∧
      (entry.started = some false →
        ∀ child, entry.child = some child → child.place = .ended false) := by
  have kept := (sound_of_reachable workerCount state reached).entries launch entry present
  have tokenOf : ∀ child, entry.child = some child → child.place.hasRun = true →
      entry.token = true := fun child found ran =>
    (kept.child child found).token (Child.hasToken_of_hasRun child.place ran)
  refine ⟨?_, ?_, ?_⟩
  · intro ran
    obtain ⟨child, found, ran⟩ := (Option.any_eq_true _ _).mp ran
    exact kept.accepted (tokenOf child found ran)
  · intro started
    exact kept.accepted (kept.result true started).1
  · intro failed child found
    obtain ⟨token, -, ended⟩ := kept.result false failed
    have gone := ended rfl
    rw [found] at gone
    cases at_ : child.place with
    | ended ran =>
        cases ran with
        | false => rfl
        | true =>
            have seen := tokenOf child found (by rw [at_]; rfl)
            cases token.symm.trans seen
    | _ =>
        rw [Option.all_some, at_] at gone
        cases gone

/-- One worker whose command is accepted, runs and ends. -/
def acceptedLaunch : List Action :=
  .call 0 :: List.replicate 9 (.advance 0 {}) ++ List.replicate 7 (.child 0 true) ++
    [.advance 0 {}]

/-- One worker whose command is refused; its child finds the barrier closed. -/
def refusedLaunch : List Action :=
  .call 0 :: List.replicate 6 (.advance 0 {}) ++ [.advance 0 { succeeds := false },
    .advance 0 {}] ++ List.replicate 5 (.child 0 true) ++ [.advance 0 {}]

theorem executed_only_accepted_once :
    (((machine 1).run acceptedLaunch).launches[0]?.bind Launch.started) = some true ∧
      (∃ entry, ((machine 1).run acceptedLaunch).launches[0]? = some entry ∧
        (entry.started = some true → entry.accepted = some true)) ∧
      ∃ entry child, ((machine 1).run refusedLaunch).launches[0]? = some entry ∧
        entry.accepted = some false ∧ entry.child = some child ∧ child.place = .ended false := by
  have present : ∃ entry, ((machine 1).run acceptedLaunch).launches[0]? = some entry :=
    ⟨_, rfl⟩
  obtain ⟨entry, present⟩ := present
  have refused : ∃ other child, ((machine 1).run refusedLaunch).launches[0]? = some other ∧
      other.accepted = some false ∧ other.started = some false ∧ other.child = some child :=
    ⟨_, _, rfl, rfl, rfl, rfl⟩
  obtain ⟨other, child, there, declined, failed, found⟩ := refused
  have accepted :=
    executed_only_accepted 1 _ ((machine 1).reachable_run acceptedLaunch) 0 entry present
  have executed :=
    executed_only_accepted 1 _ ((machine 1).reachable_run refusedLaunch) 0 other there
  exact ⟨by decide, ⟨entry, present, accepted.2.1⟩,
    other, child, there, declined, found, executed.2.2 failed child found⟩

/-! ### What cannot go on -/

/-- Workers are inside `run`, and no step of a worker or of a child changes anything,
whatever the system calls answer. -/
structure Stalled (state : Launches) : Prop where
  busy : ∃ (worker : Nat) (place : LaunchPlace), state.workers[worker]? = some place ∧
    place ≠ .idle
  workers : ∀ worker answer, state.step (.advance worker answer) = state
  children : ∀ launch succeeds, state.step (.child launch succeeds) = state

/-- A worker waits for the child of this launch, which it does not kill, and the child
waits for the token or for the end of its barrier. -/
structure Waits (state : Launches) (launch : Nat) (entry : Launch) (child : Child) : Prop where
  worker : ∃ worker : Nat, state.workers[worker]? = some (LaunchPlace.awaiting launch)
  present : state.launches[launch]? = some entry
  token : entry.token = false
  reading : child.place = .reading
  found : entry.child = some child

/-- The children of these launches wait, each for a barrier end that one of them has
open. -/
def Entangled (state : Launches) (group : List Nat) : Prop :=
  ∀ launch ∈ group, ∃ entry child, state.Waits launch entry child ∧
    ∃ other ∈ group, ∃ entry' child', state.Waits other entry' child' ∧
      other ≠ launch ∧ launch ∈ child'.writeEnds

section Stalling

variable {state : Launches} {worker launch : Nat} {entry : Launch} {child : Child}

/-- A worker that would move elsewhere is not stalled. -/
theorem Stalled.stays (stalled : state.Stalled) {place : LaunchPlace} (answer : LaunchAnswer)
    (new : LaunchPlace) (changed : Launches)
    (present : state.workers[worker]? = some place)
    (unmoved : changed.workers[worker]? = some place)
    (moves : state.step (.advance worker answer) = changed.moveTo worker new) :
    new = place := by
  have same := stalled.workers worker answer
  rw [moves] at same
  have there := getElem?_moveTo new unmoved
  rw [same] at there
  exact Option.some.inj (there.symm.trans present)

theorem step_advance {place : LaunchPlace} (answer : LaunchAnswer)
    (present : state.workers[worker]? = some place) :
    state.step (.advance worker answer) = state.stepWorker worker answer place := by
  simp only [Launches.step, present]

/-- Inside `run`, a stalled worker waits for a child that it has not killed. -/
theorem Stalled.awaits (stalled : state.Stalled) (sound : state.Sound) {place : LaunchPlace}
    (present : state.workers[worker]? = some place) (inside : place ≠ .idle) :
    ∃ launch, place = .awaiting launch ∧ state.childEnded launch = false := by
  have refusing := step_advance { succeeds := false } present
  have failing := step_advance { supervision := .failed } present
  cases place with
  | idle => exact absurd rfl inside
  | opening => cases stalled.stays _ .idle state present present refusing
  | piping launch => cases stalled.stays _ (.abandoning launch) state present present refusing
  | forking launch => cases stalled.stays _ (.abandoning launch) state present present refusing
  | abandoning launch =>
      cases stalled.stays _ (.closingWrite launch .leave) _ present (by exact present) refusing
  | closingRead launch =>
      cases stalled.stays _ (.isolating launch) _ present (by exact present) refusing
  | isolating launch =>
      cases stalled.stays _ (.closingWrite launch .kill) state present present refusing
  | configuring launch =>
      cases stalled.stays _ (.closingWrite launch .kill) state present present refusing
  | admitting launch =>
      cases stalled.stays _ (.closingWrite launch .wait) _ present (by exact present) refusing
  | sending launch =>
      cases stalled.stays _ (.closingWrite launch .kill) state present present refusing
  | closingWrite launch next =>
      cases next with
      | leave => cases stalled.stays _ .idle _ present (by exact present) refusing
      | kill => cases stalled.stays _ (.killing launch) _ present (by exact present) refusing
      | wait => cases stalled.stays _ (.awaiting launch) _ present (by exact present) refusing
      | supervise =>
          cases stalled.stays _ (.supervising launch) _ present (by exact present) refusing
  | killing launch =>
      cases stalled.stays _ (.reaping launch false) _ present (by exact present) refusing
  | awaiting launch =>
      refine ⟨launch, rfl, ?_⟩
      cases ended : state.childEnded launch with
      | false => rfl
      | true =>
          simp only [stepWorker, Launches.stepWait, ended, if_true] at refusing
          cases stalled.stays _ .idle _ present (by exact present) refusing
  | supervising launch =>
      cases ended : state.childEnded launch with
      | false =>
          simp only [stepWorker, Launches.stepWait, ended, Bool.false_eq_true, if_false] at failing
          cases stalled.stays _ .idle _ present (by exact present) failing
      | true =>
          simp only [stepWorker, Launches.stepWait, ended, if_true] at refusing
          cases stalled.stays _ .idle _ present (by exact present) refusing
  | terminating launch =>
      cases stalled.stays _ (.reaping launch true) _ present (by exact present) refusing
  | reaping launch started =>
      obtain ⟨entry, known, fits⟩ := sound.works worker _ launch present rfl
      have ended := fits.killed rfl
      rw [← childEnded_eq known] at ended
      simp only [stepWorker, Launches.stepWait, ended, if_true] at refusing
      cases stalled.stays _ .idle _ present (by exact present) refusing

/-- A stalled child that has not ended waits for its token. -/
theorem Stalled.reads (stalled : state.Stalled) (present : state.launches[launch]? = some entry)
    (found : entry.child = some child) (alive : child.place.hasEnded = false) :
    child.place = .reading ∧ entry.token = false ∧ state.writeHeld launch = true := by
  have same : ∀ succeeds,
      child.step launch entry.token (state.writeHeld launch) succeeds = child := by
    intro succeeds
    have unchanged := stalled.children launch succeeds
    have there := getElem?_modify (fun entry =>
      { entry with
        child := entry.child.map fun child =>
          child.step launch entry.token (state.writeHeld launch) succeeds }) present
    rw [show state.modify launch _ = state from unchanged, present, found] at there
    have equal := congrArg Launch.child (Option.some.inj there)
    rw [found] at equal
    exact (Option.some.inj equal).symm
  have placed := fun succeeds => congrArg Child.place (same succeeds)
  unfold Child.step at placed
  cases at_ : child.place with
  | reading =>
      rw [at_] at placed
      cases token : entry.token with
      | true =>
          rw [token] at placed
          cases placed true
      | false =>
          cases held : state.writeHeld launch with
          | true => exact ⟨rfl, rfl, rfl⟩
          | false =>
              rw [token, held] at placed
              cases placed true
  | ended ran =>
      rw [at_] at alive
      cases alive
  | closingOwn token =>
      rw [at_] at placed
      cases token with
      | true => cases placed true
      | false => cases placed true
  | _ =>
      rw [at_] at placed
      cases placed true

theorem writeHeld_iff (launch : Nat) :
    state.writeHeld launch = true ↔
      (∃ entry, state.launches[launch]? = some entry ∧ entry.writeOpen = true) ∨
        ∃ (other : Nat) (entry : Launch) (child : Child), state.launches[other]? = some entry ∧
          entry.child = some child ∧ launch ∈ child.writeEnds := by
  unfold writeHeld
  rw [Bool.or_eq_true, Option.any_eq_true, List.any_eq_true]
  apply or_congr Iff.rfl
  constructor
  · rintro ⟨entry, member, holds⟩
    obtain ⟨other, present⟩ := List.mem_iff_getElem?.mp member
    obtain ⟨child, found, contained⟩ := (Option.any_eq_true _ _).mp holds
    exact ⟨other, entry, child, present, found, List.contains_iff_mem.mp contained⟩
  · rintro ⟨other, entry, child, present, found, member⟩
    refine ⟨entry, List.mem_iff_getElem?.mpr ⟨other, present⟩, ?_⟩
    exact (Option.any_eq_true _ _).mpr ⟨child, found, List.contains_iff_mem.mpr member⟩

/-- A stalled child that has not ended, and for which a worker is there. -/
theorem Stalled.waits (stalled : state.Stalled) (sound : state.Sound)
    (present : state.launches[launch]? = some entry) (found : entry.child = some child)
    (alive : child.place.hasEnded = false) : state.Waits launch entry child := by
  obtain ⟨reading, token, -⟩ := stalled.reads present found alive
  have kept := sound.entries launch entry present
  have unfinished : entry.started = none := by
    cases finished : entry.started with
    | none => rfl
    | some started =>
        obtain ⟨token', -, ended⟩ := kept.result started finished
        have gone := ended (token'.symm.trans token)
        rw [found, Option.all_some, alive] at gone
        cases gone
  obtain ⟨worker, place, at_, named⟩ := sound.staffed launch entry present unfinished
  have inside : place ≠ .idle := by
    intro idle
    rw [idle] at named
    cases named
  obtain ⟨launch', rfl, -⟩ := stalled.awaits sound at_ inside
  cases named
  exact ⟨⟨worker, at_⟩, present, token, reading, found⟩

/-- The barrier of a stalled child is held open by another stalled child. -/
theorem Stalled.heldByOther (stalled : state.Stalled) (sound : state.Sound)
    (waits : state.Waits launch entry child) :
    ∃ other entry' child', state.Waits other entry' child' ∧ other ≠ launch ∧
      launch ∈ child'.writeEnds := by
  have alive : child.place.hasEnded = false := by
    rw [waits.reading]
    rfl
  obtain ⟨-, -, held⟩ := stalled.reads waits.present waits.found alive
  rcases (writeHeld_iff launch).mp held with ⟨entry', present, isOpen⟩ | found
  · cases entry_eq waits.present present
    obtain ⟨worker, at_⟩ := waits.worker
    obtain ⟨entry', known, fits⟩ := sound.works worker _ launch at_ rfl
    cases entry_eq waits.present known
    cases fits.writeOpen.symm.trans isOpen
  · obtain ⟨other, entry', child', present, found, member⟩ := found
    have kept := (sound.entries other entry' present).child child' found
    have alive' : child'.place.hasEnded = false := by
      cases at_ : child'.place with
      | ended ran =>
          rw [kept.closed (by rw [at_]; rfl)] at member
          cases member
      | _ => rfl
    have waits' := stalled.waits sound present found alive'
    refine ⟨other, entry', child', waits', ?_, member⟩
    rintro rfl
    exact kept.own (by rw [waits'.reading]; nofun) member

end Stalling

/-- In every interleaving: when nothing can go on although workers are inside `run`,
then each of these workers waits for a process that was refused, and the processes they
wait for hold the ends of each other's barriers.  So one worker alone always goes on. -/
theorem stalled_entangled (workerCount : Nat) (state : Launches)
    (reached : (machine workerCount).Reachable state) (stalled : state.Stalled) :
    2 ≤ workerCount ∧ ∃ group, group ≠ [] ∧ state.Entangled group ∧
      ∀ (worker : Nat) (place : LaunchPlace), state.workers[worker]? = some place →
        place ≠ .idle →
        ∃ launch ∈ group, place = .awaiting launch ∧
          ∃ entry, state.launches[launch]? = some entry ∧ entry.accepted = some false := by
  have sound := sound_of_reachable workerCount state reached
  let group := (List.range state.launches.length).filter fun launch =>
    (state.childOf launch).any fun child => !child.place.hasEnded
  have member : ∀ (launch : Nat) (entry : Launch) (child : Child),
      state.launches[launch]? = some entry → entry.child = some child →
        child.place.hasEnded = false → launch ∈ group := by
    intro launch entry child present found alive
    refine List.mem_filter.mpr ⟨List.mem_range.mpr (List.getElem?_eq_some_iff.mp present).1, ?_⟩
    change ((state.launches[launch]?.bind Launch.child).any _) = true
    rw [present, Option.bind_some, found, Option.any_some, alive]
    rfl
  have waiting : ∀ (worker : Nat) (place : LaunchPlace),
      state.workers[worker]? = some place → place ≠ .idle →
      ∃ launch ∈ group, place = .awaiting launch ∧
        ∃ entry, state.launches[launch]? = some entry ∧ entry.accepted = some false := by
    intro worker place at_ inside
    obtain ⟨launch, rfl, ended⟩ := stalled.awaits sound at_ inside
    obtain ⟨entry, known, fits⟩ := sound.works worker _ launch at_ rfl
    obtain ⟨child, found⟩ := Option.isSome_iff_exists.mp fits.child
    rw [childEnded_eq known, found] at ended
    exact ⟨launch, member launch entry child known found ended, rfl, entry, known,
      fits.refused rfl⟩
  have entangled : state.Entangled group := by
    intro launch inGroup
    obtain ⟨-, isAlive⟩ := List.mem_filter.mp inGroup
    obtain ⟨child, found, alive⟩ := (Option.any_eq_true _ _).mp isAlive
    obtain ⟨entry, present, found⟩ := Option.bind_eq_some_iff.mp found
    have waits := stalled.waits sound present found (by simpa using alive)
    obtain ⟨other, entry', child', waits', different, held⟩ := stalled.heldByOther sound waits
    have alive' : child'.place.hasEnded = false := by
      rw [waits'.reading]
      rfl
    have inGroup := member other entry' child' waits'.present waits'.found alive'
    exact ⟨entry, child, waits, other, inGroup, entry', child', waits', different, held⟩
  obtain ⟨worker, place, at_, inside⟩ := stalled.busy
  obtain ⟨launch, inGroup, -⟩ := waiting worker place at_ inside
  have several : 2 ≤ state.workers.length := by
    obtain ⟨_, _, waits, other, _, _, _, waits', different, _⟩ := entangled launch inGroup
    obtain ⟨first, found⟩ := waits.worker
    obtain ⟨second, found'⟩ := waits'.worker
    have apart : second ≠ first := by
      rintro rfl
      cases found.symm.trans found'
      exact different rfl
    have below := (List.getElem?_eq_some_iff.mp found).1
    have below' := (List.getElem?_eq_some_iff.mp found').1
    omega
  rw [workers_of_reachable workerCount state reached] at several
  exact ⟨several, group, List.ne_nil_of_mem inGroup, entangled, waiting⟩

/-- Two workers that open their barriers and fork before either has been refused. -/
def crossedRefusals : List Action :=
  [.call 0, .call 1] ++ List.replicate 2 (.advance 0 {}) ++ List.replicate 2 (.advance 1 {}) ++
    [.advance 0 {}, .advance 1 {}] ++
    List.replicate 3 (.advance 0 {}) ++ [.advance 0 { succeeds := false }, .advance 0 {}] ++
    List.replicate 3 (.advance 1 {}) ++ [.advance 1 { succeeds := false }, .advance 1 {}] ++
    List.replicate 3 (.child 0 true) ++ List.replicate 3 (.child 1 true)

/-- The state that they reach. -/
def crossedState : Launches :=
  { workers := [.awaiting 0, .awaiting 1]
    launches :=
      [{ readOpen := false
         writeOpen := false
         accepted := some false
         child := some { place := .reading, readEnds := [0, 1], writeEnds := [1] } },
        { readOpen := false
          writeOpen := false
          accepted := some false
          child := some { place := .reading, readEnds := [0, 1], writeEnds := [0] } }] }

theorem crossedState_reached : (machine 2).run crossedRefusals = crossedState := by decide

theorem crossedState_stalled : crossedState.Stalled := by
  constructor
  · exact ⟨0, .awaiting 0, rfl, nofun⟩
  · intro worker answer
    rcases worker with - | - | worker <;> rfl
  · intro launch succeeds
    rcases launch with - | - | - | launch <;> rfl

theorem stalled_entangled_two : ∃ group, group ≠ [] ∧ crossedState.Entangled group := by
  obtain ⟨-, group, some_, entangled, -⟩ := stalled_entangled 2 crossedState
    (crossedState_reached ▸ (machine 2).reachable_run crossedRefusals) crossedState_stalled
  exact ⟨group, some_, entangled⟩

/-! ### What stays so -/

section Persistence

variable {state : Launches} {number : Nat} {entry : Launch} {child : Child}

/-- A child whose barrier is held open goes on waiting, and so does its worker. -/
theorem Waits.step (waits : state.Waits number entry child) (sound : state.Sound)
    (held : state.writeHeld number = true) (action : Action) (spared : action ≠ .killed number) :
    (state.step action).Waits number entry child := by
  obtain ⟨worker, at_⟩ := waits.worker
  have inside := (List.getElem?_eq_some_iff.mp waits.present).1
  cases action with
  | call other =>
      by_cases outside : state.workers[other]? = some .idle
      · simp only [Launches.step, if_pos outside]
        have different : worker ≠ other := by
          rintro rfl
          cases at_.symm.trans outside
        exact ⟨⟨worker, (getElem?_moveTo_ne _ worker different).trans at_⟩, waits.present,
          waits.token, waits.reading, waits.found⟩
      · simp only [Launches.step, if_neg outside]
        exact waits
  | advance other answer =>
      cases present : state.workers[other]? with
      | none =>
          simp only [Launches.step, present]
          exact waits
      | some place =>
          by_cases same : other = worker
          · rw [same] at present
            cases at_.symm.trans present
            have alive : state.childEnded number = false := by
              rw [childEnded_eq waits.present, waits.found, Option.any_some, waits.reading]
              rfl
            rw [same, step_advance answer at_]
            simp only [stepWorker, stepWait, alive, Bool.false_eq_true, if_false]
            exact waits
          · have apart : place.launch? ≠ some number := fun named =>
              same (sound.alone other place worker _ number present at_ named rfl)
            have keeps := @keepsOthers_stepWorker state other answer place
            rw [step_advance answer present]
            exact ⟨⟨worker, (keeps.workers worker fun equal => same equal.symm).trans at_⟩,
              (keeps.launches number apart inside).trans waits.present, waits.token,
              waits.reading, waits.found⟩
  | child other succeeds =>
      by_cases same : other = number
      · have unchanged : child.step number false true succeeds = child := by
          unfold Child.step
          rw [waits.reading]
          rfl
        have present := getElem?_modify (fun entry : Launch =>
          { entry with
            child := entry.child.map fun child =>
              child.step number entry.token (state.writeHeld number) succeeds }) waits.present
        have still : ({ entry with
            child := entry.child.map fun child =>
              child.step number entry.token (state.writeHeld number) succeeds } : Launch) =
              entry := by
          rw [waits.found, waits.token, held, Option.map_some, unchanged, ← waits.found,
            ← waits.token]
        rw [still] at present
        rw [same]
        exact ⟨⟨worker, at_⟩, present, waits.token, waits.reading, waits.found⟩
      · exact ⟨⟨worker, at_⟩, (getElem?_modify_ne _ number same).trans waits.present,
          waits.token, waits.reading, waits.found⟩
  | killed other =>
      have different : other ≠ number := fun same => spared (by rw [same])
      exact ⟨⟨worker, at_⟩, (getElem?_modify_ne _ number different).trans waits.present,
        waits.token, waits.reading, waits.found⟩

theorem Entangled.step {group : List Nat} (entangled : state.Entangled group)
    (sound : state.Sound) (action : Action) (spared : ∀ number ∈ group, action ≠ .killed number) :
    (state.step action).Entangled group := by
  have held : ∀ number ∈ group, state.writeHeld number = true := by
    intro number member
    obtain ⟨-, -, -, other, -, entry', child', waits', -, ends⟩ := entangled number member
    exact (writeHeld_iff number).mpr
      (.inr ⟨other, entry', child', waits'.present, waits'.found, ends⟩)
  intro number member
  obtain ⟨entry, child, waits, other, member', entry', child', waits', different, ends⟩ :=
    entangled number member
  exact ⟨entry, child, waits.step sound (held number member) action (spared number member),
    other, member', entry', child',
    waits'.step sound (held other member') action (spared other member'), different, ends⟩

end Persistence

/-- Workers whose refused processes hold the ends of each other's barriers never return,
whatever the other workers and children do, unless somebody else kills one of these
processes. -/
theorem entangled_forever (workerCount : Nat) (state : Launches)
    (reached : (machine workerCount).Reachable state) (group : List Nat)
    (entangled : state.Entangled group) (actions : List Action)
    (spared : ∀ action ∈ actions, ∀ launch ∈ group, action ≠ .killed launch) :
    ((machine workerCount).runFrom state actions).Entangled group := by
  have sound := sound_of_reachable workerCount state reached
  clear reached
  induction actions generalizing state with
  | nil => exact entangled
  | cons action rest ih =>
      exact ih (state.step action)
        (entangled.step sound action (spared action (List.mem_cons_self ..)))
        (fun later member => spared later (List.mem_cons_of_mem action member))
        (sound.step action)

theorem crossedState_entangled : crossedState.Entangled [0, 1] := by
  have first : crossedState.Waits 0 _ _ := ⟨⟨0, rfl⟩, rfl, rfl, rfl, rfl⟩
  have second : crossedState.Waits 1 _ _ := ⟨⟨1, rfl⟩, rfl, rfl, rfl, rfl⟩
  intro launch member
  rcases List.mem_pair.mp member with rfl | rfl
  · exact ⟨_, _, first, 1, by decide, _, _, second, by decide, by decide⟩
  · exact ⟨_, _, second, 0, by decide, _, _, first, by decide, by decide⟩

theorem entangled_forever_two :
    ((machine 2).runFrom crossedState
      [.advance 0 {}, .child 0 true, .advance 1 {}, .child 1 false]).Entangled [0, 1] :=
  entangled_forever 2 crossedState
    (crossedState_reached ▸ (machine 2).reachable_run crossedRefusals) [0, 1]
    crossedState_entangled _ (by decide)

end Launches

end AgentNucleus.Runtime
