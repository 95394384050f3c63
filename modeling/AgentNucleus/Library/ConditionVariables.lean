/-
Threads that wait for a condition variable.  A signal wakes one sleeper if there is one,
and a woken thread only goes on when it has the lock again.  A stock is attended to when
nobody sleeps while there is more of it than threads on their way.
-/

import AgentNucleus.Library.Machine

set_option autoImplicit false

namespace AgentNucleus.Library

/-- Where a thread is: not in the wait, asleep in it, or woken and without the lock. -/
inductive Waiter
  | outside
  | asleep
  | woken
  deriving DecidableEq, Repr

namespace Waiter

variable {threads : List Waiter} {stock : Nat}

def sleepers (threads : List Waiter) : Nat :=
  threads.countP fun thread => decide (thread = .asleep)

def coming (threads : List Waiter) : Nat :=
  threads.countP fun thread => decide (thread = .woken)

/-- The thread that is chosen is woken if it sleeps, and else the first one that does. -/
def signal (chosen : Nat) (threads : List Waiter) : List Waiter :=
  if threads[chosen]? = some .asleep then threads.set chosen .woken
  else
    match threads.findIdx? fun thread => decide (thread = .asleep) with
    | none => threads
    | some thread => threads.set thread .woken

def broadcast (threads : List Waiter) : List Waiter :=
  threads.map fun thread => if thread = .asleep then .woken else thread

/-! ### How many sleep and how many come -/

theorem sleepers_set {thread : Nat} {old : Waiter} (new : Waiter)
    (place : threads[thread]? = some old) :
    sleepers (threads.set thread new) + (decide (old = .asleep)).toNat =
      sleepers threads + (decide (new = .asleep)).toNat :=
  countP_set_place (fun thread => decide (thread = Waiter.asleep)) threads thread old new place

theorem coming_set {thread : Nat} {old : Waiter} (new : Waiter)
    (place : threads[thread]? = some old) :
    coming (threads.set thread new) + (decide (old = .woken)).toNat =
      coming threads + (decide (new = .woken)).toNat :=
  countP_set_place (fun thread => decide (thread = Waiter.woken)) threads thread old new place

theorem wake {thread : Nat} (place : threads[thread]? = some .asleep) :
    sleepers (threads.set thread .woken) + 1 = sleepers threads ∧
      coming (threads.set thread .woken) = coming threads + 1 :=
  ⟨sleepers_set .woken place, coming_set .woken place⟩

theorem signal_cases (chosen : Nat) (threads : List Waiter) :
    (sleepers threads = 0 ∧ signal chosen threads = threads) ∨
      sleepers (signal chosen threads) + 1 = sleepers threads ∧
        coming (signal chosen threads) = coming threads + 1 := by
  unfold signal
  by_cases here : threads[chosen]? = some .asleep
  · rw [if_pos here]
    exact .inr (wake here)
  · rw [if_neg here]
    cases found : threads.findIdx? fun thread => decide (thread = .asleep) with
    | none =>
        refine .inl ⟨?_, rfl⟩
        unfold sleepers
        rw [List.countP_eq_zero]
        intro thread member
        rw [List.findIdx?_eq_none_iff.mp found thread member]
        exact Bool.false_ne_true
    | some thread =>
        obtain ⟨inside, asleep, _⟩ := List.findIdx?_eq_some_iff_getElem.mp found
        have place : threads[thread]? = some .asleep := by
          rw [List.getElem?_eq_getElem inside, of_decide_eq_true asleep]
        exact .inr (wake place)

theorem sleepers_broadcast (threads : List Waiter) : sleepers (broadcast threads) = 0 := by
  unfold sleepers broadcast
  rw [List.countP_eq_zero]
  intro thread member
  obtain ⟨old, _, rfl⟩ := List.mem_map.mp member
  by_cases asleep : old = .asleep
  · rw [if_pos asleep]
    decide
  · rw [if_neg asleep]
    simpa using asleep

/-! ### The stock -/

/-- While a thread sleeps, the stock is spoken for by threads that were woken. -/
def Attended (stock : Nat) (threads : List Waiter) : Prop :=
  0 < sleepers threads → stock ≤ coming threads

namespace Attended

theorem of_empty (threads : List Waiter) : Attended 0 threads :=
  fun _ => Nat.zero_le _

theorem of_no_sleepers (none_ : sleepers threads = 0) : Attended stock threads :=
  fun some_ => absurd none_ (Nat.ne_of_gt some_)

theorem fewer {less : Nat} (attended : Attended stock threads) (below : less ≤ stock) :
    Attended less threads :=
  fun some_ => Nat.le_trans below (attended some_)

/-- One more, with a signal. -/
theorem put (attended : Attended stock threads) (chosen : Nat) :
    Attended (stock + 1) (signal chosen threads) := by
  intro some_
  rcases signal_cases chosen threads with ⟨none_, same⟩ | ⟨slept, came⟩
  · rw [same, none_] at some_
    cases some_
  · have before := attended (by omega)
    omega

/-- A thread that is not asleep takes one and leaves. -/
theorem take {thread : Nat} {old : Waiter} (attended : Attended (stock + 1) threads)
    (place : threads[thread]? = some old) (awake : old ≠ .asleep) :
    Attended stock (threads.set thread .outside) := by
  intro some_
  have slept := sleepers_set .outside place
  have came := coming_set .outside place
  have one := Bool.toNat_le (decide (old = .woken))
  rw [decide_eq_false awake] at slept
  simp only [reduceCtorEq, decide_false, Bool.toNat_false] at slept came
  have before := attended (by omega)
  omega

/-- A thread wakes up without a signal. -/
theorem spurious {thread : Nat} (attended : Attended stock threads)
    (place : threads[thread]? = some .asleep) :
    Attended stock (threads.set thread .woken) := by
  intro some_
  obtain ⟨slept, came⟩ := wake place
  have before := attended (by omega)
  omega

end Attended

end Waiter

end AgentNucleus.Library
