/-
Mutexes of a program with several threads.  A thread's place says which locks it holds
and for which it waits.  Locks that are taken in the order of a rank never block all
threads.
-/

import Mathlib.Logic.Function.Basic
import Mathlib.Logic.Relation

set_option autoImplicit false

namespace AgentNucleus.Library

universe u v

variable {κ : Type u} {π : Type v}

/-- The owner of a lock is the thread at whose place it is held. -/
structure Held (holds : π → κ → Prop) (owner : κ → Option Nat) (threads : List π) : Prop where
  owned : ∀ lock thread, owner lock = some thread ↔
    ∃ place, threads[thread]? = some place ∧ holds place lock

namespace Held

variable {holds : π → κ → Prop} {owner : κ → Option Nat} {threads : List π}
variable {thread : Nat} {old new : π}

/-- Nobody is inside. -/
theorem initial (outside : ∀ place ∈ threads, ∀ lock, ¬holds place lock) :
    Held holds (fun _ => none) threads := by
  constructor
  intro lock thread
  constructor
  · intro impossible
    cases impossible
  · intro ⟨place, present, held⟩
    exact absurd held (outside place (List.mem_of_getElem? present) lock)

theorem owner_eq (held : Held holds owner threads) (lock : κ)
    (present : threads[thread]? = some old) (holding : holds old lock) : owner lock = some thread :=
  (held.owned lock thread).mpr ⟨old, present, holding⟩

/-- Two threads do not hold one lock. -/
theorem exclusive (held : Held holds owner threads) (lock : κ) {other : Nat}
    (first : threads[thread]? = some old) (holding : holds old lock)
    (second : threads[other]? = some new) (holding' : holds new lock) : thread = other :=
  Option.some.inj
    ((held.owner_eq lock first holding).symm.trans (held.owner_eq lock second holding'))

/-- The places after one thread has moved. -/
theorem getElem?_move (present : threads[thread]? = some old) (other : Nat) :
    (threads.set thread new)[other]? = if other = thread then some new else threads[other]? := by
  have inside := (List.getElem?_eq_some_iff.mp present).1
  by_cases same : other = thread
  · rw [if_pos same, same, List.getElem?_set_self inside]
  · rw [if_neg same, List.getElem?_set_ne fun equal => same equal.symm]

/-- What a step of one thread has to establish. -/
theorem step (held : Held holds owner threads) (present : threads[thread]? = some old)
    (owner' : κ → Option Nat)
    (mine : ∀ lock, owner' lock = some thread ↔ holds new lock)
    (others : ∀ lock other, other ≠ thread → (owner' lock = some other ↔ owner lock = some other)) :
    Held holds owner' (threads.set thread new) := by
  constructor
  intro lock other
  rw [getElem?_move present]
  by_cases same : other = thread
  · rw [if_pos same, same, mine]
    constructor
    · exact fun holding => ⟨new, rfl, holding⟩
    · intro ⟨place, equal, holding⟩
      cases equal
      exact holding
  · rw [if_neg same, others lock other same]
    exact held.owned lock other

/-- The thread holds the same locks as before. -/
theorem moved (held : Held holds owner threads) (present : threads[thread]? = some old)
    (same : ∀ lock, holds new lock ↔ holds old lock) :
    Held holds owner (threads.set thread new) := by
  apply held.step present
  · intro lock
    rw [same, held.owned]
    constructor
    · intro ⟨place, found, holding⟩
      cases present.symm.trans found
      exact holding
    · exact fun holding => ⟨old, present, holding⟩
  · exact fun _ _ _ => Iff.rfl

variable [DecidableEq κ]

/-- The thread takes a lock that is free. -/
theorem acquired (held : Held holds owner threads) (present : threads[thread]? = some old)
    (lock : κ) (free : owner lock = none)
    (more : ∀ other, holds new other ↔ other = lock ∨ holds old other) :
    Held holds (Function.update owner lock (some thread)) (threads.set thread new) := by
  apply held.step present
  · intro other
    rw [more]
    by_cases same : other = lock
    · rw [same, Function.update_self]
      exact ⟨fun _ => .inl rfl, fun _ => rfl⟩
    · rw [Function.update_of_ne same]
      constructor
      · intro owned
        obtain ⟨place, found, holding⟩ := (held.owned other thread).mp owned
        cases present.symm.trans found
        exact .inr holding
      · intro either
        rcases either with equal | holding
        · exact absurd equal same
        · exact held.owner_eq other present holding
  · intro other third different
    by_cases same : other = lock
    · rw [same, Function.update_self, free]
      constructor
      · intro equal
        exact absurd (Option.some.inj equal).symm different
      · intro impossible
        cases impossible
    · rw [Function.update_of_ne same]

/-- The thread gives a lock back that it holds. -/
theorem released (held : Held holds owner threads) (present : threads[thread]? = some old)
    (lock : κ) (holding : holds old lock)
    (fewer : ∀ other, holds new other ↔ other ≠ lock ∧ holds old other) :
    Held holds (Function.update owner lock none) (threads.set thread new) := by
  have mine := held.owner_eq lock present holding
  apply held.step present
  · intro other
    rw [fewer]
    by_cases same : other = lock
    · rw [same, Function.update_self]
      constructor
      · intro impossible
        cases impossible
      · intro both
        exact absurd rfl both.1
    · rw [Function.update_of_ne same]
      constructor
      · intro owned
        obtain ⟨place, found, holds'⟩ := (held.owned other thread).mp owned
        cases present.symm.trans found
        exact ⟨same, holds'⟩
      · exact fun both => held.owner_eq other present both.2
  · intro other third different
    by_cases same : other = lock
    · rw [same, Function.update_self, mine]
      constructor
      · intro impossible
        cases impossible
      · intro equal
        exact absurd (Option.some.inj equal).symm different
    · rw [Function.update_of_ne same]

end Held

/-! ### Progress -/

/-- The thread waits for a lock that another place holds. -/
def Blocked (wants : π → Option κ) (owner : κ → Option Nat) (place : π) : Prop :=
  ∃ lock, wants place = some lock ∧ owner lock ≠ none

/-- The thread waits for a lock of the other one. -/
def WaitsFor (wants : π → Option κ) (owner : κ → Option Nat) (threads : List π)
    (thread other : Nat) : Prop :=
  ∃ place lock, threads[thread]? = some place ∧ wants place = some lock ∧
    owner lock = some other

/-- Where every thread asks only for locks above those that it holds, the locks that a
blocked thread waits for lead to a thread that is not blocked and holds one of them. -/
theorem Held.exists_unblocked {holds : π → κ → Prop} {owner : κ → Option Nat}
    {threads : List π} (held : Held holds owner threads) (wants : π → Option κ)
    (rank : κ → Nat) (bound : Nat) (bounded : ∀ lock, rank lock ≤ bound)
    (ordered : ∀ place ∈ threads, ∀ lock, wants place = some lock →
      ∀ other, holds place other → rank other < rank lock)
    (thread : Nat) (place : π) (present : threads[thread]? = some place)
    (blocked : Blocked wants owner place) :
    ∃ (other : Nat) (place' : π),
      Relation.TransGen (WaitsFor wants owner threads) thread other ∧
        threads[other]? = some place' ∧ (∃ lock, holds place' lock) ∧
          ¬Blocked wants owner place' := by
  obtain ⟨lock, wanted, taken⟩ := blocked
  induction gap : bound - rank lock using Nat.strongRecOn generalizing thread place lock with
  | ind gap ih =>
      obtain ⟨holder, owned⟩ := Option.ne_none_iff_exists'.mp taken
      obtain ⟨place', present', holding⟩ := (held.owned lock holder).mp owned
      have waits : WaitsFor wants owner threads thread holder :=
        ⟨place, lock, present, wanted, owned⟩
      by_cases stuck : Blocked wants owner place'
      · obtain ⟨next, wanted', taken'⟩ := stuck
        have above := ordered place' (List.mem_of_getElem? present') next wanted' lock holding
        have below := bounded next
        obtain ⟨other, last, chain, there⟩ :=
          ih (bound - rank next) (by omega) holder place' present' next wanted' taken' rfl
        exact ⟨other, last, .head waits chain, there⟩
      · exact ⟨holder, place', .single waits, present', ⟨lock, holding⟩, stuck⟩

end AgentNucleus.Library
