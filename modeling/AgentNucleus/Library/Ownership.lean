/-
Accounts of handles.  A handle comes in, is held for a while and is closed; what
is held is not recorded but follows from the program, so that a handle that is
forgotten is missing from both sides.
-/

import Mathlib.Data.List.Perm.Basic
import AgentNucleus.Library.Programs

set_option autoImplicit false

namespace AgentNucleus.Library

/-- The handles that came in and those that were closed, in order. -/
structure Account (α : Type) where
  received : List α := []
  closed : List α := []

namespace Account

variable {α ι : Type} {received held handles : List α}

def receive (handles : List α) (account : Account α) : Account α :=
  { account with received := account.received ++ handles }

def close (handles : List α) (account : Account α) : Account α :=
  { account with closed := account.closed ++ handles }

/-- The handles that came in are those that were closed and those that are held. -/
structure Holds (received held : List α) (account : Account α) : Prop where
  received : account.received = received
  balanced : (account.closed ++ held).Perm account.received

/-- As often as a handle came in it was closed. -/
def Settled (account : Account α) : Prop :=
  account.closed.Perm account.received

theorem holds_initial : Holds [] [] ({} : Account α) :=
  ⟨rfl, List.Perm.refl _⟩

theorem Holds.receive {account : Account α} (holds : Holds received held account)
    (handles : List α) :
    Holds (received ++ handles) (held ++ handles) (account.receive handles) := by
  constructor
  · change account.received ++ handles = _
    rw [holds.received]
  · change (account.closed ++ (held ++ handles)).Perm (account.received ++ handles)
    rw [← List.append_assoc]
    exact holds.balanced.append_right handles

theorem Holds.close {account : Account α} (holds : Holds received (handles ++ held) account) :
    Holds received held (account.close handles) := by
  constructor
  · exact holds.received
  · change ((account.closed ++ handles) ++ held).Perm account.received
    rw [List.append_assoc]
    exact holds.balanced

/-- What is held is a collection. -/
theorem Holds.rearrange {account : Account α} {others : List α}
    (holds : Holds received held account) (same : held.Perm others) :
    Holds received others account :=
  ⟨holds.received, (same.symm.append_left account.closed).trans holds.balanced⟩

/-- Everything is settled exactly when nothing is held any longer. -/
theorem Holds.settled_iff {account : Account α} (holds : Holds received held account) :
    account.Settled ↔ held = [] := by
  have balanced := holds.balanced
  constructor
  · intro settled
    have counted := balanced.length_eq
    have same := settled.length_eq
    rw [List.length_append] at counted
    exact List.length_eq_zero_iff.mp (by omega)
  · intro nothing
    rw [nothing, List.append_nil] at balanced
    exact balanced

/-- With what the caller has got everything is settled exactly when nothing else is held. -/
theorem Holds.perm_iff {account : Account α} {kept lost : List α}
    (holds : Holds received (kept ++ lost) account) :
    (account.closed ++ kept).Perm account.received ↔ lost = [] := by
  have balanced := holds.balanced
  constructor
  · intro settled
    have counted := balanced.length_eq
    have same := settled.length_eq
    simp only [List.length_append] at counted same
    exact List.length_eq_zero_iff.mp (by omega)
  · intro nothing
    rw [nothing, List.append_nil] at balanced
    exact balanced

/-! ### Programs on an account -/

theorem closes : Program.Triple (Holds received (handles ++ held))
    (Program.change (close handles) : Program ι (Account α) Unit)
    fun _ => Holds received held :=
  Program.Triple.change fun _ holds => holds.close

theorem receives (handles : List α) : Program.Triple (Holds received held)
    (Program.change (receive handles) : Program ι (Account α) Unit)
    fun _ => Holds (received ++ handles) (held ++ handles) :=
  Program.Triple.change fun _ holds => holds.receive handles

end Account

end AgentNucleus.Library
