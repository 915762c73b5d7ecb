import Mathlib.Algebra.Ring.Int.Defs
import Mathlib.Algebra.Ring.Nat
import Mathlib.Data.List.Basic

/-!
# Concurrency gates

A gate admits the tickets that wait for it in the order in which they came, so that at most
`limit` are active at once. The bound is part of the gate.
-/

namespace Triangle.Std

variable {Ticket : Type} {limit : Nat}

/-- A gate with the tickets it has admitted and those that wait. -/
structure Gate (limit : Nat) (Ticket : Type) where
  active : List Ticket
  waiting : List Ticket
  bounded : active.length ≤ limit

namespace Gate

/-- A gate that nobody has used. -/
def empty (limit : Nat) (Ticket : Type) : Gate limit Ticket where
  active := []
  waiting := []
  bounded := Nat.zero_le _

/-- Admit waiting tickets while there is room. -/
def admitNext (gate : Gate limit Ticket) : Gate limit Ticket where
  active := gate.active ++ gate.waiting.take (limit - gate.active.length)
  waiting := gate.waiting.drop (limit - gate.active.length)
  bounded := by
    have := gate.bounded
    rw [List.length_append, List.length_take]
    omega

/-- A ticket comes to the gate. -/
def acquire (gate : Gate limit Ticket) (ticket : Ticket) : Gate limit Ticket :=
  { gate with waiting := gate.waiting ++ [ticket] }.admitNext

theorem admitNext_active {gate : Gate limit Ticket} {ticket : Ticket}
    (isActive : ticket ∈ gate.active) : ticket ∈ gate.admitNext.active :=
  List.mem_append_left _ isActive

/-- A ticket stays active while others come. -/
theorem acquire_active {gate : Gate limit Ticket} {ticket other : Ticket}
    (isActive : other ∈ gate.active) : other ∈ (gate.acquire ticket).active :=
  List.mem_append_left _ isActive

variable [DecidableEq Ticket]

/-- An active ticket leaves the gate. -/
def release (gate : Gate limit Ticket) (ticket : Ticket) : Gate limit Ticket :=
  admitNext {
    active := gate.active.erase ticket
    waiting := gate.waiting
    bounded := Nat.le_trans List.length_erase_le gate.bounded }

/-- A ticket gives up waiting. -/
def withdraw (gate : Gate limit Ticket) (ticket : Ticket) : Gate limit Ticket :=
  { gate with waiting := gate.waiting.erase ticket }

variable {gate : Gate limit Ticket} {ticket other : Ticket}

/-- A ticket stays active while others leave. -/
theorem release_active (differs : other ≠ ticket) (isActive : other ∈ gate.active) :
    other ∈ (gate.release ticket).active :=
  admitNext_active ((List.mem_erase_of_ne differs).2 isActive)

end Gate

end Triangle.Std
