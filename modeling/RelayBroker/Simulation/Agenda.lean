/-
  RelayBroker.Simulation.Agenda

  A clock that only moves when it is told to, and what is to happen at which time.
  On its way the clock stops wherever something is entered, so that what happens there
  sees the time for which it was set. What is due comes in the order of the times, and
  within one time in the order in which it was set.
-/

namespace RelayBroker.Simulation

/-- The time, and what is to happen, the earliest first. Times are in milliseconds. -/
structure Agenda (α : Type) where
  now : Nat
  /-- Where the clock is to stop in the end. -/
  goal : Nat
  entries : List (Nat × α)

namespace Agenda

variable {α : Type}

/-- Nothing is to happen. -/
def empty : Agenda α := ⟨0, 0, []⟩

/-- Enters something that is to happen after a delay. -/
def set (a : Agenda α) (delay : Nat) (event : α) : Agenda α :=
  let time := a.now + delay
  let (before, after) := a.entries.span fun e => e.1 ≤ time
  { a with entries := before ++ (time, event) :: after }

/-- Tells the clock to move by a delay. -/
def advance (a : Agenda α) (delay : Nat) : Agenda α :=
  { a with goal := a.goal + delay }

/-- Takes out what is due first, if anything is due. -/
def popDue (a : Agenda α) : Option (α × Agenda α) :=
  match a.entries with
  | (time, event) :: rest =>
    if time ≤ a.now then some (event, { a with entries := rest }) else none
  | [] => none

/-- Moves the clock on to the next time for which something is entered, but not beyond
its goal; none if it is there. -/
def tick (a : Agenda α) : Option (Agenda α) :=
  if a.goal ≤ a.now then none
  else match a.entries with
    | (time, _) :: _ => some { a with now := min time a.goal }
    | [] => some { a with now := a.goal }

end Agenda

end RelayBroker.Simulation
