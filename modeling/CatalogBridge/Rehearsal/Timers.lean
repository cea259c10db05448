/-!
# Timers

A virtual clock in whole milliseconds: it stands still while anything can happen, and then moves
to the next timer. Timers that run out at the same moment do so in the order in which they were
set.
-/

namespace CatalogBridge.Rehearsal

/-- A virtual clock and the timers that are set, oldest first. -/
structure Timers (ε : Type) where
  now : Nat
  set : List (Nat × ε)

namespace Timers

variable {ε : Type}

/-- A clock at zero without timers. -/
def initial : Timers ε := ⟨0, []⟩

/-- Set a timer that runs out after a delay. -/
def after (timers : Timers ε) (delay : Nat) (event : ε) : Timers ε :=
  { timers with set := timers.set ++ [(timers.now + delay, event)] }

/-- The moment at which the next timer runs out. -/
def next? (timers : Timers ε) : Option Nat :=
  timers.set.foldl (fun least entry => some (match least with
    | none => entry.1
    | some moment => min moment entry.1)) none

/-- Move the clock, and take out what ran out by then. -/
def moveTo (timers : Timers ε) (moment : Nat) : Timers ε × List ε :=
  (⟨moment, timers.set.filter fun entry => moment < entry.1⟩,
    (timers.set.filter fun entry => entry.1 ≤ moment).map (·.2))

end Timers

end CatalogBridge.Rehearsal
