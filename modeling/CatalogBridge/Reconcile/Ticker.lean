import CatalogBridge.Duration.Basic

/-!
# The resync timer

A timer that falls due once a period. Ticks that fall due while nobody serves the timer collapse
into one: a tick served late by more than the tolerance moves all later ones, so two servings are
never much less than a period apart.
-/

namespace CatalogBridge

/-- A moment, in nanoseconds since the clock was started. -/
abbrev Instant := Nat

/-- A timer: its period and when its next tick is due. -/
structure Ticker where
  period : Nat
  due : Instant
  deriving DecidableEq, Repr

namespace Ticker

/-- How late a tick may be served without moving the later ones: five milliseconds. -/
def tolerance : Nat := 5000000

/-- A timer started now, whose first tick is due after one period. -/
def start (period : Duration) (now : Instant) : Ticker := ⟨period.nanos, now + period.nanos⟩

/-- Whether a tick is due. -/
def isDue (ticker : Ticker) (now : Instant) : Bool := ticker.due ≤ now

/-- When the next tick is due if this one is served now. -/
def nextDue (ticker : Ticker) (now : Instant) : Instant :=
  if ticker.due + tolerance < now then now + ticker.period else ticker.due + ticker.period

/-- The timer after a tick was served. -/
def serve (ticker : Ticker) (now : Instant) : Ticker := ⟨ticker.period, ticker.nextDue now⟩

/-- The next tick is due no earlier than a period less the tolerance after the serving. -/
theorem le_serve_due (ticker : Ticker) (now : Instant) :
    now + ticker.period ≤ (ticker.serve now).due + tolerance := by
  unfold serve nextDue Instant at *
  dsimp only
  split <;> omega

@[simp] theorem serve_period (ticker : Ticker) (now : Instant) :
    (ticker.serve now).period = ticker.period := by
  unfold serve
  rfl

end Ticker

end CatalogBridge
