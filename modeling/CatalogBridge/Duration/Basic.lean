/-!
# Durations

Lengths of time in whole nanoseconds. The longest one, `Duration.longest`, is what the seconds of
sixty-four bits reach; a sum beyond it does not exist (`add?`), and a multiple beyond it is cut to
it (`scale`).
-/

namespace CatalogBridge

/-- A length of time in nanoseconds. -/
structure Duration where
  nanos : Nat
  deriving DecidableEq, Repr

namespace Duration

/-- The nanoseconds of a second. -/
def nanosPerSecond : Nat := 1000000000

/-- So many seconds. -/
def ofSeconds (seconds : Nat) : Duration := ⟨seconds * nanosPerSecond⟩

/-- So many milliseconds. -/
def ofMillis (millis : Nat) : Duration := ⟨millis * 1000000⟩

/-- No time at all. -/
def zero : Duration := ⟨0⟩

/-- The longest duration: the greatest number of seconds in sixty-four bits and 999999999
nanoseconds. -/
def longest : Duration := ⟨Nat.pow 2 64 * nanosPerSecond - 1⟩

/-- The whole seconds of a duration. -/
def seconds (d : Duration) : Nat := d.nanos / nanosPerSecond

/-- The nanoseconds beyond the whole seconds. -/
def subsecond (d : Duration) : Nat := d.nanos % nanosPerSecond

/-- The whole milliseconds of a duration. -/
def millis (d : Duration) : Nat := d.nanos / 1000000

/-- The sum of two durations, if it is not beyond the longest. -/
def add? (a b : Duration) : Option Duration :=
  if a.nanos + b.nanos ≤ longest.nanos then some ⟨a.nanos + b.nanos⟩ else none

/-- A multiple of a duration, cut to the longest. -/
def scale (d : Duration) (factor : Nat) : Duration := ⟨min (d.nanos * factor) longest.nanos⟩

/-- The shorter of two durations. -/
def min (a b : Duration) : Duration := if a.nanos ≤ b.nanos then a else b

theorem min_nanos (a b : Duration) : (min a b).nanos = Nat.min a.nanos b.nanos := by
  unfold min
  split
  · exact (Nat.min_eq_left ‹_›).symm
  · exact (Nat.min_eq_right (by omega)).symm

end Duration

end CatalogBridge
