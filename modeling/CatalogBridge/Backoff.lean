import CatalogBridge.Duration.Basic

/-!
# Backoff

How long to wait after a failure: the first delay is the initial one, each further one is the last
delay times the multiplier and at most the greatest delay, and a success starts over.
-/

namespace CatalogBridge

/-- The pace of retries. -/
structure Pace where
  initial : Duration
  longest : Duration
  multiplier : Nat
  deriving DecidableEq, Repr

namespace Pace

/-- One second at first, twice as long each time, thirty seconds at most. -/
def standard : Pace := ⟨.ofSeconds 1, .ofSeconds 30, 2⟩

/-- The delay after a given one. -/
def grow (pace : Pace) (delay : Duration) : Duration :=
  .min (delay.scale pace.multiplier) pace.longest

end Pace

/-- Retries in progress: their pace, and how long the next delay is. -/
structure Backoff where
  pace : Pace
  current : Duration
  deriving DecidableEq, Repr

namespace Backoff

/-- Before the first failure. -/
def start (pace : Pace) : Backoff := ⟨pace, pace.initial⟩

/-- The delay to wait now, and the retries after it. -/
def next (backoff : Backoff) : Duration × Backoff :=
  (backoff.current, { backoff with current := backoff.pace.grow backoff.current })

/-- After a success. -/
def reset (backoff : Backoff) : Backoff := start backoff.pace

/-- What happens to retries: a delay is taken, or a success is reported. -/
inductive Step where
  | next
  | reset
  deriving DecidableEq, Repr

/-- The delays that a sequence of steps takes; a success takes none. -/
def delays (backoff : Backoff) : List Step → List (Option Duration)
  | [] => []
  | .next :: rest => some backoff.next.1 :: delays backoff.next.2 rest
  | .reset :: rest => none :: delays backoff.reset rest

end Backoff

end CatalogBridge
