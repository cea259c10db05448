import CatalogBridge.Notice

/-!
# Metrics

What the program counts: three gauges that hold the picture of the last cycle, and four counters
that only grow.
-/

namespace CatalogBridge

/-- A change of a metric. -/
inductive Measurement where
  | services (count : Nat)
  | endpoints (count : Nat)
  | routes (count : Nat)
  | reconciled (outcome : Outcome)
  | registryError
  | orchestratorError
  deriving DecidableEq, Repr

/-- The values of all metrics. -/
structure Metrics where
  services : Nat
  endpoints : Nat
  routes : Nat
  reconcileSuccess : Nat
  reconcileError : Nat
  registryErrors : Nat
  orchestratorErrors : Nat
  deriving DecidableEq, Repr

namespace Metrics

/-- Before anything happened. -/
def initial : Metrics := ⟨0, 0, 0, 0, 0, 0, 0⟩

/-- The metrics after a change. -/
def record (metrics : Metrics) : Measurement → Metrics
  | .services count => { metrics with services := count }
  | .endpoints count => { metrics with endpoints := count }
  | .routes count => { metrics with routes := count }
  | .reconciled .success => { metrics with reconcileSuccess := metrics.reconcileSuccess + 1 }
  | .reconciled .error => { metrics with reconcileError := metrics.reconcileError + 1 }
  | .registryError => { metrics with registryErrors := metrics.registryErrors + 1 }
  | .orchestratorError => { metrics with orchestratorErrors := metrics.orchestratorErrors + 1 }

/-- The metrics after several changes. -/
def recordAll (metrics : Metrics) (changes : List Measurement) : Metrics :=
  changes.foldl record metrics

@[simp] theorem recordAll_nil (metrics : Metrics) : metrics.recordAll [] = metrics := rfl

@[simp] theorem recordAll_cons (metrics : Metrics) (change : Measurement)
    (changes : List Measurement) :
    metrics.recordAll (change :: changes) = (metrics.record change).recordAll changes := rfl

@[simp] theorem recordAll_append (metrics : Metrics) (front back : List Measurement) :
    metrics.recordAll (front ++ back) = (metrics.recordAll front).recordAll back := by
  simp [recordAll]

end Metrics

end CatalogBridge
