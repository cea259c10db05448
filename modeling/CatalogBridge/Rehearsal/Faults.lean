import CatalogBridge.Error
import CatalogBridge.Kubernetes.Cluster

/-!
# Faults

A cluster in memory that can be told to fail or to take its time: by the text of a request, a
failure for good or for a number of times, and a delay. A failing request changes nothing.
-/

namespace CatalogBridge.Rehearsal

/-- A failure that is due, and how often still; `none` until it is called off. -/
structure Fault where
  error : Error
  times : Option Nat

/-- A cluster with its faults and delays. -/
structure Plant where
  cluster : Cluster
  faults : List (String × Fault)
  delays : List (String × Nat)

namespace Plant

/-- An empty cluster without faults. -/
def initial : Plant := ⟨.empty, [], []⟩

/-- Plan a failure; it takes the place of one planned before for the same request. -/
def fail (plant : Plant) (text : String) (fault : Fault) : Plant :=
  { plant with faults := (text, fault) :: plant.faults.filter (·.1 ≠ text) }

/-- Plan a delay. -/
def delay (plant : Plant) (text : String) (millis : Nat) : Plant :=
  { plant with delays := (text, millis) :: plant.delays.filter (·.1 ≠ text) }

/-- Call all failures and delays off. -/
def heal (plant : Plant) : Plant := { plant with faults := [], delays := [] }

/-- How long a request takes. -/
def delayOf (plant : Plant) (call : ClusterCall) : Nat :=
  ((plant.delays.find? (·.1 = call.text)).map (·.2)).getD 0

/-- The failure that a request runs into, and the plan after it. -/
def strike (plant : Plant) (call : ClusterCall) : Option Error × Plant :=
  match plant.faults.find? (·.1 = call.text) with
  | none => (none, plant)
  | some (text, fault) =>
    match fault.times with
    | none => (some fault.error, plant)
    | some 0 => (none, plant)
    | some (left + 1) => (some fault.error, plant.fail text { fault with times := some left })

/-- What a request leads to. -/
def perform (plant : Plant) (call : ClusterCall) : Except Error call.Answer × Plant :=
  match plant.strike call with
  | (some error, plant) => (.error error, plant)
  | (none, plant) =>
    let (cluster, answer) := plant.cluster.perform .everything call
    (.ok answer, { plant with cluster := cluster })

end Plant

end CatalogBridge.Rehearsal
