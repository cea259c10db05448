import CatalogBridge.Metrics
import CatalogBridge.Number.Shortest

/-!
# Readings

What a scrape of the metrics shows. An instrument shows up once it has been used: a gauge with the
value set last, even if that is zero, a counter with its sum, one line for each status that it is
counted by. Instruments stand in the order of their names.
-/

namespace CatalogBridge

/-- The instruments as far as they have been used. -/
structure Readings where
  services : Option Nat
  endpoints : Option Nat
  routes : Option Nat
  reconcileSuccess : Nat
  reconcileError : Nat
  registryErrors : Nat
  orchestratorErrors : Nat
  deriving DecidableEq, Repr

/-- One instrument with its samples; a sample is labels, as they are written, and a value. -/
structure Family where
  name : String
  help : String
  kind : String
  samples : List (String × Nat)
  deriving DecidableEq, Repr

/-- The text of an instrument: its help, its kind, and a line a sample; nothing if
there is no sample. -/
def Family.text (family : Family) : String :=
  if family.samples.isEmpty then ""
  else
    "# HELP " ++ family.name ++ " " ++ family.help
      ++ "\n# TYPE " ++ family.name ++ " " ++ family.kind ++ "\n"
      ++ String.join (family.samples.map fun sample =>
        family.name ++ sample.1 ++ " " ++ gaugeText sample.2 ++ "\n")

namespace Readings

/-- Before any instrument is used. -/
def initial : Readings := ⟨none, none, none, 0, 0, 0, 0⟩

/-- The readings after a change. -/
def record (readings : Readings) : Measurement → Readings
  | .services count => { readings with services := some count }
  | .endpoints count => { readings with endpoints := some count }
  | .routes count => { readings with routes := some count }
  | .reconciled .success => { readings with reconcileSuccess := readings.reconcileSuccess + 1 }
  | .reconciled .error => { readings with reconcileError := readings.reconcileError + 1 }
  | .registryError => { readings with registryErrors := readings.registryErrors + 1 }
  | .orchestratorError => { readings with orchestratorErrors := readings.orchestratorErrors + 1 }

/-- The values of all metrics, zero for gauges that are not set. -/
def metrics (readings : Readings) : Metrics where
  services := readings.services.getD 0
  endpoints := readings.endpoints.getD 0
  routes := readings.routes.getD 0
  reconcileSuccess := readings.reconcileSuccess
  reconcileError := readings.reconcileError
  registryErrors := readings.registryErrors
  orchestratorErrors := readings.orchestratorErrors

/-- The sample of a gauge that has been set. -/
def gaugeSamples (value : Option Nat) : List (String × Nat) :=
  value.toList.map fun count => ("", count)

/-- The sample of a counter that has counted, under its labels. -/
def counterSamples (labels : String) (sum : Nat) : List (String × Nat) :=
  if sum = 0 then [] else [(labels, sum)]

/-- The label of an outcome. -/
def statusLabel (outcome : Outcome) : String := "\x7bstatus=\"" ++ outcome.name ++ "\"\x7d"

/-- All instruments, in the order of their names. -/
def families (readings : Readings) : List Family := [
  ⟨"consul_sync_consul_errors_total", "Total errors communicating with Consul", "counter",
    counterSamples "" readings.registryErrors⟩,
  ⟨"consul_sync_endpoints_total", "Total number of endpoints across all synced services", "gauge",
    gaugeSamples readings.endpoints⟩,
  ⟨"consul_sync_httproutes_total", "Number of currently synced HTTPRoutes", "gauge",
    gaugeSamples readings.routes⟩,
  ⟨"consul_sync_kubernetes_errors_total", "Total errors communicating with the Kubernetes API",
    "counter", counterSamples "" readings.orchestratorErrors⟩,
  ⟨"consul_sync_reconcile_total", "Total reconciliations performed", "counter",
    counterSamples (statusLabel .error) readings.reconcileError
      ++ counterSamples (statusLabel .success) readings.reconcileSuccess⟩,
  ⟨"consul_sync_services_total", "Number of currently synced services", "gauge",
    gaugeSamples readings.services⟩]

/-- The text of a scrape. -/
def exposition (readings : Readings) : String := String.join (readings.families.map Family.text)

end Readings

end CatalogBridge
