import CatalogBridge.Notice

/-!
# Telemetry

How the program tells about itself: under which name, to which collector, which part of it a
notice names as its source, and the line that a notice is written as.
-/

namespace CatalogBridge.Telemetry

/-- The name that traces and metrics carry. -/
def serviceName : String := "consul-sync"

/-- The variable that names the collector. -/
def collectorVariable : String := "OTEL_EXPORTER_OTLP_ENDPOINT"

/-- The collector that an environment names, if it names one. -/
def collector? (environment : String → Option String) : Option String :=
  (environment collectorVariable).filter (· ≠ "")

/-- The source that lines and filters know a part of the program by. -/
def source : Origin → String
  | .program => "consul_sync"
  | .health => "consul_sync::health"
  | .projection => "consul_sync::kubernetes::resources"
  | .sync => "consul_sync::kubernetes::syncer"
  | .watch => "consul_sync::consul::watcher"
  | .reconcile => "consul_sync::reconciler"

/-- The line that a notice is written as, without the time. -/
def line (notice : Notice) : Json :=
  .record [
    ("level", .str notice.level.name),
    ("fields", .record (("message", .str notice.message) :: notice.fields)),
    ("target", .str (source notice.origin))]

end CatalogBridge.Telemetry
