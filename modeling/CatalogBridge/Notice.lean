import CatalogBridge.Consul.Service
import CatalogBridge.Duration.Basic
import CatalogBridge.Error
import CatalogBridge.Json.Basic
import CatalogBridge.Kubernetes.Object

/-!
# Notices

What the program tells about its work while it runs: each notice is an event of the domain, with a
level, a fixed message and fields. Notices change nothing; they are part of what a run can be seen
to do.
-/

namespace CatalogBridge

/-- What set off a cycle: the catalog changed, or the resync was due. -/
inductive Trigger where
  | watch
  | resync
  deriving DecidableEq, Repr

/-- The trigger as fields name it. -/
def Trigger.name : Trigger → String
  | .watch => "watch"
  | .resync => "resync"

/-- How a cycle ended. -/
inductive Outcome where
  | success
  | error
  deriving DecidableEq, Repr

/-- The outcome as fields and labels name it. -/
def Outcome.name : Outcome → String
  | .success => "success"
  | .error => "error"

/-- What one cycle did: services with their endpoints and routes applied, and orphans deleted. -/
structure Summary where
  services : Nat
  endpoints : Nat
  routes : Nat
  deleted : Nat
  deriving DecidableEq, Repr

/-- How much a notice matters. -/
inductive Level where
  | info
  | warn
  | error
  deriving DecidableEq, Repr

/-- The level as lines name it. -/
def Level.name : Level → String
  | .info => "INFO"
  | .warn => "WARN"
  | .error => "ERROR"

/-- Which part of the program a notice comes from. -/
inductive Origin where
  | program
  | health
  | projection
  | sync
  | watch
  | reconcile
  deriving DecidableEq, Repr

/-- An event worth telling. -/
inductive Notice where
  /-- An instance has no address and is left out of the slice. -/
  | withoutAddress (service : String)
  /-- An instance's address is of another family than the slice and is left out. -/
  | otherFamily (service address : String) (family sliceFamily : AddressType)
  /-- A service has no instances and is left out. -/
  | noInstances (service : String)
  /-- A service cannot be projected and is left out. -/
  | notProjected (service : String) (error : Error)
  /-- A service or slice could not be applied. -/
  | syncFailed (service : String) (error : Error)
  /-- A route was applied. -/
  | routeApplied (route gateway hostname : String)
  /-- A route could not be applied. -/
  | routeFailed (route : String) (error : Error)
  /-- A service and its slice were applied. -/
  | synced (service : String) (endpoints : Nat)
  /-- The managed objects of a kind could not be listed. -/
  | listFailed (kind : Kind) (error : Error)
  /-- An object that nothing wants is about to be deleted. -/
  | deleting (kind : Kind) (name : String)
  /-- An object could not be deleted. -/
  | deleteFailed (kind : Kind) (name : String) (error : Error)
  /-- The catalog could not be listed. -/
  | catalogFailed (error : Error) (delay : Duration)
  /-- The catalog started over. -/
  | indexWentBack (previous returned : ChangeIndex)
  /-- The catalog changed. -/
  | catalogChanged (names : List String) (index : ChangeIndex)
  /-- The instances of one service could not be fetched. -/
  | instancesFailed (service : String) (trigger : Trigger) (error : Error)
  /-- The loop starts. -/
  | loopStarting (resync : Duration)
  /-- The loop stopped. -/
  | loopStopped
  /-- A cycle starts. -/
  | reconciling (trigger : Trigger) (services : Nat)
  /-- A cycle was given up. -/
  | interrupted (trigger : Trigger)
  /-- A cycle ended without a failure. -/
  | reconciled (trigger : Trigger) (summary : Summary)
  /-- A cycle ended with a failure. -/
  | reconcileFailed (trigger : Trigger) (error : Error)
  /-- A resync could not list the catalog. -/
  | resyncSkipped (error : Error)
  /-- The program starts. -/
  | starting (version commit address tag namespaceName : String) (resync : Duration) (routes : Bool)
  /-- The health server waits for requests. -/
  | listening (endpoint : String)
  /-- The health server gave up. -/
  | healthFailed (error : Error)
  /-- The program is told to stop. -/
  | signalled
  /-- The program stopped. -/
  | stopped
  deriving Repr

namespace Notice

/-- A kind of object in running text. -/
def kindWord : Kind → String
  | .service => "service"
  | .endpointSlice => "endpointslice"
  | .httpRoute => "httproute"

/-- The field that holds the name of an object. -/
def kindField : Kind → String
  | .service => "service"
  | .endpointSlice => "endpointslice"
  | .httpRoute => "route"

/-- Where a notice comes from. -/
def origin : Notice → Origin
  | .withoutAddress .. | .otherFamily .. => .projection
  | .noInstances .. | .notProjected .. | .syncFailed .. | .routeApplied .. | .routeFailed ..
  | .synced .. | .listFailed .. | .deleting .. | .deleteFailed .. => .sync
  | .catalogFailed .. | .indexWentBack .. | .catalogChanged .. | .instancesFailed .. => .watch
  | .loopStarting .. | .loopStopped | .reconciling .. | .interrupted .. | .reconciled ..
  | .reconcileFailed .. | .resyncSkipped .. => .reconcile
  | .listening .. => .health
  | .starting .. | .healthFailed .. | .signalled | .stopped => .program

/-- How much a notice matters. -/
def level : Notice → Level
  | .withoutAddress .. | .otherFamily .. | .noInstances .. | .notProjected .. | .indexWentBack ..
  | .resyncSkipped .. => .warn
  | .syncFailed .. | .routeFailed .. | .listFailed .. | .deleteFailed .. | .catalogFailed ..
  | .instancesFailed .. | .reconcileFailed .. | .healthFailed .. => .error
  | .routeApplied .. | .synced .. | .deleting .. | .catalogChanged .. | .loopStarting ..
  | .loopStopped
  | .reconciling .. | .interrupted .. | .reconciled .. | .starting .. | .listening .. | .signalled
  | .stopped => .info

/-- The message of a notice. -/
def message : Notice → String
  | .withoutAddress .. => "skipping instance without address"
  | .otherFamily .. => "skipping instance with mismatched address type"
  | .noInstances .. => "skipping service with no healthy instances"
  | .notProjected .. => "skipping service"
  | .syncFailed .. => "failed to sync service, skipping"
  | .routeApplied .. => "applied httproute"
  | .routeFailed .. => "failed to apply httproute, skipping"
  | .synced .. => "synced service"
  | .listFailed kind _ => "failed to list managed " ++ kindWord kind ++ "s"
  | .deleting kind _ => "deleting orphaned " ++ kindWord kind
  | .deleteFailed kind _ _ => "failed to delete " ++ kindWord kind
  | .catalogFailed .. => "failed to list consul services"
  | .indexWentBack .. => "consul index went backwards, restarting watch"
  | .catalogChanged .. => "consul services changed"
  | .instancesFailed .. => "failed to get service instances"
  | .loopStarting .. => "starting reconciler"
  | .loopStopped => "reconciler stopped"
  | .reconciling .. => "reconciling"
  | .interrupted .. => "reconciliation interrupted by shutdown"
  | .reconciled .. => "reconciliation complete"
  | .reconcileFailed .. => "reconciliation failed"
  | .resyncSkipped .. => "resync fetch failed, skipping cycle"
  | .starting .. => "starting consul-sync"
  | .listening .. => "health server listening"
  | .healthFailed .. => "health server error"
  | .signalled => "shutdown signal received"
  | .stopped => "consul-sync stopped"

/-- The field with the text of a failure. -/
def errorField (error : Error) : String × Json := ("error", .str error.message)

/-- The fields of a notice. -/
def fields : Notice → List (String × Json)
  | .withoutAddress service => [("service", .str service)]
  | .otherFamily service address family sliceFamily =>
    [("service", .str service), ("address", .str address), ("address_type", .str family.name),
     ("slice_address_type", .str sliceFamily.name)]
  | .noInstances service => [("service", .str service)]
  | .notProjected service error => [("service", .str service), errorField error]
  | .syncFailed service error => [("service", .str service), errorField error]
  | .routeApplied route gateway hostname =>
    [("route", .str route), ("gateway", .str gateway), ("hostname", .str hostname)]
  | .routeFailed route error => [("route", .str route), errorField error]
  | .synced service endpoints => [("service", .str service), ("endpoints", .int endpoints)]
  | .listFailed _ error => [errorField error]
  | .deleting kind name => [(kindField kind, .str name)]
  | .deleteFailed kind name error => [(kindField kind, .str name), errorField error]
  | .catalogFailed error delay =>
    [errorField error, ("backoff_ms", .int (delay.millis % Nat.pow 2 64))]
  | .indexWentBack previous returned =>
    [("previous", .str previous.render), ("returned", .str returned.render)]
  | .catalogChanged names index =>
    [("services", .str (Quoted.quoteAll names)), ("index", .str index.render)]
  | .instancesFailed service trigger error =>
    [("service", .str service), ("trigger", .str trigger.name), errorField error]
  | .loopStarting resync => [("resync_interval_secs", .int resync.seconds)]
  | .loopStopped => []
  | .reconciling trigger services => [("trigger", .str trigger.name), ("services", .int services)]
  | .interrupted trigger => [("trigger", .str trigger.name)]
  | .reconciled trigger summary =>
    [("trigger", .str trigger.name), ("services", .int summary.services),
     ("endpoints", .int summary.endpoints), ("routes", .int summary.routes),
     ("deleted", .int summary.deleted), ("outcome", .str Outcome.success.name)]
  | .reconcileFailed trigger error =>
    [("trigger", .str trigger.name), ("outcome", .str Outcome.error.name), errorField error]
  | .resyncSkipped error => [("trigger", .str Trigger.resync.name), errorField error]
  | .starting version commit address tag namespaceName resync routes =>
    [("version", .str version), ("commit", .str commit), ("consul_addr", .str address),
     ("consul_tag", .str tag),
     ("target_namespace", .str namespaceName), ("resync_interval_secs", .int resync.seconds),
     ("enable_httproutes", .bool routes)]
  | .listening endpoint => [("addr", .str endpoint)]
  | .healthFailed error => [errorField error]
  | .signalled => []
  | .stopped => []

end Notice

end CatalogBridge
