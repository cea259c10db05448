import CatalogBridge.Kubernetes.Projection
import CatalogBridge.Sync.Program

/-!
# A sync cycle

One cycle makes the managed objects match a snapshot: it applies every wanted object and deletes
every managed one that the snapshot no longer wants. It remembers nothing between cycles.

A failure stays with its object: the other services are still applied, and an object whose apply
failed counts as wanted. Failures to apply anything, to list services or routes, or to delete a
service are the cycle's failures; failures to list or delete slices and to delete routes are only
told and counted, for the next cycle finds them again.
-/

namespace CatalogBridge

/-- Where objects are made and which routes are made. -/
structure Scope where
  namespaceName : String
  routes : RouteSettings

namespace Sync

/-- What a cycle has done and wants so far. -/
structure Progress where
  wantedServices : List String
  wantedRoutes : List String
  services : Nat
  endpoints : Nat
  routes : Nat
  errors : List Error

/-- Before anything is done. -/
def Progress.initial : Progress := ⟨[], [], 0, 0, 0, []⟩

/-- The gateways that a service gets a route on, in the order of the bindings. -/
def gatewaysFor (settings : RouteSettings) (state : ServiceState) : List String :=
  if settings.enabled then
    (settings.bindings.filter fun binding => state.hasTag binding.tag).map (·.gateway)
  else []

/-- Apply one route of a projection. -/
def applyRoute (scope : Scope) (projection : Projection) (progress : Progress) (gateway : String) :
    Program Progress := do
  let route :=
    HttpRoute.build projection.name scope.namespaceName projection.port gateway scope.routes
  match ← Program.request (.applyRoute route) with
  | .ok () =>
    Program.notify
      (.routeApplied route.metadata.name gateway (scope.routes.hostname projection.name))
    return { progress with routes := progress.routes + 1 }
  | .error error =>
    Program.measure .orchestratorError
    Program.notify (.routeFailed route.metadata.name error)
    return { progress with
      errors := progress.errors ++ [.apply .httpRoute route.metadata.name error] }

/-- Apply the routes of a projection, one after the other. -/
def applyRoutes (scope : Scope) (projection : Projection) :
    Progress → List String → Program Progress
  | progress, [] => pure progress
  | progress, gateway :: rest => do
    applyRoutes scope projection (← applyRoute scope projection progress gateway) rest

/-- Give a service up for this cycle. -/
def giveUp (projection : Projection) (progress : Progress) (error : Error) : Program Progress := do
  Program.measure .orchestratorError
  Program.notify (.syncFailed projection.name error)
  return { progress with errors := progress.errors ++ [error] }

/-- Apply the service, then the slice, then the routes of a projection. -/
def applyProjection (scope : Scope) (projection : Projection) (gateways : List String)
    (progress : Progress) : Program Progress := do
  match ← Program.request (.applyService projection.service) with
  | .error error => giveUp projection progress (.apply .service projection.name error)
  | .ok () =>
    match ← Program.request (.applySlice projection.slice) with
    | .error error =>
      giveUp projection progress (.apply .endpointSlice (Name.slice projection.name) error)
    | .ok () =>
      let progress := { progress with
        services := progress.services + 1
        endpoints := progress.endpoints + projection.endpoints }
      let progress ← applyRoutes scope projection progress gateways
      Program.notify (.synced projection.name projection.endpoints)
      return progress

/-- What a cycle wants once it has seen a projection; routes are wanted before they are applied,
so a failed apply never deletes a live one. -/
def Progress.want (progress : Progress) (projection : Projection) (gateways : List String) :
    Progress :=
  { progress with
    wantedServices := progress.wantedServices ++ [projection.name]
    wantedRoutes := progress.wantedRoutes ++ gateways.map (Name.route projection.name) }

/-- Sync one service of the snapshot. -/
def syncState (scope : Scope) (progress : Progress) (state : ServiceState) : Program Progress :=
  if state.instances.isEmpty then do
    Program.notify (.noInstances state.name)
    return progress
  else
    match Projection.build state scope.namespaceName with
    | .error error => do
      Program.notify (.notProjected state.name error)
      return progress
    | .ok (projection, notices) => do
      Program.notifyAll notices
      let gateways := gatewaysFor scope.routes state
      applyProjection scope projection gateways (progress.want projection gateways)

/-- Sync the services of a snapshot, one after the other. -/
def syncStates (scope : Scope) : Progress → Snapshot → Program Progress
  | progress, [] => pure progress
  | progress, state :: rest => do syncStates scope (← syncState scope progress state) rest

/-- What a sweep has done: how many objects it deleted, and what failed. -/
structure Swept where
  deleted : Nat
  errors : List Error

/-- Delete one orphan after the other. -/
def deleteAll (kind : Kind) : Swept → List String → Program Swept
  | swept, [] => pure swept
  | swept, name :: rest => do
    Program.notify (.deleting kind name)
    match ← Program.request (.delete kind name) with
    | .ok () => deleteAll kind { swept with deleted := swept.deleted + 1 } rest
    | .error error =>
      Program.measure .orchestratorError
      Program.notify (.deleteFailed kind name error)
      deleteAll kind { swept with errors := swept.errors ++ [.delete kind name error] } rest

/-- What is done about a listing that failed. -/
def listingFailed (kind : Kind) (error : Error) : Program Swept := do
  Program.measure .orchestratorError
  Program.notify (.listFailed kind error)
  return ⟨0, [error]⟩

/-- Delete the managed services that nothing wants. -/
def sweepServices (wanted : List String) : Program Swept := do
  match ← Program.request .listServices with
  | .error error => listingFailed .service error
  | .ok names => deleteAll .service ⟨0, []⟩ (names.filter fun name => !wanted.contains name)

/-- Whether a slice belongs to a wanted service. -/
def keepsSlice (wanted : List String) (slice : ManagedSlice) : Bool :=
  slice.service.any wanted.contains

/-- Delete the managed slices whose service nothing wants. -/
def sweepSlices (wanted : List String) : Program Swept := do
  match ← Program.request .listSlices with
  | .error error => listingFailed .endpointSlice error
  | .ok slices =>
    deleteAll .endpointSlice ⟨0, []⟩
      ((slices.filter fun slice => !keepsSlice wanted slice).map (·.name))

/-- Delete the managed routes that nothing wants. A listing that failed is the one
failure that is kept. -/
def sweepRoutes (wanted : List String) : Program Swept := do
  match ← Program.request .listRoutes with
  | .error error => listingFailed .httpRoute error
  | .ok names => do
    let swept ← deleteAll .httpRoute ⟨0, []⟩ (names.filter fun name => !wanted.contains name)
    return { swept with errors := [] }

/-- Make the managed objects match a snapshot. -/
def cycle (scope : Scope) (snapshot : Snapshot) : Program (Except Error Summary) := do
  let progress ← syncStates scope .initial snapshot
  let services ← sweepServices progress.wantedServices
  let _ ← sweepSlices progress.wantedServices
  let routes ← if scope.routes.enabled then sweepRoutes progress.wantedRoutes else pure ⟨0, []⟩
  Program.measure (.services progress.services)
  Program.measure (.endpoints progress.endpoints)
  if scope.routes.enabled then Program.measure (.routes progress.routes)
  match Error.join (progress.errors ++ services.errors ++ routes.errors) with
  | some error => return .error error
  | none =>
    return .ok ⟨progress.services, progress.endpoints, progress.routes,
      services.deleted + routes.deleted⟩

end Sync

end CatalogBridge
