import CatalogBridge.Proofs.Sync.Routing

/-!
# Where routes lead to

The route of a service has one backend: the service, on the port of its first
instance. Names of the catalog that differ may be one name once they are sanitized,
as `web_api` and `web-api`. Of such services the last one gives the stored service
its port. A route stays as the last one made it that asks for the name of the
route, and that need not be the same one.

* `Cluster.Exposes` says that a managed service has a port, and `HttpRoute.Backed`
  that all backends of a route are such ports.
* `LastToAsk` is a service whose route stays, with the services behind it.
  `lastOf_route_iff` says that the routes of a settled cluster belong to these.
* `lastPort?` is the port of the last service of a name, and `Settled.exposes_iff`
  says that it is the port that is exposed.
* `backed_iff_of_ordered` says exactly when the routes that a sync without failures
  leaves are all backed: no service whose route stays is followed by one of the same
  name on another port. Their backends are managed services in any case.
  `unbacked_of_shared_name` is a route to a port that nothing exposes.
-/

namespace CatalogBridge

namespace Cluster

/-- A managed service of this name is stored. -/
def Serves (cluster : Cluster) (service : String) : Prop :=
  ∃ object, cluster.get? .service service = some (.service object) ∧
    Selector.managed object.metadata.labels = true

/-- A managed service of this name is stored and has the port. -/
def Exposes (cluster : Cluster) (service : String) (port : Int) : Prop :=
  ∃ object, cluster.get? .service service = some (.service object) ∧
    Selector.managed object.metadata.labels = true ∧ port ∈ object.ports

/-- A managed route is stored under this name. -/
def HasRoute (cluster : Cluster) (name : String) (route : HttpRoute) : Prop :=
  cluster.get? .httpRoute name = some (.route route) ∧
    Selector.managed route.metadata.labels = true

end Cluster

namespace HttpRoute

/-- The services and ports that a route leads to. -/
def backends (route : HttpRoute) : List BackendRef := route.spec.rules.flatMap (·.backendRefs)

/-- Everything that a route leads to is exposed by a managed service. -/
def Backed (route : HttpRoute) (cluster : Cluster) : Prop :=
  ∀ backend ∈ route.backends, cluster.Exposes backend.name backend.port

end HttpRoute

namespace Sync

variable {scope : Scope} {snapshot before behind : Snapshot} {state : ServiceState}
  {cluster : Cluster} {fates : Fates} {route : HttpRoute} {name gateway : String} {port : Int}
  {projection : Projection}

/-! ## The last service to ask -/

/-- The service asks for a route on the gateway, and none behind it asks for a route of the same
name. -/
structure LastToAsk (scope : Scope) (projection : Projection) (gateway : String)
    (state : ServiceState) (behind : Snapshot) : Prop where
  projected : projection? scope state = some projection
  asked : gateway ∈ selectedGateways scope.routes state
  last : Name.route projection.name gateway ∉ wantedRoutes scope behind

/-- The last object of a name is one of the services behind the first one, or else one of its
own. -/
theorem lastOf_wanted_cons (state : ServiceState) (rest : Snapshot) (kind : Kind) (name : String) :
    lastOf (wanted scope (state :: rest)) kind name
      = (lastOf (wanted scope rest) kind name).or
          ((demand? scope state).bind fun demand => lastOf (demand.objects scope) kind name) := by
  cases hdemand : demand? scope state with
  | none =>
    rw [wanted, demands, List.filterMap_cons_none hdemand, Option.bind_none, Option.or_none]
    rfl
  | some demand =>
    rw [wanted, demands, List.filterMap_cons_some hdemand, List.flatMap_cons, lastOf_append,
      Option.bind_some]
    rfl

/-- The last route among the objects of a service is one that the service asks for. -/
theorem route_of_lastOf_objects {demand : Demand}
    (h : lastOf (demand.objects scope) .httpRoute name = some (.route route)) :
    ∃ gateway ∈ demand.gateways,
      name = Name.route demand.projection.name gateway ∧ route = demand.route scope gateway := by
  obtain ⟨hobject, _, rfl⟩ := lastOf_mem h
  rcases Demand.mem_objects.1 hobject with hservice | hslice | ⟨gateway, hgateway, hroute⟩
  · cases hservice
  · cases hslice
  · obtain rfl := Object.route.inj hroute
    exact ⟨gateway, hgateway, rfl, rfl⟩

/-- The last route of a name is that of the last service to ask for it. -/
theorem lastOf_route_iff : lastOf (wanted scope snapshot) .httpRoute name = some (.route route) ↔
    ∃ before state behind projection gateway, snapshot = before ++ state :: behind ∧
      LastToAsk scope projection gateway state behind ∧
      name = Name.route projection.name gateway ∧
      route = .build projection.name scope.namespaceName projection.port gateway scope.routes := by
  constructor
  · intro hlast
    induction snapshot with
    | nil => cases hlast
    | cons first rest ih =>
      rw [lastOf_wanted_cons, Option.or_eq_some_iff] at hlast
      rcases hlast with hrest | ⟨hnone, hown⟩
      · obtain ⟨before, state, behind, projection, gateway, rfl, hroute⟩ := ih hrest
        exact ⟨first :: before, state, behind, projection, gateway, rfl, hroute⟩
      · obtain ⟨demand, hdemand, hown⟩ := Option.bind_eq_some_iff.1 hown
        obtain ⟨projection, hprojection, rfl⟩ := Option.map_eq_some_iff.1 hdemand
        obtain ⟨gateway, hgateway, rfl, rfl⟩ := route_of_lastOf_objects hown
        exact ⟨[], first, rest, projection, gateway, rfl,
          ⟨hprojection, hgateway, lastOf_route_eq_none_iff.1 hnone⟩, rfl, rfl⟩
  · intro hasked
    obtain ⟨before, state, behind, projection, gateway, rfl, hask, rfl, rfl⟩ := hasked
    rw [lastOf_wanted_split hask.projected, lastOf_route_eq_none_iff.2 hask.last, Option.none_or,
      Demand.lastOf_objects hask.asked, Option.some_or]
    rfl

/-! ## The port of a name -/

/-- The port of the last service of the snapshot that is projected under a name. -/
def lastPort? (scope : Scope) (snapshot : Snapshot) (name : String) : Option Int :=
  ((projections scope snapshot).reverse.find? (·.name = name)).map (·.port)

/-- The last port of the name of a service is its own, unless a service behind it has another. -/
theorem lastPort?_split (h : projection? scope state = some projection) :
    lastPort? scope (before ++ state :: behind) projection.name = some projection.port ↔
      ∀ port, lastPort? scope behind projection.name = some port → port = projection.port := by
  have hsplit : lastPort? scope (before ++ state :: behind) projection.name
      = (lastPort? scope behind projection.name).or (some projection.port) := by
    simp [lastPort?, projections, List.filterMap_append, List.filterMap_cons_some h,
      List.find?_append]
  rw [hsplit]
  cases lastPort? scope behind projection.name with
  | none => simp
  | some port => simp

/-- A name has a last port if a service of the snapshot is projected under it. -/
theorem lastPort?_eq_none_iff :
    lastPort? scope snapshot name = none ↔ name ∉ wantedServices scope snapshot := by
  rw [wantedServices, lastPort?, projections_eq, ← List.map_eq_flatMap]
  simp

/-- A settled cluster holds a service of every wanted name, on the last port of the name. -/
theorem Settled.service (h : Settled scope snapshot cluster)
    (hport : lastPort? scope snapshot name = some port) :
    cluster.get? .service name = some (.service (.build name scope.namespaceName port)) := by
  obtain ⟨projection, hfound, rfl⟩ := Option.map_eq_some_iff.1 hport
  have hmem := List.mem_reverse.1 (List.mem_of_find?_eq_some hfound)
  obtain ⟨state, _, hprojection⟩ := List.mem_filterMap.1 hmem
  obtain rfl : projection.name = name := by simpa using List.find?_some hfound
  refine h.holds _ _ _ ?_
  rw [lastOf_wanted_service, hfound, Option.map_some, Option.map_some,
    (projects_of_projection? hprojection).service]

/-- A settled cluster serves every wanted name, and exposes the last port of the name and no
other. -/
theorem Settled.exposes_iff (h : Settled scope snapshot cluster)
    (hname : name ∈ wantedServices scope snapshot) : cluster.Serves name ∧
      ∀ port, cluster.Exposes name port ↔ lastPort? scope snapshot name = some port := by
  obtain ⟨last, hlast⟩ := Option.ne_none_iff_exists'.1 fun hnone =>
    lastPort?_eq_none_iff.1 hnone hname
  have hget := h.service hlast
  have hmanaged := @Object.MadeFor.managed scope name
    (.service (.build name scope.namespaceName last)) ⟨rfl, rfl⟩
  refine ⟨⟨_, hget, hmanaged⟩, fun port => ?_⟩
  rw [hlast]
  constructor
  · intro hexposed
    obtain ⟨object, hobject, _, hport⟩ := hexposed
    obtain rfl := Object.service.inj (Option.some.inj (hget.symm.trans hobject))
    rw [List.mem_singleton.1 hport]
  · intro hsame
    obtain rfl := Option.some.inj hsame
    exact ⟨_, hget, hmanaged, List.mem_cons_self⟩

/-! ## Backed routes -/

/-- The routes of a settled cluster are those of the last services to ask for them. -/
theorem Settled.routes_iff (h : Settled scope snapshot cluster)
    (henabled : scope.routes.enabled = true) : cluster.HasRoute name route ↔
      ∃ before state behind projection gateway, snapshot = before ++ state :: behind ∧
        LastToAsk scope projection gateway state behind ∧
        name = Name.route projection.name gateway ∧
        route = .build projection.name scope.namespaceName projection.port gateway
          scope.routes :=
  (h.managed_route_iff henabled).trans lastOf_route_iff

/-- The name of a service that is projected is wanted. -/
theorem name_mem_wantedServices (h : projection? scope state = some projection) :
    projection.name ∈ wantedServices scope (before ++ state :: behind) := by
  rw [wantedServices, demands_split h, List.map_append, List.map_cons]
  exact List.mem_append_right _ List.mem_cons_self

/-- The route of a service is backed in a settled cluster unless a service behind it has the same
name and another port. -/
theorem Settled.backed_iff (h : Settled scope (before ++ state :: behind) cluster)
    (hprojection : projection? scope state = some projection) (gateway : String) :
    (HttpRoute.build projection.name scope.namespaceName projection.port gateway
        scope.routes).Backed cluster ↔
      ∀ port, lastPort? scope behind projection.name = some port → port = projection.port := by
  rw [← lastPort?_split hprojection, ← (h.exposes_iff (name_mem_wantedServices hprojection)).2]
  exact List.forall_mem_singleton

/-- The routes of a settled cluster are all backed exactly if no service whose route stays is
followed by one of the same name on another port. -/
theorem Settled.all_backed_iff (h : Settled scope snapshot cluster)
    (henabled : scope.routes.enabled = true) :
    (∀ name route, cluster.HasRoute name route → route.Backed cluster) ↔
      ∀ before state behind projection gateway, snapshot = before ++ state :: behind →
        LastToAsk scope projection gateway state behind →
        ∀ port, lastPort? scope behind projection.name = some port → port = projection.port := by
  constructor
  · intro hbacked before state behind projection gateway hsplit hask
    subst hsplit
    have hroute := (h.routes_iff henabled).2
      ⟨before, state, behind, projection, gateway, rfl, hask, rfl, rfl⟩
    exact (h.backed_iff hask.projected gateway).1 (hbacked _ _ hroute)
  · intro hports name route hroute
    obtain ⟨before, state, behind, projection, gateway, rfl, hask, rfl, rfl⟩ :=
      (h.routes_iff henabled).1 hroute
    exact (h.backed_iff hask.projected gateway).2
      (hports before state behind projection gateway rfl hask)

/-- After a sync in which nothing fails, of services of different names, every managed route is
backed. -/
theorem backed_of_nodup (h : cluster.Ordered) (henabled : scope.routes.enabled = true)
    (hok : ∀ exchange ∈ Sync.exchanges scope fates cluster snapshot, ¬ exchange.Failed)
    (hnames : (wantedServices scope snapshot).Nodup) :
    ∀ name route, (after scope fates cluster snapshot).HasRoute name route →
      route.Backed (after scope fates cluster snapshot) := by
  refine ((settled_after h hok).all_backed_iff henabled).2 ?_
  intro before state behind projection gateway hsplit hask port hport
  subst hsplit
  rw [lastPort?_eq_none_iff.2 (name_not_mem_behind hask.projected hnames)] at hport
  cases hport

/-- After a sync in which nothing fails, every managed route has one backend, which is a managed
service. It is the port of the route that may be missing: the ports are all exposed exactly if no
service whose route stays is followed by one of the same name on another port. The cluster at first
may hold anything. -/
theorem backed_iff_of_ordered (h : cluster.Ordered) (henabled : scope.routes.enabled = true)
    (hok : ∀ exchange ∈ Sync.exchanges scope fates cluster snapshot, ¬ exchange.Failed) :
    (∀ name route, (after scope fates cluster snapshot).HasRoute name route →
      ∃ service port, route.backends = [⟨service, port⟩] ∧
        (after scope fates cluster snapshot).Serves service) ∧
    ((∀ name route, (after scope fates cluster snapshot).HasRoute name route →
        route.Backed (after scope fates cluster snapshot)) ↔
      ∀ before state behind projection gateway, snapshot = before ++ state :: behind →
        LastToAsk scope projection gateway state behind →
        ∀ port, lastPort? scope behind projection.name = some port →
          port = projection.port) := by
  have hsettled := settled_after h hok
  refine ⟨?_, hsettled.all_backed_iff henabled⟩
  intro name route hroute
  obtain ⟨before, state, behind, projection, gateway, rfl, hask, rfl, rfl⟩ :=
    (hsettled.routes_iff henabled).1 hroute
  exact ⟨_, _, rfl, (hsettled.exposes_iff (name_mem_wantedServices hask.projected)).1⟩

/-- Two services of the snapshot ask for the name `web` and for the same route, so both the service
and the route are those of the second one. -/
theorem backed_iff_of_mixedCluster :
    let snapshot := [publicService "web" 80, publicService "Web" 8080]
    let later := after edgeScope .calm mixedCluster snapshot
    later.HasRoute "web-edge" (.build "web" "default" 8080 "edge" edgeScope.routes) ∧
      (∀ name route, later.HasRoute name route →
        ∃ service port, route.backends = [⟨service, port⟩] ∧ later.Serves service) ∧
      ∀ name route, later.HasRoute name route → route.Backed later := by
  intro snapshot later
  obtain ⟨hserves, hiff⟩ := backed_iff_of_ordered ordered_mixedCluster rfl
    (not_failed_of_calm edgeScope mixedCluster snapshot)
  refine ⟨⟨by decide +kernel, by decide +kernel⟩, hserves, hiff.2 ?_⟩
  intro before state behind projection gateway hsplit hask port hport
  match before, hsplit with
  | [], hsplit =>
    -- The second service asks for the route of the first one.
    obtain ⟨rfl, rfl⟩ := List.cons.inj hsplit
    have hname : projection.name = "web" :=
      (projects_of_projection? hask.projected).name.trans (by decide +kernel)
    have hgateway : gateway = "edge" := List.mem_singleton.1 hask.asked
    have hlast := hask.last
    rw [hname, hgateway] at hlast
    exact absurd (by decide +kernel) hlast
  | [first], hsplit =>
    obtain ⟨_, hsplit⟩ := List.cons.inj hsplit
    obtain ⟨_, rfl⟩ := List.cons.inj hsplit
    cases hport
  | first :: second :: rest, hsplit =>
    exact absurd (congrArg List.length hsplit) (by simp [snapshot])

/-- A route leads to a port that nothing exposes, after a sync that succeeds. It is that of a public
service; the service stored under its name is that of a later one, which is sanitized to the same
name, has another port and asks for no route. -/
theorem unbacked_of_shared_name :
    let snapshot := [publicService "web_api" 80, taggedService "web-api" []]
    let later := after edgeScope .calm .empty snapshot
    let route := HttpRoute.build "web-api" "default" 80 "edge" edgeScope.routes
    edgeScope.routes.enabled = true ∧
      (∀ exchange ∈ Sync.exchanges edgeScope .calm .empty snapshot, ¬ exchange.Failed) ∧
      (∃ summary, (run edgeScope .calm .empty snapshot).value = .ok summary) ∧
      later.HasRoute "web-api-edge" route ∧ route.backends = [⟨"web-api", 80⟩] ∧
      later.get? .service "web-api" = some (.service (.build "web-api" "default" 8080)) ∧
      ¬ later.Exposes "web-api" 80 := by
  intro snapshot later route
  have hok := not_failed_of_calm edgeScope .empty snapshot
  have hservice : later.get? .service "web-api"
      = some (.service (.build "web-api" "default" 8080)) := by
    decide +kernel
  refine ⟨rfl, hok, ⟨_, value_of_ok hok⟩, ⟨by decide +kernel, by decide +kernel⟩, rfl, hservice, ?_⟩
  intro hexposed
  obtain ⟨object, hobject, _, hport⟩ := hexposed
  obtain rfl := Object.service.inj (Option.some.inj (hservice.symm.trans hobject))
  exact absurd hport (by decide)

end Sync

end CatalogBridge
