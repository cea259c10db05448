import CatalogBridge.Proofs.Name.Route
import CatalogBridge.Proofs.Sync.Idempotence
import Mathlib.Data.List.Nodup

/-!
# Which services get which routes

A route is stored under the name of its service and the name of its gateway with
a hyphen between them. Both names may have hyphens of their own, so two services
may ask for one name on two gateways: `web` on `internal-envoy`, and
`web-internal` on `envoy`. The route of the later service is then stored in the
place of the earlier one's.

* `HttpRoute.Connects` reads off a route which gateway it leads to which service,
  and `Cluster.Connects` says that a managed route of the cluster does.
* `managed_route_iff` says that in a settled cluster the managed routes are the
  last ones that the snapshot asks for.
* `connected_iff_of_ordered` says exactly which services a sync without failures
  connects to which gateways: those that have a tag of the gateway and whose name
  for the route no later service asks for. `unconnected_of_shared_name` is a
  service that is left out.
* `Settled.connects_iff_of_apart` says that none is left out if no gateway ends with
  a hyphen and another one.
-/

namespace CatalogBridge

/-- Routes of one service on different gateways have different names. -/
theorem Name.route_injective {service first second : String}
    (h : Name.route service first = Name.route service second) : first = second :=
  (String.append_right_inj (service ++ "-")).1 h

/-- Services of different names have different host names. -/
theorem RouteSettings.hostname_injective {settings : RouteSettings} {first second : String}
    (h : settings.hostname first = settings.hostname second) : first = second :=
  (String.append_left_inj ".").1 ((String.append_left_inj settings.domainSuffix).1 h)

/-- The route leads from a gateway to a service: it is for the host name of the service, hangs on
the gateway alone and has the service as its only backend. -/
structure HttpRoute.Connects (route : HttpRoute) (settings : RouteSettings)
    (gateway service : String) : Prop where
  hostnames : route.spec.hostnames = [settings.hostname service]
  parents : route.spec.parentRefs.map (·.name) = [gateway]
  backends : route.spec.rules.map (fun rule => rule.backendRefs.map (·.name)) = [[service]]

/-- Some managed route of the cluster leads from a gateway to a service. -/
def Cluster.Connects (cluster : Cluster) (settings : RouteSettings) (gateway service : String) :
    Prop :=
  ∃ name route, cluster.get? .httpRoute name = some (.route route) ∧
    Cluster.Selector.managed route.metadata.labels = true ∧
    route.Connects settings gateway service

namespace Sync

variable {scope : Scope} {snapshot : Snapshot} {cluster : Cluster} {fates : Fates}
  {route : HttpRoute} {name : String}

/-! ## Demanded routes -/

/-- A service gets a route on the gateways of the bindings whose tag it has. -/
theorem mem_selectedGateways_of_enabled {settings : RouteSettings} {state : ServiceState}
    {gateway : String} (h : settings.enabled = true) :
    gateway ∈ selectedGateways settings state ↔
      ∃ binding ∈ settings.bindings, binding.gateway = gateway ∧
        state.hasTag binding.tag = true := by
  simp only [mem_selectedGateways_iff, and_iff_right h, ServiceState.hasTag_iff]

/-- The route of a demand leads from its gateway to its service, and nowhere else. -/
theorem Demand.connects_iff {demand : Demand} {first gateway service : String} :
    (demand.route scope first).Connects scope.routes gateway service ↔
      first = gateway ∧ demand.projection.name = service := by
  constructor
  · intro hconnects
    refine ⟨List.singleton_inj.1 hconnects.parents, ?_⟩
    exact RouteSettings.hostname_injective (List.singleton_inj.1 hconnects.hostnames)
  · intro hends
    obtain ⟨rfl, rfl⟩ := hends
    exact ⟨rfl, rfl, rfl⟩

theorem Demand.managed_route (scope : Scope) (demand : Demand) (gateway : String) :
    Cluster.Selector.managed (demand.route scope gateway).metadata.labels = true := by
  simp [Demand.route, HttpRoute.build, Cluster.Selector.managed, Labels.get?, Labels.managed]

/-- Every route that a snapshot asks for is a route of one of its demands. -/
theorem route_mem_wanted_iff : .route route ∈ wanted scope snapshot ↔
    ∃ demand ∈ demands scope snapshot, ∃ gateway ∈ demand.gateways,
      route = demand.route scope gateway := by
  simp [wanted, List.mem_flatMap, Demand.mem_objects]

/-- A name has no last route exactly if the snapshot asks for no route of the name. -/
theorem lastOf_route_eq_none_iff : lastOf (wanted scope snapshot) .httpRoute name = none ↔
    name ∉ wantedRoutes scope snapshot := by
  rw [lastOf_eq_none_iff, ← wanted_route_iff, Wanted]
  simp only [not_exists, not_and]

/-- The managed routes of a settled cluster are the last ones of their names. -/
theorem Settled.managed_route_iff (h : Settled scope snapshot cluster)
    (henabled : scope.routes.enabled = true) :
    (cluster.get? .httpRoute name = some (.route route) ∧
        Cluster.Selector.managed route.metadata.labels = true) ↔
      lastOf (wanted scope snapshot) .httpRoute name = some (.route route) := by
  constructor
  · intro hstored
    obtain ⟨hget, hmanaged⟩ := hstored
    cases hlast : lastOf (wanted scope snapshot) .httpRoute name with
    | some object => rw [← h.holds _ _ _ hlast, hget]
    | none =>
      -- A managed route that nothing asks for is an orphan.
      exact absurd ⟨_, hget, hmanaged, lastOf_route_eq_none_iff.1 hlast⟩
        (h.swept .httpRoute (mem_sweptKinds_iff.2 fun _ => henabled) name)
  · intro hlast
    obtain ⟨demand, _, gateway, _, rfl⟩ := route_mem_wanted_iff.1 (lastOf_mem hlast).1
    exact ⟨h.holds _ _ _ hlast, demand.managed_route scope gateway⟩

/-! ## One service of a snapshot -/

section Split

variable {before behind : Snapshot} {state : ServiceState} {projection : Projection}
  {gateway : String}

/-- What a service asks for stands between what the services before and behind it ask for. -/
theorem demands_split (h : projection? scope state = some projection) :
    demands scope (before ++ state :: behind)
      = demands scope before ++
          ⟨projection, selectedGateways scope.routes state⟩ :: demands scope behind := by
  have hdemand : demand? scope state = some ⟨projection, selectedGateways scope.routes state⟩ := by
    rw [demand?, h, Option.map_some]
  rw [demands, List.filterMap_append, List.filterMap_cons_some hdemand]
  rfl

theorem mem_demands_split (before behind : Snapshot)
    (h : projection? scope state = some projection) :
    ⟨projection, selectedGateways scope.routes state⟩
      ∈ demands scope (before ++ state :: behind) := by
  rw [demands_split h]
  exact List.mem_append_right _ List.mem_cons_self

/-- The last object of a name is one of the services behind a service, else one of its own, else one
of the services before it. -/
theorem lastOf_wanted_split (h : projection? scope state = some projection) (kind : Kind)
    (name : String) : lastOf (wanted scope (before ++ state :: behind)) kind name
      = ((lastOf (wanted scope behind) kind name).or
          (lastOf (Demand.objects scope ⟨projection, selectedGateways scope.routes state⟩) kind
            name)).or
            (lastOf (wanted scope before) kind name) := by
  rw [wanted, demands_split h, List.flatMap_append, List.flatMap_cons, lastOf_append,
    lastOf_append]
  rfl

/-- The last route of a name among the objects of a demand. -/
theorem Demand.lastOf_objects {demand : Demand} (h : gateway ∈ demand.gateways) :
    lastOf (demand.objects scope) .httpRoute (Name.route demand.projection.name gateway)
      = some (.route (demand.route scope gateway)) := by
  have hthere : Object.route (demand.route scope gateway) ∈ demand.objects scope :=
    Demand.mem_objects.2 (Or.inr (Or.inr ⟨gateway, h, rfl⟩))
  cases hlast : lastOf (demand.objects scope) .httpRoute
      (Name.route demand.projection.name gateway) with
  | none => exact absurd ⟨rfl, rfl⟩ (lastOf_eq_none_iff.1 hlast _ hthere)
  | some object =>
    obtain ⟨hobject, hkind, hname⟩ := lastOf_mem hlast
    rcases Demand.mem_objects.1 hobject with rfl | rfl | ⟨other, _, rfl⟩
    · cases hkind
    · cases hkind
    · rw [Name.route_injective hname]

/-- Among services of different names, none behind a service has its name. -/
theorem name_not_mem_behind (h : projection? scope state = some projection)
    (hnames : (wantedServices scope (before ++ state :: behind)).Nodup) :
    projection.name ∉ wantedServices scope behind := by
  rw [wantedServices, demands_split h, List.map_append, List.map_cons, List.nodup_middle,
    List.nodup_cons, List.mem_append, not_or] at hnames
  exact hnames.1.2

/-- In a settled cluster a service is connected to the gateways that it asks for, but for those on
which a later service asks for a route of the same name. -/
theorem Settled.connects_iff (h : Settled scope (before ++ state :: behind) cluster)
    (henabled : scope.routes.enabled = true)
    (hnames : (wantedServices scope (before ++ state :: behind)).Nodup)
    (hprojection : projection? scope state = some projection) :
    cluster.Connects scope.routes gateway projection.name ↔
      gateway ∈ selectedGateways scope.routes state ∧
        Name.route projection.name gateway ∉ wantedRoutes scope behind := by
  constructor
  · intro hconnects
    obtain ⟨name, route, hget, hmanaged, hconnects⟩ := hconnects
    have hlast := (h.managed_route_iff henabled).1 ⟨hget, hmanaged⟩
    obtain ⟨hroute, _, rfl⟩ := lastOf_mem hlast
    obtain ⟨demand, hdemand, other, hother, rfl⟩ := route_mem_wanted_iff.1 hroute
    obtain ⟨rfl, hservice⟩ := Demand.connects_iff.1 hconnects
    -- The route belongs to the one demand that has the name of the service.
    have hmine := mem_demands_split before behind hprojection
    obtain rfl := List.inj_on_of_nodup_map hnames hdemand hmine hservice
    refine ⟨hother, lastOf_route_eq_none_iff.1 ?_⟩
    by_contra hlater
    obtain ⟨object, hbehind⟩ := Option.ne_none_iff_exists'.1 hlater
    have hsame : lastOf (wanted scope (before ++ state :: behind)) .httpRoute
        (Name.route projection.name other) = some object := by
      rw [lastOf_wanted_split hprojection, hbehind, Option.some_or, Option.some_or]
    obtain rfl : .route (Demand.route scope _ other) = object :=
      Option.some_inj.1 (hlast.symm.trans hsame)
    obtain ⟨second, hsecond, _, _, hequal⟩ := route_mem_wanted_iff.1 (lastOf_mem hbehind).1
    rw [hequal] at hconnects
    exact name_not_mem_behind hprojection hnames
      (List.mem_map.2 ⟨second, hsecond, (Demand.connects_iff.1 hconnects).2⟩)
  · intro hasked
    obtain ⟨hgateway, hfree⟩ := hasked
    have hlast : lastOf (wanted scope (before ++ state :: behind)) .httpRoute
        (Name.route projection.name gateway) = some (.route (Demand.route scope
          ⟨projection, selectedGateways scope.routes state⟩ gateway)) := by
      rw [lastOf_wanted_split hprojection, lastOf_route_eq_none_iff.2 hfree, Option.none_or,
        Demand.lastOf_objects hgateway, Option.some_or]
    obtain ⟨hget, hmanaged⟩ := (h.managed_route_iff henabled).2 hlast
    exact ⟨_, _, hget, hmanaged, Demand.connects_iff.2 ⟨rfl, rfl⟩⟩

/-- What a demand asks for on a gateway is one of the pairs that routes are made for. -/
theorem routed_of_mem_demands {demand : Demand} (h : demand ∈ demands scope snapshot)
    (henabled : scope.routes.enabled = true) (hgateway : gateway ∈ demand.gateways) :
    (demand.projection.name, gateway) ∈ Name.routed scope.routes.gateways := by
  obtain ⟨state, _, hprojection, hgateways⟩ := mem_demands.1 h
  have hprojects := projects_of_projection? hprojection
  rw [← hgateways, mem_selectedGateways_of_enabled henabled] at hgateway
  obtain ⟨binding, hbinding, rfl, _⟩ := hgateway
  exact ⟨⟨_, hprojects.name⟩, hprojects.name_ne, List.mem_map_of_mem hbinding⟩

/-- If no gateway ends with a hyphen and another one, no route is put in the place of another one: a
service is connected to all the gateways that it asks for. -/
theorem Settled.connects_iff_of_apart (h : Settled scope (before ++ state :: behind) cluster)
    (henabled : scope.routes.enabled = true)
    (hnames : (wantedServices scope (before ++ state :: behind)).Nodup)
    (hprojection : projection? scope state = some projection)
    (hapart : Name.Apart scope.routes.gateways) :
    cluster.Connects scope.routes gateway projection.name ↔
      gateway ∈ selectedGateways scope.routes state := by
  rw [h.connects_iff henabled hnames hprojection]
  refine and_iff_left_of_imp fun hgateway hlater => ?_
  obtain ⟨demand, hdemand, hname⟩ := List.mem_flatMap.1 hlater
  obtain ⟨other, hother, hroute⟩ := List.mem_map.1 hname
  have hmine := mem_demands_split before behind hprojection
  have hsame := Name.injOn_route_of_apart hapart (routed_of_mem_demands hdemand henabled hother)
    (routed_of_mem_demands hmine henabled hgateway) hroute
  exact name_not_mem_behind hprojection hnames
    (List.mem_map.2 ⟨demand, hdemand, congrArg Prod.fst hsame⟩)

end Split

/-! ## All services of a snapshot -/

/-- After a sync in which nothing fails, a service is connected to a gateway exactly if it has the
tag of a binding of the gateway and no later service of the snapshot asks for a route of the same
name, and every managed route is one of these. The cluster at first may hold anything. -/
theorem connected_iff_of_ordered (h : cluster.Ordered) (henabled : scope.routes.enabled = true)
    (hnames : (wantedServices scope snapshot).Nodup)
    (hok : ∀ exchange ∈ Sync.exchanges scope fates cluster snapshot, ¬ exchange.Failed) :
    (∀ before state behind, snapshot = before ++ state :: behind →
      ∀ projection, projection? scope state = some projection → ∀ gateway,
        ((after scope fates cluster snapshot).Connects scope.routes gateway
            (Name.sanitize state.name) ↔
          (∃ binding ∈ scope.routes.bindings,
              binding.gateway = gateway ∧ state.hasTag binding.tag = true) ∧
            Name.route (Name.sanitize state.name) gateway ∉ wantedRoutes scope behind)) ∧
      ∀ name route,
        (after scope fates cluster snapshot).get? .httpRoute name = some (.route route) →
        Cluster.Selector.managed route.metadata.labels = true →
        ∃ state ∈ snapshot, projection? scope state ≠ none ∧
          ∃ binding ∈ scope.routes.bindings, state.hasTag binding.tag = true ∧
            name = Name.route (Name.sanitize state.name) binding.gateway ∧
            route.Connects scope.routes binding.gateway (Name.sanitize state.name) := by
  have hsettled := settled_after h hok
  constructor
  · intro before state behind hsplit projection hprojection gateway
    subst hsplit
    rw [← mem_selectedGateways_of_enabled henabled, ← (projects_of_projection? hprojection).name]
    exact hsettled.connects_iff henabled hnames hprojection
  · intro name route hget hmanaged
    have hlast := (hsettled.managed_route_iff henabled).1 ⟨hget, hmanaged⟩
    obtain ⟨hroute, _, rfl⟩ := lastOf_mem hlast
    obtain ⟨demand, hdemand, gateway, hgateway, rfl⟩ := route_mem_wanted_iff.1 hroute
    obtain ⟨state, hstate, hprojection, hgateways⟩ := mem_demands.1 hdemand
    rw [← hgateways, mem_selectedGateways_of_enabled henabled] at hgateway
    obtain ⟨binding, hbinding, rfl, htag⟩ := hgateway
    have hname := (projects_of_projection? hprojection).name
    refine ⟨state, hstate, Option.ne_none_iff_exists'.2 ⟨_, hprojection⟩, binding, hbinding, htag,
      ?_, Demand.connects_iff.2 ⟨rfl, hname⟩⟩
    rw [← hname]
    rfl

/-- Internal services get a route on one gateway and external ones on another. -/
def twoGateways : Scope :=
  ⟨"default", ⟨true, "example.com", "gateways", "http",
    [⟨"internal", "internal-envoy"⟩, ⟨"external", "envoy"⟩]⟩⟩

/-- A service with tags and one instance. -/
def taggedService (name : String) (tags : List String) : ServiceState :=
  ⟨name, [⟨name, "10.0.0.1", 8080, tags⟩]⟩

/-- A service with both tags is connected to one of its gateways: on the other one a later service
asks for a route of the same name. -/
theorem connected_iff_of_mixedCluster :
    let snapshot := [taggedService "web" ["external", "internal"],
      taggedService "web-internal" ["external"]]
    let later := after twoGateways .calm mixedCluster snapshot
    later.Connects twoGateways.routes "envoy" "web" ∧
      ¬ later.Connects twoGateways.routes "internal-envoy" "web" ∧
      ∀ name route, later.get? .httpRoute name = some (.route route) →
        Cluster.Selector.managed route.metadata.labels = true →
        ∃ state ∈ snapshot, projection? twoGateways state ≠ none ∧
          ∃ binding ∈ twoGateways.routes.bindings, state.hasTag binding.tag = true ∧
            name = Name.route (Name.sanitize state.name) binding.gateway ∧
            route.Connects twoGateways.routes binding.gateway (Name.sanitize state.name) := by
  intro snapshot later
  have hnames : (wantedServices twoGateways snapshot).Nodup := by decide +kernel
  obtain ⟨hiff, hrest⟩ := connected_iff_of_ordered ordered_mixedCluster rfl hnames
    (not_failed_of_calm twoGateways mixedCluster snapshot)
  have hprojected :
      projection? twoGateways (taggedService "web" ["external", "internal"]) ≠ none := by
    decide +kernel
  obtain ⟨projection, hprojection⟩ := Option.ne_none_iff_exists'.1 hprojected
  have hweb := hiff [] _ [taggedService "web-internal" ["external"]] rfl projection hprojection
  have hname : Name.sanitize "web" = "web" := by decide +kernel
  simp only [taggedService, hname] at hweb
  refine ⟨(hweb "envoy").2 ?_, fun hconnects => ((hweb "internal-envoy").1 hconnects).2 ?_, hrest⟩
  all_goals decide +kernel

/-- An internal service is left without a route, in a sync that succeeds and counts a route for it.
The route of an external service, in whose name `internal` follows a hyphen, has its place. -/
theorem unconnected_of_shared_name :
    let web := taggedService "web" ["internal"]
    let snapshot := [web, taggedService "web-internal" ["external"]]
    let later := after twoGateways .calm .empty snapshot
    (wantedServices twoGateways snapshot).Nodup ∧
      (∀ exchange ∈ Sync.exchanges twoGateways .calm .empty snapshot, ¬ exchange.Failed) ∧
      (∃ summary, (run twoGateways .calm .empty snapshot).value = .ok summary ∧
        summary.routes = 2) ∧
      projection? twoGateways web ≠ none ∧ Name.sanitize web.name = "web" ∧
      (∃ binding ∈ twoGateways.routes.bindings,
        binding.gateway = "internal-envoy" ∧ web.hasTag binding.tag = true) ∧
      ¬ later.Connects twoGateways.routes "internal-envoy" "web" := by
  intro web snapshot later
  have hok := not_failed_of_calm twoGateways .empty snapshot
  refine ⟨by decide +kernel, hok, ⟨_, value_of_ok hok, by decide +kernel⟩, by decide +kernel,
    by decide +kernel, by decide +kernel, ?_⟩
  have hroutes : later.routes = [("web-internal-envoy",
      .build "web-internal" "default" 8080 "envoy" twoGateways.routes)] := by
    decide +kernel
  intro hconnects
  obtain ⟨name, route, hget, _, hroute⟩ := hconnects
  rw [Cluster.get?, hroutes, Table.get?_cons] at hget
  split at hget
  · obtain rfl := Object.route.inj (Option.some_inj.1 hget)
    exact absurd hroute.backends (by decide)
  · cases hget

end Sync

end CatalogBridge
