import CatalogBridge.Proofs.Cluster.Object
import CatalogBridge.Proofs.Sync.Projection
import CatalogBridge.Sync.Cycle

/-!
# What a snapshot asks for

A snapshot asks for the objects of the services that can be projected, in the
order of the snapshot. This module says so without running a cycle.

* `projection?` is the projection of a service, if it has one, and
  `Projects` lists what every projection is made of.
* `selectedGateways` are the gateways that a service gets a route on, said by the
  bindings and the tags of its instances. A cycle finds the same ones
  (`gatewaysFor_eq`).
* A `Demand` is a projection with the gateways that it gets a route on.
  `demands` are those of a snapshot, and `wanted` are their objects.
* `Wanted` says that some service of the snapshot asks for a kind and name. The
  three lemmas `wanted_service_iff`, `wanted_slice_iff` and `wanted_route_iff`
  express it by the names that a cycle collects.
-/

namespace CatalogBridge

/-- Slices of different services have different names. -/
theorem Name.slice_injective {first second : String} (h : Name.slice first = Name.slice second) :
    first = second :=
  (String.append_left_inj Name.sliceSuffix).1 h

/-- The service carries a tag: an instance of it does. -/
def ServiceState.Carries (state : ServiceState) (tag : String) : Prop :=
  ∃ member ∈ state.instances, tag ∈ member.tags

instance (state : ServiceState) (tag : String) : Decidable (state.Carries tag) :=
  inferInstanceAs (Decidable (∃ member ∈ state.instances, tag ∈ member.tags))

theorem ServiceState.hasTag_iff {state : ServiceState} {tag : String} :
    state.hasTag tag = true ↔ state.Carries tag := by
  simp [hasTag, Carries]

namespace Sync

/-! ## Projections -/

/-- The projection of a service, if it has one. -/
def projection? (scope : Scope) (state : ServiceState) : Option Projection :=
  match Projection.build state scope.namespaceName with
  | .ok (projection, _) => some projection
  | .error _ => none

/-- What the projection of a service is made of. -/
structure Projects (scope : Scope) (state : ServiceState) (projection : Projection) : Prop where
  name : projection.name = Name.sanitize state.name
  name_ne : projection.name ≠ ""
  instances_ne : state.instances ≠ []
  service : projection.service
    = ServiceObject.build projection.name scope.namespaceName projection.port
  slice : projection.slice.metadata
    = ⟨some (Name.slice projection.name), some scope.namespaceName,
        Labels.managedSlice projection.name⟩

theorem projects_of_build {scope : Scope} {state : ServiceState} {projection : Projection}
    {notices : List Notice}
    (h : Projection.build state scope.namespaceName = .ok (projection, notices)) :
    Projects scope state projection := by
  have hprojectable := Projection.projectable_of_build h
  have hdescribes := Projection.describes_of_build h
  obtain ⟨first, rest, hinstances, _⟩ := hdescribes.port
  obtain ⟨member, _, hslice⟩ := hdescribes.slice
  have hname : projection.name ≠ "" := by
    rw [hdescribes.name]
    exact hprojectable.named
  exact ⟨hdescribes.name, hname, by simp [hinstances], hdescribes.service, by rw [hslice]; rfl⟩

theorem projects_of_projection? {scope : Scope} {state : ServiceState} {projection : Projection}
    (h : projection? scope state = some projection) : Projects scope state projection := by
  unfold projection? at h
  split at h
  · rename_i built notices hbuild
    cases h
    exact projects_of_build hbuild
  · cases h

/-- The projection of a service describes it, and its port is one. -/
theorem describes_of_projection? {scope : Scope} {state : ServiceState} {projection : Projection}
    (h : projection? scope state = some projection) :
    projection.Describes state scope.namespaceName ∧
      1 ≤ projection.port ∧ projection.port ≤ 65535 := by
  unfold projection? at h
  split at h
  · rename_i built notices hbuild
    cases h
    have hdescribes := Projection.describes_of_build hbuild
    obtain ⟨first, rest, hinstances, hport⟩ := hdescribes.port
    obtain ⟨other, others, hsame, hrange⟩ := (Projection.projectable_of_build hbuild).port
    obtain ⟨rfl, _⟩ := List.cons.inj (hsame.symm.trans hinstances)
    rw [hport]
    exact ⟨hdescribes, hrange⟩
  · cases h

/-! ## Gateways -/

/-- The gateways that a service is to get a route on: if routes are made at all, those of the
bindings whose tag the service carries, in the order of the bindings. -/
def selectedGateways (settings : RouteSettings) (state : ServiceState) : List String :=
  (settings.bindings.filter fun binding =>
    settings.enabled = true ∧ state.Carries binding.tag).map (·.gateway)

theorem mem_selectedGateways_iff {settings : RouteSettings} {state : ServiceState}
    {gateway : String} : gateway ∈ selectedGateways settings state ↔
      settings.enabled = true ∧
        ∃ binding ∈ settings.bindings, binding.gateway = gateway ∧ state.Carries binding.tag := by
  simp only [selectedGateways, List.mem_map, List.mem_filter, decide_eq_true_iff]
  constructor
  · intro hselected
    obtain ⟨binding, ⟨hbinding, henabled, htag⟩, hgateway⟩ := hselected
    exact ⟨henabled, binding, hbinding, hgateway, htag⟩
  · intro hselected
    obtain ⟨henabled, binding, hbinding, hgateway, htag⟩ := hselected
    exact ⟨binding, ⟨hbinding, henabled, htag⟩, hgateway⟩

/-- A cycle finds the gateways that are selected. -/
theorem gatewaysFor_eq (settings : RouteSettings) (state : ServiceState) :
    gatewaysFor settings state = selectedGateways settings state := by
  rw [gatewaysFor, selectedGateways]
  split_ifs with henabled
  · congr 1
    refine List.filter_congr fun binding _ => ?_
    rw [Bool.eq_iff_iff, decide_eq_true_iff, and_iff_right henabled, ServiceState.hasTag_iff]
  · simp [henabled]

/-! ## Demands -/

/-- A projection and the gateways that it gets a route on. -/
structure Demand where
  projection : Projection
  gateways : List String
  deriving DecidableEq

namespace Demand

/-- The route of a demand on a gateway. -/
def route (scope : Scope) (demand : Demand) (gateway : String) : HttpRoute :=
  HttpRoute.build demand.projection.name scope.namespaceName demand.projection.port gateway
    scope.routes

/-- The objects of a demand, in the order in which they are applied. -/
def objects (scope : Scope) (demand : Demand) : List Object :=
  .service demand.projection.service :: .slice demand.projection.slice ::
    demand.gateways.map fun gateway => .route (demand.route scope gateway)

end Demand

/-- What a service asks for. -/
def demand? (scope : Scope) (state : ServiceState) : Option Demand :=
  (projection? scope state).map fun projection =>
    ⟨projection, selectedGateways scope.routes state⟩

/-- What the services of a snapshot ask for, in order. -/
def demands (scope : Scope) (snapshot : Snapshot) : List Demand :=
  snapshot.filterMap (demand? scope)

/-- The objects that a snapshot asks for, in the order in which they are applied. -/
def wanted (scope : Scope) (snapshot : Snapshot) : List Object :=
  (demands scope snapshot).flatMap (Demand.objects scope)

/-- The snapshot asks for an object of this kind and name. -/
def Wanted (scope : Scope) (snapshot : Snapshot) (kind : Kind) (name : String) : Prop :=
  ∃ object ∈ wanted scope snapshot, object.kind = kind ∧ object.name = name

theorem mem_demands {scope : Scope} {snapshot : Snapshot} {demand : Demand} :
    demand ∈ demands scope snapshot ↔
      ∃ state ∈ snapshot, projection? scope state = some demand.projection ∧
        selectedGateways scope.routes state = demand.gateways := by
  simp only [demands, List.mem_filterMap, demand?, Option.map_eq_some_iff]
  constructor
  · intro hstates
    obtain ⟨state, hstate, projection, hprojection, rfl⟩ := hstates
    exact ⟨state, hstate, hprojection, rfl⟩
  · intro hstates
    obtain ⟨state, hstate, hprojection, hgateways⟩ := hstates
    refine ⟨state, hstate, demand.projection, hprojection, ?_⟩
    rw [hgateways]

/-- Every demand is the projection of a service of the snapshot. -/
theorem projects_of_mem_demands {scope : Scope} {snapshot : Snapshot} {demand : Demand}
    (h : demand ∈ demands scope snapshot) :
    ∃ state ∈ snapshot, Projects scope state demand.projection := by
  obtain ⟨state, hstate, hprojection, _⟩ := mem_demands.1 h
  exact ⟨state, hstate, projects_of_projection? hprojection⟩

/-! ## The names that are asked for -/

/-- The names of the services that a snapshot asks for. -/
def wantedServices (scope : Scope) (snapshot : Snapshot) : List String :=
  (demands scope snapshot).map (·.projection.name)

/-- The names of the routes that a snapshot asks for. -/
def wantedRoutes (scope : Scope) (snapshot : Snapshot) : List String :=
  (demands scope snapshot).flatMap fun demand =>
    demand.gateways.map (Name.route demand.projection.name)

theorem Projects.service_name {scope : Scope} {state : ServiceState} {projection : Projection}
    (h : Projects scope state projection) :
    (Object.service projection.service).name = projection.name := by
  rw [Object.name, h.service]
  rfl

theorem Projects.slice_name {scope : Scope} {state : ServiceState} {projection : Projection}
    (h : Projects scope state projection) :
    (Object.slice projection.slice).name = Name.slice projection.name := by
  rw [Object.name, h.slice]
  rfl

theorem wanted_iff {scope : Scope} {snapshot : Snapshot} {kind : Kind} {name : String} :
    Wanted scope snapshot kind name ↔
      ∃ demand ∈ demands scope snapshot, ∃ object ∈ demand.objects scope,
        object.kind = kind ∧ object.name = name := by
  constructor
  · intro hwanted
    obtain ⟨object, hobject, hkey⟩ := hwanted
    obtain ⟨demand, hdemand, hmem⟩ := List.mem_flatMap.1 hobject
    exact ⟨demand, hdemand, object, hmem, hkey⟩
  · intro hwanted
    obtain ⟨demand, hdemand, object, hmem, hkey⟩ := hwanted
    exact ⟨object, List.mem_flatMap.2 ⟨demand, hdemand, hmem⟩, hkey⟩

/-- The service of a demand, its slice and its routes are the objects of the three kinds. -/
theorem Demand.mem_objects {scope : Scope} {demand : Demand} {object : Object} :
    object ∈ demand.objects scope ↔
      object = .service demand.projection.service ∨ object = .slice demand.projection.slice ∨
        ∃ gateway ∈ demand.gateways, object = .route (demand.route scope gateway) := by
  simp only [Demand.objects, List.mem_cons, List.mem_map, eq_comm]

theorem wanted_service_iff {scope : Scope} {snapshot : Snapshot} {name : String} :
    Wanted scope snapshot .service name ↔ name ∈ wantedServices scope snapshot := by
  rw [wanted_iff, wantedServices, List.mem_map]
  constructor
  · intro hwanted
    obtain ⟨demand, hdemand, object, hobject, hkind, rfl⟩ := hwanted
    obtain ⟨state, _, hprojects⟩ := projects_of_mem_demands hdemand
    rcases Demand.mem_objects.1 hobject with rfl | rfl | ⟨gateway, _, rfl⟩
    · exact ⟨demand, hdemand, hprojects.service_name.symm⟩
    · cases hkind
    · cases hkind
  · intro hnamed
    obtain ⟨demand, hdemand, rfl⟩ := hnamed
    obtain ⟨state, _, hprojects⟩ := projects_of_mem_demands hdemand
    exact ⟨demand, hdemand, _, Demand.mem_objects.2 (Or.inl rfl), rfl, hprojects.service_name⟩

theorem wanted_slice_iff {scope : Scope} {snapshot : Snapshot} {name : String} :
    Wanted scope snapshot .endpointSlice (Name.slice name) ↔
      name ∈ wantedServices scope snapshot := by
  rw [wanted_iff, wantedServices, List.mem_map]
  constructor
  · intro hwanted
    obtain ⟨demand, hdemand, object, hobject, hkind, hname⟩ := hwanted
    obtain ⟨state, _, hprojects⟩ := projects_of_mem_demands hdemand
    rcases Demand.mem_objects.1 hobject with rfl | rfl | ⟨gateway, _, rfl⟩
    · cases hkind
    · exact ⟨demand, hdemand, Name.slice_injective (hprojects.slice_name.symm.trans hname)⟩
    · cases hkind
  · intro hnamed
    obtain ⟨demand, hdemand, rfl⟩ := hnamed
    obtain ⟨state, _, hprojects⟩ := projects_of_mem_demands hdemand
    exact ⟨demand, hdemand, _, Demand.mem_objects.2 (Or.inr (Or.inl rfl)), rfl,
      hprojects.slice_name⟩

theorem wanted_route_iff {scope : Scope} {snapshot : Snapshot} {name : String} :
    Wanted scope snapshot .httpRoute name ↔ name ∈ wantedRoutes scope snapshot := by
  rw [wanted_iff, wantedRoutes, List.mem_flatMap]
  constructor
  · intro hwanted
    obtain ⟨demand, hdemand, object, hobject, hkind, rfl⟩ := hwanted
    rcases Demand.mem_objects.1 hobject with rfl | rfl | ⟨gateway, hgateway, rfl⟩
    · cases hkind
    · cases hkind
    · exact ⟨demand, hdemand, List.mem_map.2 ⟨gateway, hgateway, rfl⟩⟩
  · intro hnamed
    obtain ⟨demand, hdemand, hname⟩ := hnamed
    obtain ⟨gateway, hgateway, rfl⟩ := List.mem_map.1 hname
    exact ⟨demand, hdemand, _, Demand.mem_objects.2 (Or.inr (Or.inr ⟨gateway, hgateway, rfl⟩)),
      rfl, rfl⟩

end Sync

end CatalogBridge
