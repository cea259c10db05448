import CatalogBridge.Proofs.Sync.Store

/-!
# What a sweep takes for an orphan

A sweep sees of a cluster what the listings show: the objects that carry the
marker, by name, and of a slice also the service that a label names. It takes an
object for an orphan if the snapshot does not want what it sees.

* `Object.Orphaned` says this of one object and the name that it is stored under.
  `mem_orphans_iff` says that the orphans in a listing are these objects, in every
  cluster whose tables ascend, whoever made what is in it.
* `not_orphaned_of_wanted` says that an object that the snapshot asks for is no
  orphan.
-/

namespace CatalogBridge

open Cluster (Selector)

variable {scope : Scope} {snapshot : Snapshot} {cluster : Cluster} {kind : Kind} {name : String}

/-- An object stored under a name is an orphan: it carries the marker, and the snapshot does not
want its name, or for a slice the service that its label names. -/
def Object.Orphaned (scope : Scope) (snapshot : Snapshot) (name : String) (object : Object) :
    Prop :=
  Selector.managed object.labels = true ∧ match object with
    | .service _ => name ∉ Sync.wantedServices scope snapshot
    | .slice object => ∀ owner, object.metadata.labels.get? Name.serviceNameLabel = some owner →
        owner ∉ Sync.wantedServices scope snapshot
    | .route _ => name ∉ Sync.wantedRoutes scope snapshot

/-- The cluster holds an orphan of this kind and name. -/
def Cluster.Orphan (cluster : Cluster) (scope : Scope) (snapshot : Snapshot) (kind : Kind)
    (name : String) : Prop :=
  ∃ object, cluster.get? kind name = some object ∧ object.Orphaned scope snapshot name

/-! ## Listings -/

namespace Cluster

variable {selector : Selector}

theorem Ordered.mem_listServices (h : cluster.Ordered) :
    name ∈ cluster.listServices selector ↔ ∃ service, cluster.get? .service name
      = some (.service service) ∧ selector service.metadata.labels = true := by
  have hnamed := @Table.mem_names_filter_iff _ _ h.services name fun service =>
    selector service.metadata.labels
  rw [listServices, hnamed]
  simp [get?]

theorem Ordered.mem_listRoutes (h : cluster.Ordered) :
    name ∈ cluster.listRoutes selector ↔ ∃ route, cluster.get? .httpRoute name
      = some (.route route) ∧ selector route.metadata.labels = true := by
  have hnamed := @Table.mem_names_filter_iff _ _ h.routes name fun route =>
    selector route.metadata.labels
  rw [listRoutes, hnamed]
  simp [get?]

theorem Ordered.mem_listSlices (h : cluster.Ordered) {listed : ManagedSlice} :
    listed ∈ cluster.listSlices selector ↔ ∃ slice, cluster.get? .endpointSlice listed.name
      = some (.slice slice) ∧ selector slice.metadata.labels = true ∧
        slice.metadata.labels.get? Name.serviceNameLabel = listed.service := by
  rw [listSlices, List.mem_map]
  constructor
  · intro hshown
    obtain ⟨⟨key, slice⟩, hentry, rfl⟩ := hshown
    obtain ⟨hmem, hselected⟩ := List.mem_filter.1 hentry
    exact ⟨slice, h.get?_slice hmem, hselected, rfl⟩
  · intro hstored
    obtain ⟨slice, hget, hselected, hservice⟩ := hstored
    obtain ⟨kept, hkept, hsame⟩ := Option.map_eq_some_iff.1 hget
    obtain rfl := Object.slice.inj hsame
    have hmem : (listed.name, kept) ∈ cluster.slices := (Table.mem_iff_get? h.slices).2 hkept
    exact ⟨_, List.mem_filter.2 ⟨hmem, hselected⟩, by rw [hservice]⟩

end Cluster

/-! ## Orphans -/

namespace Sync

theorem keepsSlice_eq_false_iff {wanted : List String} {slice : ManagedSlice} :
    keepsSlice wanted slice = false ↔ ∀ owner, slice.service = some owner → owner ∉ wanted := by
  unfold keepsSlice
  cases slice.service <;> simp

/-- The orphans in a listing are the orphans that the cluster holds. -/
theorem mem_orphans_iff (h : cluster.Ordered) :
    name ∈ orphans scope snapshot kind (cluster.perform .managed (ClusterCall.list kind)).2 ↔
      cluster.Orphan scope snapshot kind name := by
  have hkind : ∀ object, cluster.get? kind name = some object → object.kind = kind :=
    fun object => Cluster.kind_of_get?
  cases kind with
  | service =>
    change name ∈ (cluster.listServices .managed).filter _ ↔ _
    rw [List.mem_filter, h.mem_listServices]
    constructor
    · intro horphan
      obtain ⟨⟨service, hget, hmanaged⟩, hunwanted⟩ := horphan
      exact ⟨_, hget, hmanaged, by simpa using hunwanted⟩
    · intro horphan
      obtain ⟨object, hget, hmanaged, hunwanted⟩ := horphan
      cases object with
      | service service => exact ⟨⟨service, hget, hmanaged⟩, by simpa using hunwanted⟩
      | slice slice | route route => cases hkind _ hget
  | endpointSlice =>
    change name ∈ ((cluster.listSlices .managed).filter _).map _ ↔ _
    rw [List.mem_map]
    constructor
    · intro horphan
      obtain ⟨listed, hlisted, rfl⟩ := horphan
      obtain ⟨hshown, hloose⟩ := List.mem_filter.1 hlisted
      obtain ⟨slice, hget, hmanaged, hservice⟩ := h.mem_listSlices.1 hshown
      refine ⟨_, hget, hmanaged, ?_⟩
      rw [Bool.not_eq_true', keepsSlice_eq_false_iff, ← hservice] at hloose
      exact hloose
    · intro horphan
      obtain ⟨object, hget, hmanaged, hunwanted⟩ := horphan
      cases object with
      | slice slice =>
        refine ⟨⟨name, slice.metadata.labels.get? Name.serviceNameLabel⟩,
          List.mem_filter.2 ⟨h.mem_listSlices.2 ⟨slice, hget, hmanaged, rfl⟩, ?_⟩, rfl⟩
        rw [Bool.not_eq_true', keepsSlice_eq_false_iff]
        exact hunwanted
      | service service | route route => cases hkind _ hget
  | httpRoute =>
    change name ∈ (cluster.listRoutes .managed).filter _ ↔ _
    rw [List.mem_filter, h.mem_listRoutes]
    constructor
    · intro horphan
      obtain ⟨⟨route, hget, hmanaged⟩, hunwanted⟩ := horphan
      exact ⟨_, hget, hmanaged, by simpa using hunwanted⟩
    · intro horphan
      obtain ⟨object, hget, hmanaged, hunwanted⟩ := horphan
      cases object with
      | route route => exact ⟨⟨route, hget, hmanaged⟩, by simpa using hunwanted⟩
      | service service | slice slice => cases hkind _ hget

/-- A slice names its service in the label by which the sweep judges it. -/
theorem get?_serviceNameLabel (owner : String) :
    (Labels.managedSlice owner).get? Name.serviceNameLabel = some owner := by
  simp [Labels.get?, Labels.managedSlice, Labels.managed, Name.nameLabel, Name.managedByLabel,
    Name.sliceManagedByLabel, Name.serviceNameLabel]

/-- What the snapshot asks for is no orphan. -/
theorem not_orphaned_of_wanted {object : Object} (h : object ∈ wanted scope snapshot) :
    ¬ object.Orphaned scope snapshot object.name := by
  obtain ⟨demand, hdemand, hobject⟩ := List.mem_flatMap.1 h
  obtain ⟨state, _, hprojects⟩ := projects_of_mem_demands hdemand
  have hservice : demand.projection.name ∈ wantedServices scope snapshot :=
    List.mem_map.2 ⟨demand, hdemand, rfl⟩
  intro horphaned
  obtain ⟨_, hunwanted⟩ := horphaned
  rcases Demand.mem_objects.1 hobject with rfl | rfl | ⟨gateway, hgateway, rfl⟩
  · rw [hprojects.service_name] at hunwanted
    exact hunwanted hservice
  · refine hunwanted demand.projection.name ?_ hservice
    rw [hprojects.slice]
    exact get?_serviceNameLabel _
  · exact hunwanted (wanted_route_iff.1 ⟨_, h, rfl, rfl⟩)

end Sync

end CatalogBridge
