import CatalogBridge.Proofs.Sync.Change
import CatalogBridge.Proofs.Watch.Fetch
import Mathlib.Data.List.Nodup

/-!
# What a failed health query does

A service whose health query failed stays in the snapshot without instances. A
cycle asks for nothing on behalf of such a service, so the sweeps take its
objects for orphans.

* `not_mem_wantedServices_of_queryFailed` says that the cycle does not want the
  service, whatever the other queries came to.
* `spared_iff_of_reachable` says exactly when a sync deletes no object of such a
  service: when none of its kinds that has an object could be listed, up to
  routes whose name another service asks for.
* `deleted_of_queryFailed` is the plain case, in which all three objects of a
  running service are deleted.
-/

namespace CatalogBridge

/-- The cluster holds an object of this kind and name, and it is labelled as the service's. -/
def Cluster.Owns (cluster : Cluster) (owner : String) (kind : Kind) (name : String) : Prop :=
  ∃ object, cluster.get? kind name = some object ∧
    object.labels.get? Name.nameLabel = some owner

/-- The page lists the service, and its health query failed. -/
def QueryFailed (names : List String) (outcome : Nat → Except Error (List Instance))
    (name : String) : Prop :=
  ∃ position, names[position]? = some name ∧ ∃ error, outcome position = .error error

namespace Sync

variable {scope : Scope} {cluster : Cluster} {fates : Fates} {names : List String}
  {outcome : Nat → Except Error (List Instance)} {name : String}

/-- A service whose health query failed is not wanted. -/
theorem not_mem_wantedServices_of_queryFailed (hdistinct : (names.map Name.sanitize).Nodup)
    (hfailed : QueryFailed names outcome name) :
    Name.sanitize name ∉ wantedServices scope (Fetch.fetched names outcome) := by
  intro hwanted
  obtain ⟨position, hposition, error, herror⟩ := hfailed
  obtain ⟨demand, hdemand, hname⟩ := List.mem_map.1 hwanted
  obtain ⟨state, hstate, hprojects⟩ := projects_of_mem_demands hdemand
  obtain ⟨place, hplace⟩ := List.mem_iff_getElem?.1 hstate
  rw [Fetch.fetched, List.getElem?_mapIdx, Option.map_eq_some_iff] at hplace
  obtain ⟨other, hother, rfl⟩ := hplace
  rw [hprojects.name, Fetch.name_stateOf] at hname
  -- One place only has this sanitized name, and at that place the query failed.
  have hsame : place = position := by
    have hlt : place < (names.map Name.sanitize).length := by
      rw [List.length_map]
      exact (List.getElem?_eq_some_iff.1 hother).1
    refine (List.getElem?_inj hlt hdistinct).1 ?_
    rw [List.getElem?_map, List.getElem?_map, hother, hposition, Option.map_some, hname,
      Option.map_some]
  subst hsame
  refine hprojects.instances_ne ?_
  rw [herror]
  rfl

/-- The sweeps take an object of a service whose health query failed for an orphan. It is deleted,
unless its kind cannot be listed or it is a route under a name that another service asks for. -/
theorem asked_delete_iff_of_queryFailed (h : cluster.Kept scope)
    (hdistinct : (names.map Name.sanitize).Nodup) (hfailed : QueryFailed names outcome name)
    {kind : Kind} {key : String} (howned : cluster.Owns (Name.sanitize name) kind key) :
    Asked (Sync.exchanges scope fates cluster (Fetch.fetched names outcome)) (.delete kind key) ↔
      ¬ FailedOn (Sync.exchanges scope fates cluster (Fetch.fetched names outcome))
          (ClusterCall.list kind) ∧
        ¬ (kind = .httpRoute ∧ key ∈ wantedRoutes scope (Fetch.fetched names outcome)) := by
  have hunwanted : Name.sanitize name ∉ wantedServices scope (Fetch.fetched names outcome) :=
    not_mem_wantedServices_of_queryFailed hdistinct hfailed
  obtain ⟨object, hthere, hlabel⟩ := howned
  obtain ⟨hname, owner, hmade⟩ := h.made kind key object hthere
  obtain rfl : owner = Name.sanitize name := Option.some.inj (hmade.nameLabel.symm.trans hlabel)
  have hkind : object.kind = kind := Cluster.kind_of_get? hthere
  have hstored : cluster.get? kind key ≠ none := by
    rw [hthere]
    simp
  have hswept : kind ∈ sweptKinds scope := by
    rw [mem_sweptKinds_iff]
    intro hroute
    subst hroute
    cases object with
    | service object | slice object => cases hkind
    | route object => exact hmade.1
  have hwanted : Wanted scope (Fetch.fetched names outcome) kind key ↔
      kind = .httpRoute ∧ key ∈ wantedRoutes scope (Fetch.fetched names outcome) := by
    subst hkind hname
    cases object with
    | service object =>
      have hkey : (Object.service object).name = Name.sanitize name := by
        rw [Object.name, hmade.1, Option.getD_some]
      rw [hkey, Object.kind, wanted_service_iff]
      simp [hunwanted]
    | slice object =>
      have hkey : (Object.slice object).name = Name.slice (Name.sanitize name) := by
        rw [Object.name, hmade.1, Option.getD_some]
      rw [hkey, Object.kind, wanted_slice_iff]
      simp [hunwanted]
    | route object =>
      rw [Object.kind, wanted_route_iff]
      simp
  rw [asked_delete_iff h, hwanted]
  exact ⟨fun hdelete => ⟨hdelete.2.1, hdelete.2.2.2⟩,
    fun hdelete => ⟨hswept, hdelete.1, hstored, hdelete.2⟩⟩

/-- A sync spares all objects of the services whose health queries failed exactly if each of them
is of a kind whose listing failed, or a route under a name that another service asks for. -/
theorem spared_iff_of_reachable (h : Reachable scope cluster) {page : CatalogPage}
    (hdistinct : (page.names.map Name.sanitize).Nodup) {snapshot : Snapshot}
    (hdelivers : Delivers page outcome snapshot) (fates : Fates) :
    (∀ name, QueryFailed page.names outcome name →
        ∀ kind key, cluster.Owns (Name.sanitize name) kind key →
          ¬ Asked (Sync.exchanges scope fates cluster snapshot) (.delete kind key)) ↔
      ∀ name, QueryFailed page.names outcome name →
        ∀ kind key, cluster.Owns (Name.sanitize name) kind key →
          FailedOn (Sync.exchanges scope fates cluster snapshot) (ClusterCall.list kind) ∨
            kind = .httpRoute ∧ key ∈ wantedRoutes scope snapshot := by
  obtain rfl := eq_fetched_of_delivers hdelivers
  refine forall₂_congr fun name hfailed => forall₃_congr fun kind key howned => ?_
  rw [asked_delete_iff_of_queryFailed (kept_of_reachable h) hdistinct hfailed howned, not_and_or,
    not_not, not_not]

/-- The listings are refused, so the objects of the service stay. -/
theorem spared_iff_of_reachable_unlisted :
    let fates := Fates.refusing fun call =>
      call == .listServices || call == .listSlices || call == .listRoutes
    let cluster := after edgeScope .calm .empty [publicService "web" 80]
    ∀ kind key, cluster.Owns "web" kind key →
      ¬ Asked (Sync.exchanges edgeScope fates cluster [.withoutInstances "web"])
        (.delete kind key) := by
  intro fates cluster kind key howned
  have hfailed : QueryFailed ["web"] (fun _ => .error (.registry "boom" none)) "web" :=
    ⟨0, rfl, _, rfl⟩
  have hspared := @spared_iff_of_reachable edgeScope cluster
    (fun _ => .error (.registry "boom" none)) (.synced .empty .calm _) ⟨["web"], ⟨7⟩⟩
    (by decide +kernel) [.withoutInstances "web"] (.surveyed [0] rfl) fates
  refine hspared.2 (fun name _ kind key _ => Or.inl ?_) "web" hfailed kind key ?_
  · cases kind <;> decide +kernel
  · have hname : Name.sanitize "web" = "web" := by decide +kernel
    rw [hname]
    exact howned

/-- The health query of a running service fails, and the next sync deletes its service, its slice
and its route. -/
theorem deleted_of_queryFailed :
    let page : CatalogPage := ⟨["web"], ⟨7⟩⟩
    let outcome : Nat → Except Error (List Instance) := fun _ => .error (.registry "boom" none)
    let cluster := after edgeScope .calm .empty [publicService "web" 80]
    let snapshot := [ServiceState.withoutInstances "web"]
    Reachable edgeScope cluster ∧ (page.names.map Name.sanitize).Nodup ∧
      Delivers page outcome snapshot ∧ QueryFailed page.names outcome "web" ∧
      Asked (Sync.exchanges edgeScope .calm cluster snapshot) (.delete .service "web") ∧
      Asked (Sync.exchanges edgeScope .calm cluster snapshot)
        (.delete .endpointSlice "web-consul") ∧
      Asked (Sync.exchanges edgeScope .calm cluster snapshot) (.delete .httpRoute "web-edge") := by
  intro page outcome cluster snapshot
  refine ⟨.synced .empty _ _, by decide +kernel, .surveyed [0] rfl, ⟨0, rfl, _, rfl⟩, ?_, ?_, ?_⟩
  all_goals decide +kernel

end Sync

end CatalogBridge
