import CatalogBridge.Proofs.Sync.Orphan

/-!
# The clusters that syncs keep

Every object that a sync makes carries the marker and the name of its service,
and a slice is named after the service that its label names. A cluster that holds
only such objects is `Kept`. The cleanup of a sync judges slices by their label
and everything else by its name; in a kept cluster the two agree.

* `Object.MadeFor.orphaned_iff` says that such an object is an orphan exactly if the
  snapshot does not ask for one of its kind and name.
* `kept_of_reachable` says that every reachable cluster is kept.
* `Cluster.Kept.orphan_iff` says that the orphans of a kept cluster are the stored
  objects that the snapshot does not ask for, for all three kinds alike.
-/

namespace CatalogBridge

/-- An object as a sync makes it for a service. -/
def Object.MadeFor (scope : Scope) (owner : String) : Object → Prop
  | .service object =>
    object.metadata.name = some owner ∧ object.metadata.labels = Labels.managed owner
  | .slice object =>
    object.metadata.name = some (Name.slice owner) ∧
      object.metadata.labels = Labels.managedSlice owner
  | .route object =>
    scope.routes.enabled = true ∧ (∃ gateway, object.metadata.name = Name.route owner gateway) ∧
      object.metadata.labels = Labels.managed owner

/-- The tables ascend, and everything stored is under its name and made by a sync. -/
structure Cluster.Kept (scope : Scope) (cluster : Cluster) : Prop where
  ordered : cluster.Ordered
  made : ∀ kind name object, cluster.get? kind name = some object →
    object.name = name ∧ ∃ owner, object.MadeFor scope owner

variable {scope : Scope} {snapshot : Snapshot}

/-! ## What labels say -/

/-- What a sync makes is managed. -/
theorem Object.MadeFor.managed {owner : String} {object : Object} (h : object.MadeFor scope owner) :
    Cluster.Selector.managed object.labels = true := by
  cases object with
  | service object =>
    simp [Cluster.Selector.managed, Object.labels, h.2, Labels.get?, Labels.managed]
  | slice object =>
    simp [Cluster.Selector.managed, Object.labels, h.2, Labels.get?, Labels.managedSlice,
      Labels.managed]
  | route object =>
    simp [Cluster.Selector.managed, Object.labels, h.2.2, Labels.get?, Labels.managed]

/-- What a sync makes names its service in a label. -/
theorem Object.MadeFor.nameLabel {owner : String} {object : Object}
    (h : object.MadeFor scope owner) : object.labels.get? Name.nameLabel = some owner := by
  cases object with
  | service object =>
    simp [Object.labels, h.2, Labels.get?, Labels.managed, Name.nameLabel, Name.managedByLabel]
  | slice object =>
    simp [Object.labels, h.2, Labels.get?, Labels.managedSlice, Labels.managed, Name.nameLabel,
      Name.managedByLabel]
  | route object =>
    simp [Object.labels, h.2.2, Labels.get?, Labels.managed, Name.nameLabel, Name.managedByLabel]

theorem Object.MadeFor.service_name {service : ServiceObject} {owner : String}
    (h : (Object.service service).MadeFor scope owner) : (Object.service service).name = owner := by
  rw [Object.name, h.1, Option.getD_some]

theorem Object.MadeFor.slice_name {slice : EndpointSlice} {owner : String}
    (h : (Object.slice slice).MadeFor scope owner) :
    (Object.slice slice).name = Name.slice owner := by
  rw [Object.name, h.1, Option.getD_some]

/-- What a sync makes is an orphan as soon as a snapshot does not ask for it. -/
theorem Object.MadeFor.orphaned_iff {owner : String} {object : Object}
    (h : object.MadeFor scope owner) : object.Orphaned scope snapshot object.name ↔
      ¬ Sync.Wanted scope snapshot object.kind object.name := by
  unfold Object.Orphaned
  rw [and_iff_right h.managed]
  cases object with
  | service service => exact not_congr Sync.wanted_service_iff.symm
  | route route => exact not_congr Sync.wanted_route_iff.symm
  | slice slice =>
    change (∀ owner, slice.metadata.labels.get? Name.serviceNameLabel = some owner → _) ↔
      ¬ Sync.Wanted scope snapshot .endpointSlice _
    rw [h.slice_name, Sync.wanted_slice_iff, h.2, Sync.get?_serviceNameLabel]
    simp

/-! ## What is asked for is made by a sync -/

namespace Sync

/-- The objects of a demand are made for its service. -/
theorem madeFor_of_mem_objects {demand : Demand} (hdemand : demand ∈ demands scope snapshot)
    {object : Object} (hobject : object ∈ demand.objects scope) :
    object.MadeFor scope demand.projection.name := by
  obtain ⟨state, _, hprojection, hgateways⟩ := mem_demands.1 hdemand
  have hprojects := projects_of_projection? hprojection
  rcases Demand.mem_objects.1 hobject with rfl | rfl | ⟨gateway, hgateway, rfl⟩
  · rw [Object.MadeFor, hprojects.service]
    exact ⟨rfl, rfl⟩
  · rw [Object.MadeFor, hprojects.slice]
    exact ⟨rfl, rfl⟩
  · rw [← hgateways, mem_selectedGateways_iff] at hgateway
    exact ⟨hgateway.1, ⟨gateway, rfl⟩, rfl⟩

end Sync

/-! ## Every request of a sync keeps a kept cluster -/

namespace Cluster

theorem kept_empty : Kept scope empty where
  ordered := ordered_empty
  made kind name object h := by simp at h

theorem Kept.delete {cluster : Cluster} (h : cluster.Kept scope) (kind : Kind) (name : String) :
    (cluster.delete kind name).Kept scope where
  ordered := ordered_delete h.ordered kind name
  made other query object hget := by
    rw [get?_delete] at hget
    split_ifs at hget
    exact h.made other query object hget

theorem Kept.apply {cluster : Cluster} (h : cluster.Kept scope) {object : Object} {owner : String}
    (hobject : object.MadeFor scope owner) :
    (cluster.perform .managed object.apply).1.Kept scope where
  ordered := ordered_perform h.ordered _ _
  made kind name stored hget := by
    rw [get?_perform_apply] at hget
    split_ifs at hget with hkey
    · obtain rfl := Option.some.inj hget
      exact ⟨hkey.2, owner, hobject⟩
    · exact h.made kind name stored hget

/-- A course that applies only what a sync makes keeps a kept cluster. -/
theorem Leads.kept {cluster later : Cluster} {exchanges : List Exchange}
    (h : cluster.Leads exchanges later)
    (hmade : ∀ exchange ∈ exchanges, ∀ object : Object, exchange.call = object.apply →
      ∃ owner, object.MadeFor scope owner)
    (hkept : cluster.Kept scope) : later.Kept scope := by
  refine h.preserves ?_ hkept
  intro exchange hexchange current hcurrent
  rcases exchange.call.eq_apply_or_list_or_delete with ⟨object, hcall⟩ | ⟨kind, hcall⟩ |
    ⟨kind, name, hcall⟩
  · obtain ⟨owner, hobject⟩ := hmade exchange hexchange object hcall
    rw [hcall]
    exact hcurrent.apply hobject
  · rw [hcall, perform_list_fst]
    exact hcurrent
  · rw [hcall]
    exact hcurrent.delete kind name

end Cluster

namespace Sync

/-- A sync keeps a kept cluster, whatever fails. -/
theorem kept_after {cluster : Cluster} (h : cluster.Kept scope) (fates : Fates)
    (snapshot : Snapshot) : (after scope fates cluster snapshot).Kept scope := by
  refine (leads_after scope fates cluster snapshot).kept ?_ h
  intro exchange hexchange object hcall
  obtain ⟨demand, hdemand, hobject⟩ := List.mem_flatMap.1
    ((course_exchanges scope fates cluster snapshot).mem_wanted hexchange hcall)
  exact ⟨_, madeFor_of_mem_objects hdemand hobject⟩

theorem kept_of_reachable {cluster : Cluster} (h : Reachable scope cluster) :
    cluster.Kept scope := by
  induction h with
  | empty => exact Cluster.kept_empty
  | synced h fates snapshot ih => exact kept_after ih fates snapshot
  | deleted h kind name ih => exact ih.delete kind name

end Sync

/-! ## Orphans of a kept cluster -/

namespace Cluster

variable {cluster : Cluster} {kind : Kind} {name : String}

/-- A slice of a kept cluster is named after the service that its labels name. -/
theorem Kept.slice_owner (h : cluster.Kept scope) {slice : EndpointSlice}
    (hget : cluster.get? .endpointSlice name = some (.slice slice)) :
    ∃ owner, name = Name.slice owner ∧ slice.metadata.labels = Labels.managedSlice owner := by
  obtain ⟨hname, owner, hmade⟩ := h.made _ _ _ hget
  exact ⟨owner, hname.symm.trans hmade.slice_name, hmade.2⟩

/-- What a kept cluster holds is an orphan if the snapshot does not ask for it. -/
theorem Kept.orphaned_iff (h : cluster.Kept scope) {object : Object}
    (hget : cluster.get? kind name = some object) :
    object.Orphaned scope snapshot name ↔ ¬ Sync.Wanted scope snapshot kind name := by
  obtain ⟨rfl, owner, hmade⟩ := h.made _ _ _ hget
  obtain rfl := kind_of_get? hget
  exact hmade.orphaned_iff

/-- The orphans of a kept cluster are what it holds and the snapshot does not ask for. -/
theorem Kept.orphan_iff (h : cluster.Kept scope) : cluster.Orphan scope snapshot kind name ↔
    cluster.get? kind name ≠ none ∧ ¬ Sync.Wanted scope snapshot kind name := by
  constructor
  · intro horphan
    obtain ⟨object, hget, horphaned⟩ := horphan
    exact ⟨by simp [hget], (h.orphaned_iff hget).1 horphaned⟩
  · intro hstored
    obtain ⟨hthere, hunwanted⟩ := hstored
    obtain ⟨object, hget⟩ := Option.ne_none_iff_exists'.1 hthere
    exact ⟨object, hget, (h.orphaned_iff hget).2 hunwanted⟩

end Cluster

end CatalogBridge
