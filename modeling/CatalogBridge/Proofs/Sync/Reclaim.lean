import CatalogBridge.Proofs.Sync.Account
import CatalogBridge.Proofs.Sync.Change

/-!
# What a sync makes can be taken away again

A sync remembers nothing, so a later one has to recognise by its name and labels
what an earlier one made. Three builders write these names and labels, and three
sweeps read them.

* `Object.MadeOn` says for each kind how an object names its service and its port,
  and `Labelled` adds what all objects carry. `labelled_of_mem_objects` says that
  everything that is asked for one service names the same service and port.
* `Reclaimable` says what later syncs make of an object, in any cluster that holds
  it. `Sweeps.answer_of_list` says that a listing shows what the applies left, and
  `reclaimable_of_madeFor` reads both off the labels.
* `reclaimable_of_cycle` says all of this of every object that a cycle applies,
  however its requests are answered.
-/

namespace CatalogBridge

variable {scope : Scope} {snapshot : Snapshot} {cluster later : Cluster}
  {exchanges : List Exchange} {kind : Kind} {name owner : String} {port : Int} {object : Object}

/-! ## What objects say of themselves -/

namespace Object

/-- The namespace of an object. -/
def namespaceName? : Object → Option String
  | .service object => object.metadata.namespaceName
  | .slice object => object.metadata.namespaceName
  | .route object => some object.metadata.namespaceName

/-- The object is named after a service, on a port: a service has the name itself, a slice has it in
its name and in a label, and a route has it in its name and as its only backend. -/
def MadeOn (owner : String) (port : Int) : Object → Prop
  | .service object => object.metadata.name = some owner ∧ object.ports = [port]
  | .slice object => object.metadata.name = some (Name.slice owner) ∧
      object.metadata.labels.get? Name.serviceNameLabel = some owner ∧ object.ports = [port]
  | .route object => (∃ gateway, object.metadata.name = Name.route owner gateway) ∧
      object.spec.rules = [⟨[⟨owner, port⟩]⟩]

/-- A cycle of the snapshot wants an object that is named after a service: the service is wanted, or
for a route its own name is. -/
def WantedFor (scope : Scope) (snapshot : Snapshot) (owner : String) : Object → Prop
  | .service _ | .slice _ => owner ∈ Sync.wantedServices scope snapshot
  | .route object => object.metadata.name ∈ Sync.wantedRoutes scope snapshot

/-- An object that a sync made is wanted if the snapshot asks for one of its kind and name. -/
theorem MadeFor.wanted_iff (h : object.MadeFor scope owner) :
    Sync.Wanted scope snapshot object.kind object.name ↔
      object.WantedFor scope snapshot owner := by
  cases object with
  | service service =>
    rw [h.service_name]
    exact Sync.wanted_service_iff
  | slice slice =>
    rw [h.slice_name]
    exact Sync.wanted_slice_iff
  | route route => exact Sync.wanted_route_iff

end Object

namespace Sync

/-- The object lies in the namespace of the scope, carries the marker and names a wanted service, by
its label and in the way of its kind. -/
structure Labelled (scope : Scope) (snapshot : Snapshot) (owner : String) (port : Int)
    (object : Object) : Prop where
  namespaceName : object.namespaceName? = some scope.namespaceName
  managed : Cluster.Selector.managed object.labels = true
  nameLabel : object.labels.get? Name.nameLabel = some owner
  made : object.MadeOn owner port
  wantedService : owner ∈ wantedServices scope snapshot
  wanted : object.WantedFor scope snapshot owner

/-- Everything that is asked for one service names that service and one port. -/
theorem labelled_of_mem_objects {demand : Demand} (hdemand : demand ∈ demands scope snapshot)
    (hobject : object ∈ demand.objects scope) :
    Labelled scope snapshot demand.projection.name demand.projection.port object := by
  obtain ⟨state, _, hprojection, _⟩ := mem_demands.1 hdemand
  obtain ⟨hdescribes, _⟩ := describes_of_projection? hprojection
  obtain ⟨member, _, hslice⟩ := hdescribes.slice
  have hmade := madeFor_of_mem_objects hdemand hobject
  have hwanted : Wanted scope snapshot object.kind object.name :=
    wanted_iff.2 ⟨demand, hdemand, object, hobject, rfl, rfl⟩
  have hplace : object.namespaceName? = some scope.namespaceName ∧
      object.MadeOn demand.projection.name demand.projection.port := by
    rcases Demand.mem_objects.1 hobject with rfl | rfl | ⟨gateway, _, rfl⟩
    · rw [hdescribes.service]
      exact ⟨rfl, rfl, rfl⟩
    · rw [hslice]
      exact ⟨rfl, rfl, get?_serviceNameLabel _, rfl⟩
    · exact ⟨rfl, ⟨gateway, rfl⟩, rfl⟩
  exact ⟨hplace.1, hmade.managed, hmade.nameLabel, hplace.2,
    List.mem_map.2 ⟨demand, hdemand, rfl⟩, hmade.wanted_iff.1 hwanted⟩

/-- What a cycle wants once it has seen its snapshot is what the snapshot asks for, whatever the
answers were. -/
theorem wanted_syncStates {σ : Type} (scope : Scope) (snapshot : Snapshot)
    (behaviour : Program.Behaviour σ) (start : σ) :
    let progress := ((syncStates scope .initial snapshot).run behaviour start).value
    progress.wantedServices = wantedServices scope snapshot ∧
      progress.wantedRoutes = wantedRoutes scope snapshot := by
  intro progress
  have hprogress := (conversation_syncStates
    (Program.conversation_run behaviour (syncStates scope .initial snapshot) start)).2.progress
  rw [Progress.wantAll_eq] at hprogress
  change progress = _ at hprogress
  rw [hprogress]
  exact ⟨rfl, rfl⟩

/-! ## Listings -/

/-- A listing shows an object that is named after a service. -/
def Shows (owner name : String) : (kind : Kind) → (ClusterCall.list kind).Answer → Prop
  | .service, (names : List String) => name ∈ names
  | .endpointSlice, (slices : List ManagedSlice) => ⟨name, some owner⟩ ∈ slices
  | .httpRoute, (names : List String) => name ∈ names

/-- A listing shows what a sync made. -/
theorem shows_of_madeFor (h : cluster.Ordered) (hthere : cluster.get? kind name = some object)
    (hmade : object.MadeFor scope owner) :
    Shows owner name kind (cluster.perform .managed (ClusterCall.list kind)).2 := by
  have hmanaged := hmade.managed
  obtain rfl := Cluster.kind_of_get? hthere
  cases object with
  | service service => exact h.mem_listServices.2 ⟨service, hthere, hmanaged⟩
  | slice slice =>
    have hservice : slice.metadata.labels.get? Name.serviceNameLabel = some owner := by
      rw [hmade.2]
      exact get?_serviceNameLabel owner
    exact (@Cluster.Ordered.mem_listSlices cluster .managed h ⟨name, some owner⟩).2
      ⟨slice, hthere, hmanaged, hservice⟩
  | route route => exact h.mem_listRoutes.2 ⟨route, hthere, hmanaged⟩

theorem Sweeps.asked_list {kinds : List Kind} (h : Sweeps scope snapshot kinds exchanges)
    (hkind : kind ∈ kinds) : Asked exchanges (ClusterCall.list kind) := by
  induction h with
  | nil => cases hkind
  | cons hfront hback ih =>
    rw [asked_append]
    rcases List.mem_cons.1 hkind with rfl | hkind
    · cases hfront with
      | unlisted error => exact Or.inl ⟨_, List.mem_cons_self, rfl⟩
      | listed answer deletes hdeletes => exact Or.inl ⟨_, List.mem_cons_self, rfl⟩
    · exact Or.inr (ih hkind)

/-- A listing in sweeps of different kinds shows its kind as it was before the sweeps. -/
theorem Sweeps.answer_of_list {kinds : List Kind} (h : Sweeps scope snapshot kinds exchanges)
    (hnodup : kinds.Nodup) (hleads : cluster.Leads exchanges later)
    (hordered : cluster.Ordered) {answer : (ClusterCall.list kind).Answer}
    (hanswer : (⟨ClusterCall.list kind, .ok answer⟩ : Exchange) ∈ exchanges) :
    ∃ current : Cluster, current.Ordered ∧
      (∀ name, current.get? kind name = cluster.get? kind name) ∧
      answer = (current.perform .managed (ClusterCall.list kind)).2 := by
  induction h generalizing cluster with
  | nil => cases hanswer
  | @cons first rest front back hfront hback ih =>
    obtain ⟨middle, hleads, hrest⟩ := hleads.split
    obtain ⟨hnew, hnodup⟩ := List.nodup_cons.1 hnodup
    rcases List.mem_append.1 hanswer with hanswer | hanswer
    · -- The listing is the first request of its sweep.
      have hkind := hfront.kind_eq hanswer
      rw [ClusterCall.kind_list] at hkind
      subst hkind
      cases hfront with
      | unlisted error =>
        exact absurd (List.mem_singleton.1 hanswer ▸ Exchange.failed_error _ error)
          (Exchange.not_failed_ok _ answer)
      | listed shown deletes hdeletes =>
        rcases List.mem_cons.1 hanswer with hsame | hdelete
        · cases hsame
          cases hleads with
          | served hleads => exact ⟨cluster, hordered, fun _ => rfl, rfl⟩
        · obtain ⟨other, _, hcall⟩ := call_of_deletes hdeletes hdelete
          exact absurd hcall (ClusterCall.list_ne_delete _ _ _)
    · obtain ⟨current, hcurrent, hsame, hperformed⟩ :=
        ih hnodup hrest (hleads.ordered hordered) hanswer
      refine ⟨current, hcurrent, fun name => (hsame name).trans ?_, hperformed⟩
      -- The sweeps before are about other kinds.
      have hkind : kind ≠ first := by
        intro hsame
        subst hsame
        have hmem := hback.kind_mem hanswer
        rw [ClusterCall.kind_list] at hmem
        exact hnew hmem
      refine hleads.get?_eq ?_
      intro exchange hexchange htouches
      exact hkind (htouches.kind_eq.symm.trans (hfront.kind_eq hexchange))

/-! ## Later syncs -/

/-- Applies leave what a sync made, or put what a sync made in its place. -/
theorem Attempts.exists_madeFor (h : Attempts scope (demands scope snapshot) exchanges)
    (hleads : cluster.Leads exchanges later)
    (hthere : cluster.get? object.kind object.name = some object)
    (hmade : object.MadeFor scope owner) :
    ∃ stored other, later.get? object.kind object.name = some stored ∧
      stored.name = object.name ∧ stored.MadeFor scope other := by
  refine hleads.preserves (P := fun current => ∃ stored other,
    current.get? object.kind object.name = some stored ∧ stored.name = object.name ∧
      stored.MadeFor scope other) ?_ ⟨object, owner, hthere, rfl, hmade⟩
  intro exchange hexchange current hcurrent
  obtain ⟨demand, hdemand, applied, happlied, hcall⟩ := h.call hexchange
  rw [hcall, Cluster.get?_perform_apply]
  split_ifs with hkey
  · exact ⟨applied, _, rfl, hkey.2, madeFor_of_mem_objects hdemand happlied⟩
  · exact hcurrent

/-- Two objects of one kind and name that syncs made are shown alike. -/
theorem Shows.of_name_eq {stored : Object} {other : String}
    {answer : (ClusterCall.list object.kind).Answer}
    (h : Shows other object.name object.kind answer)
    (hkind : stored.kind = object.kind) (hname : stored.name = object.name)
    (hstored : stored.MadeFor scope other) (hobject : object.MadeFor scope owner) :
    Shows owner object.name object.kind answer := by
  cases object with
  | service service | route route => exact h
  | slice slice =>
    cases stored with
    | service service | route route => cases hkind
    | slice kept =>
      -- The names of slices tell the services apart.
      rw [hstored.slice_name, hobject.slice_name] at hname
      rw [← Name.slice_injective hname]
      exact h

/-- What later syncs make of an object in any cluster that holds it, whatever fails: they list its
kind, every listing shows it, and it is deleted exactly if its kind is listed and it is no longer
wanted. -/
structure Reclaimable (scope : Scope) (owner : String) (object : Object) (later : Snapshot)
    (exchanges : List Exchange) : Prop where
  listed : Asked exchanges (ClusterCall.list object.kind)
  shown : ∀ answer, ⟨ClusterCall.list object.kind, .ok answer⟩ ∈ exchanges →
    Shows owner object.name object.kind answer
  deleted : Asked exchanges (.delete object.kind object.name) ↔
    ¬ FailedOn exchanges (ClusterCall.list object.kind) ∧ ¬ object.WantedFor scope later owner

/-- Whatever a sync made is told by its name and labels. The cluster around it may hold anything. -/
theorem reclaimable_of_madeFor (h : cluster.Ordered)
    (hthere : cluster.get? object.kind object.name = some object)
    (hmade : object.MadeFor scope owner) (fates : Fates) (snapshot : Snapshot) :
    Reclaimable scope owner object snapshot (Sync.exchanges scope fates cluster snapshot) := by
  have hswept : object.kind ∈ sweptKinds scope := by
    rw [mem_sweptKinds_iff]
    intro hkind
    cases object with
    | service service | slice slice => cases hkind
    | route route => exact hmade.1
  obtain ⟨applies, sweeps, middle, hexchanges, happlies, hsweeps, hfront, hback⟩ :=
    stages scope fates cluster snapshot
  refine ⟨?_, ?_, ?_⟩
  · rw [hexchanges, asked_append]
    exact Or.inr (hsweeps.asked_list hswept)
  · intro answer hanswer
    rw [hexchanges, List.mem_append] at hanswer
    rcases hanswer with hanswer | hanswer
    · exact absurd ⟨_, hanswer, rfl⟩ (happlies.not_asked (ClusterCall.list_ne_apply object.kind))
    · obtain ⟨stored, other, hstored, hname, hother⟩ :=
        happlies.exists_madeFor hfront hthere hmade
      obtain ⟨current, hcurrent, hsame, rfl⟩ := hsweeps.answer_of_list (nodup_sweptKinds scope)
        hback (hfront.ordered h) hanswer
      have hshown := shows_of_madeFor hcurrent ((hsame _).trans hstored) hother
      exact hshown.of_name_eq (Cluster.kind_of_get? hstored) hname hother hmade
  · have horphan : cluster.Orphan scope snapshot object.kind object.name ↔
        ¬ object.WantedFor scope snapshot owner := by
      rw [← hmade.wanted_iff, ← hmade.orphaned_iff, Cluster.Orphan, hthere]
      simp
    have hunwanted : cluster.Orphan scope snapshot object.kind object.name →
        ¬ Wanted scope snapshot object.kind object.name := by
      rw [hmade.wanted_iff]
      exact horphan.1
    rw [asked_delete_iff_of_ordered h hunwanted, and_iff_right hswept, horphan]

/-! ## Everything that a cycle applies -/

/-- A turn is empty, or all of it applies what one service of the snapshot asks for. -/
theorem Turn.Taken.exists_demand {turn : Turn} (h : turn.Taken scope)
    (hstate : turn.state ∈ snapshot) :
    turn.exchanges = [] ∨ ∃ demand ∈ demands scope snapshot,
      demand.projection.name = Name.sanitize turn.state.name ∧
      1 ≤ demand.projection.port ∧ demand.projection.port ≤ 65535 ∧
      ∀ exchange ∈ turn.exchanges, ∃ object ∈ demand.objects scope,
        exchange.call = object.apply := by
  cases h with
  | skipped hdemand hexchanges => exact Or.inl hexchanges
  | tried demand hdemand hattempt =>
    obtain ⟨projection, hprojection, rfl⟩ := Option.map_eq_some_iff.1 hdemand
    obtain ⟨hdescribes, hlow, hhigh⟩ := describes_of_projection? hprojection
    exact Or.inr ⟨_, mem_demands.2 ⟨turn.state, hstate, hprojection, rfl⟩, hdescribes.name, hlow,
      hhigh, fun exchange hexchange => hattempt.call hexchange⟩

/-- What a cycle wants is what its snapshot asks for, however its requests are answered. Every
object that it applies lies in the namespace, carries the marker and names the service that it is
applied for, which is wanted; the objects that are applied for one service agree on one port. So
later syncs recognise each of them, in any cluster that holds it and whatever fails. -/
theorem reclaimable_of_cycle {σ : Type} (scope : Scope) (snapshot : Snapshot)
    (behaviour : Program.Behaviour σ) (start : σ) :
    let progress := ((syncStates scope .initial snapshot).run behaviour start).value
    progress.wantedServices = wantedServices scope snapshot ∧
    progress.wantedRoutes = wantedRoutes scope snapshot ∧
    ∃ (turns : List Turn) (sweeps : List Exchange),
      (cycle scope snapshot).exchanges behaviour start
        = turns.flatMap (·.exchanges) ++ sweeps ∧
      turns.map (·.state) = snapshot ∧
      (∀ exchange ∈ sweeps, ∀ object : Object, exchange.call ≠ object.apply) ∧
      ∀ turn ∈ turns, ∃ port, ∀ exchange ∈ turn.exchanges, ∃ object : Object,
        exchange.call = object.apply ∧ 1 ≤ port ∧ port ≤ 65535 ∧
        Labelled scope snapshot (Name.sanitize turn.state.name) port object ∧
        ∀ cluster : Cluster, cluster.Ordered →
          cluster.get? object.kind object.name = some object → ∀ fates later,
            Reclaimable scope (Name.sanitize turn.state.name) object later
              (Sync.exchanges scope fates cluster later) := by
  intro progress
  obtain ⟨hservices, hroutes⟩ := wanted_syncStates scope snapshot behaviour start
  refine ⟨hservices, hroutes, ?_⟩
  obtain ⟨hcourse, _⟩ := conversation_cycle
    (Program.conversation_run behaviour (cycle scope snapshot) start)
  generalize (cycle scope snapshot).exchanges behaviour start = exchanges at hcourse ⊢
  cases hcourse with
  | @intro applies sweeps happlies hsweeps =>
    obtain ⟨turns, hstates, rfl, htaken⟩ := exists_turns happlies
    refine ⟨turns, sweeps, rfl, hstates, hsweeps.quiet, ?_⟩
    intro turn hturn
    have hstate : turn.state ∈ snapshot := by
      rw [← hstates]
      exact List.mem_map.2 ⟨turn, hturn, rfl⟩
    rcases (htaken turn hturn).exists_demand hstate with hempty | hdemand
    · exact ⟨0, by simp [hempty]⟩
    · obtain ⟨demand, hdemand, hname, hlow, hhigh, hcalls⟩ := hdemand
      refine ⟨demand.projection.port, fun exchange hexchange => ?_⟩
      obtain ⟨object, hobject, hcall⟩ := hcalls exchange hexchange
      rw [← hname]
      refine ⟨object, hcall, hlow, hhigh, labelled_of_mem_objects hdemand hobject, ?_⟩
      intro cluster hordered hthere fates later
      exact reclaimable_of_madeFor hordered hthere (madeFor_of_mem_objects hdemand hobject) fates
        later

-- The service is gone from the catalog when the second sync runs, and so is its slice.
example : Asked
    (Sync.exchanges edgeScope .calm (after edgeScope .calm .empty [publicService "web" 80]) [])
    (.delete .endpointSlice "web-consul") := by
  decide +kernel

end Sync

end CatalogBridge
