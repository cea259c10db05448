import CatalogBridge.Proofs.Sync.Change
import Mathlib.Data.List.Nodup

/-!
# Failures stay with their object

What a sync does in spite of failures, whatever requests fail and whether or not
they take effect all the same.

* `present_of_reachable` says that no failure takes away an object that the
  snapshot asks for.
* `isolated_of_reachable` compares a sync with one in which nothing fails. A
  service none of whose own requests failed gets the same objects from both, and
  what the snapshot does not ask for goes away, unless listing its kind or
  deleting it failed.
-/

namespace CatalogBridge.Sync

variable {scope : Scope} {snapshot : Snapshot} {cluster : Cluster} {fates : Fates}

/-- Every object that a service of the snapshot asks for and that is there before a sync is there
after it, with its old content or with one that is asked for. -/
theorem present_of_reachable (h : Reachable scope cluster) (fates : Fates) {demand : Demand}
    (hdemand : demand ∈ demands scope snapshot) {object : Object}
    (hobject : object ∈ demand.objects scope) {old : Object}
    (hthere : cluster.get? object.kind object.name = some old) :
    ∃ stored, (after scope fates cluster snapshot).get? object.kind object.name = some stored ∧
      (stored = old ∨ stored ∈ wanted scope snapshot) :=
  get?_after_of_wanted (kept_of_reachable h) fates
    (wanted_iff.2 ⟨demand, hdemand, object, hobject, rfl, rfl⟩) hthere

/-- The service keeps its old port if applying it is refused. -/
theorem present_of_reachable_refused :
    ∃ stored, (after edgeScope (.refusing (· == .applyService (.build "web" "default" 8080)))
        (after edgeScope .calm .empty [publicService "web" 80])
        [publicService "web" 8080]).get? .service "web" = some stored ∧
      (stored = .service (.build "web" "default" 80) ∨
        stored ∈ wanted edgeScope [publicService "web" 8080]) :=
  @present_of_reachable _ _ _ (.synced .empty _ _) _ (webDemand 8080) (by decide +kernel)
    (.service (.build "web" "default" 8080)) (by decide +kernel) _ (by decide +kernel)

/-! ## Services of different names -/

/-- No two services of a snapshot that can be projected have one name, and no two routes. -/
structure Distinct (scope : Scope) (snapshot : Snapshot) : Prop where
  names : ((demands scope snapshot).map (·.projection.name)).Nodup
  routes : ∀ first ∈ demands scope snapshot, ∀ gateway ∈ first.gateways,
    ∀ second ∈ demands scope snapshot, ∀ other ∈ second.gateways,
      Name.route first.projection.name gateway = Name.route second.projection.name other →
        first.projection.name = second.projection.name ∧ gateway = other

/-- Two services of different names ask for different objects. -/
theorem Distinct.eq_of_key {first second : Demand} {object other : Object}
    (h : Distinct scope snapshot) (hfirst : first ∈ demands scope snapshot)
    (hsecond : second ∈ demands scope snapshot) (hobject : object ∈ first.objects scope)
    (hother : other ∈ second.objects scope) (hkind : object.kind = other.kind)
    (hname : object.name = other.name) : object = other := by
  have hdemand : first.projection.name = second.projection.name → first = second :=
    fun hsame => List.inj_on_of_nodup_map h.names hfirst hsecond hsame
  obtain ⟨_, _, hprojects⟩ := projects_of_mem_demands hfirst
  obtain ⟨_, _, hprojects'⟩ := projects_of_mem_demands hsecond
  rcases Demand.mem_objects.1 hobject with rfl | rfl | ⟨gateway, hgateway, rfl⟩ <;>
    rcases Demand.mem_objects.1 hother with rfl | rfl | ⟨gateway', hgateway', rfl⟩ <;>
    try cases hkind
  · rw [hprojects.service_name, hprojects'.service_name] at hname
    rw [hdemand hname]
  · rw [hprojects.slice_name, hprojects'.slice_name] at hname
    rw [hdemand (Name.slice_injective hname)]
  · obtain ⟨hsame, rfl⟩ := h.routes first hfirst gateway hgateway second hsecond gateway' hgateway'
      hname
    rw [hdemand hsame]

/-- An attempt at every demand of a list is among the attempts at the list. -/
theorem Attempts.asked {demands : List Demand} {exchanges : List Exchange}
    (h : Attempts scope demands exchanges) {demand : Demand} (hdemand : demand ∈ demands)
    (hok : ∀ object ∈ demand.objects scope, ¬ FailedOn exchanges object.apply) :
    ∀ object ∈ demand.objects scope, Asked exchanges object.apply := by
  induction h with
  | nil => cases hdemand
  | @cons first rest front back hfront hback ih =>
    intro object hobject
    rw [asked_append]
    rcases List.mem_cons.1 hdemand with rfl | hrest
    · have hcalls := hfront.calls_eq fun object hobject hfailed =>
        hok object hobject (failedOn_append.2 (Or.inl hfailed))
      have hcall : object.apply ∈ front.map (·.call) := by
        rw [hcalls]
        exact List.mem_map.2 ⟨object, hobject, rfl⟩
      obtain ⟨exchange, hexchange, hcall⟩ := List.mem_map.1 hcall
      exact Or.inl ⟨exchange, hexchange, hcall⟩
    · exact Or.inr (ih hrest (fun object hobject hfailed =>
        hok object hobject (failedOn_append.2 (Or.inr hfailed))) object hobject)

/-- A service none of whose own requests failed gets its objects, whatever else failed. -/
theorem Distinct.get?_after (hdistinct : Distinct scope snapshot) (h : cluster.Kept scope)
    {demand : Demand} (hdemand : demand ∈ demands scope snapshot)
    (hok : ∀ object ∈ demand.objects scope,
      ¬ FailedOn (Sync.exchanges scope fates cluster snapshot) object.apply) :
    ∀ object ∈ demand.objects scope,
      (after scope fates cluster snapshot).get? object.kind object.name = some object := by
  obtain ⟨applies, sweeps, middle, hexchanges, happlies, hsweeps, hfront, hback⟩ :=
    stages scope fates cluster snapshot
  have hmiddle : middle.Kept scope := happlies.kept hfront h
  have happlied : ∀ object ∈ demand.objects scope, ¬ FailedOn applies object.apply := by
    intro object hobject hfailed
    refine hok object hobject ?_
    rw [hexchanges]
    exact failedOn_append.2 (Or.inl hfailed)
  intro object hobject
  have hwanted : Wanted scope snapshot object.kind object.name :=
    wanted_iff.2 ⟨demand, hdemand, object, hobject, rfl, rfl⟩
  rw [hsweeps.get?_eq (nodup_sweptKinds scope) hback hmiddle.ordered
    fun _ horphan => (hmiddle.orphan_iff.1 horphan).2 hwanted]
  refine hfront.get?_of_applied (happlies.asked hdemand happlied object hobject)
    (happlied object hobject) ?_
  intro exchange hexchange htouches
  rcases htouches with hdelete | ⟨other, hcall, hkey⟩
  · exact absurd ⟨exchange, hexchange, hdelete⟩
      (happlies.not_asked fun other => (other.apply_ne_delete _ _).symm)
  · obtain ⟨second, hsecond, hother⟩ := happlies.mem_objects hexchange hcall
    rw [hcall, hdistinct.eq_of_key hsecond hdemand hother hobject hkey.1 hkey.2]

/-- A sync gives every service none of whose own requests failed what a sync without failures gives
it, and takes away everything else that it can list and delete. -/
theorem isolated_of_reachable (h : Reachable scope cluster) (fates : Fates)
    (hdistinct : Distinct scope snapshot) :
    (∀ demand ∈ demands scope snapshot,
      (∀ object ∈ demand.objects scope,
        ¬ FailedOn (Sync.exchanges scope fates cluster snapshot) object.apply) →
      ∀ object ∈ demand.objects scope,
        (after scope fates cluster snapshot).get? object.kind object.name
          = (after scope .calm cluster snapshot).get? object.kind object.name) ∧
    ∀ kind name, (kind = .httpRoute → scope.routes.enabled = true) →
      ¬ Wanted scope snapshot kind name →
      ¬ FailedOn (Sync.exchanges scope fates cluster snapshot) (ClusterCall.list kind) →
      ¬ FailedOn (Sync.exchanges scope fates cluster snapshot) (.delete kind name) →
      (after scope fates cluster snapshot).get? kind name = none := by
  have hkept := kept_of_reachable h
  constructor
  · intro demand hdemand hok object hobject
    have hcalm : ∀ object ∈ demand.objects scope,
        ¬ FailedOn (Sync.exchanges scope .calm cluster snapshot) object.apply := by
      intro object _ hfailure
      obtain ⟨exchange, hexchange, _, hfailed⟩ := hfailure
      exact not_failed_of_calm scope cluster snapshot exchange hexchange hfailed
    rw [hdistinct.get?_after hkept hdemand hok object hobject,
      hdistinct.get?_after hkept hdemand hcalm object hobject]
  · intro kind name hswept hunwanted hlisted hdeleted
    exact get?_after_eq_none hkept hunwanted (mem_sweptKinds_iff.2 hswept) hlisted hdeleted

/-- Another service is refused, and so is deleting the slice of a third. -/
theorem isolated_of_reachable_refused :
    let fates := Fates.refusing fun call =>
      call == .applyService (.build "bad" "default" 80) ||
        call == .delete .endpointSlice "old-consul"
    let cluster := after edgeScope .calm .empty [publicService "old" 80]
    let snapshot := [publicService "bad" 80, publicService "web" 80]
    (after edgeScope fates cluster snapshot).get? .endpointSlice "web-consul"
        = (after edgeScope .calm cluster snapshot).get? .endpointSlice "web-consul" ∧
      (after edgeScope fates cluster snapshot).get? .service "old" = none := by
  intro fates cluster snapshot
  have hdistinct : Distinct edgeScope snapshot := ⟨by decide +kernel, by decide +kernel⟩
  obtain ⟨hsame, hgone⟩ := isolated_of_reachable (.synced .empty .calm _) fates hdistinct
  constructor
  · exact hsame (webDemand 80) (by decide +kernel) (by decide +kernel)
      (.slice (webDemand 80).projection.slice) (by decide +kernel)
  · refine hgone .service "old" (fun _ => rfl) ?_ (by decide +kernel) (by decide +kernel)
    rw [wanted_service_iff]
    decide +kernel

end CatalogBridge.Sync
