import CatalogBridge.Proofs.Sync.Idempotence

/-!
# What syncs leave alone

A cluster may hold objects that other hands made. The listings do not show them, so
no sweep deletes them, and a sync changes one only by applying an object of its kind
and name.

* A `Round` is one sync with the fates of its requests. `afterRounds` is the cluster
  after any number of rounds, and `history` what they asked.
* `unmanaged_after` is the step: a sync leaves an object without the marker as it is,
  unless it applies one in its place. Every delete goes back to the listing of a
  marked object (`orphan_of_asked_delete`).
* `kind_ne_httpRoute` says that without routes no request is about a route, so the
  table of routes stays as it is, whoever made what is in it.
* `untouched_of_rounds` carries both along a run.
-/

namespace CatalogBridge

variable {scope : Scope} {snapshot : Snapshot} {cluster later : Cluster}
  {exchanges : List Exchange} {kind : Kind} {name : String} {fates : Fates}

/-! ## Requests -/

namespace ClusterCall

/-- The kind and name of the object that a request applies. -/
def applied? : ClusterCall → Option (Kind × String)
  | .applyService object => some (.service, object.metadata.name.getD "")
  | .applySlice object => some (.endpointSlice, object.metadata.name.getD "")
  | .applyRoute object => some (.httpRoute, object.metadata.name)
  | .listServices | .listSlices | .listRoutes | .delete _ _ => none

@[simp] theorem applied?_apply (object : Object) :
    object.apply.applied? = some (object.kind, object.name) := by
  cases object <;> rfl

/-- A request touches what it deletes and what it applies. -/
theorem Touches.delete_or_applied {call : ClusterCall} (h : call.Touches kind name) :
    call = .delete kind name ∨ call.applied? = some (kind, name) := by
  rcases h with hdelete | ⟨object, rfl, rfl, rfl⟩
  · exact Or.inl hdelete
  · exact Or.inr (applied?_apply object)

end ClusterCall

namespace Cluster

/-- A request about another kind leaves the routes alone. -/
theorem routes_perform {call : ClusterCall} (h : call.kind ≠ .httpRoute) (selector : Selector)
    (cluster : Cluster) : (cluster.perform selector call).1.routes = cluster.routes := by
  cases call with
  | applyRoute route => exact absurd rfl h
  | delete kind name =>
    cases kind with
    | httpRoute => exact absurd rfl h
    | service | endpointSlice => rfl
  | _ => rfl

/-- Requests about other kinds leave the routes alone. -/
theorem Leads.routes_eq (h : cluster.Leads exchanges later)
    (hkind : ∀ exchange ∈ exchanges, exchange.call.kind ≠ .httpRoute) :
    later.routes = cluster.routes := by
  refine h.preserves (P := fun current => current.routes = cluster.routes) ?_ rfl
  intro exchange hexchange current hcurrent
  rw [routes_perform (hkind exchange hexchange), hcurrent]

end Cluster

namespace Sync

/-! ## One sync -/

/-- A sync leaves an object without the marker as it is, unless it applies one in its place. -/
theorem unmanaged_after {object : Object} (h : cluster.Ordered)
    (hthere : cluster.get? kind name = some object)
    (hunmanaged : Cluster.Selector.managed object.labels = false)
    (hquiet : ∀ exchange ∈ Sync.exchanges scope fates cluster snapshot,
      exchange.call.applied? ≠ some (kind, name)) :
    ¬ Asked (Sync.exchanges scope fates cluster snapshot) (.delete kind name) ∧
      (after scope fates cluster snapshot).get? kind name = some object := by
  have hspared : ¬ Asked (Sync.exchanges scope fates cluster snapshot) (.delete kind name) := by
    intro hasked
    -- Only an object with the marker is an orphan.
    obtain ⟨_, stored, hstored, hmanaged, _⟩ := orphan_of_asked_delete h hasked
    obtain rfl := Option.some.inj (hthere.symm.trans hstored)
    rw [hunmanaged] at hmanaged
    cases hmanaged
  refine ⟨hspared, ?_⟩
  rw [(leads_after scope fates cluster snapshot).get?_eq, hthere]
  intro exchange hexchange htouches
  rcases htouches.delete_or_applied with hdelete | happlied
  · exact hspared ⟨exchange, hexchange, hdelete⟩
  · exact hquiet exchange hexchange happlied

/-- Without routes no request of a cycle is about a route. -/
theorem Course.kind_ne_httpRoute (h : Course scope snapshot exchanges)
    (hdisabled : scope.routes.enabled = false) :
    ∀ exchange ∈ exchanges, exchange.call.kind ≠ .httpRoute := by
  have hunswept : Kind.httpRoute ∉ sweptKinds scope := by
    rw [mem_sweptKinds_iff, hdisabled]
    simp
  intro exchange hexchange hkind
  cases h with
  | intro happlies hsweeps =>
    rcases List.mem_append.1 hexchange with hexchange | hexchange
    · obtain ⟨demand, hdemand, object, hobject, hcall⟩ := happlies.call hexchange
      rw [hcall, ClusterCall.kind_apply] at hkind
      have hmade := madeFor_of_mem_objects hdemand hobject
      cases object with
      | service object | slice object => cases hkind
      | route object => exact absurd (hmade.1.symm.trans hdisabled) (by simp)
    · exact hunswept (hkind ▸ hsweeps.kind_mem hexchange)

theorem ordered_after (h : cluster.Ordered) (fates : Fates) (snapshot : Snapshot) :
    (after scope fates cluster snapshot).Ordered :=
  (leads_after scope fates cluster snapshot).ordered h

/-! ## Any number of syncs -/

/-- One sync of a run: its snapshot, and the fates of its requests. -/
structure Round where
  fates : Fates
  snapshot : Snapshot

/-- The cluster after some rounds. -/
def afterRounds (scope : Scope) : Cluster → List Round → Cluster
  | cluster, [] => cluster
  | cluster, round :: rest =>
    afterRounds scope (after scope round.fates cluster round.snapshot) rest

/-- What some rounds asked, with the answers. -/
def history (scope : Scope) : Cluster → List Round → List Exchange
  | _, [] => []
  | cluster, round :: rest =>
    Sync.exchanges scope round.fates cluster round.snapshot
      ++ history scope (after scope round.fates cluster round.snapshot) rest

/-- Rounds leave an object without the marker as it is, unless one of them applies one in its
place. -/
theorem unmanaged_afterRounds {object : Object} {rounds : List Round} (h : cluster.Ordered)
    (hthere : cluster.get? kind name = some object)
    (hunmanaged : Cluster.Selector.managed object.labels = false)
    (hquiet : ∀ exchange ∈ history scope cluster rounds,
      exchange.call.applied? ≠ some (kind, name)) :
    ¬ Asked (history scope cluster rounds) (.delete kind name) ∧
      (afterRounds scope cluster rounds).get? kind name = some object := by
  induction rounds generalizing cluster with
  | nil => exact ⟨by simp [history, Asked], hthere⟩
  | cons round rest ih =>
    rw [history, List.forall_mem_append] at hquiet
    obtain ⟨hspared, hkept⟩ := unmanaged_after h hthere hunmanaged hquiet.1
    obtain ⟨hlater, hlast⟩ := ih (ordered_after h _ _) hkept hquiet.2
    rw [history, asked_append, not_or]
    exact ⟨⟨hspared, hlater⟩, hlast⟩

/-- Without routes no round is about a route, and the routes stay as they are. -/
theorem routes_afterRounds (hdisabled : scope.routes.enabled = false) (cluster : Cluster)
    (rounds : List Round) :
    (∀ exchange ∈ history scope cluster rounds, exchange.call.kind ≠ .httpRoute) ∧
      (afterRounds scope cluster rounds).routes = cluster.routes := by
  induction rounds generalizing cluster with
  | nil => exact ⟨by simp [history], rfl⟩
  | cons round rest ih =>
    have hkind :=
      (course_exchanges scope round.fates cluster round.snapshot).kind_ne_httpRoute hdisabled
    obtain ⟨hlater, hlast⟩ := ih (after scope round.fates cluster round.snapshot)
    rw [history, List.forall_mem_append]
    exact ⟨⟨hkind, hlater⟩, hlast.trans ((leads_after scope round.fates cluster
      round.snapshot).routes_eq hkind)⟩

/-- Whatever the snapshots and whatever fails, syncs leave every object without the marker as it is
if none of them applies an object of its kind and name. Without routes they leave all routes as they
are, with the marker or without. -/
theorem untouched_of_rounds (scope : Scope) (h : cluster.Ordered) (rounds : List Round) :
    (∀ kind name object, cluster.get? kind name = some object →
      Cluster.Selector.managed object.labels = false →
      (∀ exchange ∈ history scope cluster rounds, exchange.call.applied? ≠ some (kind, name)) →
      ¬ Asked (history scope cluster rounds) (.delete kind name) ∧
        (afterRounds scope cluster rounds).get? kind name = some object) ∧
    (scope.routes.enabled = false →
      (∀ exchange ∈ history scope cluster rounds, exchange.call.kind ≠ .httpRoute) ∧
        (afterRounds scope cluster rounds).routes = cluster.routes) :=
  ⟨fun _ _ _ hthere hunmanaged hquiet => unmanaged_afterRounds h hthere hunmanaged hquiet,
    fun hdisabled => routes_afterRounds hdisabled cluster rounds⟩

/-- The service `db` has no marker and is not applied, in a round in which a request is refused and
in one whose answers are all lost; without routes a route that has the marker stays too. -/
theorem untouched_of_rounds_mixedCluster :
    let rounds : List Round := [
      ⟨.refusing (· == .delete .service "old"), [publicService "web" 80]⟩,
      ⟨fun _ _ => .lost (.kube .unreachable), []⟩]
    let unrouted : Scope := ⟨"default", .disabled⟩
    (afterRounds edgeScope mixedCluster rounds).get? .service "db"
        = some (.service ⟨⟨some "db", some "default", []⟩, [5432]⟩) ∧
      (afterRounds unrouted mixedCluster rounds).routes = mixedCluster.routes := by
  intro rounds unrouted
  constructor
  · exact ((untouched_of_rounds edgeScope ordered_mixedCluster rounds).1 .service "db" _
      (by decide +kernel) (by decide +kernel) (by decide +kernel)).2
  · exact ((untouched_of_rounds unrouted ordered_mixedCluster rounds).2 rfl).2

end Sync

end CatalogBridge
