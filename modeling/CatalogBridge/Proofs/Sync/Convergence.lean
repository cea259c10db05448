import CatalogBridge.Proofs.Sync.Change

/-!
# Convergence

A sync in which nothing fails leaves exactly what its snapshot asks for, whatever
was in the cluster before: no failure and no deletion of the past shows.

* `lastOf` is the last object of a kind and name in a list. Where several services
  of a snapshot ask for one name, the last one gets it (`get?_after_of_ok`).
* `selectedRoutes` are the routes that a snapshot is to have, said by the bindings
  and the tags of the services that can be projected (`mem_selectedRoutes_iff`).
* `Mirrors` spells this out, table by table. There is one cluster that mirrors a
  snapshot (`Mirrors.unique`), and a sync leaves it (`converges_of_reachable`).
-/

namespace CatalogBridge.Sync

variable {scope : Scope} {snapshot : Snapshot} {cluster : Cluster} {fates : Fates}

/-! ## The last of each name -/

/-- The last object of a kind and name. -/
def lastOf (objects : List Object) (kind : Kind) (name : String) : Option Object :=
  objects.reverse.find? fun object => object.kind = kind ∧ object.name = name

theorem lastOf_eq_some_iff {objects : List Object} {kind : Kind} {name : String}
    {object : Object} :
    lastOf objects kind name = some object ↔
      (object.kind = kind ∧ object.name = name) ∧ ∃ before behind,
        objects = before ++ object :: behind ∧
          ∀ other ∈ behind, ¬ (other.kind = kind ∧ other.name = name) := by
  rw [lastOf, List.find?_eq_some_iff_append]
  simp only [decide_eq_true_eq, Bool.not_eq_true', decide_eq_false_iff_not]
  refine and_congr_right fun _ => ?_
  constructor
  · intro hfound
    obtain ⟨behind, before, hsplit, hnone⟩ := hfound
    refine ⟨before.reverse, behind.reverse, ?_, fun other hother =>
      hnone other (List.mem_reverse.1 hother)⟩
    rw [← List.reverse_reverse objects, hsplit]
    simp
  · intro hfound
    obtain ⟨before, behind, rfl, hnone⟩ := hfound
    exact ⟨behind.reverse, before.reverse, by simp, fun other hother =>
      hnone other (List.mem_reverse.1 hother)⟩

theorem lastOf_eq_none_iff {objects : List Object} {kind : Kind} {name : String} :
    lastOf objects kind name = none ↔
      ∀ object ∈ objects, ¬ (object.kind = kind ∧ object.name = name) := by
  simp [lastOf]

/-- After applies in which nothing fails, every name has the last object that was applied. -/
theorem Attempts.get?_eq_lastOf {later : Cluster} {exchanges : List Exchange} {kind : Kind}
    {name : String} (h : Attempts scope (demands scope snapshot) exchanges)
    (hleads : cluster.Leads exchanges later) (hok : ∀ exchange ∈ exchanges, ¬ exchange.Failed)
    (hwanted : Wanted scope snapshot kind name) :
    later.get? kind name = lastOf (wanted scope snapshot) kind name := by
  cases hlast : lastOf (wanted scope snapshot) kind name with
  | none =>
    obtain ⟨object, hobject, hkey⟩ := hwanted
    exact absurd hkey (lastOf_eq_none_iff.1 hlast object hobject)
  | some object =>
    obtain ⟨⟨rfl, rfl⟩, before, behind, hsplit, hnone⟩ := lastOf_eq_some_iff.1 hlast
    have hcalls : exchanges.map (·.call)
        = before.map Object.apply ++ (object :: behind).map Object.apply := by
      rw [h.calls_eq hok, ← List.map_append, ← hsplit]
      rfl
    obtain ⟨front, back, rfl, _, hback⟩ := List.map_eq_append_iff.1 hcalls
    obtain ⟨middle, _, hleads⟩ := hleads.split
    -- From the last object of this name on, nothing else takes its place.
    refine hleads.get?_of_applied ?_ ?_ ?_
    · have hcall : object.apply ∈ back.map (·.call) := by
        rw [hback]
        exact List.mem_cons_self
      obtain ⟨exchange, hexchange, hcall⟩ := List.mem_map.1 hcall
      exact ⟨exchange, hexchange, hcall⟩
    · rw [List.forall_mem_append] at hok
      exact not_failedOn hok.2
    · intro exchange hexchange htouches
      have hcall : exchange.call ∈ (object :: behind).map Object.apply := by
        rw [← hback]
        exact List.mem_map.2 ⟨exchange, hexchange, rfl⟩
      obtain ⟨other, hother, hsame⟩ := List.mem_map.1 hcall
      rcases List.mem_cons.1 hother with rfl | hbehind
      · exact hsame.symm
      · rcases htouches with hdelete | ⟨applied, happlied, hkey⟩
        · exact absurd (hsame.trans hdelete) (other.apply_ne_delete _ _)
        · obtain rfl := Object.apply_injective (hsame.trans happlied)
          exact absurd hkey (hnone other hbehind)

/-- Routes are swept wherever there can be some. -/
theorem get?_of_not_swept {kind : Kind} (h : cluster.Kept scope)
    (hswept : kind ∉ sweptKinds scope) (name : String) : cluster.get? kind name = none := by
  rw [mem_sweptKinds_iff, Classical.not_imp] at hswept
  obtain ⟨rfl, hdisabled⟩ := hswept
  cases hget : cluster.get? .httpRoute name with
  | none => rfl
  | some object =>
    obtain ⟨route, _, rfl⟩ := Option.map_eq_some_iff.1 hget
    obtain ⟨_, owner, hmade⟩ := h.made _ _ _ hget
    exact absurd hmade.1 hdisabled

/-- After a sync in which nothing fails, every name has the last object that was asked for. -/
theorem get?_after_of_ok (h : cluster.Kept scope)
    (hok : ∀ exchange ∈ Sync.exchanges scope fates cluster snapshot, ¬ exchange.Failed)
    (kind : Kind) (name : String) :
    (after scope fates cluster snapshot).get? kind name
      = lastOf (wanted scope snapshot) kind name := by
  by_cases hwanted : Wanted scope snapshot kind name
  · obtain ⟨applies, sweeps, middle, hexchanges, happlies, hsweeps, hfront, hback⟩ :=
      stages scope fates cluster snapshot
    have hmiddle : middle.Kept scope := happlies.kept hfront h
    rw [hexchanges] at hok
    rw [hsweeps.get?_eq (nodup_sweptKinds scope) hback hmiddle.ordered
      fun _ horphan => (hmiddle.orphan_iff.1 horphan).2 hwanted]
    exact happlies.get?_eq_lastOf hfront (fun exchange hexchange =>
      hok exchange (List.mem_append_left sweeps hexchange)) hwanted
  · have hnone : lastOf (wanted scope snapshot) kind name = none :=
      lastOf_eq_none_iff.2 fun object hobject hkey => hwanted ⟨object, hobject, hkey⟩
    rw [hnone]
    by_cases hswept : kind ∈ sweptKinds scope
    · exact get?_after_eq_none h hwanted hswept (not_failedOn hok) (not_failedOn hok)
    · exact get?_of_not_swept (kept_after h fates snapshot) hswept name

/-! ## Mirrors -/

/-- The projections of a snapshot, in order. -/
def projections (scope : Scope) (snapshot : Snapshot) : List Projection :=
  snapshot.filterMap (projection? scope)

/-- The routes that a snapshot selects, in order: if routes are made at all, one for every service
that can be projected and every binding whose tag the service carries. -/
def selectedRoutes (scope : Scope) (snapshot : Snapshot) : List HttpRoute :=
  snapshot.flatMap fun state =>
    (projection? scope state).toList.flatMap fun projection =>
      (selectedGateways scope.routes state).map fun gateway =>
        .build projection.name scope.namespaceName projection.port gateway scope.routes

theorem selectedRoutes_eq (scope : Scope) (snapshot : Snapshot) : selectedRoutes scope snapshot
    = (demands scope snapshot).flatMap fun demand => demand.gateways.map (demand.route scope) := by
  rw [demands, List.filterMap_eq_flatMap_toList, List.flatMap_assoc, selectedRoutes]
  congr 1
  funext state
  rw [demand?]
  cases projection? scope state with
  | none => rfl
  | some projection => simp [Demand.route]

theorem mem_selectedRoutes_iff {route : HttpRoute} : route ∈ selectedRoutes scope snapshot ↔
    scope.routes.enabled = true ∧ ∃ state ∈ snapshot, ∃ projection,
      projection? scope state = some projection ∧
        ∃ binding ∈ scope.routes.bindings, state.Carries binding.tag ∧
          route = .build projection.name scope.namespaceName projection.port binding.gateway
            scope.routes := by
  simp only [selectedRoutes, List.mem_flatMap, Option.mem_toList, List.mem_map,
    mem_selectedGateways_iff]
  constructor
  · intro hselected
    obtain ⟨state, hstate, projection, hprojection, gateway, hgateway, rfl⟩ := hselected
    obtain ⟨henabled, binding, hbinding, rfl, htag⟩ := hgateway
    exact ⟨henabled, state, hstate, projection, hprojection, binding, hbinding, htag, rfl⟩
  · intro hselected
    obtain ⟨henabled, state, hstate, projection, hprojection, binding, hbinding, htag, rfl⟩ :=
      hselected
    exact ⟨state, hstate, projection, hprojection, _, ⟨henabled, binding, hbinding, rfl, htag⟩,
      rfl⟩

/-- The cluster holds what the snapshot asks for and nothing else, and every name belongs to the
last service that asks for it. -/
structure Mirrors (scope : Scope) (snapshot : Snapshot) (cluster : Cluster) : Prop where
  ordered : cluster.Ordered
  services : ∀ name, Table.get? name cluster.services
    = ((projections scope snapshot).reverse.find? (·.name = name)).map (·.service)
  slices : ∀ name, Table.get? (Name.slice name) cluster.slices
    = ((projections scope snapshot).reverse.find? (·.name = name)).map (·.slice)
  sliceNames : ∀ name, Table.get? name cluster.slices ≠ none → ∃ owner, name = Name.slice owner
  routes : ∀ name, Table.get? name cluster.routes
    = (selectedRoutes scope snapshot).reverse.find? (·.metadata.name = name)

/-- The names of the routes of a mirror are those that the snapshot selects. -/
theorem Mirrors.exists_route_iff (h : Mirrors scope snapshot cluster) (name : String) :
    (∃ route, Table.get? name cluster.routes = some route) ↔
      scope.routes.enabled = true ∧ ∃ state ∈ snapshot, ∃ projection,
        projection? scope state = some projection ∧
          ∃ binding ∈ scope.routes.bindings, state.Carries binding.tag ∧
            name = Name.route projection.name binding.gateway := by
  rw [h.routes, ← Option.isSome_iff_exists, List.find?_isSome]
  simp only [List.mem_reverse, mem_selectedRoutes_iff, decide_eq_true_iff]
  constructor
  · intro hselected
    obtain ⟨route, ⟨henabled, state, hstate, projection, hprojection, binding, hbinding, htag,
      rfl⟩, rfl⟩ := hselected
    exact ⟨henabled, state, hstate, projection, hprojection, binding, hbinding, htag, rfl⟩
  · intro hselected
    obtain ⟨henabled, state, hstate, projection, hprojection, binding, hbinding, htag, rfl⟩ :=
      hselected
    exact ⟨_, ⟨henabled, state, hstate, projection, hprojection, binding, hbinding, htag, rfl⟩,
      rfl⟩

/-- There is at most one mirror of a snapshot. -/
theorem Mirrors.unique {first second : Cluster} (hfirst : Mirrors scope snapshot first)
    (hsecond : Mirrors scope snapshot second) : first = second := by
  have hservices : first.services = second.services := by
    refine Table.eq_of_get?_eq hfirst.ordered.services hsecond.ordered.services ?_
    intro name
    rw [hfirst.services, hsecond.services]
  have hslices : first.slices = second.slices := by
    refine Table.eq_of_get?_eq hfirst.ordered.slices hsecond.ordered.slices ?_
    intro name
    by_cases howned : ∃ owner, name = Name.slice owner
    · obtain ⟨owner, rfl⟩ := howned
      rw [hfirst.slices, hsecond.slices]
    · rw [not_not.1 fun hthere => howned (hfirst.sliceNames name hthere),
        not_not.1 fun hthere => howned (hsecond.sliceNames name hthere)]
  have hroutes : first.routes = second.routes := by
    refine Table.eq_of_get?_eq hfirst.ordered.routes hsecond.ordered.routes ?_
    intro name
    rw [hfirst.routes, hsecond.routes]
  cases first
  cases second
  simp_all

theorem lastOf_append (front back : List Object) (kind : Kind) (name : String) :
    lastOf (front ++ back) kind name = (lastOf back kind name).or (lastOf front kind name) := by
  rw [lastOf, List.reverse_append, List.find?_append]
  rfl

/-- The last object of all demands is found demand by demand. -/
theorem lastOf_flatMap {α : Type} {demands : List Demand} {kind : Kind} {name : String}
    (pick : Demand → List α) (make : α → Object) (test : α → Bool)
    (h : ∀ demand ∈ demands,
      lastOf (demand.objects scope) kind name = ((pick demand).reverse.find? test).map make) :
    lastOf (demands.flatMap (Demand.objects scope)) kind name
      = ((demands.flatMap pick).reverse.find? test).map make := by
  induction demands with
  | nil => rfl
  | cons demand rest ih =>
    rw [List.flatMap_cons, List.flatMap_cons, lastOf_append, h demand List.mem_cons_self,
      ih fun other hother => h other (List.mem_cons_of_mem _ hother), List.reverse_append,
      List.find?_append, Option.map_or]

theorem lastOf_cons (object : Object) (rest : List Object) (kind : Kind) (name : String) :
    lastOf (object :: rest) kind name = (lastOf rest kind name).or
      (if object.kind = kind ∧ object.name = name then some object else none) := by
  have hone : lastOf [object] kind name
      = if object.kind = kind ∧ object.name = name then some object else none := by
    rw [lastOf, List.reverse_singleton, List.find?_singleton]
    simp only [decide_eq_true_eq]
  rw [← List.singleton_append, lastOf_append, hone]

theorem lastOf_routes (routes : List HttpRoute) (name : String) :
    lastOf (routes.map .route) .httpRoute name
      = (routes.reverse.find? (·.metadata.name = name)).map .route := by
  have htest : (fun object : Object => decide (object.kind = .httpRoute ∧ object.name = name))
      ∘ Object.route = fun route => decide (route.metadata.name = name) := by
    funext route
    simp [Object.kind, Object.name]
  rw [lastOf, ← List.map_reverse, List.find?_map, htest]

theorem lastOf_routes_eq_none {routes : List HttpRoute} {kind : Kind} {name : String}
    (h : kind ≠ .httpRoute) : lastOf (routes.map .route) kind name = none := by
  refine lastOf_eq_none_iff.2 ?_
  intro object hobject hkey
  obtain ⟨rfl, _⟩ := hkey
  obtain ⟨route, _, rfl⟩ := List.mem_map.1 hobject
  exact h rfl

theorem Demand.objects_eq (scope : Scope) (demand : Demand) : demand.objects scope
    = .service demand.projection.service :: .slice demand.projection.slice ::
        (demand.gateways.map (demand.route scope)).map .route := by
  rw [Demand.objects, List.map_map]
  rfl

theorem projections_eq (scope : Scope) (snapshot : Snapshot) : projections scope snapshot
    = (demands scope snapshot).flatMap fun demand => [demand.projection] := by
  have hprojection : (fun state => (demand? scope state).map (·.projection))
      = projection? scope := by
    funext state
    rw [demand?, Option.map_map]
    exact Option.map_id'
  rw [← List.map_eq_flatMap, demands, List.map_filterMap, hprojection, projections]

theorem lastOf_wanted_service (name : String) : lastOf (wanted scope snapshot) .service name
    = (((projections scope snapshot).reverse.find? (·.name = name)).map (·.service)).map
      .service := by
  rw [projections_eq, Option.map_map]
  refine lastOf_flatMap _ _ _ ?_
  intro demand hdemand
  obtain ⟨state, _, hprojects⟩ := projects_of_mem_demands hdemand
  rw [Demand.objects_eq, lastOf_cons, lastOf_cons, lastOf_routes_eq_none (by simp),
    hprojects.service_name, List.reverse_singleton, List.find?_singleton]
  by_cases hname : demand.projection.name = name <;> simp [Object.kind, hname]

theorem lastOf_wanted_slice (name : String) :
    lastOf (wanted scope snapshot) .endpointSlice (Name.slice name)
      = (((projections scope snapshot).reverse.find? (·.name = name)).map (·.slice)).map
        .slice := by
  rw [projections_eq, Option.map_map]
  refine lastOf_flatMap _ _ _ ?_
  intro demand hdemand
  obtain ⟨state, _, hprojects⟩ := projects_of_mem_demands hdemand
  rw [Demand.objects_eq, lastOf_cons, lastOf_cons, lastOf_routes_eq_none (by simp),
    hprojects.slice_name, List.reverse_singleton, List.find?_singleton]
  by_cases hname : demand.projection.name = name
  · simp [Object.kind, hname]
  · have hslice : Name.slice demand.projection.name ≠ Name.slice name :=
      fun hsame => hname (Name.slice_injective hsame)
    simp [Object.kind, hname, hslice]

theorem lastOf_wanted_route (name : String) : lastOf (wanted scope snapshot) .httpRoute name
    = ((selectedRoutes scope snapshot).reverse.find? (·.metadata.name = name)).map .route := by
  rw [selectedRoutes_eq]
  refine lastOf_flatMap _ _ _ ?_
  intro demand _
  rw [Demand.objects_eq, lastOf_cons, lastOf_cons, lastOf_routes]
  simp [Object.kind]

/-- A sync in which nothing fails leaves a mirror of its snapshot. -/
theorem mirrors_after (h : cluster.Kept scope)
    (hok : ∀ exchange ∈ Sync.exchanges scope fates cluster snapshot, ¬ exchange.Failed) :
    Mirrors scope snapshot (after scope fates cluster snapshot) := by
  have hkept := kept_after h fates snapshot
  have hget := get?_after_of_ok h hok
  refine ⟨hkept.ordered, ?_, ?_, ?_, ?_⟩
  · intro name
    have hservice := hget .service name
    rw [lastOf_wanted_service] at hservice
    exact Option.map_injective (fun _ _ hsame => Object.service.inj hsame) hservice
  · intro name
    have hslice := hget .endpointSlice (Name.slice name)
    rw [lastOf_wanted_slice] at hslice
    exact Option.map_injective (fun _ _ hsame => Object.slice.inj hsame) hslice
  · intro name hthere
    obtain ⟨slice, hslice⟩ := Option.ne_none_iff_exists'.1 hthere
    have hstored : (after scope fates cluster snapshot).get? .endpointSlice name
        = some (.slice slice) := by
      rw [Cluster.get?, hslice, Option.map_some]
    obtain ⟨owner, hname, _⟩ := hkept.slice_owner hstored
    exact ⟨owner, hname⟩
  · intro name
    have hroute := hget .httpRoute name
    rw [lastOf_wanted_route] at hroute
    exact Option.map_injective (fun _ _ hsame => Object.route.inj hsame) hroute

example : (Table.get? "web" (after edgeScope .calm .empty
    [publicService "web" 80, publicService "Web" 8080]).services).map (·.ports) = some [8080] := by
  decide +kernel

/-- A sync in which nothing fails succeeds, and leaves the one mirror of its snapshot, whatever
syncs, failures and deletions came before. Its routes have the names of the services that can be
projected and the bindings whose tag they carry, and no others. -/
theorem converges_of_reachable (h : Reachable scope cluster)
    (hok : ∀ exchange ∈ Sync.exchanges scope fates cluster snapshot, ¬ exchange.Failed) :
    (∃ summary, (run scope fates cluster snapshot).value = .ok summary) ∧
      (∀ other, Mirrors scope snapshot other ↔ other = after scope fates cluster snapshot) ∧
      ∀ name, (∃ route,
          Table.get? name (after scope fates cluster snapshot).routes = some route) ↔
        scope.routes.enabled = true ∧ ∃ state ∈ snapshot, ∃ projection,
          projection? scope state = some projection ∧
            ∃ binding ∈ scope.routes.bindings, state.Carries binding.tag ∧
              name = Name.route projection.name binding.gateway := by
  have hmirrors := mirrors_after (kept_of_reachable h) hok
  refine ⟨?_, ?_, hmirrors.exists_route_iff⟩
  · rw [value_run, result, complaints_eq_nil hok]
    exact ⟨_, rfl⟩
  · intro other
    constructor
    · exact fun hother => hother.unique hmirrors
    · intro hother
      rw [hother]
      exact hmirrors

/-- Two services of the snapshot ask for the name `web` and for its route on the gateway `edge`,
which is that of the second one. The sync before lost its answers from the apply of its route on
and was followed by a deletion, and the route that it left behind is gone as well. -/
theorem converges_of_reachable_after_lost_answers :
    let fates : Fates := fun asked _ => if asked < 2 then .served else .lost (.kube .unreachable)
    let cluster := (after edgeScope fates .empty [publicService "old" 80]).delete .service "old"
    let snapshot := [publicService "web" 80, publicService "Web" 8080]
    let later := after edgeScope .calm cluster snapshot
    (∃ summary, (run edgeScope .calm cluster snapshot).value = .ok summary) ∧
      (∀ other, Mirrors edgeScope snapshot other ↔ other = later) ∧
      (∃ route, Table.get? "old-edge" cluster.routes = some route) ∧
      (¬ ∃ route, Table.get? "old-edge" later.routes = some route) ∧
      Table.get? "web-edge" later.routes
        = some (.build "web" "default" 8080 "edge" edgeScope.routes) := by
  intro fates cluster snapshot later
  obtain ⟨hvalue, hmirrors, _⟩ := @converges_of_reachable edgeScope snapshot cluster .calm
    (.deleted (.synced .empty _ _) _ _) (not_failed_of_calm _ _ _)
  have hroutes := ((hmirrors later).2 rfl).routes
  refine ⟨hvalue, hmirrors, ?_, ?_, ?_⟩
  · exact Option.isSome_iff_exists.1 (by decide +kernel)
  · rw [hroutes, ← Option.isSome_iff_exists]
    decide +kernel
  · rw [hroutes]
    decide +kernel

end CatalogBridge.Sync
