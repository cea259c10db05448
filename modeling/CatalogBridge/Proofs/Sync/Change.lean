import CatalogBridge.Proofs.Sync.Kept

/-!
# What a sync changes

The effect of a course on one kind and name, and from it the effect of a sync.

* `Leads.get?_eq` says that what no request touches stays as it is,
  `Leads.get?_of_applied` that an object that is applied is there at the end
  unless something else takes its place, and `Leads.get?_of_deleted` that what is
  deleted is gone if nothing is applied.
* `Sweeps.asked_delete_iff` says that sweeps delete the orphans of every kind that
  could be listed. Neither their order nor any other failure matters.
* `stages` splits a sync into its applies and its sweeps. Applies make no orphan
  (`Attempts.orphan`), so in any cluster a sync deletes only what was an orphan
  before (`orphan_of_asked_delete`), and all of it that is not asked for
  (`asked_delete_iff_of_ordered`).
* In a kept cluster the applies touch only what is asked for, the sweeps only what
  is not (`asked_delete_iff`). So what is asked for and there stays there
  (`get?_after_of_wanted`), and the rest goes away (`get?_after_eq_none`).
-/

namespace CatalogBridge

variable {scope : Scope} {snapshot : Snapshot} {cluster later : Cluster}
  {exchanges : List Exchange} {kind : Kind} {name : String} {fates : Fates}

/-! ## Along a course -/

/-- The request is about what is stored under the kind and name. -/
def ClusterCall.Touches (call : ClusterCall) (kind : Kind) (name : String) : Prop :=
  call = .delete kind name ∨
    ∃ object : Object, call = object.apply ∧ object.kind = kind ∧ object.name = name

theorem ClusterCall.Touches.kind_eq {call : ClusterCall} (h : call.Touches kind name) :
    call.kind = kind := by
  rcases h with rfl | ⟨object, rfl, hkind, _⟩
  · rfl
  · rw [ClusterCall.kind_apply, hkind]

namespace Cluster

theorem get?_perform_of_not_touches {call : ClusterCall} (h : ¬ call.Touches kind name) :
    (cluster.perform .managed call).1.get? kind name = cluster.get? kind name := by
  rcases call.eq_apply_or_list_or_delete with ⟨object, rfl⟩ | ⟨other, rfl⟩ | ⟨other, query, rfl⟩
  · rw [get?_perform_apply, if_neg]
    exact fun hkey => h (Or.inr ⟨object, rfl, hkey⟩)
  · rw [perform_list_fst]
  · change (cluster.delete other query).get? kind name = _
    rw [get?_delete, if_neg]
    intro hkey
    obtain ⟨rfl, rfl⟩ := hkey
    exact h (Or.inl rfl)

theorem get?_perform_delete (cluster : Cluster) (kind : Kind) (name : String) :
    (cluster.perform .managed (.delete kind name)).1.get? kind name = none :=
  (get?_delete cluster kind kind name name).trans (if_pos ⟨rfl, rfl⟩)

/-- What is not there stays away, if it is not applied. -/
theorem get?_perform_eq_none {call : ClusterCall} (hquiet : ∀ object : Object, call ≠ object.apply)
    (h : cluster.get? kind name = none) :
    (cluster.perform .managed call).1.get? kind name = none := by
  by_cases htouches : call.Touches kind name
  · rcases htouches with rfl | ⟨object, hcall, _⟩
    · exact get?_perform_delete cluster kind name
    · exact absurd hcall (hquiet object)
  · rw [get?_perform_of_not_touches htouches, h]

/-- The tables ascend all along a course. -/
theorem Leads.ordered (h : cluster.Leads exchanges later) (hordered : cluster.Ordered) :
    later.Ordered :=
  h.preserves (fun _ _ _ hcurrent => ordered_perform hcurrent _ _) hordered

/-- What no request touches stays as it is. -/
theorem Leads.get?_eq (h : cluster.Leads exchanges later)
    (huntouched : ∀ exchange ∈ exchanges, ¬ exchange.call.Touches kind name) :
    later.get? kind name = cluster.get? kind name := by
  refine h.preserves (P := fun current => current.get? kind name = cluster.get? kind name) ?_ rfl
  intro exchange hexchange current hcurrent
  rw [get?_perform_of_not_touches (huntouched exchange hexchange), hcurrent]

/-- What is there is replaced at most, if nothing deletes it. -/
theorem Leads.get?_of_not_deleted {old : Object} (h : cluster.Leads exchanges later)
    (hkept : ¬ Asked exchanges (.delete kind name)) (hthere : cluster.get? kind name = some old) :
    ∃ stored, later.get? kind name = some stored ∧
      (stored = old ∨ Asked exchanges stored.apply) := by
  refine h.preserves (P := fun current => ∃ stored, current.get? kind name = some stored ∧
    (stored = old ∨ Asked exchanges stored.apply)) ?_ ⟨old, hthere, Or.inl rfl⟩
  intro exchange hexchange current hcurrent
  by_cases htouches : exchange.call.Touches kind name
  · rcases htouches with hcall | ⟨object, hcall, hkey⟩
    · exact absurd ⟨exchange, hexchange, hcall⟩ hkept
    · refine ⟨object, ?_, Or.inr ⟨exchange, hexchange, hcall⟩⟩
      rw [hcall, get?_perform_apply, if_pos hkey]
  · rw [get?_perform_of_not_touches htouches]
    exact hcurrent

/-- An object that is applied is there at the end, unless something else takes its place. -/
theorem Leads.get?_of_applied {object : Object} (h : cluster.Leads exchanges later)
    (hasked : Asked exchanges object.apply) (hok : ¬ FailedOn exchanges object.apply)
    (halone : ∀ exchange ∈ exchanges, exchange.call.Touches object.kind object.name →
      exchange.call = object.apply) :
    later.get? object.kind object.name = some object := by
  have happlied : ∀ current : Cluster,
      (current.perform .managed object.apply).1.get? object.kind object.name = some object := by
    intro current
    rw [get?_perform_apply, if_pos ⟨rfl, rfl⟩]
  refine h.establishes (P := fun current => current.get? object.kind object.name = some object)
    hasked hok happlied ?_
  intro exchange hexchange current hcurrent
  by_cases htouches : exchange.call.Touches object.kind object.name
  · rw [halone exchange hexchange htouches]
    exact happlied current
  · rw [get?_perform_of_not_touches htouches]
    exact hcurrent

/-- What is deleted is gone at the end, if nothing is applied. -/
theorem Leads.get?_of_deleted (h : cluster.Leads exchanges later)
    (hasked : Asked exchanges (.delete kind name)) (hok : ¬ FailedOn exchanges (.delete kind name))
    (hquiet : ∀ exchange ∈ exchanges, ∀ object : Object, exchange.call ≠ object.apply) :
    later.get? kind name = none :=
  h.establishes (P := fun current => current.get? kind name = none) hasked hok
    (fun current => get?_perform_delete current kind name)
    fun exchange hexchange _ hcurrent => get?_perform_eq_none (hquiet exchange hexchange) hcurrent

end Cluster

namespace Sync

/-! ## Applies -/

/-- An attempt in which nothing fails applies every object of its demand. -/
theorem Attempt.calls_eq {demand : Demand} (h : Attempt scope demand exchanges)
    (hok : ∀ object ∈ demand.objects scope, ¬ FailedOn exchanges object.apply) :
    exchanges.map (·.call) = (demand.objects scope).map Object.apply := by
  cases h with
  | serviceFailed error =>
    have hservice := hok (.service demand.projection.service) (Demand.mem_objects.2 (Or.inl rfl))
    exact absurd ⟨_, List.mem_cons_self, rfl, Exchange.failed_error _ error⟩ hservice
  | sliceFailed error =>
    have hslice := hok (.slice demand.projection.slice) (Demand.mem_objects.2 (Or.inr (Or.inl rfl)))
    exact absurd ⟨_, List.mem_cons_of_mem _ List.mem_cons_self, rfl,
      Exchange.failed_error _ error⟩ hslice
  | applied routes hroutes =>
    rw [List.map_cons, List.map_cons, hroutes, Demand.objects, List.map_cons, List.map_cons,
      List.map_map]
    rfl

/-- Attempts in which nothing fails apply everything that is asked for, in order. -/
theorem Attempts.calls_eq {demands : List Demand} (h : Attempts scope demands exchanges)
    (hok : ∀ exchange ∈ exchanges, ¬ exchange.Failed) :
    exchanges.map (·.call) = (demands.flatMap (Demand.objects scope)).map Object.apply := by
  induction h with
  | nil => rfl
  | @cons demand rest front back hfront hback ih =>
    rw [List.forall_mem_append] at hok
    have hcalls : front.map (·.call) = (demand.objects scope).map Object.apply :=
      hfront.calls_eq fun _ _ => not_failedOn hok.1
    rw [List.map_append, hcalls, ih hok.2, List.flatMap_cons, List.map_append]

/-- Applies are about what the snapshot asks for. -/
theorem Attempts.wanted_of_touches (h : Attempts scope (demands scope snapshot) exchanges)
    {exchange : Exchange} (hexchange : exchange ∈ exchanges)
    (htouches : exchange.call.Touches kind name) : Wanted scope snapshot kind name := by
  rcases htouches with hdelete | ⟨object, hcall, hkey⟩
  · obtain ⟨_, _, object, _, hcall⟩ := h.call hexchange
    exact absurd (hcall.symm.trans hdelete) (object.apply_ne_delete kind name)
  · obtain ⟨demand, hdemand, hobject⟩ := h.mem_objects hexchange hcall
    exact wanted_iff.2 ⟨demand, hdemand, object, hobject, hkey⟩

/-- Applies neither list nor delete. -/
theorem Attempts.not_asked {call : ClusterCall}
    (h : Attempts scope (demands scope snapshot) exchanges)
    (hcall : ∀ object : Object, call ≠ object.apply) : ¬ Asked exchanges call := by
  intro hasked
  obtain ⟨exchange, hexchange, rfl⟩ := hasked
  obtain ⟨_, _, object, _, hsame⟩ := h.call hexchange
  exact hcall object hsame

/-- Applies make no orphan: what they put in place is asked for. -/
theorem Attempts.orphan (h : Attempts scope (demands scope snapshot) exchanges)
    (hleads : cluster.Leads exchanges later) (horphan : later.Orphan scope snapshot kind name) :
    cluster.Orphan scope snapshot kind name := by
  by_contra hnone
  refine hleads.preserves (P := fun current => ¬ current.Orphan scope snapshot kind name) ?_ hnone
    horphan
  intro exchange hexchange current hcurrent hmade
  obtain ⟨demand, hdemand, object, hobject, hcall⟩ := h.call hexchange
  obtain ⟨stored, hstored, horphaned⟩ := hmade
  rw [hcall, Cluster.get?_perform_apply] at hstored
  split_ifs at hstored with hkey
  · obtain ⟨rfl, rfl⟩ := hkey
    obtain rfl := Option.some.inj hstored
    exact not_orphaned_of_wanted (List.mem_flatMap.2 ⟨demand, hdemand, hobject⟩) horphaned
  · exact hcurrent ⟨stored, hstored, horphaned⟩

/-! ## Sweeps -/

/-- A sweep deletes the orphans of its kind, unless it could not list them. -/
theorem Sweep.asked_delete_iff {swept : Kind} (h : Sweep scope snapshot swept exchanges)
    (hleads : cluster.Leads exchanges later) (hordered : cluster.Ordered) :
    Asked exchanges (.delete kind name) ↔
      kind = swept ∧ ¬ FailedOn exchanges (ClusterCall.list kind) ∧
        cluster.Orphan scope snapshot kind name := by
  cases h with
  | unlisted error =>
    constructor
    · intro hasked
      obtain ⟨exchange, hexchange, hcall⟩ := hasked
      obtain rfl := List.mem_singleton.1 hexchange
      exact absurd hcall (ClusterCall.list_ne_delete _ _ _)
    · intro horphan
      obtain ⟨rfl, hlisted, _⟩ := horphan
      exact absurd ⟨_, List.mem_cons_self, rfl, Exchange.failed_error _ error⟩ hlisted
  | listed answer deletes hdeletes =>
    cases hleads with
    | served hleads =>
      have hlisted : ¬ FailedOn (⟨ClusterCall.list swept, .ok (cluster.perform .managed
          (ClusterCall.list swept)).2⟩ :: deletes) (ClusterCall.list swept) := by
        intro hfailure
        obtain ⟨exchange, hexchange, hcall, hfailed⟩ := hfailure
        rcases List.mem_cons.1 hexchange with rfl | hexchange
        · exact Exchange.not_failed_ok _ _ hfailed
        · obtain ⟨other, _, hdelete⟩ := call_of_deletes hdeletes hexchange
          exact ClusterCall.list_ne_delete _ _ _ (hcall.symm.trans hdelete)
      constructor
      · intro hasked
        obtain ⟨exchange, hexchange, hcall⟩ := hasked
        rcases List.mem_cons.1 hexchange with rfl | hexchange
        · exact absurd hcall (ClusterCall.list_ne_delete _ _ _)
        · obtain ⟨other, horphan, hdelete⟩ := call_of_deletes hdeletes hexchange
          obtain ⟨rfl, rfl⟩ := ClusterCall.delete.inj (hcall.symm.trans hdelete)
          exact ⟨rfl, hlisted, (mem_orphans_iff hordered).1 horphan⟩
      · intro hdelete
        obtain ⟨rfl, _, horphan⟩ := hdelete
        have hcall : ClusterCall.delete kind name ∈ deletes.map (·.call) := by
          rw [hdeletes]
          exact List.mem_map.2 ⟨name, (mem_orphans_iff hordered).2 horphan, rfl⟩
        obtain ⟨exchange, hexchange, hcall⟩ := List.mem_map.1 hcall
        exact ⟨exchange, List.mem_cons_of_mem _ hexchange, hcall⟩

/-- A sweep is about one kind. -/
theorem Sweep.kind_eq {swept : Kind} (h : Sweep scope snapshot swept exchanges)
    {exchange : Exchange} (hexchange : exchange ∈ exchanges) : exchange.call.kind = swept := by
  rcases h.call hexchange with hcall | ⟨other, hcall⟩
  · rw [hcall, ClusterCall.kind_list]
  · rw [hcall]
    rfl

theorem Sweeps.kind_mem {kinds : List Kind} (h : Sweeps scope snapshot kinds exchanges)
    {exchange : Exchange} (hexchange : exchange ∈ exchanges) : exchange.call.kind ∈ kinds := by
  obtain ⟨swept, hswept, hcall | ⟨other, hcall⟩⟩ := h.call hexchange
  · rw [hcall, ClusterCall.kind_list]
    exact hswept
  · rw [hcall]
    exact hswept

/-- Sweeps apply nothing. -/
theorem Sweeps.quiet {kinds : List Kind} (h : Sweeps scope snapshot kinds exchanges) :
    ∀ exchange ∈ exchanges, ∀ object : Object, exchange.call ≠ object.apply := by
  intro exchange hexchange object hcall
  obtain ⟨kind, _, hsame | ⟨name, hsame⟩⟩ := h.call hexchange
  · exact ClusterCall.list_ne_apply kind object (hsame.symm.trans hcall)
  · exact object.apply_ne_delete kind name (hcall.symm.trans hsame)

/-- Sweeps of different kinds do not interfere: each deletes the orphans of its kind. -/
theorem Sweeps.asked_delete_iff {kinds : List Kind} (h : Sweeps scope snapshot kinds exchanges)
    (hnodup : kinds.Nodup) (hleads : cluster.Leads exchanges later)
    (hordered : cluster.Ordered) :
    Asked exchanges (.delete kind name) ↔
      kind ∈ kinds ∧ ¬ FailedOn exchanges (ClusterCall.list kind) ∧
        cluster.Orphan scope snapshot kind name := by
  induction h generalizing cluster with
  | nil => simp [Asked]
  | @cons first rest front back hfront hback ih =>
    obtain ⟨middle, hleads, hrest⟩ := hleads.split
    obtain ⟨hnew, hnodup⟩ := List.nodup_cons.1 hnodup
    rw [asked_append, failedOn_append, hfront.asked_delete_iff hleads hordered,
      ih hnodup hrest (hleads.ordered hordered), List.mem_cons]
    by_cases hkind : kind = first
    · -- No later sweep lists this kind again.
      subst hkind
      have hback : ¬ FailedOn back (ClusterCall.list kind) := by
        intro hfailure
        obtain ⟨exchange, hexchange, hcall, _⟩ := hfailure
        have hmem := hback.kind_mem hexchange
        rw [hcall, ClusterCall.kind_list] at hmem
        exact hnew hmem
      simp [hnew, hback]
    · -- The first sweep neither lists this kind nor changes what is stored of it.
      have hfrontKind : ¬ FailedOn front (ClusterCall.list kind) := by
        intro hfailure
        obtain ⟨exchange, hexchange, hcall, _⟩ := hfailure
        have hsame := hfront.kind_eq hexchange
        rw [hcall, ClusterCall.kind_list] at hsame
        exact hkind hsame
      have hsame : middle.get? kind name = cluster.get? kind name := by
        refine hleads.get?_eq ?_
        intro exchange hexchange htouches
        exact hkind (htouches.kind_eq.symm.trans (hfront.kind_eq hexchange))
      simp [hkind, hfrontKind, Cluster.Orphan, hsame]

/-- Sweeps leave alone what is no orphan of a swept kind. -/
theorem Sweeps.get?_eq {kinds : List Kind} (h : Sweeps scope snapshot kinds exchanges)
    (hnodup : kinds.Nodup) (hleads : cluster.Leads exchanges later)
    (hordered : cluster.Ordered)
    (hsafe : kind ∈ kinds → ¬ cluster.Orphan scope snapshot kind name) :
    later.get? kind name = cluster.get? kind name := by
  refine hleads.get?_eq ?_
  intro exchange hexchange htouches
  rcases htouches with hcall | ⟨object, hcall, _⟩
  · obtain ⟨hswept, _, horphan⟩ :=
      (h.asked_delete_iff hnodup hleads hordered).1 ⟨exchange, hexchange, hcall⟩
    exact hsafe hswept horphan
  · exact h.quiet exchange hexchange object hcall

/-- Sweeps take away the orphans that can be listed and deleted. -/
theorem Sweeps.get?_eq_none {kinds : List Kind} (h : Sweeps scope snapshot kinds exchanges)
    (hnodup : kinds.Nodup) (hleads : cluster.Leads exchanges later)
    (hordered : cluster.Ordered) (hswept : kind ∈ kinds)
    (hlisted : ¬ FailedOn exchanges (ClusterCall.list kind))
    (hdeleted : ¬ FailedOn exchanges (.delete kind name))
    (horphan : cluster.Orphan scope snapshot kind name) : later.get? kind name = none := by
  have hasked := (h.asked_delete_iff hnodup hleads hordered).2 ⟨hswept, hlisted, horphan⟩
  exact hleads.get?_of_deleted hasked hdeleted h.quiet

/-! ## Syncs -/

/-- The kinds that a cycle sweeps are different. -/
theorem nodup_sweptKinds (scope : Scope) : (sweptKinds scope).Nodup := by
  unfold sweptKinds
  cases scope.routes.enabled <;> decide

/-- Routes are swept if they are made, services and slices always. -/
theorem mem_sweptKinds_iff : kind ∈ sweptKinds scope ↔
    (kind = .httpRoute → scope.routes.enabled = true) := by
  unfold sweptKinds
  cases kind <;> cases scope.routes.enabled <;> simp

/-- A sync applies what is asked for, and sweeps the cluster that this leaves. -/
theorem stages (scope : Scope) (fates : Fates) (cluster : Cluster) (snapshot : Snapshot) :
    ∃ applies sweeps middle, Sync.exchanges scope fates cluster snapshot = applies ++ sweeps ∧
      Attempts scope (demands scope snapshot) applies ∧
      Sweeps scope snapshot (sweptKinds scope) sweeps ∧
      cluster.Leads applies middle ∧ middle.Leads sweeps (after scope fates cluster snapshot) := by
  have hleads := leads_after scope fates cluster snapshot
  have hcourse := course_exchanges scope fates cluster snapshot
  generalize Sync.exchanges scope fates cluster snapshot = asked at hleads hcourse ⊢
  cases hcourse with
  | @intro applies sweeps happlies hsweeps =>
    obtain ⟨middle, hfront, hback⟩ := hleads.split
    exact ⟨applies, sweeps, middle, rfl, happlies, hsweeps, hfront, hback⟩

/-- Applies keep a kept cluster. -/
theorem Attempts.kept (h : Attempts scope (demands scope snapshot) exchanges)
    (hleads : cluster.Leads exchanges later) (hkept : cluster.Kept scope) : later.Kept scope := by
  refine hleads.kept ?_ hkept
  intro exchange hexchange object hcall
  obtain ⟨demand, hdemand, hobject⟩ := h.mem_objects hexchange hcall
  exact ⟨_, madeFor_of_mem_objects hdemand hobject⟩

/-- A sync deletes the orphans of the cluster that its applies leave, of every kind that is swept
and whose listing did not fail. -/
theorem asked_delete_iff_of_stages {applies sweeps : List Exchange} {middle : Cluster}
    (hexchanges : Sync.exchanges scope fates cluster snapshot = applies ++ sweeps)
    (happlies : Attempts scope (demands scope snapshot) applies)
    (hsweeps : Sweeps scope snapshot (sweptKinds scope) sweeps)
    (hback : middle.Leads sweeps later) (hmiddle : middle.Ordered) :
    Asked (Sync.exchanges scope fates cluster snapshot) (.delete kind name) ↔
      kind ∈ sweptKinds scope ∧
        ¬ FailedOn (Sync.exchanges scope fates cluster snapshot) (ClusterCall.list kind) ∧
        middle.Orphan scope snapshot kind name := by
  have hdelete : ¬ Asked applies (.delete kind name) :=
    happlies.not_asked fun object => (object.apply_ne_delete kind name).symm
  have hlist : ¬ FailedOn applies (ClusterCall.list kind) :=
    fun hfailed => happlies.not_asked (ClusterCall.list_ne_apply kind) hfailed.asked
  rw [hexchanges, asked_append, failedOn_append, or_iff_right hdelete, or_iff_right hlist,
    hsweeps.asked_delete_iff (nodup_sweptKinds scope) hback hmiddle]

/-- Whatever a sync deletes was an orphan before, of a kind that is swept. -/
theorem orphan_of_asked_delete (h : cluster.Ordered)
    (hasked : Asked (Sync.exchanges scope fates cluster snapshot) (.delete kind name)) :
    kind ∈ sweptKinds scope ∧ cluster.Orphan scope snapshot kind name := by
  obtain ⟨applies, sweeps, middle, hexchanges, happlies, hsweeps, hfront, hback⟩ :=
    stages scope fates cluster snapshot
  obtain ⟨hswept, _, horphan⟩ := (asked_delete_iff_of_stages hexchanges happlies hsweeps hback
    (hfront.ordered h)).1 hasked
  exact ⟨hswept, happlies.orphan hfront horphan⟩

/-- A sync deletes what was an orphan before, of every kind that is swept and whose listing did not
fail, if the snapshot asks for no orphan. -/
theorem asked_delete_iff_of_ordered (h : cluster.Ordered)
    (hunwanted : cluster.Orphan scope snapshot kind name → ¬ Wanted scope snapshot kind name) :
    Asked (Sync.exchanges scope fates cluster snapshot) (.delete kind name) ↔
      kind ∈ sweptKinds scope ∧
        ¬ FailedOn (Sync.exchanges scope fates cluster snapshot) (ClusterCall.list kind) ∧
        cluster.Orphan scope snapshot kind name := by
  obtain ⟨applies, sweeps, middle, hexchanges, happlies, hsweeps, hfront, hback⟩ :=
    stages scope fates cluster snapshot
  have hsame : middle.Orphan scope snapshot kind name ↔
      cluster.Orphan scope snapshot kind name := by
    refine ⟨happlies.orphan hfront, fun horphan => ?_⟩
    -- No apply is about an orphan that the snapshot does not ask for.
    have huntouched : middle.get? kind name = cluster.get? kind name :=
      hfront.get?_eq fun exchange hexchange htouches =>
        hunwanted horphan (happlies.wanted_of_touches hexchange htouches)
    rw [Cluster.Orphan, huntouched]
    exact horphan
  rw [asked_delete_iff_of_stages hexchanges happlies hsweeps hback (hfront.ordered h), hsame]

/-- A sync of a kept cluster deletes what is stored and not asked for, of every kind that is swept
and whose listing did not fail. -/
theorem asked_delete_iff (h : cluster.Kept scope) {fates : Fates} :
    Asked (Sync.exchanges scope fates cluster snapshot) (.delete kind name) ↔
      kind ∈ sweptKinds scope ∧
        ¬ FailedOn (Sync.exchanges scope fates cluster snapshot) (ClusterCall.list kind) ∧
        cluster.get? kind name ≠ none ∧ ¬ Wanted scope snapshot kind name := by
  rw [← h.orphan_iff]
  exact asked_delete_iff_of_ordered h.ordered fun horphan => (h.orphan_iff.1 horphan).2

/-- What is asked for and there before a sync is there after it, as it was or as it is asked for. -/
theorem get?_after_of_wanted (h : cluster.Kept scope) (fates : Fates) {old : Object}
    (hwanted : Wanted scope snapshot kind name) (hthere : cluster.get? kind name = some old) :
    ∃ stored, (after scope fates cluster snapshot).get? kind name = some stored ∧
      (stored = old ∨ stored ∈ wanted scope snapshot) := by
  have hkept : ¬ Asked (Sync.exchanges scope fates cluster snapshot) (.delete kind name) :=
    fun hdelete => ((asked_delete_iff h).1 hdelete).2.2.2 hwanted
  obtain ⟨stored, hstored, hsource⟩ :=
    (leads_after scope fates cluster snapshot).get?_of_not_deleted hkept hthere
  refine ⟨stored, hstored, hsource.imp_right ?_⟩
  intro hasked
  obtain ⟨exchange, hexchange, hcall⟩ := hasked
  exact (course_exchanges scope fates cluster snapshot).mem_wanted hexchange hcall

/-- What is not asked for is gone after a sync, unless its kind is not swept or could not be
listed, or deleting it failed. -/
theorem get?_after_eq_none (h : cluster.Kept scope) {fates : Fates}
    (hunwanted : ¬ Wanted scope snapshot kind name) (hswept : kind ∈ sweptKinds scope)
    (hlisted : ¬ FailedOn (Sync.exchanges scope fates cluster snapshot) (ClusterCall.list kind))
    (hdeleted : ¬ FailedOn (Sync.exchanges scope fates cluster snapshot) (.delete kind name)) :
    (after scope fates cluster snapshot).get? kind name = none := by
  obtain ⟨applies, sweeps, middle, hexchanges, happlies, hsweeps, hfront, hback⟩ :=
    stages scope fates cluster snapshot
  have hmiddle : middle.Kept scope := happlies.kept hfront h
  rw [hexchanges, failedOn_append, not_or] at hlisted hdeleted
  by_cases hthere : middle.get? kind name = none
  · rw [hsweeps.get?_eq (nodup_sweptKinds scope) hback hmiddle.ordered, hthere]
    exact fun _ horphan => (hmiddle.orphan_iff.1 horphan).1 hthere
  · exact hsweeps.get?_eq_none (nodup_sweptKinds scope) hback hmiddle.ordered hswept hlisted.2
      hdeleted.2 (hmiddle.orphan_iff.2 ⟨hthere, hunwanted⟩)

end Sync

end CatalogBridge
