import CatalogBridge.Proofs.Sync.Convergence

/-!
# Syncing again

A sync in which nothing fails settles the cluster: it holds the last object of
every name that the snapshot asks for, and no orphan of a kind that is swept. In
a settled cluster a sync of the same snapshot puts back what is there and finds
nothing to delete.

What the cluster holds at first does not matter. It may hold objects of other
owners, marked slices whose label names any service, and what earlier versions
left behind; all that is asked of it is that its tables ascend.

* `Attempts.get?_eq_or` and `Sweeps.get?_cases` say what the applies and the
  sweeps of a calm sync make of each name.
* `settled_after` says that a calm sync settles the cluster, `Settled.again` that a
  settled cluster stays as it is.
* `sync_again_of_ordered` puts two syncs in a row, with what they return.
-/

namespace CatalogBridge.Sync

variable {scope : Scope} {snapshot : Snapshot} {cluster later : Cluster} {fates : Fates}
  {exchanges : List Exchange}

/-! ## Applies and sweeps in which nothing fails -/

theorem lastOf_mem {objects : List Object} {kind : Kind} {name : String} {object : Object}
    (h : lastOf objects kind name = some object) :
    object ∈ objects ∧ object.kind = kind ∧ object.name = name := by
  obtain ⟨hkey, before, behind, rfl, _⟩ := lastOf_eq_some_iff.1 h
  exact ⟨by simp, hkey⟩

/-- After applies in which nothing fails, every name has the last object that was asked for, or
else what it had. -/
theorem Attempts.get?_eq_or (h : Attempts scope (demands scope snapshot) exchanges)
    (hleads : cluster.Leads exchanges later) (hok : ∀ exchange ∈ exchanges, ¬ exchange.Failed)
    (kind : Kind) (name : String) : later.get? kind name
      = (lastOf (wanted scope snapshot) kind name).or (cluster.get? kind name) := by
  by_cases hwanted : Wanted scope snapshot kind name
  · rw [h.get?_eq_lastOf hleads hok hwanted]
    cases hlast : lastOf (wanted scope snapshot) kind name with
    | some object => rfl
    | none =>
      obtain ⟨object, hobject, hkey⟩ := hwanted
      exact absurd hkey (lastOf_eq_none_iff.1 hlast object hobject)
  · have hnone : lastOf (wanted scope snapshot) kind name = none :=
      lastOf_eq_none_iff.2 fun object hobject hkey => hwanted ⟨object, hobject, hkey⟩
    rw [hnone, Option.none_or]
    exact hleads.get?_eq fun exchange hexchange htouches =>
      hwanted (h.wanted_of_touches hexchange htouches)

/-- Sweeps in which nothing fails take away the orphans of the swept kinds and leave the rest. -/
theorem Sweeps.get?_cases {kinds : List Kind} (h : Sweeps scope snapshot kinds exchanges)
    (hnodup : kinds.Nodup) (hleads : cluster.Leads exchanges later) (hordered : cluster.Ordered)
    (hok : ∀ exchange ∈ exchanges, ¬ exchange.Failed) (kind : Kind) (name : String) :
    (kind ∈ kinds ∧ cluster.Orphan scope snapshot kind name ∧ later.get? kind name = none) ∨
      ((kind ∈ kinds → ¬ cluster.Orphan scope snapshot kind name) ∧
        later.get? kind name = cluster.get? kind name) := by
  by_cases horphan : kind ∈ kinds ∧ cluster.Orphan scope snapshot kind name
  · exact Or.inl ⟨horphan.1, horphan.2, h.get?_eq_none hnodup hleads hordered horphan.1
      (not_failedOn hok) (not_failedOn hok) horphan.2⟩
  · have hsafe : kind ∈ kinds → ¬ cluster.Orphan scope snapshot kind name := not_and.1 horphan
    exact Or.inr ⟨hsafe, h.get?_eq hnodup hleads hordered hsafe⟩

/-! ## Settled clusters -/

/-- The cluster holds the last object of every name that the snapshot asks for, and no orphan of a
kind that is swept. -/
structure Settled (scope : Scope) (snapshot : Snapshot) (cluster : Cluster) : Prop where
  ordered : cluster.Ordered
  holds : ∀ kind name object, lastOf (wanted scope snapshot) kind name = some object →
    cluster.get? kind name = some object
  swept : ∀ kind ∈ sweptKinds scope, ∀ name, ¬ cluster.Orphan scope snapshot kind name

/-- A sync in which nothing fails settles the cluster, whatever was in it. -/
theorem settled_after (h : cluster.Ordered)
    (hok : ∀ exchange ∈ Sync.exchanges scope fates cluster snapshot, ¬ exchange.Failed) :
    Settled scope snapshot (after scope fates cluster snapshot) := by
  obtain ⟨applies, sweeps, middle, hexchanges, happlies, hsweeps, hfront, hback⟩ :=
    stages scope fates cluster snapshot
  rw [hexchanges, List.forall_mem_append] at hok
  have hmiddle : middle.Ordered := hfront.ordered h
  have happlied := happlies.get?_eq_or hfront hok.1
  have hswept := hsweeps.get?_cases (nodup_sweptKinds scope) hback hmiddle hok.2
  refine ⟨hback.ordered hmiddle, ?_, ?_⟩
  · intro kind name object hlast
    have hthere : middle.get? kind name = some object := by
      rw [happlied, hlast, Option.some_or]
    obtain ⟨hobject, rfl, rfl⟩ := lastOf_mem hlast
    rcases hswept object.kind object.name with ⟨_, ⟨stored, hstored, horphaned⟩, _⟩ | ⟨_, hsame⟩
    · -- What was applied last is no orphan.
      obtain rfl : object = stored := Option.some.inj (hthere.symm.trans hstored)
      exact absurd horphaned (not_orphaned_of_wanted hobject)
    · rw [hsame, hthere]
  · intro kind hkind name horphan
    obtain ⟨object, hget, horphaned⟩ := horphan
    rcases hswept kind name with ⟨_, _, hnone⟩ | ⟨hsafe, hsame⟩
    · rw [hnone] at hget
      cases hget
    · exact hsafe hkind ⟨object, hsame.symm.trans hget, horphaned⟩

/-- A sync of the same snapshot applies to a settled cluster what is there, and its sweeps find
nothing to delete. -/
theorem Settled.again (h : Settled scope snapshot cluster)
    (hok : ∀ exchange ∈ Sync.exchanges scope fates cluster snapshot, ¬ exchange.Failed) :
    after scope fates cluster snapshot = cluster ∧
      ∀ kind name, ¬ Asked (Sync.exchanges scope fates cluster snapshot) (.delete kind name) := by
  obtain ⟨applies, sweeps, middle, hexchanges, happlies, hsweeps, hfront, hback⟩ :=
    stages scope fates cluster snapshot
  rw [hexchanges, List.forall_mem_append] at hok
  have hmiddle : middle = cluster := by
    refine Cluster.eq_of_get?_eq (hfront.ordered h.ordered) h.ordered ?_
    intro kind name
    rw [happlies.get?_eq_or hfront hok.1]
    cases hlast : lastOf (wanted scope snapshot) kind name with
    | none => rw [Option.none_or]
    | some object => rw [Option.some_or, h.holds kind name object hlast]
  subst hmiddle
  constructor
  · refine Cluster.eq_of_get?_eq (hback.ordered h.ordered) h.ordered ?_
    intro kind name
    exact hsweeps.get?_eq (nodup_sweptKinds scope) hback h.ordered fun hkind =>
      h.swept kind hkind name
  · intro kind name hasked
    rw [hexchanges, asked_append] at hasked
    rcases hasked with hasked | hasked
    · exact happlies.not_asked (fun object => (object.apply_ne_delete kind name).symm) hasked
    · obtain ⟨hkind, _, horphan⟩ :=
        (hsweeps.asked_delete_iff (nodup_sweptKinds scope) hback h.ordered).1 hasked
      exact h.swept kind hkind name horphan

/-! ## Summaries -/

/-- What a request that does not fail adds to the summary depends on the request alone. -/
theorem exchange_tally_eq {first second : Exchange} (hcall : first.call = second.call)
    (hfirst : ¬ first.Failed) (hsecond : ¬ second.Failed) : first.tally = second.tally := by
  obtain ⟨call, answer⟩ := first
  obtain ⟨other, reply⟩ := second
  obtain rfl : call = other := hcall
  cases answer with
  | error error => exact absurd (Exchange.failed_error call error) hfirst
  | ok value =>
    cases reply with
    | error error => exact absurd (Exchange.failed_error call error) hsecond
    | ok other =>
      cases call with
      | delete kind name => cases kind <;> rfl
      | _ => rfl

/-- The same requests add up to the same, if none fails. -/
theorem tally_eq_of_calls_eq {first second : List Exchange}
    (hcalls : first.map (·.call) = second.map (·.call))
    (hfirst : ∀ exchange ∈ first, ¬ exchange.Failed)
    (hsecond : ∀ exchange ∈ second, ¬ exchange.Failed) : tally first = tally second := by
  induction first generalizing second with
  | nil =>
    obtain rfl : second = [] := by simpa using hcalls.symm
    rfl
  | cons exchange rest ih =>
    cases second with
    | nil => simp at hcalls
    | cons other tail =>
      obtain ⟨hhead, htail⟩ := List.cons.inj hcalls
      have hsame : exchange.tally = other.tally :=
        exchange_tally_eq hhead (hfirst _ List.mem_cons_self) (hsecond _ List.mem_cons_self)
      have hrest : tally rest = tally tail :=
        ih htail (fun later hlater => hfirst later (List.mem_cons_of_mem _ hlater))
          fun later hlater => hsecond later (List.mem_cons_of_mem _ hlater)
      simp only [tally, total_cons, hsame, Summary.mk.injEq, Nat.add_left_cancel_iff] at hrest ⊢
      exact hrest

/-- What is applied adds to all numbers of a summary but the number of deletes, and deletes add to
no other number. -/
theorem tally_stages {applies sweeps : List Exchange}
    (happlies : Attempts scope (demands scope snapshot) applies)
    (hsweeps : Sweeps scope snapshot (sweptKinds scope) sweeps) :
    tally (applies ++ sweeps) = { tally applies with deleted := (tally sweeps).deleted } := by
  obtain ⟨hservices, hendpoints, hroutes⟩ := hsweeps.tally_applied
  rw [tally_append, happlies.tally_deleted, hservices, hendpoints, hroutes]
  simp

/-- Without deletes none is counted. -/
theorem tally_deleted_eq_zero (h : ∀ kind name, ¬ Asked exchanges (.delete kind name)) :
    (tally exchanges).deleted = 0 := by
  refine total_eq_zero ?_
  intro exchange hexchange
  obtain ⟨call, answer⟩ := exchange
  cases call with
  | delete kind name => exact absurd ⟨_, hexchange, rfl⟩ (h kind name)
  | _ => cases answer <;> rfl

/-- Two syncs of one snapshot in which nothing fails do the same, if the second deletes nothing, but
for the deletes of the first. -/
theorem tally_again {other : Cluster} {others : Fates}
    (hfirst : ∀ exchange ∈ Sync.exchanges scope fates cluster snapshot, ¬ exchange.Failed)
    (hsecond : ∀ exchange ∈ Sync.exchanges scope others other snapshot, ¬ exchange.Failed)
    (hnever : ∀ kind name,
      ¬ Asked (Sync.exchanges scope others other snapshot) (.delete kind name)) :
    tally (Sync.exchanges scope others other snapshot) =
      { tally (Sync.exchanges scope fates cluster snapshot) with deleted := 0 } := by
  obtain ⟨applies, sweeps, _, hexchanges, happlies, hsweeps, _⟩ :=
    stages scope fates cluster snapshot
  obtain ⟨applied, swept, _, hagain, happlied, hswept, _⟩ := stages scope others other snapshot
  rw [hexchanges, List.forall_mem_append] at hfirst
  rw [hagain, List.forall_mem_append] at hsecond
  rw [hagain] at hnever
  rw [hexchanges, hagain]
  have hcalls : applied.map (·.call) = applies.map (·.call) := by
    rw [happlies.calls_eq hfirst.1, happlied.calls_eq hsecond.1]
  have hsame : tally applied = tally applies := tally_eq_of_calls_eq hcalls hsecond.1 hfirst.1
  have hnone : (tally swept).deleted = 0 :=
    tally_deleted_eq_zero fun kind name hasked => hnever kind name (asked_append.2 (Or.inr hasked))
  rw [tally_stages happlies hsweeps, tally_stages happlied hswept, hsame, hnone]

/-- A sync in which nothing fails returns the summary of what it did. -/
theorem value_of_ok
    (hok : ∀ exchange ∈ Sync.exchanges scope fates cluster snapshot, ¬ exchange.Failed) :
    (run scope fates cluster snapshot).value
      = .ok (tally (Sync.exchanges scope fates cluster snapshot)) := by
  rw [value_run, result, complaints_eq_nil hok]
  rfl

/-! ## Syncing twice -/

/-- A sync in which nothing fails, run once more, deletes nothing, leaves the cluster as the first
run left it, and returns the same summary but for the number of deletes. The cluster at first may
hold anything. -/
theorem sync_again_of_ordered (scope : Scope) (snapshot : Snapshot) (h : cluster.Ordered) :
    let first := run scope .calm cluster snapshot
    let second := run scope .calm first.state.cluster snapshot
    (∃ summary, first.value = .ok summary ∧ second.value = .ok { summary with deleted := 0 }) ∧
      second.state.cluster = first.state.cluster ∧
      ∀ kind name,
        ¬ Asked (Sync.exchanges scope .calm first.state.cluster snapshot) (.delete kind name) := by
  have hfirst := not_failed_of_calm scope cluster snapshot
  have hsecond := not_failed_of_calm scope (after scope .calm cluster snapshot) snapshot
  obtain ⟨hsame, hnever⟩ := (settled_after h hfirst).again hsecond
  refine ⟨⟨_, value_of_ok hfirst, ?_⟩, hsame, hnever⟩
  change (run scope .calm (after scope .calm cluster snapshot) snapshot).value = _
  rw [value_of_ok hsecond, tally_again hfirst hsecond hnever]

/-- A cluster that no sync left behind: a service without the marker, a marked slice whose label
names a service that it is not named after, one without such a label, and what is left of the
service `old`. -/
def mixedCluster : Cluster where
  services := [("db", ⟨⟨some "db", some "default", []⟩, [5432]⟩),
    ("old", .build "old" "default" 80)]
  slices := [
    ("loose", ⟨⟨some "loose", some "default", Labels.managed "web"⟩, some .ipv4, ["10.0.0.8"],
      [80]⟩),
    ("stray", ⟨⟨some "stray", some "default", Labels.managedSlice "web"⟩, some .ipv4,
      ["10.0.0.9"], [80]⟩)]
  routes := [("old-edge", .build "old" "default" 80 "edge" edgeScope.routes)]

theorem ordered_mixedCluster : mixedCluster.Ordered :=
  ⟨List.pairwise_pair.2 (by decide), List.pairwise_pair.2 (by decide), List.pairwise_singleton _ _⟩

-- The first run takes the service and the route of `old` away, and the slice `loose`, which is not
-- counted.
example : (tally (Sync.exchanges edgeScope .calm mixedCluster
    [publicService "web" 80, publicService "Web" 8080])).deleted = 2 := by
  decide +kernel

/-- Two services of the snapshot ask for the name `web`, so both runs write its objects twice. -/
theorem sync_again_of_mixedCluster :
    let snapshot := [publicService "web" 80, publicService "Web" 8080]
    let first := run edgeScope .calm mixedCluster snapshot
    let second := run edgeScope .calm first.state.cluster snapshot
    (∃ summary, first.value = .ok summary ∧ second.value = .ok { summary with deleted := 0 }) ∧
      second.state.cluster = first.state.cluster ∧
      ∀ kind name,
        ¬ Asked (Sync.exchanges edgeScope .calm first.state.cluster snapshot)
          (.delete kind name) :=
  sync_again_of_ordered edgeScope [publicService "web" 80, publicService "Web" 8080]
    ordered_mixedCluster

end CatalogBridge.Sync
