import CatalogBridge.Proofs.Sync.Course

/-!
# Syncing a cluster whose requests may fail

A cluster keeps objects in memory and lists those that carry the marker. Every
request has a fate: it is served, it is refused and changes nothing, or it takes
effect and its answer is lost. The fates of a run are arbitrary.

* `Sync.run` is one sync of such a cluster, `Sync.after` the cluster that it
  leaves, and `Sync.exchanges` what it asked and was answered.
* `Reachable` are the clusters that syncs of one scope can leave behind, from
  the empty cluster on, with any fates and with objects taken away in between.
* `Cluster.Leads` is the course of a cluster along exchanges. Statements about a
  sync are read off the course (`leads_after`). `Leads.preserves` is the
  induction for what holds all along, `Leads.establishes` the one for what a
  request brings about.
-/

namespace CatalogBridge

/-- What becomes of a request. -/
inductive Fate where
  /-- It takes effect and is answered. -/
  | served
  /-- It changes nothing and fails. -/
  | refused (error : Error)
  /-- It takes effect and fails all the same. -/
  | lost (error : Error)

/-- The fate of every request of a run, by its place in the run and by what it asks. -/
abbrev Fates := Nat → ClusterCall → Fate

/-- Nothing fails. -/
def Fates.calm : Fates := fun _ _ => .served

/-- Some requests are refused, wherever they stand in the run. -/
def Fates.refusing (refused : ClusterCall → Bool) : Fates := fun _ call =>
  if refused call then .refused (.kube .unreachable) else .served

/-- A cluster and how many requests it got. -/
structure Store where
  cluster : Cluster
  asked : Nat

/-- A cluster in memory whose requests have fates; listings show what carries the marker. -/
def Store.behaviour (fates : Fates) : Program.Behaviour Store := fun store call =>
  let performed := store.cluster.perform .managed call
  match fates store.asked call with
  | .served => (.ok performed.2, ⟨performed.1, store.asked + 1⟩)
  | .refused error => (.error error, ⟨store.cluster, store.asked + 1⟩)
  | .lost error => (.error error, ⟨performed.1, store.asked + 1⟩)

namespace Sync

/-- One sync of a cluster. -/
def run (scope : Scope) (fates : Fates) (cluster : Cluster) (snapshot : Snapshot) :
    Program.Result (Except Error Summary) Store :=
  (cycle scope snapshot).run (Store.behaviour fates) ⟨cluster, 0⟩

/-- The cluster after a sync. -/
def after (scope : Scope) (fates : Fates) (cluster : Cluster) (snapshot : Snapshot) : Cluster :=
  (run scope fates cluster snapshot).state.cluster

/-- What a sync asked, with the answers. -/
def exchanges (scope : Scope) (fates : Fates) (cluster : Cluster) (snapshot : Snapshot) :
    List Exchange :=
  (cycle scope snapshot).exchanges (Store.behaviour fates) ⟨cluster, 0⟩

/-- The clusters that syncs can leave behind, with objects taken away in between. -/
inductive Reachable (scope : Scope) : Cluster → Prop
  | empty : Reachable scope .empty
  | synced {cluster : Cluster} (h : Reachable scope cluster) (fates : Fates)
      (snapshot : Snapshot) : Reachable scope (after scope fates cluster snapshot)
  | deleted {cluster : Cluster} (h : Reachable scope cluster) (kind : Kind) (name : String) :
      Reachable scope (cluster.delete kind name)

end Sync

/-! ## The course of a cluster -/

namespace Cluster

/-- Along these exchanges one cluster can become the other. -/
inductive Leads : Cluster → List Exchange → Cluster → Prop
  | done (cluster : Cluster) : Leads cluster [] cluster
  | served {cluster later : Cluster} {call : ClusterCall} {rest : List Exchange}
      (h : Leads (cluster.perform .managed call).1 rest later) :
      Leads cluster (⟨call, .ok (cluster.perform .managed call).2⟩ :: rest) later
  | refused {cluster later : Cluster} {call : ClusterCall} {rest : List Exchange} (error : Error)
      (h : Leads cluster rest later) : Leads cluster (⟨call, .error error⟩ :: rest) later
  | lost {cluster later : Cluster} {call : ClusterCall} {rest : List Exchange} (error : Error)
      (h : Leads (cluster.perform .managed call).1 rest later) :
      Leads cluster (⟨call, .error error⟩ :: rest) later

/-- The course along two lists of exchanges in a row has a cluster in between. -/
theorem Leads.split {cluster later : Cluster} {front back : List Exchange}
    (h : Leads cluster (front ++ back) later) :
    ∃ middle, Leads cluster front middle ∧ Leads middle back later := by
  induction front generalizing cluster with
  | nil => exact ⟨cluster, .done cluster, h⟩
  | cons exchange rest ih =>
    cases h with
    | served h =>
      obtain ⟨middle, hfront, hback⟩ := ih h
      exact ⟨middle, .served hfront, hback⟩
    | refused error h =>
      obtain ⟨middle, hfront, hback⟩ := ih h
      exact ⟨middle, .refused error hfront, hback⟩
    | lost error h =>
      obtain ⟨middle, hfront, hback⟩ := ih h
      exact ⟨middle, .lost error hfront, hback⟩

/-- What every request of the course keeps, if it takes effect, the course keeps. -/
theorem Leads.preserves {P : Cluster → Prop} {cluster later : Cluster}
    {exchanges : List Exchange} (h : Leads cluster exchanges later)
    (hstep : ∀ exchange ∈ exchanges, ∀ cluster, P cluster →
      P (cluster.perform .managed exchange.call).1)
    (hstart : P cluster) : P later := by
  induction h with
  | done => exact hstart
  | served h ih | lost error h ih =>
    exact ih (fun exchange hexchange => hstep exchange (List.mem_cons_of_mem _ hexchange))
      (hstep _ List.mem_cons_self _ hstart)
  | refused error h ih =>
    exact ih (fun exchange hexchange => hstep exchange (List.mem_cons_of_mem _ hexchange)) hstart

/-- What one request brings about, if it takes effect, and every request keeps holds at the end, if
that one is asked and never fails. -/
theorem Leads.establishes {P : Cluster → Prop} {cluster later : Cluster}
    {exchanges : List Exchange} {call : ClusterCall} (h : Leads cluster exchanges later)
    (hasked : Asked exchanges call) (hok : ¬ FailedOn exchanges call)
    (hcall : ∀ cluster : Cluster, P (cluster.perform .managed call).1)
    (hstep : ∀ exchange ∈ exchanges, ∀ cluster, P cluster →
      P (cluster.perform .managed exchange.call).1) : P later := by
  induction h with
  | done => exact absurd hasked (by simp [Asked])
  | @served cluster later first rest h ih =>
    have hrest : ∀ exchange ∈ rest, ∀ cluster, P cluster →
        P (cluster.perform .managed exchange.call).1 :=
      fun exchange hexchange => hstep exchange (List.mem_cons_of_mem _ hexchange)
    by_cases hfirst : first = call
    · subst hfirst
      exact h.preserves hrest (hcall cluster)
    · exact ih (hasked.of_cons hfirst) (fun hfailed => hok hfailed.cons) hrest
  | @refused cluster later first rest error h ih | @lost cluster later first rest error h ih =>
    have hfirst : first ≠ call := by
      intro hsame
      subst hsame
      exact hok ⟨_, List.mem_cons_self, rfl, Exchange.failed_error _ error⟩
    exact ih (hasked.of_cons hfirst) (fun hfailed => hok hfailed.cons)
      fun exchange hexchange => hstep exchange (List.mem_cons_of_mem _ hexchange)

end Cluster

namespace Program

variable {α : Type}

/-- Every run of a program leads its cluster along its exchanges. -/
theorem leads_run (fates : Fates) (program : Program α) (store : Store) :
    Cluster.Leads store.cluster (program.exchanges (Store.behaviour fates) store)
      (program.run (Store.behaviour fates) store).state.cluster := by
  induction program generalizing store with
  | done value => exact .done _
  | tell effect program ih => exact ih store
  | ask call next ih =>
    have hnext := ih ((Store.behaviour fates) store call).1 ((Store.behaviour fates) store call).2
    simp only [exchanges, run]
    simp only [Store.behaviour] at hnext ⊢
    split at hnext
    · exact .served hnext
    · exact .refused _ hnext
    · exact .lost _ hnext

/-- With calm fates no request fails. -/
theorem not_failed_of_calm (program : Program α) (store : Store) :
    ∀ exchange ∈ program.exchanges (Store.behaviour Fates.calm) store, ¬ exchange.Failed := by
  induction program generalizing store with
  | done value =>
    intro exchange hexchange
    cases hexchange
  | tell effect program ih => exact ih store
  | ask call next ih =>
    intro exchange hexchange
    rcases List.mem_cons.1 hexchange with rfl | hrest
    · exact Exchange.not_failed_ok _ _
    · exact ih _ _ exchange hrest

end Program

namespace Sync

theorem leads_after (scope : Scope) (fates : Fates) (cluster : Cluster) (snapshot : Snapshot) :
    cluster.Leads (exchanges scope fates cluster snapshot) (after scope fates cluster snapshot) :=
  Program.leads_run fates (cycle scope snapshot) ⟨cluster, 0⟩

/-- What a sync asks takes the course of a cycle. -/
theorem course_exchanges (scope : Scope) (fates : Fates) (cluster : Cluster)
    (snapshot : Snapshot) : Course scope snapshot (exchanges scope fates cluster snapshot) :=
  (conversation_cycle (Program.conversation_run _ _ _)).1

theorem value_run (scope : Scope) (fates : Fates) (cluster : Cluster) (snapshot : Snapshot) :
    (run scope fates cluster snapshot).value = result (exchanges scope fates cluster snapshot) :=
  (conversation_cycle (Program.conversation_run _ _ _)).2.1

theorem not_failed_of_calm (scope : Scope) (cluster : Cluster) (snapshot : Snapshot) :
    ∀ exchange ∈ exchanges scope .calm cluster snapshot, ¬ exchange.Failed :=
  Program.not_failed_of_calm _ _

/-! ## A small case -/

/-- Public services get a route on the gateway `edge`. -/
def edgeScope : Scope :=
  ⟨"default", ⟨true, "example.com", "gateways", "http", [⟨"public", "edge"⟩]⟩⟩

/-- A public service with one instance. -/
def publicService (name : String) (port : Int) : ServiceState :=
  ⟨name, [⟨name, "10.0.0.1", port, ["public"]⟩]⟩

/-- What the service `web` asks for. -/
def webDemand (port : Int) : Demand where
  projection := {
    name := "web"
    port
    service := .build "web" "default" port
    slice := ⟨⟨some "web-consul", some "default", Labels.managedSlice "web"⟩, some .ipv4,
      ["10.0.0.1"], [port]⟩ }
  gateways := ["edge"]

end Sync

end CatalogBridge
