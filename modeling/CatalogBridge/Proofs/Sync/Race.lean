import CatalogBridge.Kubernetes.Client
import CatalogBridge.Proofs.Sync.Idempotence

/-!
# Deletes that come too late

While a sync runs, others may take away the very objects that it is about to delete.
The API server then refuses the delete, because there is nothing to delete, and the
client takes this refusal for success. This module says that such a race leaves no
trace in the sync, and that every other refusal to delete a service does.

* `Store.serve` is an API server over a cluster from which others take objects away,
  at any place of a run, and `ClusterCall.through` is the client in front of it.
* `Contested` says when an object may be taken: its kind is not listed any more, and
  its delete is still to come. `Takings.Timely` says that only such objects are.
* `Shadows` relates the cluster of the race to that of the undisturbed run: what is
  missing is contested. `Shadows.taken` and `Shadows.perform` say that takings and
  requests keep it, and `Shadows.answer` that no answer tells the two apart.
* `run_of_timely` is the induction over the program, and `undisturbed_of_timely` what
  it says about syncs.
-/

namespace CatalogBridge

/-! ## A server that others use too -/

/-- The API server refuses with a status document whose code says that the object is missing. -/
def ClusterAnswer.SaysMissing (answer : ClusterAnswer) : Prop :=
  400 ≤ answer.code ∧
    ((Json.parse? answer.body).bind ApiStatus.ofDocument?).map (·.code) = some 404

instance (answer : ClusterAnswer) : Decidable answer.SaysMissing :=
  inferInstanceAs (Decidable (_ ∧ _))

/-- The cluster without some objects. -/
def Cluster.without (cluster : Cluster) (keys : List (Kind × String)) : Cluster :=
  keys.foldl (fun cluster key => cluster.delete key.1 key.2) cluster

/-- What others take away from a cluster, just before the request of each place in a run. -/
abbrev Takings := Nat → List (Kind × String)

/-- Others leave the cluster alone. -/
def Takings.none : Takings := fun _ => []

/-- What an API server says to the delete of an object that is not there. -/
abbrev Refusals := Kind → String → ClusterAnswer

/-- An API server over a cluster from which others take objects away. It refuses to delete what is
not there and does everything else that it is asked. -/
def Store.serve (refusals : Refusals) (takings : Takings) (store : Store) (call : ClusterCall) :
    Except ApiFailure call.Answer × Store :=
  let cluster := store.cluster.without (takings store.asked)
  let performed := cluster.perform .managed call
  let result : Except ApiFailure call.Answer :=
    match call with
    | .delete kind name =>
      if (cluster.get? kind name).isNone then
        ClusterCall.read (.delete kind name) (refusals kind name)
      else .ok ()
    | call => .ok (cluster.perform .managed call).2
  (result, ⟨performed.1, store.asked + 1⟩)

/-- An API server as the client for a namespace sees it: a request that cannot be sent fails without
reaching the server. -/
def ClusterCall.through {σ : Type} (namespaceName : String)
    (server : σ → (call : ClusterCall) → Except ApiFailure call.Answer × σ) :
    Program.Behaviour σ := fun state call =>
  match call.request namespaceName with
  | .ok _ => ClusterCall.behaviour server state call
  | .error error => (.error error, state)

/-- The request can be sent by the client for a namespace. -/
def ClusterCall.Sendable (namespaceName : String) (call : ClusterCall) : Prop :=
  ∃ request, call.request namespaceName = .ok request

instance (namespaceName : String) (call : ClusterCall) :
    Decidable (call.Sendable namespaceName) :=
  match hrequest : call.request namespaceName with
  | .ok request => .isTrue ⟨request, hrequest⟩
  | .error error => .isFalse fun ⟨request, hsent⟩ => by
    rw [hrequest] at hsent
    cases hsent

/-! ## Contested objects -/

/-- The object may be taken: of the requests that are still to come none lists its kind, and one
deletes it. -/
def Contested (calls : List ClusterCall) (kind : Kind) (name : String) : Prop :=
  ClusterCall.list kind ∉ calls ∧ .delete kind name ∈ calls

instance (calls : List ClusterCall) (kind : Kind) (name : String) :
    Decidable (Contested calls kind name) :=
  inferInstanceAs (Decidable (_ ∧ _))

/-- Others take only objects that the run has listed and not yet deleted. -/
def Takings.Timely (takings : Takings) (calls : List ClusterCall) : Prop :=
  ∀ place kind name, (kind, name) ∈ takings place → Contested (calls.drop place) kind name

theorem Takings.timely_none (calls : List ClusterCall) : Takings.none.Timely calls := by
  intro place kind name htaken
  cases htaken

theorem Contested.tail {call : ClusterCall} {rest : List ClusterCall} {kind : Kind} {name : String}
    (h : Contested (call :: rest) kind name) (hcall : call ≠ .delete kind name) :
    Contested rest kind name := by
  obtain ⟨hlist, hdelete⟩ := h
  refine ⟨fun hlater => hlist (List.mem_cons_of_mem _ hlater), ?_⟩
  exact (List.mem_cons.1 hdelete).resolve_left hcall.symm

namespace Cluster

variable {first second : Cluster} {keys : List (Kind × String)}

theorem get?_without (cluster : Cluster) (keys : List (Kind × String)) (kind : Kind)
    (name : String) : (cluster.without keys).get? kind name
      = if (kind, name) ∈ keys then none else cluster.get? kind name := by
  induction keys generalizing cluster with
  | nil => rfl
  | cons key rest ih =>
    obtain ⟨other, query⟩ := key
    have hrest : cluster.without ((other, query) :: rest)
        = (cluster.delete other query).without rest := rfl
    rw [hrest, ih, get?_delete]
    by_cases hmem : (kind, name) ∈ rest
    · rw [if_pos hmem, if_pos (List.mem_cons_of_mem _ hmem)]
    · have hmem_iff : (kind, name) ∈ (other, query) :: rest ↔ other = kind ∧ query = name := by
        simp [hmem, eq_comm]
      rw [if_neg hmem]
      simp only [hmem_iff]

theorem ordered_without (h : first.Ordered) (keys : List (Kind × String)) :
    (first.without keys).Ordered := by
  induction keys generalizing first with
  | nil => exact h
  | cons key rest ih => exact ih (ordered_delete h key.1 key.2)

/-- What a cluster shows in the listing of a kind depends only on what it holds of the kind. -/
theorem perform_list_eq (selector : Selector) (hfirst : first.Ordered) (hsecond : second.Ordered)
    {kind : Kind} (h : ∀ name, first.get? kind name = second.get? kind name) :
    (first.perform selector (ClusterCall.list kind)).2
      = (second.perform selector (ClusterCall.list kind)).2 := by
  cases kind with
  | service =>
    show first.listServices selector = second.listServices selector
    rw [listServices, services_eq hfirst hsecond h, listServices]
  | endpointSlice =>
    show first.listSlices selector = second.listSlices selector
    rw [listSlices, slices_eq hfirst hsecond h, listSlices]
  | httpRoute =>
    show first.listRoutes selector = second.listRoutes selector
    rw [listRoutes, routes_eq hfirst hsecond h, listRoutes]

/-! ## Shadows -/

/-- The first cluster is the second one, or what of it is missing is contested by the requests to
come. -/
structure Shadows (first second : Cluster) (calls : List ClusterCall) : Prop where
  first_ordered : first.Ordered
  second_ordered : second.Ordered
  same : ∀ kind name, first.get? kind name = second.get? kind name ∨
    first.get? kind name = none ∧ Contested calls kind name

variable {calls : List ClusterCall} {call : ClusterCall}

theorem shadows_refl (h : first.Ordered) (calls : List ClusterCall) :
    first.Shadows first calls :=
  ⟨h, h, fun _ _ => Or.inl rfl⟩

/-- Others may take what is contested. -/
theorem Shadows.taken (h : first.Shadows second calls)
    (hkeys : ∀ kind name, (kind, name) ∈ keys → Contested calls kind name) :
    (first.without keys).Shadows second calls := by
  refine ⟨ordered_without h.first_ordered keys, h.second_ordered, ?_⟩
  intro kind name
  rw [get?_without]
  by_cases hmem : (kind, name) ∈ keys
  · rw [if_pos hmem]
    exact Or.inr ⟨rfl, hkeys kind name hmem⟩
  · rw [if_neg hmem]
    exact h.same kind name

/-- A request does the same to both clusters: what it touches is equal afterwards, and what it does
not touch is contested as before. -/
theorem Shadows.perform (h : first.Shadows second (call :: calls)) :
    (first.perform .managed call).1.Shadows (second.perform .managed call).1 calls := by
  refine ⟨ordered_perform h.first_ordered _ _, ordered_perform h.second_ordered _ _, ?_⟩
  intro kind name
  by_cases htouches : call.Touches kind name
  · left
    rcases htouches with rfl | ⟨object, rfl, hkey⟩
    · rw [get?_perform_delete, get?_perform_delete]
    · rw [get?_perform_apply, get?_perform_apply, if_pos hkey, if_pos hkey]
  · rw [get?_perform_of_not_touches htouches, get?_perform_of_not_touches htouches]
    rcases h.same kind name with hsame | ⟨hnone, hcontested⟩
    · exact Or.inl hsame
    · exact Or.inr ⟨hnone, hcontested.tail fun hdelete => htouches (Or.inl hdelete)⟩

/-- Both clusters give the same answer: what is contested is of no kind that is listed. -/
theorem Shadows.answer (h : first.Shadows second (call :: calls)) :
    (first.perform .managed call).2 = (second.perform .managed call).2 := by
  rcases call.eq_apply_or_list_or_delete with ⟨object, rfl⟩ | ⟨kind, rfl⟩ | ⟨kind, name, rfl⟩
  · cases object <;> rfl
  · refine perform_list_eq _ h.first_ordered h.second_ordered fun name => ?_
    rcases h.same kind name with hsame | ⟨_, hlist, _⟩
    · exact hsame
    · exact absurd List.mem_cons_self hlist
  · rfl

/-- Once nothing is to come, nothing is missing. -/
theorem Shadows.eq (h : first.Shadows second []) : first = second := by
  refine eq_of_get?_eq h.first_ordered h.second_ordered fun kind name => ?_
  rcases h.same kind name with hsame | ⟨_, _, hdelete⟩
  · exact hsame
  · exact absurd hdelete List.not_mem_nil

end Cluster

/-! ## The client in front of the server -/

variable {refusals : Refusals} {takings : Takings} {namespaceName : String}

/-- A refusal that says that the object is missing is no failure. -/
theorem ClusterCall.settle_read_of_saysMissing {kind : Kind} {name : String}
    {answer : ClusterAnswer} (h : answer.SaysMissing) :
    settle (.delete kind name) (read (.delete kind name) answer) = .ok () := by
  obtain ⟨hcode, hmissing⟩ := h
  obtain ⟨status, hstatus, hnotFound⟩ := Option.map_eq_some_iff.1 hmissing
  have hread : read (.delete kind name) answer = .error (.refused status) := by
    rw [read, if_pos hcode, ApiStatus.ofAnswer, hstatus, Option.getD_some]
  rw [hread]
  exact settle_delete_of_notFound kind name status hnotFound

/-- Behind the client it does not show whether an object that is to be deleted is there. -/
theorem Store.settle_serve (h : ∀ kind name, (refusals kind name).SaysMissing) (store : Store)
    (call : ClusterCall) : call.settle (store.serve refusals takings call).1
      = .ok ((store.cluster.without (takings store.asked)).perform .managed call).2 := by
  cases call with
  | delete kind name =>
    show ClusterCall.settle (.delete kind name) (if _ then _ else _) = _
    split
    · exact ClusterCall.settle_read_of_saysMissing (h kind name)
    · rfl
  | applyService | applySlice | applyRoute | listServices | listSlices | listRoutes => rfl

theorem ClusterCall.through_serve (h : ∀ kind name, (refusals kind name).SaysMissing)
    (store : Store) {call : ClusterCall} {request : ClusterRequest}
    (hrequest : call.request namespaceName = .ok request) :
    through namespaceName (Store.serve refusals takings) store call
      = (.ok ((store.cluster.without (takings store.asked)).perform .managed call).2,
        ⟨((store.cluster.without (takings store.asked)).perform .managed call).1,
          store.asked + 1⟩) := by
  rw [through, hrequest]
  exact congrArg (·, _) (store.settle_serve h call)

namespace Program

variable {α : Type}

/-- A request that is always answered in the same way is answered so wherever it is asked. -/
theorem mem_exchanges_of_asked {σ : Type} {behaviour : Behaviour σ} {call : ClusterCall}
    {answer : Except Error call.Answer} (hanswer : ∀ state, (behaviour state call).1 = answer)
    {program : Program α} {state : σ} (hasked : Asked (program.exchanges behaviour state) call) :
    ⟨call, answer⟩ ∈ program.exchanges behaviour state := by
  induction program generalizing state with
  | done value =>
    obtain ⟨exchange, hexchange, _⟩ := hasked
    cases hexchange
  | tell effect program ih => exact ih hasked
  | ask other next ih =>
    by_cases hother : other = call
    · subst hother
      rw [exchanges, hanswer]
      exact List.mem_cons_self
    · exact List.mem_cons_of_mem _ (ih _ (hasked.of_cons hother))

/-- A program that is raced runs as if it were not: it asks the same, is answered the same, and ends
in the same way with the same cluster. -/
theorem run_of_timely (hmissing : ∀ kind name, (refusals kind name).SaysMissing)
    {calls : List ClusterCall} (htimely : takings.Timely calls) (program : Program α)
    {raced calm : Store} (hplace : raced.asked = calm.asked)
    (hcalls : (program.exchanges (Store.behaviour .calm) calm).map (·.call)
      = calls.drop calm.asked)
    (hsendable : ∀ exchange ∈ program.exchanges (Store.behaviour .calm) calm,
      exchange.call.Sendable namespaceName)
    (hshadows : raced.cluster.Shadows calm.cluster (calls.drop calm.asked)) :
    program.exchanges (ClusterCall.through namespaceName (Store.serve refusals takings)) raced
        = program.exchanges (Store.behaviour .calm) calm ∧
      program.run (ClusterCall.through namespaceName (Store.serve refusals takings)) raced
        = program.run (Store.behaviour .calm) calm := by
  induction program generalizing raced calm with
  | done value =>
    rw [← hcalls] at hshadows
    have hsame : raced = calm := by
      obtain ⟨cluster, asked⟩ := raced
      obtain rfl : asked = calm.asked := hplace
      obtain rfl : cluster = calm.cluster := hshadows.eq
      rfl
    subst hsame
    exact ⟨rfl, rfl⟩
  | tell effect program ih =>
    obtain ⟨hexchanges, hrun⟩ := ih hplace hcalls hsendable hshadows
    refine ⟨hexchanges, ?_⟩
    rw [run, run, hrun]
  | ask call next ih =>
    obtain ⟨request, hrequest⟩ := hsendable _ List.mem_cons_self
    have hserved := @ClusterCall.through_serve _ takings _ hmissing raced _ _ hrequest
    -- Before the request others take what is contested; the request then does away with the rest
    -- of the difference that it can see.
    have htaken : (raced.cluster.without (takings raced.asked)).Shadows calm.cluster
        (call :: calls.drop (calm.asked + 1)) := by
      have hhere : calls.drop calm.asked = call :: calls.drop (calm.asked + 1) := by
        have hlater : (calls.drop calm.asked).drop 1 = calls.drop (calm.asked + 1) :=
          List.drop_drop
        rw [← hlater, ← hcalls]
        rfl
      rw [← hhere, hplace]
      exact hshadows.taken (htimely calm.asked)
    have hanswer := htaken.answer
    have hlater : ((next (.ok (calm.cluster.perform .managed call).2)).exchanges
        (Store.behaviour .calm) ⟨(calm.cluster.perform .managed call).1, calm.asked + 1⟩).map
          (·.call) = calls.drop (calm.asked + 1) := by
      rw [← List.drop_drop, ← hcalls]
      rfl
    obtain ⟨hexchanges, hrun⟩ := @ih (.ok (calm.cluster.perform .managed call).2)
      ⟨_, raced.asked + 1⟩ ⟨_, calm.asked + 1⟩ (congrArg (· + 1) hplace) hlater
      (fun exchange hexchange => hsendable exchange (List.mem_cons_of_mem _ hexchange))
      htaken.perform
    rw [exchanges, run, hserved, hanswer]
    exact ⟨congrArg _ hexchanges, hrun⟩

end Program

/-! ## Syncs -/

namespace Sync

variable {scope : Scope} {snapshot : Snapshot} {cluster : Cluster}

/-- One sync of a cluster through the client, while others take objects away. -/
def raced (scope : Scope) (refusals : Refusals) (takings : Takings) (cluster : Cluster)
    (snapshot : Snapshot) : Program.Result (Except Error Summary) Store :=
  (cycle scope snapshot).run
    (ClusterCall.through scope.namespaceName (Store.serve refusals takings)) ⟨cluster, 0⟩

/-- A sync through the client that is raced is a sync in memory in which nothing fails. -/
theorem raced_eq (h : cluster.Ordered)
    (hmissing : ∀ kind name, (refusals kind name).SaysMissing)
    (hsendable : ∀ exchange ∈ exchanges scope .calm cluster snapshot,
      exchange.call.Sendable scope.namespaceName)
    (htimely : takings.Timely ((exchanges scope .calm cluster snapshot).map (·.call))) :
    raced scope refusals takings cluster snapshot = run scope .calm cluster snapshot :=
  (Program.run_of_timely hmissing htimely (cycle scope snapshot) rfl rfl hsendable
    (Cluster.shadows_refl h _)).2

/-- A sync in which nothing fails counts no failure. -/
theorem not_counted_of_calm (scope : Scope) (cluster : Cluster) (snapshot : Snapshot) :
    .orchestratorError ∉ Effect.measurements (run scope .calm cluster snapshot).effects := by
  have hmeasured : Effect.measurements (run scope .calm cluster snapshot).effects
      = strikes (exchanges scope .calm cluster snapshot)
        ++ gauges scope (exchanges scope .calm cluster snapshot) :=
    (conversation_cycle (Program.conversation_run _ _ _)).2.2
  rw [hmeasured, strikes_eq_nil (not_failed_of_calm scope cluster snapshot), List.nil_append,
    gauges]
  split_ifs <;> simp

/-- A refusal to delete a service that does not say that the service is missing is among the
failures that the cycle returns. -/
theorem surfaced_of_refused {σ : Type} {behaviour : Program.Behaviour σ} {state : σ} {name : String}
    {answer : ClusterAnswer} (hrefused : 400 ≤ answer.code)
    (hother : (ApiStatus.ofAnswer answer).code ≠ 404)
    (hasked : ⟨.delete .service name,
        ClusterCall.readAnswer (.delete .service name) (some answer)⟩
      ∈ (cycle scope snapshot).exchanges behaviour state) :
    ∃ errors, ((cycle scope snapshot).run behaviour state).value = .error (.sync errors) ∧
      .delete .service name (.kube (.refused (.ofAnswer answer))) ∈ errors := by
  have hread : ClusterCall.read (.delete .service name) answer
      = .error (.refused (.ofAnswer answer)) := if_pos hrefused
  have hfailed : ClusterCall.readAnswer (.delete .service name) (some answer)
      = .error (.kube (.refused (.ofAnswer answer))) := by
    show ClusterCall.settle _ (ClusterCall.read _ answer) = _
    rw [hread]
    exact ClusterCall.settle_delete_of_refused .service name _ hother
  rw [hfailed] at hasked
  have hvalue := (conversation_cycle
    (Program.conversation_run behaviour (cycle scope snapshot) state)).2.1
  generalize (cycle scope snapshot).exchanges behaviour state = exchanges at hasked hvalue
  have hcomplaint : .delete .service name (.kube (.refused (.ofAnswer answer)))
      ∈ complaints exchanges := List.mem_filterMap.2 ⟨_, hasked, rfl⟩
  have hsome : Error.join (complaints exchanges) = some (.sync (complaints exchanges)) := by
    rw [Error.join, if_neg (by simpa using List.ne_nil_of_mem hcomplaint)]
  refine ⟨complaints exchanges, ?_, hcomplaint⟩
  rw [hvalue, result, hsome]

/-- A delete that loses a race is a success.

While a sync runs through the client, others may take away objects that it has listed and is about
to delete; the API server then refuses the delete with a status that says that the object is
missing. If nothing else fails, the sync returns the same summary as if nobody interfered, ends
with the same cluster, sets the same gauges and counts no failure.

Any other refusal to delete a service is among the failures that a sync returns. -/
theorem undisturbed_of_timely (scope : Scope) (snapshot : Snapshot) (h : cluster.Ordered)
    (hmissing : ∀ kind name, (refusals kind name).SaysMissing)
    (hsendable : ∀ exchange ∈ exchanges scope .calm cluster snapshot,
      exchange.call.Sendable scope.namespaceName)
    (htimely : takings.Timely ((exchanges scope .calm cluster snapshot).map (·.call))) :
    let ran := raced scope refusals takings cluster snapshot
    let undisturbed := raced scope refusals .none cluster snapshot
    (∃ summary, ran.value = .ok summary ∧ undisturbed.value = .ok summary) ∧
      ran.state.cluster = undisturbed.state.cluster ∧
      Effect.measurements ran.effects = Effect.measurements undisturbed.effects ∧
      .orchestratorError ∉ Effect.measurements ran.effects ∧
      ∀ {σ : Type} (behaviour : Program.Behaviour σ) (state : σ) (name : String)
        (answer : ClusterAnswer), 400 ≤ answer.code → (ApiStatus.ofAnswer answer).code ≠ 404 →
        ⟨.delete .service name, ClusterCall.readAnswer (.delete .service name) (some answer)⟩
          ∈ (cycle scope snapshot).exchanges behaviour state →
        ∃ errors, ((cycle scope snapshot).run behaviour state).value = .error (.sync errors) ∧
          .delete .service name (.kube (.refused (.ofAnswer answer))) ∈ errors := by
  have hran := raced_eq h hmissing hsendable htimely
  have hundisturbed := raced_eq h hmissing hsendable (Takings.timely_none _)
  have hvalue := value_of_ok (not_failed_of_calm scope cluster snapshot)
  dsimp only
  rw [hran, hundisturbed]
  refine ⟨⟨_, hvalue, hvalue⟩, rfl, rfl, not_counted_of_calm scope cluster snapshot, ?_⟩
  intro σ behaviour state name answer hrefused hother hasked
  exact surfaced_of_refused hrefused hother hasked

/-- The refusal of an API server to delete what is not there. -/
def missing : ClusterAnswer where
  code := 404
  body := "\x7b\"kind\":\"Status\",\"status\":\"Failure\",\"message\":\"not found\","
    ++ "\"reason\":\"NotFound\",\"code\":404\x7d"

/-- What a sync of `mixedCluster` asks for: the service `web` is applied, and then every kind is
listed and has one orphan. -/
theorem calls_of_mixedCluster :
    (exchanges edgeScope .calm mixedCluster [publicService "web" 80]).map (·.call) = [
      .applyService (webDemand 80).projection.service,
      .applySlice (webDemand 80).projection.slice,
      .applyRoute ((webDemand 80).route edgeScope "edge"),
      .listServices, .delete .service "old",
      .listSlices, .delete .endpointSlice "loose",
      .listRoutes, .delete .httpRoute "old-edge"] := by
  decide +kernel

theorem sendable_of_mixedCluster :
    ∀ exchange ∈ exchanges edgeScope .calm mixedCluster [publicService "web" 80],
      exchange.call.Sendable edgeScope.namespaceName := by
  refine List.forall_mem_map.1 ?_
  rw [calls_of_mixedCluster]
  decide +kernel

/-- Somebody takes every orphan of `mixedCluster` away just before the sync deletes it. -/
def nimble : Takings := fun place =>
  if place = 4 then [(.service, "old")]
  else if place = 6 then [(.endpointSlice, "loose")]
  else if place = 8 then [(.httpRoute, "old-edge")]
  else []

theorem timely_nimble : nimble.Timely
    ((exchanges edgeScope .calm mixedCluster [publicService "web" 80]).map (·.call)) := by
  rw [calls_of_mixedCluster]
  intro place kind name htaken
  unfold nimble at htaken
  split_ifs at htaken with hservice hslice hroute
  · obtain ⟨rfl, rfl⟩ : kind = .service ∧ name = "old" := by simpa using htaken
    subst hservice
    decide
  · obtain ⟨rfl, rfl⟩ : kind = .endpointSlice ∧ name = "loose" := by simpa using htaken
    subst hslice
    decide
  · obtain ⟨rfl, rfl⟩ : kind = .httpRoute ∧ name = "old-edge" := by simpa using htaken
    subst hroute
    decide
  · cases htaken

/-- A refusal that says something else. -/
def forbidden : ClusterAnswer where
  code := 403
  body := "\x7b\"kind\":\"Status\",\"status\":\"Failure\",\"message\":\"no\",\"code\":403\x7d"

/-- A cluster in memory where every delete of a service is answered in the same way and does
nothing. -/
def guarded (answer : ClusterAnswer) : Program.Behaviour Store := fun store call =>
  match call with
  | .delete .service name => (ClusterCall.readAnswer (.delete .service name) (some answer), store)
  | call => Store.behaviour .calm store call

theorem guarded_delete (answer : ClusterAnswer) (name : String) (store : Store) :
    (guarded answer store (.delete .service name)).1
      = ClusterCall.readAnswer (.delete .service name) (some answer) :=
  rfl

/-- The orphans of `mixedCluster` are all taken away before the sync can delete them, and it still
reports two of them as deleted. Where deleting services is forbidden, it fails. -/
theorem undisturbed_of_nimble :
    let snapshot := [publicService "web" 80]
    let ran := raced edgeScope (fun _ _ => missing) nimble mixedCluster snapshot
    let undisturbed := raced edgeScope (fun _ _ => missing) .none mixedCluster snapshot
    (ran.value = .ok ⟨1, 1, 1, 2⟩ ∧ undisturbed.value = .ok ⟨1, 1, 1, 2⟩) ∧
      ran.state.cluster = undisturbed.state.cluster ∧
      ∃ errors, ((cycle edgeScope snapshot).run (guarded forbidden) ⟨mixedCluster, 0⟩).value
          = .error (.sync errors) ∧
        .delete .service "old" (.kube (.refused (.ofAnswer forbidden))) ∈ errors := by
  have hmissing : ∀ (kind : Kind) (name : String), missing.SaysMissing :=
    fun _ _ => by decide +kernel
  obtain ⟨⟨summary, hran, hundisturbed⟩, hcluster, _, _, hsurfaced⟩ :=
    undisturbed_of_timely edgeScope [publicService "web" 80] ordered_mixedCluster hmissing
      sendable_of_mixedCluster timely_nimble
  have hcounted : (run edgeScope .calm mixedCluster [publicService "web" 80]).value.toOption
      = some ⟨1, 1, 1, 2⟩ := by
    decide +kernel
  rw [← raced_eq ordered_mixedCluster hmissing sendable_of_mixedCluster timely_nimble, hran]
    at hcounted
  obtain rfl : summary = ⟨1, 1, 1, 2⟩ := Option.some.inj hcounted
  have hasked : Asked ((cycle edgeScope [publicService "web" 80]).exchanges
      (guarded forbidden) ⟨mixedCluster, 0⟩) (.delete .service "old") := by
    decide +kernel
  refine ⟨⟨hran, hundisturbed⟩, hcluster, ?_⟩
  exact hsurfaced (guarded forbidden) _ "old" forbidden (by decide +kernel) (by decide +kernel)
    (Program.mem_exchanges_of_asked (guarded_delete forbidden "old") hasked)

end Sync

end CatalogBridge
