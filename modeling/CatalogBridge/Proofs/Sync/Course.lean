import CatalogBridge.Proofs.Sync.Demand
import CatalogBridge.Proofs.Sync.Record

/-!
# The course of a cycle

What a cycle asks of the cluster, whatever the answers. A cycle makes an attempt
at every demand of its snapshot and then sweeps one kind after the other.

* `Attempt` lists the three ways in which applying a demand can go: the service
  fails, the slice fails, or both are applied and every route is tried.
* `Sweep` lists the two ways in which a sweep can go: the listing fails, or a
  delete is tried for every orphan of the listing.
* `conversation_cycle` puts them together: the exchanges of a cycle are attempts
  followed by sweeps, and the result is a function of the exchanges.

The statements about single functions of a cycle come first, in the order in
which the functions are defined.
-/

namespace CatalogBridge.Sync

variable {scope : Scope} {snapshot : Snapshot}

/-! ## Attempts -/

/-- The ways in which applying a demand can go. -/
inductive Attempt (scope : Scope) (demand : Demand) : List Exchange → Prop
  | serviceFailed (error : Error) :
      Attempt scope demand [⟨.applyService demand.projection.service, .error error⟩]
  | sliceFailed (error : Error) :
      Attempt scope demand [⟨.applyService demand.projection.service, .ok ()⟩,
        ⟨.applySlice demand.projection.slice, .error error⟩]
  | applied (routes : List Exchange)
      (hroutes : routes.map (·.call)
        = demand.gateways.map fun gateway => .applyRoute (demand.route scope gateway)) :
      Attempt scope demand (⟨.applyService demand.projection.service, .ok ()⟩ ::
        ⟨.applySlice demand.projection.slice, .ok ()⟩ :: routes)

/-- An attempt at one demand after the other. -/
inductive Attempts (scope : Scope) : List Demand → List Exchange → Prop
  | nil : Attempts scope [] []
  | cons {demand : Demand} {rest : List Demand} {front back : List Exchange}
      (hfront : Attempt scope demand front) (hback : Attempts scope rest back) :
      Attempts scope (demand :: rest) (front ++ back)

theorem conversation_applyRoute {demand : Demand} {progress last : Progress} {gateway : String}
    {exchanges : List Exchange} {effects : List Effect}
    (h : (applyRoute scope demand.projection progress gateway).Conversation exchanges effects
      last) :
    (∃ answer, exchanges = [⟨.applyRoute (demand.route scope gateway), answer⟩]) ∧
      Recorded progress exchanges effects last := by
  obtain ⟨answer, later, rfl, h⟩ := h
  cases answer with
  | ok value =>
    obtain ⟨told, rfl, rfl, rfl, rfl⟩ := h
    exact ⟨⟨_, rfl⟩, by simp [Progress.record, tally, complaints, Exchange.tally,
      Exchange.complaint?, Exchange.failure?], rfl⟩
  | error error =>
    obtain ⟨told, rfl, later, rfl, rfl, rfl, rfl⟩ := h
    exact ⟨⟨_, rfl⟩, rfl, rfl⟩

theorem conversation_applyRoutes {demand : Demand} {progress last : Progress}
    {gateways : List String} {exchanges : List Exchange} {effects : List Effect}
    (h : (applyRoutes scope demand.projection progress gateways).Conversation exchanges effects
      last) :
    exchanges.map (·.call)
        = gateways.map (fun gateway => .applyRoute (demand.route scope gateway)) ∧
      Recorded progress exchanges effects last := by
  induction gateways generalizing progress exchanges effects with
  | nil =>
    obtain ⟨rfl, rfl, rfl⟩ := h
    exact ⟨rfl, recorded_nil progress rfl⟩
  | cons gateway rest ih =>
    obtain ⟨middle, front, back, told, later, rfl, rfl, hfirst, hrest⟩ :=
      Program.conversation_bind_iff.1 h
    obtain ⟨⟨answer, rfl⟩, hrecorded⟩ := conversation_applyRoute hfirst
    obtain ⟨hcalls, hlater⟩ := ih hrest
    refine ⟨?_, hrecorded.append hlater⟩
    rw [List.map_append, hcalls]
    rfl

theorem conversation_giveUp {projection : Projection} {progress last : Progress} {error : Error}
    {exchanges : List Exchange} {effects : List Effect}
    (h : (giveUp projection progress error).Conversation exchanges effects last) :
    exchanges = [] ∧ last = { progress with errors := progress.errors ++ [error] } ∧
      Effect.measurements effects = [.orchestratorError] := by
  obtain ⟨told, rfl, later, rfl, rfl, rfl, rfl⟩ := h
  exact ⟨rfl, rfl, rfl⟩

theorem conversation_applyProjection {demand : Demand} {state : ServiceState}
    (hprojects : Projects scope state demand.projection) {progress last : Progress}
    {exchanges : List Exchange} {effects : List Effect}
    (h : (applyProjection scope demand.projection demand.gateways progress).Conversation
      exchanges effects last) :
    Attempt scope demand exchanges ∧ Recorded progress exchanges effects last := by
  obtain ⟨answer, later, rfl, h⟩ := h
  cases answer with
  | error error =>
    obtain ⟨rfl, rfl, hmeasured⟩ := conversation_giveUp h
    refine ⟨.serviceFailed error, ?_, hmeasured⟩
    rw [← hprojects.service_name]
    rfl
  | ok applied =>
    obtain ⟨answer, later, rfl, h⟩ := h
    cases answer with
    | error error =>
      obtain ⟨rfl, rfl, hmeasured⟩ := conversation_giveUp h
      refine ⟨.sliceFailed error, ?_, hmeasured⟩
      rw [← hprojects.slice_name]
      rfl
    | ok sliced =>
      change (Program.bind (applyRoutes scope demand.projection _ demand.gateways)
        _).Conversation _ _ _ at h
      obtain ⟨middle, front, back, told, later, rfl, rfl, hroutes, hrest⟩ :=
        Program.conversation_bind_iff.1 h
      obtain ⟨told', rfl, rfl, rfl, rfl⟩ := hrest
      obtain ⟨hcalls, hrecorded⟩ := conversation_applyRoutes hroutes
      rw [List.append_nil]
      refine ⟨.applied front hcalls, ?_⟩
      -- The service and the slice are recorded first, then the routes.
      have hfirst : Recorded progress [⟨.applyService demand.projection.service, .ok applied⟩,
          ⟨.applySlice demand.projection.slice, .ok sliced⟩] []
          { progress with
            services := progress.services + 1
            endpoints := progress.endpoints + demand.projection.endpoints } :=
        ⟨by simp [Progress.record, tally, complaints, Exchange.tally, Exchange.complaint?,
          Exchange.failure?, Projection.endpoints], rfl⟩
      have hlast : Recorded middle [] [.notice (.synced demand.projection.name
          demand.projection.endpoints)] middle := recorded_nil middle rfl
      simpa using (hfirst.append hrecorded).append hlast

theorem conversation_notifyAll {notices : List Notice} {exchanges : List Exchange}
    {effects : List Effect} {value : Unit}
    (h : (Program.notifyAll notices).Conversation exchanges effects value) :
    exchanges = [] ∧ Effect.measurements effects = [] := by
  induction notices generalizing effects with
  | nil =>
    obtain ⟨rfl, rfl, _⟩ := h
    exact ⟨rfl, rfl⟩
  | cons notice rest ih =>
    obtain ⟨told, rfl, hrest⟩ := h
    obtain ⟨hnone, htold⟩ := ih hrest
    exact ⟨hnone, htold⟩

/-- The progress once it wants what some services ask for. -/
def Progress.wantAll (progress : Progress) (demands : List Demand) : Progress :=
  demands.foldl (fun progress demand => progress.want demand.projection demand.gateways) progress

/-- What is wanted does not depend on what is recorded. -/
theorem Progress.wantAll_record (progress : Progress) (exchanges : List Exchange)
    (demands : List Demand) :
    (progress.record exchanges).wantAll demands = (progress.wantAll demands).record exchanges := by
  induction demands generalizing progress with
  | nil => rfl
  | cons demand rest ih => exact ih (progress.want demand.projection demand.gateways)

theorem Recorded.wantAll {progress last : Progress} {exchanges : List Exchange}
    {effects : List Effect} (h : Recorded progress exchanges effects last)
    (demands : List Demand) :
    Recorded (progress.wantAll demands) exchanges effects (last.wantAll demands) := by
  refine ⟨?_, h.measurements⟩
  rw [h.progress, Progress.wantAll_record]

/-- A service that asks for nothing leaves no trace in the cluster. -/
theorem conversation_syncState_of_none {state : ServiceState} (hnone : demand? scope state = none)
    {progress last : Progress} {exchanges : List Exchange} {effects : List Effect}
    (h : (syncState scope progress state).Conversation exchanges effects last) :
    exchanges = [] ∧ Recorded progress exchanges effects last := by
  unfold syncState at h
  split at h
  · obtain ⟨told, rfl, rfl, rfl, rfl⟩ := h
    exact ⟨rfl, recorded_nil progress rfl⟩
  · split at h
    · obtain ⟨told, rfl, rfl, rfl, rfl⟩ := h
      exact ⟨rfl, recorded_nil progress rfl⟩
    · rename_i hbuild
      simp [demand?, projection?, hbuild] at hnone

theorem conversation_syncState_of_some {state : ServiceState} {demand : Demand}
    (hsome : demand? scope state = some demand)
    {progress last : Progress} {exchanges : List Exchange} {effects : List Effect}
    (h : (syncState scope progress state).Conversation exchanges effects last) :
    Attempt scope demand exchanges ∧
      Recorded (progress.want demand.projection demand.gateways) exchanges effects last := by
  obtain ⟨projection, hprojection, rfl⟩ := Option.map_eq_some_iff.1 hsome
  have hprojects := projects_of_projection? hprojection
  unfold syncState at h
  rw [if_neg (by simpa using hprojects.instances_ne)] at h
  unfold projection? at hprojection
  split at h
  · rename_i hbuild
    simp [hbuild] at hprojection
  · rename_i built notices hbuild
    rw [hbuild] at hprojection
    obtain rfl := Option.some.inj hprojection
    obtain ⟨middle, front, back, told, later, rfl, rfl, hnotices, hrest⟩ :=
      Program.conversation_bind_iff.1 h
    obtain ⟨rfl, htold⟩ := conversation_notifyAll hnotices
    rw [gatewaysFor_eq] at hrest
    obtain ⟨hattempt, hrecorded⟩ :=
      @conversation_applyProjection _ ⟨built, selectedGateways scope.routes state⟩ _ hprojects _ _
        _ _ hrest
    exact ⟨hattempt, (recorded_nil _ htold).append hrecorded⟩

theorem conversation_syncStates {progress last : Progress} {exchanges : List Exchange}
    {effects : List Effect}
    (h : (syncStates scope progress snapshot).Conversation exchanges effects last) :
    Attempts scope (demands scope snapshot) exchanges ∧
      Recorded (progress.wantAll (demands scope snapshot)) exchanges effects last := by
  induction snapshot generalizing progress exchanges effects with
  | nil =>
    obtain ⟨rfl, rfl, rfl⟩ := h
    exact ⟨.nil, recorded_nil progress rfl⟩
  | cons state rest ih =>
    obtain ⟨middle, front, back, told, later, rfl, rfl, hfirst, hrest⟩ :=
      Program.conversation_bind_iff.1 h
    obtain ⟨hattempts, hlater⟩ := ih hrest
    cases hdemand : demand? scope state with
    | none =>
      obtain ⟨rfl, hrecorded⟩ := conversation_syncState_of_none hdemand hfirst
      have hsame : demands scope (state :: rest) = demands scope rest := by
        rw [demands, List.filterMap_cons_none hdemand]
        rfl
      rw [hsame]
      exact ⟨hattempts, (hrecorded.wantAll _).append hlater⟩
    | some demand =>
      obtain ⟨hattempt, hrecorded⟩ := conversation_syncState_of_some hdemand hfirst
      have hmore : demands scope (state :: rest) = demand :: demands scope rest := by
        rw [demands, List.filterMap_cons_some hdemand]
        rfl
      rw [hmore]
      exact ⟨.cons hattempt hattempts, (hrecorded.wantAll _).append hlater⟩

/-- Wanting adds the names of the demands and nothing else. -/
theorem Progress.wantAll_eq (progress : Progress) (demands : List Demand) :
    progress.wantAll demands = { progress with
      wantedServices := progress.wantedServices ++ demands.map (·.projection.name)
      wantedRoutes := progress.wantedRoutes ++ demands.flatMap fun demand =>
        demand.gateways.map (Name.route demand.projection.name) } := by
  induction demands generalizing progress with
  | nil => simp [Progress.wantAll]
  | cons demand rest ih =>
    rw [Progress.wantAll, List.foldl_cons]
    change (progress.want demand.projection demand.gateways).wantAll rest = _
    rw [ih]
    simp [Progress.want]

/-! ## Sweeps -/

/-- The orphans in a listing: the objects that the snapshot does not ask for. -/
def orphans (scope : Scope) (snapshot : Snapshot) :
    (kind : Kind) → (ClusterCall.list kind).Answer → List String
  | .service, names => names.filter fun name => !(wantedServices scope snapshot).contains name
  | .endpointSlice, slices =>
    (slices.filter fun slice => !keepsSlice (wantedServices scope snapshot) slice).map (·.name)
  | .httpRoute, names => names.filter fun name => !(wantedRoutes scope snapshot).contains name

/-- The ways in which sweeping a kind can go. -/
inductive Sweep (scope : Scope) (snapshot : Snapshot) (kind : Kind) : List Exchange → Prop
  | unlisted (error : Error) : Sweep scope snapshot kind [⟨ClusterCall.list kind, .error error⟩]
  | listed (answer : (ClusterCall.list kind).Answer) (deletes : List Exchange)
      (hdeletes : deletes.map (·.call)
        = (orphans scope snapshot kind answer).map (ClusterCall.delete kind)) :
      Sweep scope snapshot kind (⟨ClusterCall.list kind, .ok answer⟩ :: deletes)

/-- A sweep of one kind after the other. -/
inductive Sweeps (scope : Scope) (snapshot : Snapshot) : List Kind → List Exchange → Prop
  | nil : Sweeps scope snapshot [] []
  | cons {kind : Kind} {rest : List Kind} {front back : List Exchange}
      (hfront : Sweep scope snapshot kind front) (hback : Sweeps scope snapshot rest back) :
      Sweeps scope snapshot (kind :: rest) (front ++ back)

/-- The kinds that a cycle sweeps, in order. -/
def sweptKinds (scope : Scope) : List Kind :=
  [.service, .endpointSlice] ++ if scope.routes.enabled then [.httpRoute] else []

theorem conversation_deleteAll {kind : Kind} {swept last : Swept} {names : List String}
    {exchanges : List Exchange} {effects : List Effect}
    (h : (deleteAll kind swept names).Conversation exchanges effects last) :
    exchanges.map (·.call) = names.map (ClusterCall.delete kind) ∧
      Effect.measurements effects = strikes exchanges ∧
      last.errors = swept.errors ++ exchanges.filterMap Exchange.failure? ∧
      (kind ≠ .endpointSlice → last.deleted = swept.deleted + (tally exchanges).deleted) := by
  induction names generalizing swept exchanges effects with
  | nil =>
    obtain ⟨rfl, rfl, rfl⟩ := h
    simp [tally, strikes]
    rfl
  | cons name rest ih =>
    obtain ⟨told, rfl, answer, later, rfl, h⟩ := h
    cases answer with
    | ok value =>
      obtain ⟨hcalls, hmeasured, herrors, hdeleted⟩ := ih h
      refine ⟨by rw [List.map_cons, hcalls]; rfl, hmeasured, herrors, ?_⟩
      intro hkind
      rw [hdeleted hkind]
      cases kind with
      | service | httpRoute => simp [tally, Exchange.tally, Nat.add_assoc]
      | endpointSlice => exact absurd rfl hkind
    | error error =>
      obtain ⟨told, rfl, later, rfl, h⟩ := h
      obtain ⟨hcalls, hmeasured, herrors, hdeleted⟩ := ih h
      refine ⟨by rw [List.map_cons, hcalls]; rfl, ?_, ?_, ?_⟩
      · change .orchestratorError :: Effect.measurements later = _
        rw [hmeasured]
        rfl
      · rw [herrors]
        simp [Exchange.failure?, ClusterCall.blame]
      · intro hkind
        rw [hdeleted hkind]
        cases kind with
        | service | httpRoute => simp [tally, Exchange.tally]
        | endpointSlice => exact absurd rfl hkind

/-- What is asked in the deletes of a sweep. -/
theorem call_of_deletes {kind : Kind} {names : List String} {deletes : List Exchange}
    (h : deletes.map (·.call) = names.map (ClusterCall.delete kind)) {exchange : Exchange}
    (hexchange : exchange ∈ deletes) : ∃ name ∈ names, exchange.call = .delete kind name := by
  have hcall : exchange.call ∈ names.map (ClusterCall.delete kind) := by
    rw [← h]
    exact List.mem_map.2 ⟨exchange, hexchange, rfl⟩
  obtain ⟨name, hname, hsame⟩ := List.mem_map.1 hcall
  exact ⟨name, hname, hsame.symm⟩

theorem Sweep.call {kind : Kind} {exchanges : List Exchange}
    (h : Sweep scope snapshot kind exchanges) {exchange : Exchange}
    (hexchange : exchange ∈ exchanges) :
    exchange.call = ClusterCall.list kind ∨ ∃ name, exchange.call = .delete kind name := by
  cases h with
  | unlisted error =>
    obtain rfl := List.mem_singleton.1 hexchange
    exact Or.inl rfl
  | listed answer deletes hdeletes =>
    rcases List.mem_cons.1 hexchange with rfl | hexchange
    · exact Or.inl rfl
    · obtain ⟨name, _, hcall⟩ := call_of_deletes hdeletes hexchange
      exact Or.inr ⟨name, hcall⟩

theorem conversation_listingFailed {kind : Kind} {error : Error} {last : Swept}
    {exchanges : List Exchange} {effects : List Effect}
    (h : (listingFailed kind error).Conversation exchanges effects last) :
    exchanges = [] ∧ last = ⟨0, [error]⟩ ∧ Effect.measurements effects = [.orchestratorError] := by
  obtain ⟨told, rfl, later, rfl, rfl, rfl, rfl⟩ := h
  exact ⟨rfl, rfl, rfl⟩

theorem conversation_sweepServices {last : Swept} {exchanges : List Exchange}
    {effects : List Effect}
    (h : (sweepServices (wantedServices scope snapshot)).Conversation exchanges effects last) :
    Sweep scope snapshot .service exchanges ∧ Effect.measurements effects = strikes exchanges ∧
      last.errors = complaints exchanges ∧ last.deleted = (tally exchanges).deleted := by
  obtain ⟨answer, later, rfl, h⟩ := h
  cases answer with
  | error error =>
    obtain ⟨rfl, rfl, hmeasured⟩ := conversation_listingFailed h
    exact ⟨.unlisted error, hmeasured, rfl, rfl⟩
  | ok names =>
    obtain ⟨hcalls, hmeasured, herrors, hdeleted⟩ := conversation_deleteAll h
    have hreported : complaints later = later.filterMap Exchange.failure? := by
      refine complaints_of_isReported ?_
      intro exchange hexchange
      obtain ⟨name, _, hcall⟩ := call_of_deletes hcalls hexchange
      rw [hcall]
      rfl
    refine ⟨@Sweep.listed _ _ .service names later hcalls, hmeasured, ?_, ?_⟩
    · rw [herrors, ← hreported]
      rfl
    · rw [hdeleted (by simp)]
      simp [tally, Exchange.tally]

theorem conversation_sweepSlices {last : Swept} {exchanges : List Exchange}
    {effects : List Effect}
    (h : (sweepSlices (wantedServices scope snapshot)).Conversation exchanges effects last) :
    Sweep scope snapshot .endpointSlice exchanges ∧
      Effect.measurements effects = strikes exchanges ∧ complaints exchanges = [] ∧
      (tally exchanges).deleted = 0 := by
  have hsweep : Sweep scope snapshot .endpointSlice exchanges ∧
      Effect.measurements effects = strikes exchanges := by
    obtain ⟨answer, later, rfl, h⟩ := h
    cases answer with
    | error error =>
      obtain ⟨rfl, _, hmeasured⟩ := conversation_listingFailed h
      exact ⟨.unlisted error, hmeasured⟩
    | ok slices =>
      obtain ⟨hcalls, hmeasured, _⟩ := conversation_deleteAll h
      exact ⟨@Sweep.listed _ _ .endpointSlice slices later hcalls, hmeasured⟩
  obtain ⟨hsweep, hmeasured⟩ := hsweep
  refine ⟨hsweep, hmeasured, ?_, ?_⟩
  · refine complaints_of_not_isReported ?_
    intro exchange hexchange
    rcases hsweep.call hexchange with hcall | ⟨name, hcall⟩
    · rw [hcall]
      rfl
    · rw [hcall]
      rfl
  · refine total_eq_zero ?_
    intro exchange hexchange
    obtain ⟨call, answer⟩ := exchange
    rcases hsweep.call hexchange with rfl | ⟨name, rfl⟩ <;> cases answer <;> rfl

theorem conversation_sweepRoutes {last : Swept} {exchanges : List Exchange}
    {effects : List Effect}
    (h : (sweepRoutes (wantedRoutes scope snapshot)).Conversation exchanges effects last) :
    Sweep scope snapshot .httpRoute exchanges ∧ Effect.measurements effects = strikes exchanges ∧
      last.errors = complaints exchanges ∧ last.deleted = (tally exchanges).deleted := by
  obtain ⟨answer, later, rfl, h⟩ := h
  cases answer with
  | error error =>
    obtain ⟨rfl, rfl, hmeasured⟩ := conversation_listingFailed h
    exact ⟨.unlisted error, hmeasured, rfl, rfl⟩
  | ok names =>
    change (Program.bind (deleteAll .httpRoute ⟨0, []⟩ _) _).Conversation _ _ _ at h
    obtain ⟨middle, front, back, told, rest, rfl, rfl, hdeletes, hrest⟩ :=
      Program.conversation_bind_iff.1 h
    obtain ⟨rfl, rfl, rfl⟩ := hrest
    obtain ⟨hcalls, hmeasured, _, hdeleted⟩ := conversation_deleteAll hdeletes
    rw [List.append_nil, List.append_nil]
    have hsilent : complaints front = [] := by
      refine complaints_of_not_isReported ?_
      intro exchange hexchange
      obtain ⟨name, _, hcall⟩ := call_of_deletes hcalls hexchange
      rw [hcall]
      rfl
    refine ⟨@Sweep.listed _ _ .httpRoute names front hcalls, hmeasured, ?_, ?_⟩
    · exact hsilent.symm
    · change middle.deleted = _
      rw [hdeleted (by simp)]
      simp [tally, Exchange.tally]

/-- The routes are swept only if routes are made. -/
theorem conversation_sweepRoutes_if {last : Swept} {exchanges : List Exchange}
    {effects : List Effect}
    (h : (if scope.routes.enabled then sweepRoutes (wantedRoutes scope snapshot)
      else .done ⟨0, []⟩).Conversation exchanges effects last) :
    Sweeps scope snapshot (if scope.routes.enabled then [.httpRoute] else []) exchanges ∧
      Effect.measurements effects = strikes exchanges ∧
      last.errors = complaints exchanges ∧ last.deleted = (tally exchanges).deleted := by
  split at h
  · rename_i henabled
    obtain ⟨hsweep, hrest⟩ := conversation_sweepRoutes h
    rw [if_pos henabled]
    refine ⟨?_, hrest⟩
    simpa using Sweeps.cons hsweep .nil
  · rename_i henabled
    obtain ⟨rfl, rfl, rfl⟩ := h
    rw [if_neg henabled]
    exact ⟨.nil, rfl, rfl, rfl⟩

/-! ## Cycles -/

theorem Attempt.call {demand : Demand} {exchanges : List Exchange}
    (h : Attempt scope demand exchanges) {exchange : Exchange} (hexchange : exchange ∈ exchanges) :
    ∃ object ∈ demand.objects scope, exchange.call = object.apply := by
  have hservice : Object.service demand.projection.service ∈ demand.objects scope :=
    Demand.mem_objects.2 (Or.inl rfl)
  have hslice : Object.slice demand.projection.slice ∈ demand.objects scope :=
    Demand.mem_objects.2 (Or.inr (Or.inl rfl))
  cases h with
  | serviceFailed error =>
    obtain rfl := List.mem_singleton.1 hexchange
    exact ⟨_, hservice, rfl⟩
  | sliceFailed error =>
    rcases List.mem_cons.1 hexchange with rfl | hexchange
    · exact ⟨_, hservice, rfl⟩
    · obtain rfl := List.mem_singleton.1 hexchange
      exact ⟨_, hslice, rfl⟩
  | applied routes hroutes =>
    rcases List.mem_cons.1 hexchange with rfl | hexchange
    · exact ⟨_, hservice, rfl⟩
    · rcases List.mem_cons.1 hexchange with rfl | hexchange
      · exact ⟨_, hslice, rfl⟩
      · have hcall : exchange.call ∈ routes.map (·.call) :=
          List.mem_map.2 ⟨exchange, hexchange, rfl⟩
        rw [hroutes] at hcall
        obtain ⟨gateway, hgateway, hsame⟩ := List.mem_map.1 hcall
        exact ⟨_, Demand.mem_objects.2 (Or.inr (Or.inr ⟨gateway, hgateway, rfl⟩)), hsame.symm⟩

/-- Attempts apply objects that are asked for, and do nothing else. -/
theorem Attempts.call {demands : List Demand} {exchanges : List Exchange}
    (h : Attempts scope demands exchanges) {exchange : Exchange}
    (hexchange : exchange ∈ exchanges) :
    ∃ demand ∈ demands, ∃ object ∈ demand.objects scope, exchange.call = object.apply := by
  induction h with
  | nil => cases hexchange
  | cons hfront hback ih =>
    rcases List.mem_append.1 hexchange with hexchange | hexchange
    · exact ⟨_, List.mem_cons_self, hfront.call hexchange⟩
    · obtain ⟨demand, hdemand, hobject⟩ := ih hexchange
      exact ⟨demand, List.mem_cons_of_mem _ hdemand, hobject⟩

theorem Attempts.mem_objects {demands : List Demand} {exchanges : List Exchange}
    (h : Attempts scope demands exchanges) {exchange : Exchange}
    (hexchange : exchange ∈ exchanges) {object : Object} (hcall : exchange.call = object.apply) :
    ∃ demand ∈ demands, object ∈ demand.objects scope := by
  obtain ⟨demand, hdemand, made, hmade, hsame⟩ := h.call hexchange
  obtain rfl := Object.apply_injective (hcall.symm.trans hsame)
  exact ⟨demand, hdemand, hmade⟩

/-- Sweeps list kinds and delete objects of these kinds, and do nothing else. -/
theorem Sweeps.call {kinds : List Kind} {exchanges : List Exchange}
    (h : Sweeps scope snapshot kinds exchanges) {exchange : Exchange}
    (hexchange : exchange ∈ exchanges) :
    ∃ kind ∈ kinds,
      exchange.call = ClusterCall.list kind ∨ ∃ name, exchange.call = .delete kind name := by
  induction h with
  | nil => cases hexchange
  | cons hfront hback ih =>
    rcases List.mem_append.1 hexchange with hexchange | hexchange
    · exact ⟨_, List.mem_cons_self, hfront.call hexchange⟩
    · obtain ⟨kind, hkind, hcall⟩ := ih hexchange
      exact ⟨kind, List.mem_cons_of_mem _ hkind, hcall⟩

/-- Applies delete nothing. -/
theorem Attempts.tally_deleted {demands : List Demand} {exchanges : List Exchange}
    (h : Attempts scope demands exchanges) : (tally exchanges).deleted = 0 := by
  refine total_eq_zero ?_
  intro exchange hexchange
  obtain ⟨_, _, object, _, hcall⟩ := h.call hexchange
  obtain ⟨call, answer⟩ := exchange
  obtain rfl : call = object.apply := hcall
  cases object <;> cases answer <;> rfl

/-- Sweeps apply nothing. -/
theorem Sweeps.tally_applied {kinds : List Kind} {exchanges : List Exchange}
    (h : Sweeps scope snapshot kinds exchanges) :
    (tally exchanges).services = 0 ∧ (tally exchanges).endpoints = 0 ∧
      (tally exchanges).routes = 0 := by
  have hnone : ∀ exchange ∈ exchanges, exchange.tally.services = 0 ∧
      exchange.tally.endpoints = 0 ∧ exchange.tally.routes = 0 := by
    intro exchange hexchange
    obtain ⟨call, answer⟩ := exchange
    obtain ⟨kind, _, rfl | ⟨name, rfl⟩⟩ := h.call hexchange <;>
      cases kind <;> cases answer <;> exact ⟨rfl, rfl, rfl⟩
  exact ⟨total_eq_zero fun exchange h => (hnone exchange h).1,
    total_eq_zero fun exchange h => (hnone exchange h).2.1,
    total_eq_zero fun exchange h => (hnone exchange h).2.2⟩

/-- The result of a cycle, from its exchanges: what is reported, or else what was done. -/
def result (exchanges : List Exchange) : Except Error Summary :=
  match Error.join (complaints exchanges) with
  | some error => .error error
  | none => .ok (tally exchanges)

/-- The gauges that a cycle sets at its end. -/
def gauges (scope : Scope) (exchanges : List Exchange) : List Measurement :=
  [.services (tally exchanges).services, .endpoints (tally exchanges).endpoints] ++
    if scope.routes.enabled then [.routes (tally exchanges).routes] else []

/-- The exchanges of a cycle: attempts at the demands, then a sweep of every swept kind. -/
inductive Course (scope : Scope) (snapshot : Snapshot) : List Exchange → Prop
  | intro {applies sweeps : List Exchange}
      (happlies : Attempts scope (demands scope snapshot) applies)
      (hsweeps : Sweeps scope snapshot (sweptKinds scope) sweeps) :
      Course scope snapshot (applies ++ sweeps)

/-- Whatever a cycle applies is asked for. -/
theorem Course.mem_wanted {exchanges : List Exchange} (h : Course scope snapshot exchanges)
    {exchange : Exchange} (hexchange : exchange ∈ exchanges) {object : Object}
    (hcall : exchange.call = object.apply) : object ∈ wanted scope snapshot := by
  cases h with
  | intro happlies hsweeps =>
    rcases List.mem_append.1 hexchange with hexchange | hexchange
    · exact List.mem_flatMap.2 (happlies.mem_objects hexchange hcall)
    · obtain ⟨kind, _, hsame | ⟨name, hsame⟩⟩ := hsweeps.call hexchange
      · exact absurd (hsame.symm.trans hcall) (ClusterCall.list_ne_apply kind object)
      · exact absurd (hcall.symm.trans hsame) (object.apply_ne_delete kind name)

/-- What a cycle does once everything is swept. -/
def report (scope : Scope) (progress : Progress) (services routes : Swept) :
    Program (Except Error Summary) := do
  Program.measure (.services progress.services)
  Program.measure (.endpoints progress.endpoints)
  if scope.routes.enabled then Program.measure (.routes progress.routes)
  match Error.join (progress.errors ++ services.errors ++ routes.errors) with
  | some error => return .error error
  | none =>
    return .ok ⟨progress.services, progress.endpoints, progress.routes,
      services.deleted + routes.deleted⟩

/-- A cycle is five programs in a row. -/
theorem cycle_eq (scope : Scope) (snapshot : Snapshot) :
    cycle scope snapshot = (syncStates scope .initial snapshot).bind fun progress =>
      (sweepServices progress.wantedServices).bind fun services =>
        (sweepSlices progress.wantedServices).bind fun _ =>
          (if scope.routes.enabled then sweepRoutes progress.wantedRoutes
            else .done ⟨0, []⟩).bind (report scope progress services) := by
  unfold cycle report
  cases scope.routes.enabled <;> rfl

theorem conversation_report {progress : Progress} {services routes : Swept}
    {exchanges : List Exchange} {effects : List Effect} {value : Except Error Summary}
    (h : (report scope progress services routes).Conversation exchanges effects value) :
    exchanges = [] ∧
      value = (match Error.join (progress.errors ++ services.errors ++ routes.errors) with
        | some error => .error error
        | none => .ok ⟨progress.services, progress.endpoints, progress.routes,
            services.deleted + routes.deleted⟩) ∧
      Effect.measurements effects
        = [.services progress.services, .endpoints progress.endpoints] ++
          if scope.routes.enabled then [.routes progress.routes] else [] := by
  unfold report at h
  obtain ⟨told, rfl, later, rfl, h⟩ := h
  cases henabled : scope.routes.enabled <;>
    cases hjoin : Error.join (progress.errors ++ services.errors ++ routes.errors) <;>
    simp only [henabled, hjoin, if_true, if_false, Bool.false_eq_true] at h
  · obtain ⟨rfl, rfl, rfl⟩ := h
    exact ⟨rfl, rfl, rfl⟩
  · obtain ⟨rfl, rfl, rfl⟩ := h
    exact ⟨rfl, rfl, rfl⟩
  · obtain ⟨last, rfl, rfl, rfl, rfl⟩ := h
    exact ⟨rfl, rfl, rfl⟩
  · obtain ⟨last, rfl, rfl, rfl, rfl⟩ := h
    exact ⟨rfl, rfl, rfl⟩

theorem conversation_cycle {exchanges : List Exchange} {effects : List Effect}
    {value : Except Error Summary}
    (h : (cycle scope snapshot).Conversation exchanges effects value) :
    Course scope snapshot exchanges ∧ value = result exchanges ∧
      Effect.measurements effects = strikes exchanges ++ gauges scope exchanges := by
  rw [cycle_eq] at h
  obtain ⟨progress, applies, _, told, _, rfl, rfl, happlies, h⟩ :=
    Program.conversation_bind_iff.1 h
  obtain ⟨hattempts, hrecorded⟩ := conversation_syncStates happlies
  have hprogress := hrecorded.progress
  rw [Progress.wantAll_eq] at hprogress
  have hwantedServices : progress.wantedServices = wantedServices scope snapshot := by
    rw [hprogress]
    rfl
  have hwantedRoutes : progress.wantedRoutes = wantedRoutes scope snapshot := by
    rw [hprogress]
    rfl
  have herrors : progress.errors = complaints applies := by
    rw [hprogress]
    rfl
  have hservices : progress.services = (tally applies).services := by
    rw [hprogress]
    exact Nat.zero_add _
  have hendpoints : progress.endpoints = (tally applies).endpoints := by
    rw [hprogress]
    exact Nat.zero_add _
  have hroutes : progress.routes = (tally applies).routes := by
    rw [hprogress]
    exact Nat.zero_add _
  rw [hwantedServices, hwantedRoutes] at h
  obtain ⟨services, first, _, told1, _, rfl, rfl, hfirst, h⟩ := Program.conversation_bind_iff.1 h
  obtain ⟨hsweep1, hmeasured1, herrors1, hdeleted1⟩ := conversation_sweepServices hfirst
  obtain ⟨slices, second, _, told2, _, rfl, rfl, hsecond, h⟩ := Program.conversation_bind_iff.1 h
  obtain ⟨hsweep2, hmeasured2, hsilent2, hnone2⟩ := conversation_sweepSlices hsecond
  obtain ⟨routes, third, _, told3, _, rfl, rfl, hthird, h⟩ := Program.conversation_bind_iff.1 h
  obtain ⟨hsweep3, hmeasured3, herrors3, hdeleted3⟩ := conversation_sweepRoutes_if hthird
  obtain ⟨rfl, hvalue, hgauges⟩ := conversation_report h
  rw [List.append_nil]
  have hsweeps : Sweeps scope snapshot (sweptKinds scope) (first ++ (second ++ third)) :=
    .cons hsweep1 (.cons hsweep2 hsweep3)
  obtain ⟨hzero1, hzero2, hzero3⟩ := hsweeps.tally_applied
  have hcomplaints : complaints (applies ++ (first ++ (second ++ third)))
      = progress.errors ++ services.errors ++ routes.errors := by
    rw [complaints_append, complaints_append, complaints_append, hsilent2, herrors, herrors1,
      herrors3, List.nil_append, List.append_assoc]
  have htally : tally (applies ++ (first ++ (second ++ third)))
      = ⟨progress.services, progress.endpoints, progress.routes,
          services.deleted + routes.deleted⟩ := by
    rw [tally_append, hzero1, hzero2, hzero3, hattempts.tally_deleted, hservices, hendpoints,
      hroutes, tally_append, tally_append, hnone2, hdeleted1, hdeleted3]
    simp
  refine ⟨.intro hattempts hsweeps, ?_, ?_⟩
  · rw [result, hcomplaints, htally]
    exact hvalue
  · simp only [Effect.measurements_append, strikes_append, hrecorded.measurements, hmeasured1,
      hmeasured2, hmeasured3, hgauges, gauges, htally, List.append_assoc]

end CatalogBridge.Sync
