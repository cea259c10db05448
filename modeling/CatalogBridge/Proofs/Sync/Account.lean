import CatalogBridge.Proofs.Sync.Course
import Mathlib.Algebra.GroupWithZero.Nat

/-!
# The account that a cycle gives

Every request of a cycle may be answered in any way. This module says what the
cycle makes of the answers: which failures it returns, how far it moves the
counter of failures, and which numbers it sets the gauges to.

* A `Turn` is what was asked for one service of the snapshot. `exists_turns`
  cuts the applies of a cycle into turns, one for every service, so that the
  numbers can be given service by service.
* `tally_turns` counts what succeeded in the turns. The sweeps apply nothing, and
  `tally_routes` and `tally_deleted` read the routes and the deletes off the exchanges.
* `account_of_cycle` puts the parts together, for every behaviour of the cluster.

The failures that a cycle returns are the `complaints` of its exchanges: one for
every failed request that is reported, in the order of the requests.
-/

namespace CatalogBridge

namespace Exchange

/-- The exchange applied an object of this kind. -/
def applies (kind : Kind) : Exchange → Bool
  | ⟨.applyService _, .ok _⟩ => kind = .service
  | ⟨.applySlice _, .ok _⟩ => kind = .endpointSlice
  | ⟨.applyRoute _, .ok _⟩ => kind = .httpRoute
  | _ => false

/-- The exchange deleted an object of this kind. -/
def deletes (kind : Kind) : Exchange → Bool
  | ⟨.delete other _, .ok _⟩ => kind = other
  | _ => false

end Exchange

namespace Sync

variable {scope : Scope} {snapshot : Snapshot}

/-! ## Turns -/

/-- What was asked for one service of a snapshot. -/
structure Turn where
  state : ServiceState
  exchanges : List Exchange

namespace Turn

/-- A service that asks for nothing gets an empty turn, and any other one gets an attempt. -/
inductive Taken (scope : Scope) (turn : Turn) : Prop
  | skipped (hdemand : demand? scope turn.state = none) (hexchanges : turn.exchanges = [])
  | tried (demand : Demand) (hdemand : demand? scope turn.state = some demand)
      (hattempt : Attempt scope demand turn.exchanges)

/-- The service and the slice of the turn were both applied. -/
def synced (turn : Turn) : Bool :=
  turn.exchanges.any (·.applies .service) && turn.exchanges.any (·.applies .endpointSlice)

/-- The number of endpoints in the slice of the turn's service. -/
def endpoints (scope : Scope) (turn : Turn) : Nat :=
  ((projection? scope turn.state).map (·.endpoints)).getD 0

end Turn

/-- Attempts at what a snapshot asks for are turns of its services. -/
theorem exists_turns {exchanges : List Exchange}
    (h : Attempts scope (demands scope snapshot) exchanges) :
    ∃ turns : List Turn, turns.map (·.state) = snapshot ∧
      exchanges = turns.flatMap (·.exchanges) ∧ ∀ turn ∈ turns, turn.Taken scope := by
  induction snapshot generalizing exchanges with
  | nil =>
    cases h
    exact ⟨[], rfl, rfl, by simp⟩
  | cons state rest ih =>
    cases hdemand : demand? scope state with
    | none =>
      rw [demands, List.filterMap_cons_none hdemand] at h
      obtain ⟨turns, hstates, hexchanges, htaken⟩ := ih h
      have hfirst : Turn.Taken scope ⟨state, []⟩ := .skipped hdemand rfl
      exact ⟨⟨state, []⟩ :: turns, by simp [hstates], by simp [hexchanges],
        List.forall_mem_cons.2 ⟨hfirst, htaken⟩⟩
    | some demand =>
      rw [demands, List.filterMap_cons_some hdemand] at h
      cases h with
      | @cons _ _ front back hfront hback =>
        obtain ⟨turns, hstates, hexchanges, htaken⟩ := ih hback
        have hfirst : Turn.Taken scope ⟨state, front⟩ := .tried demand hdemand hfront
        exact ⟨⟨state, front⟩ :: turns, by simp [hstates], by simp [hexchanges],
          List.forall_mem_cons.2 ⟨hfirst, htaken⟩⟩

/-! ## What succeeded -/

/-- Routes are counted where they are applied. -/
theorem tally_routes (exchanges : List Exchange) :
    (tally exchanges).routes = exchanges.countP (·.applies .httpRoute) := by
  change total (·.tally.routes) exchanges = _
  induction exchanges with
  | nil => rfl
  | cons exchange rest ih =>
    have hfirst : exchange.tally.routes = if exchange.applies .httpRoute then 1 else 0 := by
      obtain ⟨call, answer⟩ := exchange
      cases call with
      | delete kind name => cases kind <;> cases answer <;> rfl
      | _ => cases answer <;> rfl
    rw [total_cons, ih, hfirst, List.countP_cons, Nat.add_comm]

/-- Deletes are counted for services and for routes, not for slices. -/
theorem tally_deleted (exchanges : List Exchange) : (tally exchanges).deleted
    = exchanges.countP (·.deletes .service) + exchanges.countP (·.deletes .httpRoute) := by
  change total (·.tally.deleted) exchanges = _
  induction exchanges with
  | nil => rfl
  | cons exchange rest ih =>
    have hfirst : exchange.tally.deleted = (if exchange.deletes .service then 1 else 0)
        + if exchange.deletes .httpRoute then 1 else 0 := by
      obtain ⟨call, answer⟩ := exchange
      cases call with
      | delete kind name => cases kind <;> cases answer <;> rfl
      | _ => cases answer <;> rfl
    rw [total_cons, ih, hfirst, List.countP_cons, List.countP_cons]
    omega

/-- Applies of routes are no services and have no endpoints. -/
theorem tally_of_routes {routes : List Exchange} {calls : List HttpRoute}
    (h : routes.map (·.call) = calls.map .applyRoute) :
    (tally routes).services = 0 ∧ (tally routes).endpoints = 0 := by
  have hnone : ∀ exchange ∈ routes,
      exchange.tally.services = 0 ∧ exchange.tally.endpoints = 0 := by
    intro exchange hexchange
    have hcall : exchange.call ∈ calls.map .applyRoute := by
      rw [← h]
      exact List.mem_map.2 ⟨exchange, hexchange, rfl⟩
    obtain ⟨route, _, hroute⟩ := List.mem_map.1 hcall
    obtain ⟨call, answer⟩ := exchange
    obtain rfl : ClusterCall.applyRoute route = call := hroute
    cases answer <;> exact ⟨rfl, rfl⟩
  exact ⟨total_eq_zero fun exchange hexchange => (hnone exchange hexchange).1,
    total_eq_zero fun exchange hexchange => (hnone exchange hexchange).2⟩

/-- A turn adds one service and the endpoints of its slice if both were applied, and else
nothing. -/
theorem Turn.Taken.tally {turn : Turn} (h : turn.Taken scope) :
    (tally turn.exchanges).services = (if turn.synced then 1 else 0) ∧
      (tally turn.exchanges).endpoints = if turn.synced then turn.endpoints scope else 0 := by
  cases h with
  | skipped hdemand hexchanges => simp [Turn.synced, hexchanges, Sync.tally]
  | tried demand hdemand hattempt =>
    have hendpoints : turn.endpoints scope = demand.projection.endpoints := by
      obtain ⟨projection, hprojection, rfl⟩ := Option.map_eq_some_iff.1 hdemand
      simp [Turn.endpoints, hprojection]
    rw [hendpoints]
    unfold Turn.synced
    generalize turn.exchanges = exchanges at hattempt
    cases hattempt with
    | serviceFailed error | sliceFailed error =>
      simp [Exchange.applies, Sync.tally, Exchange.tally]
    | applied routes hroutes =>
      have hnone := tally_of_routes (hroutes.trans (List.map_map (f := demand.route scope)
        (g := ClusterCall.applyRoute) (l := demand.gateways)).symm)
      have hservices : total (·.tally.services) routes = 0 := hnone.1
      have haddresses : total (·.tally.endpoints) routes = 0 := hnone.2
      have hservice : Exchange.tally ⟨.applyService demand.projection.service, .ok ()⟩
          = ⟨0, 0, 0, 0⟩ := rfl
      have hslice : Exchange.tally ⟨.applySlice demand.projection.slice, .ok ()⟩
          = ⟨1, demand.projection.endpoints, 0, 0⟩ := rfl
      simp [Exchange.applies, Sync.tally, hservice, hslice, hservices, haddresses]

/-- The services of turns are those whose service and slice were both applied, and their endpoints
are those of these slices. -/
theorem tally_turns {turns : List Turn} (h : ∀ turn ∈ turns, turn.Taken scope) :
    (tally (turns.flatMap (·.exchanges))).services = turns.countP (·.synced) ∧
      (tally (turns.flatMap (·.exchanges))).endpoints
        = ((turns.filter (·.synced)).map (·.endpoints scope)).sum := by
  induction turns with
  | nil => exact ⟨rfl, rfl⟩
  | cons turn rest ih =>
    obtain ⟨hservices, hendpoints⟩ := (h turn List.mem_cons_self).tally
    obtain ⟨hrest, hrestEndpoints⟩ := ih fun other hother => h other (List.mem_cons_of_mem _ hother)
    rw [List.flatMap_cons, tally_append]
    dsimp only
    rw [hservices, hendpoints, hrest, hrestEndpoints, List.countP_cons, List.filter_cons]
    by_cases hsynced : turn.synced = true
    · simp [hsynced, Nat.add_comm]
    · simp [hsynced]

/-! ## What failed -/

/-- Something is reported exactly if a request that is reported failed. -/
theorem complaints_ne_nil_iff {exchanges : List Exchange} : complaints exchanges ≠ [] ↔
    ∃ exchange ∈ exchanges, exchange.Failed ∧ exchange.call.isReported = true := by
  rw [complaints, Ne, List.filterMap_eq_nil_iff, not_forall]
  refine exists_congr fun exchange => ?_
  rw [Classical.not_imp]
  refine and_congr_right fun _ => ?_
  obtain ⟨call, answer⟩ := exchange
  cases answer with
  | ok value => simp [Exchange.complaint?, Exchange.failure?, Exchange.Failed]
  | error error => simp [Exchange.complaint?, Exchange.failure?, Exchange.Failed]

/-- The changes of the counter of failures add up to the number of requests that failed, and then
the gauges are set. -/
theorem recordAll_strikes (exchanges : List Exchange) (metrics : Metrics) :
    metrics.recordAll (strikes exchanges) = { metrics with
      orchestratorErrors := metrics.orchestratorErrors + exchanges.countP (·.Failed) } := by
  induction exchanges generalizing metrics with
  | nil => rfl
  | cons exchange rest ih =>
    obtain ⟨call, answer⟩ := exchange
    cases answer with
    | ok value =>
      have hok : ¬ (⟨call, .ok value⟩ : Exchange).Failed := Exchange.not_failed_ok call value
      have hstrikes : strikes (⟨call, .ok value⟩ :: rest) = strikes rest := rfl
      rw [hstrikes, ih, List.countP_cons_of_neg (by simpa using hok)]
    | error error =>
      have hfailed : (⟨call, .error error⟩ : Exchange).Failed := Exchange.failed_error call error
      have hstrikes : strikes (⟨call, .error error⟩ :: rest) = .orchestratorError :: strikes rest :=
        rfl
      rw [hstrikes, Metrics.recordAll_cons, ih, List.countP_cons_of_pos (by simpa using hfailed)]
      simp only [Metrics.record, Nat.add_assoc, Nat.add_comm 1]

/-! ## The account -/

/-- What a cycle returns and how it leaves the metrics, whatever the cluster answers.

It returns the complaints of its exchanges if a request failed that is reported, and else what
succeeded. In both cases the counter of failures grows by the number of requests that failed, and
the gauges show what succeeded, service by service; the gauge of routes is set only if routes are
made. -/
theorem account_of_cycle {σ : Type} (scope : Scope) (snapshot : Snapshot)
    (behaviour : Program.Behaviour σ) (start : σ) (metrics : Metrics) :
    let ran := (cycle scope snapshot).run behaviour start
    let exchanges := (cycle scope snapshot).exchanges behaviour start
    ∃ (turns : List Turn) (sweeps : List Exchange),
      exchanges = turns.flatMap (·.exchanges) ++ sweeps ∧
      turns.map (·.state) = snapshot ∧ (∀ turn ∈ turns, turn.Taken scope) ∧
      Sweeps scope snapshot (sweptKinds scope) sweeps ∧
      ((∃ error, ran.value = .error error) ↔
        ∃ exchange ∈ exchanges, exchange.Failed ∧ exchange.call.isReported = true) ∧
      (∀ error, ran.value = .error error → error = .sync (complaints exchanges)) ∧
      (∀ summary, ran.value = .ok summary → summary = {
        services := turns.countP (·.synced)
        endpoints := ((turns.filter (·.synced)).map (·.endpoints scope)).sum
        routes := exchanges.countP (·.applies .httpRoute)
        deleted := exchanges.countP (·.deletes .service)
          + exchanges.countP (·.deletes .httpRoute) }) ∧
      metrics.recordAll (Effect.measurements ran.effects) = { metrics with
        services := turns.countP (·.synced)
        endpoints := ((turns.filter (·.synced)).map (·.endpoints scope)).sum
        routes := if scope.routes.enabled then exchanges.countP (·.applies .httpRoute)
          else metrics.routes
        orchestratorErrors := metrics.orchestratorErrors + exchanges.countP (·.Failed) } := by
  have hcycle := conversation_cycle
    (Program.conversation_run behaviour (cycle scope snapshot) start)
  dsimp only
  generalize (cycle scope snapshot).run behaviour start = ran at hcycle ⊢
  generalize (cycle scope snapshot).exchanges behaviour start = exchanges at hcycle ⊢
  obtain ⟨⟨happlies, hsweeps⟩, hvalue, hmeasured⟩ := hcycle
  rename_i applies sweeps
  obtain ⟨turns, hstates, rfl, htaken⟩ := exists_turns happlies
  obtain ⟨hservices, hendpoints⟩ := tally_turns htaken
  obtain ⟨hnoServices, hnoEndpoints, _⟩ := hsweeps.tally_applied
  -- The sweeps apply nothing, so the turns give the first two numbers of the whole cycle.
  have htally : tally (turns.flatMap (·.exchanges) ++ sweeps) = {
      services := turns.countP (·.synced)
      endpoints := ((turns.filter (·.synced)).map (·.endpoints scope)).sum
      routes := (turns.flatMap (·.exchanges) ++ sweeps).countP (·.applies .httpRoute)
      deleted := (turns.flatMap (·.exchanges) ++ sweeps).countP (·.deletes .service)
        + (turns.flatMap (·.exchanges) ++ sweeps).countP (·.deletes .httpRoute) } := by
    rw [← tally_routes, ← tally_deleted, tally_append, hservices, hendpoints, hnoServices,
      hnoEndpoints, Nat.add_zero, Nat.add_zero]
  refine ⟨turns, sweeps, rfl, hstates, htaken, hsweeps, ?_, ?_, ?_, ?_⟩
  · rw [hvalue, ← complaints_ne_nil_iff, result]
    cases hcomplaints : complaints (turns.flatMap (·.exchanges) ++ sweeps) <;> simp [Error.join]
  · intro error herror
    rw [hvalue, result] at herror
    cases hcomplaints : complaints (turns.flatMap (·.exchanges) ++ sweeps) with
    | nil => simp [hcomplaints, Error.join] at herror
    | cons first rest => simpa [hcomplaints, Error.join, eq_comm] using herror
  · intro summary hsummary
    rw [hvalue, result] at hsummary
    cases hcomplaints : complaints (turns.flatMap (·.exchanges) ++ sweeps) with
    | nil =>
      rw [← htally]
      simpa [hcomplaints, Error.join, eq_comm] using hsummary
    | cons first rest => simp [hcomplaints, Error.join] at hsummary
  · rw [hmeasured, Metrics.recordAll_append, recordAll_strikes, gauges, htally]
    by_cases henabled : scope.routes.enabled = true <;> simp [henabled, Metrics.record]

end Sync

end CatalogBridge
