import CatalogBridge.Proofs.Reconcile.Course
import CatalogBridge.Proofs.Sync.Stand

/-!
# The ledger of the loop

What a loop has done with snapshots and with the cluster: the snapshots that its
watcher finished and that its consumer received, its syncs with their exchanges,
and the resyncs that it skipped. All lists have the newest item first.

* `Ledger.run` keeps the ledger beside a run. It is written from what the loop is
  given and from where it then stands, and never from its metrics.
* `Serves` lists what an event can do to the consumer: nothing, skip a resync, begin
  a sync, or go on with the sync under way. Everything about the consumer is proved
  from these cases (`serves_step`).
* `Books` relates a loop to its ledger: the sync that the consumer holds is the
  newest of the ledger, all other ones are through unless the run is cancelled, and
  readiness and counters are what the ledger adds up to. `Books.serves` says that every
  event keeps this, and `Ledger.books_run` that it holds after every run.
-/

namespace CatalogBridge

/-! ## Syncs -/

/-- A sync of a loop: what began it, its snapshot, and what it has asked of the cluster so far. -/
structure Cycle where
  trigger : Trigger
  snapshot : Snapshot
  exchanges : List Exchange

namespace Cycle

variable {scope : Scope} {cycle : Cycle} {result : Except Error Summary}

/-- The request or the end that a sync has come to. -/
def stand? (scope : Scope) (cycle : Cycle) : Option (Program.Paused (Except Error Summary)) :=
  (Sync.cycle scope cycle.snapshot).stand? cycle.exchanges

/-- The result of a sync that is through. -/
def result? (scope : Scope) (cycle : Cycle) : Option (Except Error Summary) :=
  match cycle.stand? scope with
  | some (.done result) => some result
  | _ => none

/-- The sync is through, and without an error. -/
def succeeded (scope : Scope) (cycle : Cycle) : Bool :=
  match cycle.result? scope with
  | some (.ok _) => true
  | _ => false

/-- The sync is through, with an error. -/
def failed (scope : Scope) (cycle : Cycle) : Bool :=
  match cycle.result? scope with
  | some (.error _) => true
  | _ => false

/-- The sync after one more exchange. -/
def note (exchange : Exchange) (cycle : Cycle) : Cycle :=
  { cycle with exchanges := cycle.exchanges ++ [exchange] }

/-- The newest sync gets an answer. -/
def noteAnswer : Option Exchange → List Cycle → List Cycle
  | some exchange, cycle :: earlier => cycle.note exchange :: earlier
  | _, cycles => cycles

theorem result?_of_ask {call : ClusterCall}
    {next : Except Error call.Answer → Program (Except Error Summary)}
    (h : cycle.stand? scope = some (.ask call next)) : cycle.result? scope = none := by
  rw [result?, h]

theorem result?_of_done (h : cycle.stand? scope = some (.done result)) :
    cycle.result? scope = some result := by
  rw [result?, h]

/-- A sync that waits for an answer goes on to where the answer leads. -/
theorem stand?_note {call : ClusterCall}
    {next : Except Error call.Answer → Program (Except Error Summary)}
    (h : cycle.stand? scope = some (.ask call next)) (answer : Except Error call.Answer) :
    (cycle.note ⟨call, answer⟩).stand? scope = some (next answer).pause.2 :=
  Program.stand?_concat h answer

end Cycle

/-! ## Scores -/

/-- Readiness, and how many cycles were counted as successes and as failures. -/
structure Score where
  ready : Bool
  succeeded : Nat
  failed : Nat

namespace Score

variable {scope : Scope} {cycle : Cycle} {skipped : Nat} {earlier : List Cycle}

/-- The score after a sync that came to its end. -/
def count (score : Score) : Except Error Summary → Score
  | .ok _ => { score with ready := true, succeeded := score.succeeded + 1 }
  | .error _ => { score with failed := score.failed + 1 }

/-- The score after a resync that was skipped. -/
def skip (score : Score) : Score := { score with failed := score.failed + 1 }

/-- The score that some syncs and some skipped resyncs add up to. -/
def total (scope : Scope) (cycles : List Cycle) (skipped : Nat) : Score where
  ready := cycles.any (·.succeeded scope)
  succeeded := cycles.countP (·.succeeded scope)
  failed := cycles.countP (·.failed scope) + skipped

/-- A sync that is not through does not count. -/
theorem total_cons_of_none (h : cycle.result? scope = none) :
    total scope (cycle :: earlier) skipped = total scope earlier skipped := by
  have hsucceeded : cycle.succeeded scope = false := by rw [Cycle.succeeded, h]
  have hfailed : cycle.failed scope = false := by rw [Cycle.failed, h]
  simp [total, hsucceeded, hfailed]

theorem total_cons_of_some {result : Except Error Summary}
    (h : cycle.result? scope = some result) :
    total scope (cycle :: earlier) skipped = (total scope earlier skipped).count result := by
  cases result with
  | ok summary =>
    have hsucceeded : cycle.succeeded scope = true := by rw [Cycle.succeeded, h]
    have hfailed : cycle.failed scope = false := by rw [Cycle.failed, h]
    simp [total, count, hsucceeded, hfailed]
  | error error =>
    have hsucceeded : cycle.succeeded scope = false := by rw [Cycle.succeeded, h]
    have hfailed : cycle.failed scope = true := by rw [Cycle.failed, h]
    simp [total, count, hsucceeded, hfailed]
    omega

end Score

/-! ## What is entered -/

/-- Whether a sync is under way. -/
def Consumer.isSyncing : Consumer → Bool
  | .syncing _ _ _ => true
  | _ => false

namespace Loop

variable {loop later : Loop}

/-- The snapshot that the watcher has finished fetching from one moment to the next. -/
def fetched? (loop later : Loop) : Option Snapshot :=
  match loop.watcher.offered? with
  | none => later.watcher.offered?
  | some _ => none

/-- The snapshot that left the slot from one moment to the next. -/
def received? (loop later : Loop) : Option Snapshot :=
  match later.slot with
  | none => loop.slot
  | some _ => none

/-- The sync that begins. -/
def Entry.cycle? : Entry → Option Cycle
  | .began trigger snapshot => some ⟨trigger, snapshot, []⟩
  | .watch _ | .surveyed _ => none

/-- The answer that the sync under way gets. -/
def exchanged? (loop : Loop) : Event → Option Exchange
  | .answered call answer =>
    match loop.consumer with
    | .syncing _ pending _ =>
      if loop.cancelled = false ∧ call = pending then some ⟨call, answer⟩ else none
    | _ => none
  | _ => none

/-- The failure that makes a resync skip its cycle. -/
def skipped? (loop : Loop) : Event → Option Error
  | .surveyed input =>
    match loop.consumer, input with
    | .surveying .listing, .listed (.error error) => if loop.cancelled then none else some error
    | _, _ => none
  | _ => none

/-- The syncs that the consumer is not busy with. -/
def past (loop : Loop) (cycles : List Cycle) : List Cycle :=
  if loop.consumer.isSyncing then cycles.tail else cycles

/-- Readiness and counters of a loop. -/
def score (loop : Loop) : Score :=
  ⟨loop.ready, loop.metrics.reconcileSuccess, loop.metrics.reconcileError⟩

end Loop

/-- A loop with what it has done. -/
structure Ledger extends History where
  fetched : List Snapshot
  received : List Snapshot
  cycles : List Cycle
  skipped : List Error

namespace Ledger

/-- A loop that has just started has done nothing. -/
def start (scope : Scope) (interval : Duration) (pace : Pace) (now : Instant) : Ledger :=
  ⟨.start scope interval pace now, [], [], [], []⟩

/-- One event, with what is entered of it. -/
def step (ledger : Ledger) (event : Loop.Event) : Ledger :=
  let later := (ledger.loop.step event).loop
  { toHistory := ledger.toHistory.step event
    fetched := (ledger.loop.fetched? later).toList ++ ledger.fetched
    received := (ledger.loop.received? later).toList ++ ledger.received
    cycles := (ledger.loop.entries event).filterMap Loop.Entry.cycle? ++
      Cycle.noteAnswer (ledger.loop.exchanged? event) ledger.cycles
    skipped := (ledger.loop.skipped? event).toList ++ ledger.skipped }

/-- A loop after some events. -/
def run (ledger : Ledger) (events : List Loop.Event) : Ledger := events.foldl step ledger

/-- The ledger is kept beside the run and does not change it. -/
theorem toHistory_run (ledger : Ledger) (events : List Loop.Event) :
    (ledger.run events).toHistory = ledger.toHistory.run events := by
  induction events generalizing ledger with
  | nil => rfl
  | cons event rest ih => exact ih (ledger.step event)

theorem loop_run (ledger : Ledger) (events : List Loop.Event) :
    (ledger.run events).loop = (ledger.loop.run events).loop := by
  show (ledger.run events).toHistory.loop = _
  rw [toHistory_run, History.loop_run]

theorem run_append (ledger : Ledger) (front back : List Loop.Event) :
    ledger.run (front ++ back) = (ledger.run front).run back :=
  List.foldl_append

end Ledger

/-! ## What is counted -/

/-- Only a cycle that is counted moves the counters of cycles. -/
theorem Metrics.recordAll_of_uncounted {effects : List Effect} (h : Effect.Uncounted effects)
    (metrics : Metrics) :
    (metrics.recordAll (Effect.measurements effects)).reconcileSuccess = metrics.reconcileSuccess ∧
      (metrics.recordAll (Effect.measurements effects)).reconcileError
        = metrics.reconcileError := by
  unfold Effect.Uncounted at h
  generalize Effect.measurements effects = changes at h ⊢
  induction changes generalizing metrics with
  | nil => exact ⟨rfl, rfl⟩
  | cons change rest ih =>
    have hrest : ∀ outcome, Measurement.reconciled outcome ∉ rest :=
      fun outcome hcounted => h outcome (List.mem_cons_of_mem _ hcounted)
    obtain ⟨hsuccess, herror⟩ := ih (metrics.record change) hrest
    rw [Metrics.recordAll_cons, hsuccess, herror]
    cases change with
    | reconciled outcome => exact absurd List.mem_cons_self (h outcome)
    | services count | endpoints count | routes count | registryError | orchestratorError =>
      exact ⟨rfl, rfl⟩

theorem Effect.uncounted_nil : Effect.Uncounted [] := by
  intro outcome hcounted
  cases hcounted

theorem Fetch.uncounted_answer (trigger : Trigger) (fetch : Fetch) (position : Nat)
    (result : Except Error (List Instance)) :
    Effect.Uncounted (fetch.answer trigger position result).2.2 := by
  unfold answer
  cases fetch.awaited? position with
  | none => exact Effect.uncounted_nil
  | some name => cases result <;> simp [Effect.Uncounted, effectsOf, Effect.measurements]

theorem Watcher.uncounted_proceed {effects : List Effect} (h : Effect.Uncounted effects)
    (watcher : Watcher) (fetch : Fetch) (queries : List InstanceQuery) :
    Effect.Uncounted (watcher.proceed fetch queries effects).effects := by
  unfold proceed
  cases fetch.snapshot? <;> exact h

/-- The watcher counts no cycle. -/
theorem Watcher.uncounted_step (watcher : Watcher) (input : Input) :
    Effect.Uncounted (watcher.step input).effects := by
  have hacts := watcher.acts_step input
  generalize watcher.step input = reaction at hacts ⊢
  generalize watcher.noted input = noted at hacts
  cases hacts with
  | idle | stopped | woke | emitted => exact Effect.uncounted_nil
  | failed error => simp [Effect.Uncounted, onFailure, Effect.measurements]
  | told page =>
    simp only [onPage]
    split_ifs
    · simp [Effect.Uncounted, listFrom, Effect.measurements]
    · exact Effect.uncounted_nil
    · refine uncounted_proceed ?_ _ _ _
      simp [Effect.Uncounted, Effect.measurements]
  | @fetched fetch position result =>
    exact uncounted_proceed (fetch.uncounted_answer .watch position result) _ _ _

/-- A survey counts no cycle. -/
theorem Survey.uncounted_step (survey : Survey) (input : Input) :
    Effect.Uncounted (survey.step input).2 := by
  cases survey with
  | listing =>
    cases input with
    | listed answer => cases answer <;> simp [Effect.Uncounted, step, Effect.measurements]
    | fetched position result => exact Effect.uncounted_nil
  | fetching fetch =>
    cases input with
    | listed answer => cases answer <;> exact Effect.uncounted_nil
    | fetched position result => exact fetch.uncounted_answer .resync position result

namespace Loop

variable {loop later base : Loop} {requests : List Request}

theorem score_absorb {effects : List Effect} (h : Effect.Uncounted effects) :
    (loop.absorb effects).score = loop.score := by
  obtain ⟨hsuccess, herror⟩ := Metrics.recordAll_of_uncounted h loop.metrics
  simp only [score, absorb, hsuccess, herror]

/-! ## What an event can do to the consumer -/

/-- What no event takes back: the scope, that the run is cancelled, and that the loop is ready. -/
structure Frames (loop later : Loop) : Prop where
  scope : later.scope = loop.scope
  cancelled : loop.cancelled = true → later.cancelled = true
  ready : loop.ready = true → later.ready = true

/-- A sync goes on to its next request, or to its end, where it is counted. -/
inductive Advances (loop : Loop) (trigger : Trigger) (program : Program (Except Error Summary))
    (later : Loop) (requests : List Request) : Prop
  | asks {call : ClusterCall} {next : Except Error call.Answer → Program (Except Error Summary)}
      (hpause : program.pause.2 = .ask call next)
      (hconsumer : later.consumer = .syncing trigger call next)
      (hrequests : requests = [.cluster call])
      (hscore : Effect.Uncounted program.pause.1 → later.score = loop.score)
  | ends {result : Except Error Summary} (hpause : program.pause.2 = .done result)
      (hconsumer : later.consumer = .idle) (hrequests : requests = [])
      (hscore : Effect.Uncounted program.pause.1 → later.score = loop.score.count result)

/-- What an event can do to the consumer, with what is entered of it: a sync that begins, an answer
for the sync under way, or the failure that makes a resync skip its cycle. -/
inductive Serves (loop later : Loop) (requests : List Request) :
    List Cycle → Option Exchange → Option Error → Prop
  /-- The consumer goes on with what it does. -/
  | stays (hframes : loop.Frames later) (hconsumer : later.consumer = loop.consumer)
      (hrequests : ∀ call, .cluster call ∉ requests) (hscore : later.score = loop.score) :
      Serves loop later requests [] none none
  /-- The consumer turns to something else than a sync; it gives a sync up only if the run is
  cancelled. -/
  | turns (hframes : loop.Frames later)
      (hleft : loop.consumer.isSyncing = true → loop.cancelled = true)
      (hconsumer : later.consumer.isSyncing = false) (hrequests : ∀ call, .cluster call ∉ requests)
      (hscore : later.score = loop.score) : Serves loop later requests [] none none
  /-- A resync could not list the catalog. -/
  | skips (error : Error) (hactive : loop.cancelled = false) (hframes : loop.Frames later)
      (hleft : loop.consumer.isSyncing = false) (hconsumer : later.consumer = .idle)
      (hrequests : requests = []) (hscore : later.score = loop.score.skip) :
      Serves loop later requests [] none (some error)
  /-- A sync begins. -/
  | begins {trigger : Trigger} {snapshot : Snapshot} (hactive : loop.cancelled = false)
      (hframes : loop.Frames later) (hleft : loop.consumer.isSyncing = false)
      (hadvances : loop.Advances trigger (Sync.cycle loop.scope snapshot) later requests) :
      Serves loop later requests [⟨trigger, snapshot, []⟩] none none
  /-- The sync under way gets its answer. -/
  | goes {trigger : Trigger} {call : ClusterCall}
      {next : Except Error call.Answer → Program (Except Error Summary)}
      (answer : Except Error call.Answer) (hactive : loop.cancelled = false)
      (hframes : loop.Frames later) (hconsumer : loop.consumer = .syncing trigger call next)
      (hadvances : loop.Advances trigger (next answer) later requests) :
      Serves loop later requests [] (some ⟨call, answer⟩) none

theorem Serves.frames {begun : List Cycle} {answered : Option Exchange} {failure : Option Error}
    (h : loop.Serves later requests begun answered failure) : loop.Frames later := by
  cases h with
  | stays hframes | turns hframes | skips _ _ hframes | begins _ hframes | goes _ _ hframes =>
    exact hframes

theorem frames_refl (loop : Loop) : loop.Frames loop := ⟨rfl, id, id⟩

theorem Frames.trans {last : Loop} (h : loop.Frames later) (hlast : later.Frames last) :
    loop.Frames last where
  scope := hlast.scope.trans h.scope
  cancelled hcancelled := hlast.cancelled (h.cancelled hcancelled)
  ready hready := hlast.ready (h.ready hready)

theorem score_finish (loop : Loop) (trigger : Trigger) (result : Except Error Summary) :
    (loop.finish trigger result).loop.score = loop.score.count result := by
  cases result <;> rfl

theorem frames_advance (loop : Loop) (trigger : Trigger)
    (program : Program (Except Error Summary)) :
    loop.Frames (loop.advance trigger program).loop := by
  unfold advance
  generalize program.pause = reached
  obtain ⟨effects, paused⟩ := reached
  cases paused with
  | ask call next => exact ⟨rfl, id, id⟩
  | done result =>
    cases result with
    | ok summary => exact ⟨rfl, id, fun _ => rfl⟩
    | error error => exact ⟨rfl, id, id⟩

/-- Going on with a sync. -/
theorem advances_advance (loop : Loop) (trigger : Trigger)
    (program : Program (Except Error Summary)) :
    loop.Advances trigger program (loop.advance trigger program).loop
      (loop.advance trigger program).requests := by
  have hscore : Effect.Uncounted program.pause.1 →
      (loop.absorb program.pause.1).score = loop.score := score_absorb
  unfold advance
  cases hpause : program.pause with
  | mk effects paused =>
    rw [hpause] at hscore
    cases paused with
    | ask call next =>
      refine .asks (congrArg Prod.snd hpause) rfl rfl ?_
      rw [hpause]
      exact hscore
    | done result =>
      have hfinish := score_finish (loop.absorb effects) trigger result
      refine .ends (congrArg Prod.snd hpause) ?_ ?_ ?_
      · cases result <;> rfl
      · cases result <;> rfl
      · rw [hpause]
        intro huncounted
        rw [hscore huncounted] at hfinish
        exact hfinish

/-- A sync begins from a loop that differs from this one in nothing that it looks at. -/
theorem serves_begin {trigger : Trigger} {snapshot : Snapshot} (hactive : loop.cancelled = false)
    (hleft : loop.consumer.isSyncing = false) (hframes : loop.Frames base)
    (hscore : base.score = loop.score) :
    loop.Serves (base.begin trigger snapshot).loop (base.begin trigger snapshot).requests
      [⟨trigger, snapshot, []⟩] none none := by
  have hlater := base.frames_advance trigger (Sync.cycle base.scope snapshot)
  have hadvances := base.advances_advance trigger (Sync.cycle base.scope snapshot)
  refine .begins hactive (hframes.trans hlater) hleft ?_
  rw [← hframes.scope]
  cases hadvances with
  | asks hpause hconsumer hrequests hcounted =>
    exact .asks hpause hconsumer hrequests fun huncounted => (hcounted huncounted).trans hscore
  | ends hpause hconsumer hrequests hcounted =>
    exact .ends hpause hconsumer hrequests fun huncounted => hscore ▸ hcounted huncounted

theorem serves_stay (loop : Loop) : loop.Serves loop.stay.loop loop.stay.requests [] none none :=
  .stays loop.frames_refl rfl (fun _ hrequest => nomatch hrequest) rfl

theorem serves_abandon (h : loop.cancelled = true) :
    loop.Serves loop.abandon.loop loop.abandon.requests [] none none := by
  unfold abandon
  cases loop.consumer with
  | syncing trigger call next | surveying survey =>
    exact .turns ⟨rfl, id, id⟩ (fun _ => h) rfl (fun _ hrequest => nomatch hrequest) rfl
  | idle | ended result => exact loop.serves_stay

/-- Once the run is cancelled an answer only makes the consumer give up. -/
theorem serves_unlessCancelled {reaction : Reaction} {begun : List Cycle}
    {answered : Option Exchange} {failure : Option Error}
    (hgiven : loop.cancelled = true → begun = [] ∧ answered = none ∧ failure = none)
    (h : loop.cancelled = false →
      loop.Serves reaction.loop reaction.requests begun answered failure) :
    loop.Serves (loop.unlessCancelled reaction).loop (loop.unlessCancelled reaction).requests
      begun answered failure := by
  unfold unlessCancelled
  cases hcancelled : loop.cancelled with
  | true =>
    obtain ⟨rfl, rfl, rfl⟩ := hgiven hcancelled
    exact serves_abandon hcancelled
  | false => exact h hcancelled

/-- An input to the watcher does nothing to the consumer. -/
theorem serves_watchInput (base : Loop) (hframes : loop.Frames base)
    (hconsumer : base.consumer = loop.consumer) (hscore : base.score = loop.score)
    (input : Watcher.Input) :
    loop.Serves (base.watchInput input).loop (base.watchInput input).requests [] none none := by
  have hcounted : (base.absorb (base.watcher.step input).effects).score = base.score :=
    score_absorb (base.watcher.uncounted_step input)
  refine .stays ⟨hframes.scope, hframes.cancelled, hframes.ready⟩ hconsumer ?_
    (hcounted.trans hscore)
  intro call hrequest
  obtain ⟨request, _, hsame⟩ := List.mem_map.1 hrequest
  cases hsame

@[simp] theorem filterMap_cycle?_watch (entries : List Watcher.Entry) :
    (entries.map Entry.watch).filterMap Entry.cycle? = [] := by
  refine List.filterMap_eq_nil_iff.2 ?_
  intro entry hentry
  obtain ⟨seen, _, rfl⟩ := List.mem_map.1 hentry
  rfl

/-- A tick starts a survey. -/
theorem serves_tick (ticker : Ticker)
    (hleft : loop.consumer.isSyncing = true → loop.cancelled = true) :
    loop.Serves { loop with ticker := ticker, consumer := .surveying .listing } [.survey .list]
      [] none none :=
  .turns ⟨rfl, id, id⟩ hleft rfl (by simp) rfl

/-- The consumer ends the loop. -/
theorem serves_end (result : Except Error Unit)
    (hleft : loop.consumer.isSyncing = true → loop.cancelled = true) :
    loop.Serves { loop with consumer := .ended result } [] [] none none :=
  .turns ⟨rfl, id, id⟩ hleft rfl (fun _ hrequest => nomatch hrequest) rfl

/-- The consumer looks at its sources: it begins a sync if it takes a snapshot. -/
theorem serves_look (now : Instant) (hidle : loop.consumer = .idle) :
    loop.Serves (loop.look now).loop (loop.look now).requests
      ((loop.noted (.poll now)).filterMap Entry.cycle?) none none := by
  have hleft : loop.consumer.isSyncing = false := by rw [hidle]; rfl
  have hturns : loop.consumer.isSyncing = true → loop.cancelled = true := by simp [hleft]
  unfold look
  by_cases hcancelled : loop.cancelled = true
  · rw [if_pos hcancelled, noted_poll_of_due (by simp [hcancelled])]
    exact serves_end _ hturns
  · by_cases hdue : loop.ticker.isDue now = true
    · rw [if_neg hcancelled, if_pos hdue, noted_poll_of_due (by simp [hdue])]
      exact serves_tick _ hturns
    · rw [if_neg hcancelled, if_neg hdue]
      split
      · rename_i snapshot hslot
        have hnoted : loop.noted (.poll now) = [.began .watch snapshot] := by
          simp [noted, hidle, hslot, hcancelled, hdue]
        rw [hnoted]
        exact serves_begin (Bool.eq_false_iff.2 hcancelled) hleft ⟨rfl, id, id⟩ rfl
      · rename_i hslot
        rw [noted_poll_of_empty hslot]
        by_cases hstopped : loop.watcher.isStopped = true
        · rw [if_pos hstopped]
          exact serves_end _ hturns
        · rw [if_neg hstopped]
          exact loop.serves_stay

/-- A survey that has fetched goes on, or a sync of what it found begins. -/
theorem serves_proceed (hactive : loop.cancelled = false) (hleft : loop.consumer.isSyncing = false)
    {effects : List Effect} (heffects : Effect.Uncounted effects) (fetch : Fetch)
    (queries : List InstanceQuery) :
    loop.Serves ((loop.absorb effects).onSurvey (Survey.proceed fetch queries)).loop
      ((loop.absorb effects).onSurvey (Survey.proceed fetch queries)).requests
      ((begun (Survey.proceed fetch queries)).filterMap Entry.cycle?) none none := by
  have hscore : (loop.absorb effects).score = loop.score := score_absorb heffects
  unfold Survey.proceed
  cases fetch.snapshot? with
  | none => exact .turns ⟨rfl, id, id⟩ (by simp [hleft]) rfl (by simp [onSurvey]) hscore
  | some snapshot => exact serves_begin hactive hleft ⟨rfl, id, id⟩ hscore

/-- An answer reaches the survey of a resync. -/
theorem serves_survey {survey : Survey} (hactive : loop.cancelled = false)
    (hconsumer : loop.consumer = .surveying survey) (input : Survey.Input) :
    loop.Serves ((loop.absorb (survey.step input).2).onSurvey (survey.step input).1).loop
      ((loop.absorb (survey.step input).2).onSurvey (survey.step input).1).requests
      ((surveyNoted survey input).filterMap Entry.cycle?) none
      (loop.skipped? (.surveyed input)) := by
  have hleft : loop.consumer.isSyncing = false := by rw [hconsumer]; rfl
  have huncounted := survey.uncounted_step input
  have hscore : (loop.absorb (survey.step input).2).score = loop.score := score_absorb huncounted
  cases survey with
  | listing =>
    cases input with
    | listed answer =>
      cases answer with
      | ok page =>
        simp only [skipped?, hconsumer, surveyNoted, List.filterMap_append, Survey.step]
        rw [List.filterMap_cons_none rfl, List.filterMap_nil, List.append_nil]
        exact serves_proceed hactive hleft Effect.uncounted_nil _ _
      | error error =>
        simp only [skipped?, hconsumer, hactive, Bool.false_eq_true, if_false]
        exact .skips error hactive ⟨rfl, id, id⟩ hleft rfl rfl (congrArg Score.skip hscore)
    | fetched position result =>
      simp only [skipped?, hconsumer]
      exact .stays ⟨rfl, id, id⟩ hconsumer.symm (by simp [Survey.step, onSurvey]) hscore
  | fetching fetch =>
    simp only [skipped?, hconsumer]
    cases input with
    | listed answer =>
      cases answer <;>
        exact .stays ⟨rfl, id, id⟩ hconsumer.symm (by simp [Survey.step, onSurvey]) hscore
    | fetched position result => exact serves_proceed hactive hleft huncounted _ _

theorem skipped?_of_cancelled (h : loop.cancelled = true) (event : Event) :
    loop.skipped? event = none := by
  unfold skipped?
  split
  · split <;> simp [h]
  · rfl

theorem exchanged?_of_cancelled (h : loop.cancelled = true) (event : Event) :
    loop.exchanged? event = none := by
  unfold exchanged?
  split
  · split <;> simp [h]
  · rfl

theorem serves_step (loop : Loop) (event : Event) :
    loop.Serves (loop.step event).loop (loop.step event).requests
      ((loop.entries event).filterMap Entry.cycle?) (loop.exchanged? event)
      (loop.skipped? event) := by
  unfold entries
  cases event with
  | watchListed answer | watchWoke | watchFetched position answer | watchDied =>
    rw [watchInput?, filterMap_cycle?_watch]
    exact serves_watchInput loop loop.frames_refl rfl rfl _
  | watchCancelled =>
    by_cases hcancelled : loop.cancelled = true
    · simp only [watchInput?, step, hcancelled, if_true, filterMap_cycle?_watch]
      exact serves_watchInput loop loop.frames_refl rfl rfl _
    · simp only [watchInput?, step, hcancelled]
      exact loop.serves_stay
  | handOver =>
    simp only [watchInput?, step]
    cases loop.watcher.offered? with
    | none => exact loop.serves_stay
    | some snapshot =>
      cases hconsumer : loop.consumer with
      | ended result =>
        simp only [filterMap_cycle?_watch]
        exact serves_watchInput loop loop.frames_refl rfl rfl .refused
      | idle | surveying survey | syncing trigger call next =>
        cases hslot : loop.slot with
        | none =>
          simp only [filterMap_cycle?_watch]
          refine serves_watchInput _ ?_ hconsumer.symm ?_ .accepted
          · exact ⟨rfl, id, id⟩
          · rfl
        | some other => exact loop.serves_stay
  | poll now =>
    simp only [watchInput?, step]
    cases hconsumer : loop.consumer with
    | idle => exact serves_look now hconsumer
    | ended result =>
      simp only [noted, hconsumer]
      exact loop.serves_stay
    | surveying survey | syncing trigger call next =>
      simp only [noted, hconsumer]
      exact serves_unlessCancelled (fun _ => ⟨rfl, rfl, rfl⟩) fun _ => loop.serves_stay
  | surveyed input =>
    simp only [watchInput?, noted, step]
    cases hconsumer : loop.consumer with
    | surveying survey =>
      refine serves_unlessCancelled (fun hcancelled => ?_) fun hactive => ?_
      · exact ⟨by simp [hcancelled], rfl, skipped?_of_cancelled hcancelled _⟩
      · simp only [hactive, Bool.false_eq_true, if_false]
        exact serves_survey hactive hconsumer input
    | idle | syncing trigger call next | ended result =>
      simp only [skipped?, hconsumer]
      exact loop.serves_stay
  | answered call answer =>
    simp only [watchInput?, noted, step]
    cases hconsumer : loop.consumer with
    | syncing trigger pending next =>
      refine serves_unlessCancelled (fun hcancelled => ?_) fun hactive => ?_
      · exact ⟨rfl, exchanged?_of_cancelled hcancelled _, rfl⟩
      · simp only [exchanged?, hconsumer, hactive, true_and]
        by_cases hcall : call = pending
        · subst hcall
          simp only [if_true, dif_pos]
          exact .goes answer hactive (loop.frames_advance _ _) hconsumer
            (loop.advances_advance _ _)
        · rw [if_neg hcall, dif_neg hcall]
          exact loop.serves_stay
    | idle | surveying survey | ended result =>
      simp only [exchanged?, hconsumer]
      exact loop.serves_stay
  | cancel => exact .stays ⟨rfl, fun _ => rfl, id⟩ rfl (fun _ => List.not_mem_nil) rfl

/-! ## A loop and its ledger -/

/-- The syncs and the skipped resyncs of the ledger are those of the loop. -/
structure Books (scope : Scope) (loop : Loop) (cycles : List Cycle) (skipped : List Error) :
    Prop where
  sameScope : loop.scope = scope
  /-- What a sync has exchanged with the cluster is what its program asks. -/
  own : ∀ cycle ∈ cycles, ∃ paused, cycle.stand? scope = some paused
  /-- The sync under way is the newest. -/
  busy : ∀ trigger call next, loop.consumer = .syncing trigger call next →
    ∃ cycle earlier, cycles = cycle :: earlier ∧ cycle.trigger = trigger ∧
      cycle.stand? scope = some (.ask call next)
  /-- Only a cancelled run gives syncs up. -/
  through : loop.cancelled = false →
    ∀ cycle ∈ loop.past cycles, ∃ result, cycle.result? scope = some result
  score : loop.score = .total scope cycles skipped.length

variable {scope : Scope} {cycles earlier : List Cycle} {skipped : List Error}

/-- The newest sync goes on. -/
theorem Advances.books {cycle : Cycle} {program : Program (Except Error Summary)}
    (hadvances : loop.Advances cycle.trigger program later requests)
    (huncounted : Effect.Uncounted program.pause.1)
    (hstand : cycle.stand? scope = some program.pause.2) (hscope : later.scope = scope)
    (hown : ∀ other ∈ earlier, ∃ paused, other.stand? scope = some paused)
    (hthrough : ∀ other ∈ earlier, ∃ result, other.result? scope = some result)
    (hscore : loop.score = .total scope earlier skipped.length) :
    later.Books scope (cycle :: earlier) skipped := by
  have hall : ∀ other ∈ cycle :: earlier, ∃ paused, other.stand? scope = some paused :=
    List.forall_mem_cons.2 ⟨⟨_, hstand⟩, hown⟩
  cases hadvances with
  | @asks call next hpause hconsumer _ hcounted =>
    rw [hpause] at hstand
    refine ⟨hscope, hall, ?_, ?_, ?_⟩
    · intro trigger other rest hother
      obtain ⟨rfl, rfl, hrest⟩ := Consumer.syncing.inj (hconsumer.symm.trans hother)
      obtain rfl := eq_of_heq hrest
      exact ⟨cycle, earlier, rfl, rfl, hstand⟩
    · rw [past, hconsumer]
      exact fun _ => hthrough
    · rw [hcounted huncounted, hscore, Score.total_cons_of_none (Cycle.result?_of_ask hstand)]
  | @ends result hpause hconsumer _ hcounted =>
    rw [hpause] at hstand
    have hresult := Cycle.result?_of_done hstand
    refine ⟨hscope, hall, ?_, ?_, ?_⟩
    · intro trigger call next hother
      cases hconsumer.symm.trans hother
    · rw [past, hconsumer]
      exact fun _ => List.forall_mem_cons.2 ⟨⟨result, hresult⟩, hthrough⟩
    · rw [hcounted huncounted, hscore, Score.total_cons_of_some hresult]

theorem past_of_not_isSyncing (h : loop.consumer.isSyncing = false) (cycles : List Cycle) :
    loop.past cycles = cycles := by
  rw [past, h, if_neg Bool.false_ne_true]

/-- While no sync is under way, all of them are through. -/
theorem Books.through_of_free (h : loop.Books scope cycles skipped)
    (hactive : loop.cancelled = false) (hfree : loop.consumer.isSyncing = false) :
    ∀ cycle ∈ cycles, ∃ result, cycle.result? scope = some result := by
  have hthrough := h.through hactive
  rw [past_of_not_isSyncing hfree] at hthrough
  exact hthrough

/-- Whatever an event does to the consumer, the ledger is about the loop. -/
theorem Books.serves {begun : List Cycle} {answered : Option Exchange} {failure : Option Error}
    (h : loop.Books scope cycles skipped)
    (hserves : loop.Serves later requests begun answered failure) :
    later.Books scope (begun ++ Cycle.noteAnswer answered cycles)
      (failure.toList ++ skipped) := by
  have hframes := hserves.frames
  have hscope := hframes.scope.trans h.sameScope
  have hactive : later.cancelled = false → loop.cancelled = false := by
    intro hlater
    by_contra hcancelled
    have hkept := hframes.cancelled (Bool.eq_true_of_not_eq_false hcancelled)
    exact Bool.false_ne_true (hlater.symm.trans hkept)
  cases hserves with
  | stays _ hconsumer _ hscore =>
    refine ⟨hscope, h.own, ?_, ?_, hscore.trans h.score⟩
    · rw [hconsumer]
      exact h.busy
    · intro hlater
      rw [past, hconsumer]
      exact h.through (hactive hlater)
  | turns _ hleft hconsumer _ hscore =>
    refine ⟨hscope, h.own, ?_, ?_, hscore.trans h.score⟩
    · intro trigger call next hbusy
      rw [hbusy] at hconsumer
      cases hconsumer
    · intro hlater
      have hfree : loop.consumer.isSyncing = false := by
        by_contra hbusy
        have hcancelled := hleft (Bool.eq_true_of_not_eq_false hbusy)
        exact Bool.false_ne_true ((hactive hlater).symm.trans hcancelled)
      rw [past_of_not_isSyncing hconsumer]
      exact h.through_of_free (hactive hlater) hfree
  | skips error _ _ hleft hconsumer _ hscore =>
    refine ⟨hscope, h.own, ?_, ?_, hscore.trans (congrArg Score.skip h.score)⟩
    · intro trigger call next hbusy
      cases hconsumer.symm.trans hbusy
    · intro hlater
      rw [past, hconsumer]
      exact h.through_of_free (hactive hlater) hleft
  | @begins trigger snapshot hrunning _ hleft hadvances =>
    rw [h.sameScope] at hadvances
    exact Advances.books hadvances (Sync.uncounted_pause scope snapshot) rfl hscope h.own
      (h.through_of_free hrunning hleft) h.score
  | @goes trigger call next answer hrunning _ hconsumer hadvances =>
    obtain ⟨cycle, earlier, rfl, rfl, hstand⟩ := h.busy _ _ _ hconsumer
    have hthrough := h.through hrunning
    have hscore := h.score
    rw [past, hconsumer] at hthrough
    rw [Score.total_cons_of_none (Cycle.result?_of_ask hstand)] at hscore
    exact Advances.books hadvances
      (Sync.uncounted_of_stand? hstand answer) (Cycle.stand?_note hstand answer) hscope
      (List.forall_mem_cons.1 h.own).2 hthrough hscore

end Loop

namespace Ledger

variable {ledger : Ledger} {scope : Scope}

theorem books_start (scope : Scope) (interval : Duration) (pace : Pace) (now : Instant) :
    (start scope interval pace now).loop.Books scope (start scope interval pace now).cycles
      (start scope interval pace now).skipped where
  sameScope := rfl
  own := by
    intro cycle hcycle
    cases hcycle
  busy := by
    intro trigger call next hbusy
    cases hbusy
  through := by
    intro _ cycle hcycle
    cases hcycle
  score := rfl

/-- The ledger is about the loop, in whatever order things happen. -/
theorem books_run (h : ledger.loop.Books scope ledger.cycles ledger.skipped)
    (events : List Loop.Event) :
    (ledger.run events).loop.Books scope (ledger.run events).cycles
      (ledger.run events).skipped := by
  induction events generalizing ledger with
  | nil => exact h
  | cons event rest ih => exact ih (h.serves (ledger.loop.serves_step event))

end Ledger

end CatalogBridge
