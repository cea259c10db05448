import CatalogBridge.Proofs.Reconcile.Handoff

/-!
# The schedule of cycles

When cycles start. A cycle starts when the consumer takes a snapshot of the watch, or
when it serves a tick and begins to list the catalog for a resync. Only a look at the
sources starts one, so the moment of a start is the moment of the look.

* `Loop.starts` reads the starts off a run, each with the moment at which the next
  tick was due. `opens_step` lists what an event can start.
* `Schedule` says which starts a timer allows: a sync of the watch only before the tick
  is due, a resync only from then on. `schedule_run` says that every run keeps to it.
* What holds of every schedule is proved by induction on it: the tick of a resync falls
  due after all syncs of the watch before it (`Schedule.watch_lt_due`), and the resyncs
  keep their distance (`Schedule.spaced`).
* `resync_first_of_run` and `resyncs_apart_of_run` put this together for every run.
-/

namespace CatalogBridge

/-- A cycle that starts: what triggers it, the moment, and when the tick that was not served yet was
due at that moment. -/
structure Start where
  trigger : Trigger
  moment : Instant
  due : Instant
  deriving DecidableEq, Repr

/-- Whether the survey of a resync is under way. -/
def Consumer.isSurveying : Consumer → Bool
  | .surveying _ => true
  | _ => false

theorem Consumer.isSurveying_eq_false {consumer : Consumer}
    (h : ∀ survey, consumer ≠ .surveying survey) : consumer.isSurveying = false := by
  unfold isSurveying
  split
  · exact absurd rfl (h _)
  · rfl

namespace Loop

variable {loop later : Loop} {event : Event}

/-! ## What starts a cycle -/

/-- The cycle that starts from one moment to the next: a snapshot leaves the slot, or the consumer
begins a survey. -/
def started? (loop later : Loop) : Option Trigger :=
  match loop.received? later, loop.consumer, later.consumer with
  | some _, _, _ => some .watch
  | none, .idle, .surveying _ => some .resync
  | none, _, _ => none

/-- The start of a cycle at a look of the consumer. -/
def start? (loop : Loop) : Event → Option Start
  | .poll now =>
    (loop.started? (loop.step (.poll now)).loop).map fun trigger => ⟨trigger, now, loop.ticker.due⟩
  | _ => none

/-- The starts of a run, oldest first. -/
def starts : Loop → List Event → List Start
  | _, [] => []
  | loop, event :: rest => (loop.start? event).toList ++ (loop.step event).loop.starts rest

/-- Whether a request is the listing of a resync. -/
def Request.lists : Request → Bool
  | .survey .list => true
  | .survey (.instances _) | .watch _ | .cluster _ => false

/-- What an event can start. -/
inductive Opens (loop : Loop) (event : Event) (later : Loop) (requests : List Request) : Prop
  /-- A sync of the watch. No tick is due, and the timer is left alone. -/
  | watch (now : Instant) (hevent : event = .poll now) (hdue : now < loop.ticker.due)
      (hstarted : loop.started? later = some .watch) (hticker : later.ticker = loop.ticker)
      (hrequests : ∀ request ∈ requests, request.lists = false)
  /-- A resync. The tick that is due is served. -/
  | resync (now : Instant) (hevent : event = .poll now) (hdue : loop.ticker.due ≤ now)
      (hstarted : loop.started? later = some .resync)
      (hticker : later.ticker = loop.ticker.serve now) (hrequests : requests = [.survey .list])
  /-- Nothing. A survey that is under way afterwards was so before. -/
  | nothing (hstarted : loop.started? later = none) (hticker : later.ticker = loop.ticker)
      (hsurvey : later.consumer.isSurveying = true → loop.consumer.isSurveying = true)
      (hrequests : ∀ request ∈ requests, request.lists = false)

theorem started?_of_consumer (hslot : loop.received? later = none)
    (hconsumer : later.consumer = loop.consumer) : loop.started? later = none := by
  unfold started?
  rw [hslot, hconsumer]
  cases loop.consumer <;> rfl

theorem received?_of_started {trigger : Option Trigger} (h : loop.started? later = trigger)
    (htrigger : trigger ≠ some .watch) : loop.received? later = none := by
  cases hreceived : loop.received? later with
  | none => rfl
  | some snapshot =>
    rw [started?, hreceived] at h
    exact absurd h.symm htrigger

theorem received?_of_watch (h : loop.started? later = some .watch) :
    ∃ snapshot, loop.received? later = some snapshot := by
  unfold started? at h
  split at h
  · exact ⟨_, ‹_›⟩
  · cases h
  · cases h

/-- A consumer that is busy starts no cycle. -/
theorem started?_of_busy (hslot : later.slot = loop.slot) (hbusy : loop.consumer ≠ .idle) :
    loop.started? later = none := by
  unfold started?
  rw [received?_of_slot hslot]
  cases hconsumer : loop.consumer with
  | idle => exact absurd hconsumer hbusy
  | surveying survey | syncing trigger call next | ended result => rfl

theorem opens_stay (loop : Loop) (event : Event) :
    loop.Opens event loop.stay.loop loop.stay.requests :=
  .nothing (started?_of_consumer (received?_of_slot rfl) rfl) rfl id
    (List.forall_mem_nil _)

/-- An input to the watcher starts nothing, also if it leaves a snapshot in the empty slot. -/
theorem opens_watchInput (base : Loop) (hslot : loop.received? base = none)
    (hconsumer : base.consumer = loop.consumer) (hticker : base.ticker = loop.ticker)
    (input : Watcher.Input) :
    loop.Opens event (base.watchInput input).loop (base.watchInput input).requests := by
  refine .nothing (started?_of_consumer hslot hconsumer) hticker ?_ ?_
  · exact fun hsurvey => hconsumer ▸ hsurvey
  · intro request hrequest
    obtain ⟨asked, _, rfl⟩ := List.mem_map.1 hrequest
    rfl

theorem ticker_advance (loop : Loop) (trigger : Trigger)
    (program : Program (Except Error Summary)) :
    (loop.advance trigger program).loop.ticker = loop.ticker := by
  unfold advance
  generalize program.pause = reached
  obtain ⟨effects, paused⟩ := reached
  cases paused with
  | ask call next => rfl
  | done result => cases result <;> rfl

/-- A sync that goes on lists no catalog. -/
theorem not_lists_advance (loop : Loop) (trigger : Trigger)
    (program : Program (Except Error Summary)) :
    ∀ request ∈ (loop.advance trigger program).requests, request.lists = false := by
  intro request hrequest
  cases loop.advances_advance trigger program with
  | asks _ _ hrequests =>
    rw [hrequests] at hrequest
    obtain rfl := List.mem_singleton.1 hrequest
    rfl
  | ends _ _ hrequests =>
    rw [hrequests] at hrequest
    cases hrequest

/-- A sync that goes on is no start, and neither is one that a survey leads to. -/
theorem opens_advance (loop base : Loop) (hslot : base.slot = loop.slot)
    (hbusy : loop.consumer ≠ .idle) (hticker : base.ticker = loop.ticker) (trigger : Trigger)
    (program : Program (Except Error Summary)) :
    loop.Opens event (base.advance trigger program).loop
      (base.advance trigger program).requests := by
  obtain ⟨-, hkept, hconsumer⟩ := base.advance_frame trigger program
  refine .nothing (started?_of_busy (hkept.trans hslot) hbusy)
    ((base.ticker_advance trigger program).trans hticker) ?_
    (base.not_lists_advance trigger program)
  rw [Consumer.isSurveying_eq_false hconsumer]
  exact (absurd · Bool.false_ne_true)

theorem opens_onSurvey {survey : Survey} (loop base : Loop) (hslot : base.slot = loop.slot)
    (hconsumer : loop.consumer = .surveying survey) (hticker : base.ticker = loop.ticker)
    (progress : Survey.Progress) :
    loop.Opens event (base.onSurvey progress).loop (base.onSurvey progress).requests := by
  have hbusy : loop.consumer ≠ .idle := by simp [hconsumer]
  have hsurvey : loop.consumer.isSurveying = true := by rw [hconsumer]; rfl
  unfold onSurvey
  cases progress with
  | running survey queries =>
    refine .nothing (started?_of_busy hslot hbusy) hticker (fun _ => hsurvey) ?_
    intro request hrequest
    obtain ⟨query, _, rfl⟩ := List.mem_map.1 hrequest
    rfl
  | done result =>
    cases result with
    | ok snapshot => exact loop.opens_advance base hslot hbusy hticker .resync _
    | error error =>
      exact .nothing (started?_of_busy hslot hbusy) hticker (fun _ => hsurvey)
        (List.forall_mem_nil _)

/-- Giving up is no start. -/
theorem opens_abandon (loop : Loop) (event : Event) :
    loop.Opens event loop.abandon.loop loop.abandon.requests := by
  unfold abandon
  cases hconsumer : loop.consumer with
  | syncing trigger call next | surveying survey =>
    exact .nothing (started?_of_busy rfl (by simp [hconsumer])) rfl (by simp [Consumer.isSurveying])
      (List.forall_mem_nil _)
  | idle | ended result => exact loop.opens_stay event

theorem opens_unlessCancelled {reaction : Reaction}
    (h : loop.Opens event reaction.loop reaction.requests) :
    loop.Opens event (loop.unlessCancelled reaction).loop
      (loop.unlessCancelled reaction).requests := by
  unfold unlessCancelled
  cases loop.cancelled with
  | true => exact loop.opens_abandon event
  | false => exact h

theorem opens_end (hidle : loop.consumer = .idle) (result : Except Error Unit) :
    loop.Opens event { loop with consumer := .ended result } [] := by
  refine .nothing ?_ rfl (by simp [Consumer.isSurveying]) (List.forall_mem_nil _)
  simp [started?, received?_of_slot, hidle]

/-- The consumer looks at its sources: a tick comes before a snapshot. -/
theorem opens_look (now : Instant) (hidle : loop.consumer = .idle) :
    loop.Opens (.poll now) (loop.look now).loop (loop.look now).requests := by
  unfold look
  by_cases hcancelled : loop.cancelled = true
  · rw [if_pos hcancelled]
    exact opens_end hidle _
  · rw [if_neg hcancelled]
    by_cases hdue : loop.ticker.isDue now = true
    · rw [if_pos hdue]
      refine .resync now rfl (of_decide_eq_true hdue) ?_ rfl rfl
      simp [started?, received?_of_slot, hidle]
    · rw [if_neg hdue]
      split
      · rename_i snapshot hslot
        have hempty := (begin_frame { loop with slot := none } .watch snapshot).2.1
        have hreceived : loop.received? ({ loop with slot := none }.begin .watch snapshot).loop
            = some snapshot := by
          rw [received?, hempty, hslot]
        refine .watch now rfl ?_ ?_ (ticker_advance _ _ _) (not_lists_advance _ _ _)
        · exact Nat.lt_of_not_le fun hle => hdue (decide_eq_true hle)
        · rw [started?, hreceived]
      · by_cases hstopped : loop.watcher.isStopped = true
        · rw [if_pos hstopped]
          exact opens_end hidle _
        · rw [if_neg hstopped]
          exact loop.opens_stay _

theorem opens_step (loop : Loop) (event : Event) :
    loop.Opens event (loop.step event).loop (loop.step event).requests := by
  cases event with
  | watchListed answer | watchWoke | watchFetched position answer | watchDied =>
    exact opens_watchInput loop (received?_of_slot rfl) rfl rfl _
  | watchCancelled =>
    simp only [step]
    split_ifs
    · exact opens_watchInput loop (received?_of_slot rfl) rfl rfl _
    · exact loop.opens_stay _
  | handOver =>
    simp only [step]
    split
    · exact opens_watchInput loop (received?_of_slot rfl) rfl rfl _
    · rename_i hslot _
      exact loop.opens_watchInput { loop with slot := some _ } (received?_of_empty hslot) rfl rfl _
    · exact loop.opens_stay _
  | poll now =>
    simp only [step]
    split
    · rename_i hidle
      exact opens_look now hidle
    · exact loop.opens_stay _
    · exact opens_unlessCancelled (loop.opens_stay _)
  | surveyed input =>
    simp only [step]
    split
    · rename_i survey hconsumer
      exact opens_unlessCancelled (loop.opens_onSurvey (loop.absorb _) rfl hconsumer rfl _)
    · exact loop.opens_stay _
  | answered call answer =>
    simp only [step]
    split
    · rename_i hconsumer
      have hbusy : loop.consumer ≠ .idle := by simp [hconsumer]
      refine opens_unlessCancelled ?_
      split_ifs
      · exact loop.opens_advance loop rfl hbusy rfl _ _
      · exact loop.opens_stay _
    · exact loop.opens_stay _
  | cancel =>
    exact .nothing (started?_of_consumer (received?_of_slot rfl) rfl) rfl id
      (List.forall_mem_nil _)

end Loop

/-! ## Schedules -/

namespace Ticker

variable {ticker : Ticker} {moment : Instant}

/-- When the ticks are due that are served at some moments. -/
def dues : Ticker → List Instant → List Instant
  | _, [] => []
  | ticker, moment :: rest => ticker.due :: (ticker.serve moment).dues rest

theorem due_le_serve (ticker : Ticker) (moment : Instant) :
    ticker.due + ticker.period ≤ (ticker.serve moment).due := by
  unfold serve nextDue Instant at *
  dsimp only
  split <;> omega

/-- A tick that is served late moves the next one a whole period away. -/
theorem serve_due_of_late (h : ticker.due + tolerance < moment) :
    (ticker.serve moment).due = moment + ticker.period :=
  if_pos h

end Ticker

/-- The starts that a timer allows, oldest first, and the timer after them. -/
inductive Schedule : Ticker → List Start → Ticker → Prop
  | nil (ticker : Ticker) : Schedule ticker [] ticker
  /-- A sync of the watch starts before the tick is due. -/
  | watch {ticker last : Ticker} {moment : Instant} {rest : List Start}
      (hdue : moment < ticker.due) (hrest : Schedule ticker rest last) :
      Schedule ticker (⟨.watch, moment, ticker.due⟩ :: rest) last
  /-- A resync starts once the tick is due, and serves it. -/
  | resync {ticker last : Ticker} {moment : Instant} {rest : List Start}
      (hdue : ticker.due ≤ moment) (hrest : Schedule (ticker.serve moment) rest last) :
      Schedule ticker (⟨.resync, moment, ticker.due⟩ :: rest) last

/-- The resyncs among some starts. -/
def resyncs (starts : List Start) : List Start := starts.filter (·.trigger = .resync)

@[simp] theorem resyncs_watch (moment due : Instant) (rest : List Start) :
    resyncs (⟨.watch, moment, due⟩ :: rest) = resyncs rest := rfl

@[simp] theorem resyncs_resync (moment due : Instant) (rest : List Start) :
    resyncs (⟨.resync, moment, due⟩ :: rest) = ⟨.resync, moment, due⟩ :: resyncs rest := rfl

namespace Schedule

variable {ticker last : Ticker} {starts : List Start}

/-- The ticks only move on. -/
theorem due_le_last (h : Schedule ticker starts last) : ticker.due ≤ last.due := by
  induction h with
  | nil => exact Nat.le_refl _
  | watch _ _ ih => exact ih
  | @resync ticker _ moment =>
    exact (Nat.le_of_add_right_le (ticker.due_le_serve moment)).trans ‹_›

theorem le_due (h : Schedule ticker starts last) : ∀ start ∈ starts, ticker.due ≤ start.due := by
  induction h with
  | nil => exact List.forall_mem_nil _
  | watch _ _ ih => exact List.forall_mem_cons.2 ⟨Nat.le_refl _, ih⟩
  | @resync ticker _ moment _ _ _ ih =>
    have hmoved := Nat.le_of_add_right_le (ticker.due_le_serve moment)
    exact List.forall_mem_cons.2 ⟨Nat.le_refl _, fun start hstart => hmoved.trans (ih start hstart)⟩

/-- No sync of the watch starts at or after the time at which the tick of a later start is due. -/
theorem watch_lt_due (h : Schedule ticker starts last) :
    starts.Pairwise fun earlier later => earlier.trigger = .watch → earlier.moment < later.due := by
  induction h with
  | nil => exact .nil
  | watch hdue hrest ih =>
    exact .cons (fun later hlater _ => Nat.lt_of_lt_of_le hdue (hrest.le_due later hlater)) ih
  | resync _ _ ih => exact .cons (fun _ _ => Trigger.noConfusion) ih

theorem watch_lt_last (h : Schedule ticker starts last) :
    ∀ start ∈ starts, start.trigger = .watch → start.moment < last.due := by
  induction h with
  | nil => exact List.forall_mem_nil _
  | watch hdue hrest ih =>
    exact List.forall_mem_cons.2 ⟨fun _ => Nat.lt_of_lt_of_le hdue hrest.due_le_last, ih⟩
  | resync _ _ ih => exact List.forall_mem_cons.2 ⟨Trigger.noConfusion, ih⟩

/-- A resync starts when its tick is due. -/
theorem due_le_moment (h : Schedule ticker starts last) :
    ∀ start ∈ resyncs starts, start.due ≤ start.moment := by
  induction h with
  | nil => exact List.forall_mem_nil _
  | watch _ _ ih => exact ih
  | resync hdue _ ih =>
    rw [resyncs_resync]
    exact List.forall_mem_cons.2 ⟨hdue, ih⟩

/-- The resyncs serve the ticks of the timer, every one of them. -/
theorem dues_resyncs (h : Schedule ticker starts last) :
    (resyncs starts).map (·.due) = ticker.dues ((resyncs starts).map (·.moment)) := by
  induction h with
  | nil => rfl
  | watch _ _ ih => rw [resyncs_watch, ih]
  | resync _ _ ih => rw [resyncs_resync, List.map_cons, List.map_cons, Ticker.dues, ih]

/-- The ticks that are served are a period apart at least. -/
theorem le_due_resync (h : Schedule ticker starts last) {index : Nat} {start : Start}
    (hstart : (resyncs starts)[index]? = some start) :
    ticker.due + index * ticker.period ≤ start.due := by
  induction h generalizing index with
  | nil => cases hstart
  | watch _ _ ih =>
    rw [resyncs_watch] at hstart
    exact ih hstart
  | @resync ticker last moment rest _ _ ih =>
    rw [resyncs_resync] at hstart
    cases index with
    | zero =>
      rw [List.getElem?_cons_zero, Option.some.injEq] at hstart
      rw [← hstart, Nat.zero_mul, Nat.add_zero]
    | succ index =>
      rw [List.getElem?_cons_succ] at hstart
      have hserved := ih hstart
      rw [Ticker.serve_period] at hserved
      calc ticker.due + (index + 1) * ticker.period
          = ticker.due + ticker.period + index * ticker.period := by rw [Nat.succ_mul]; ac_rfl
        _ ≤ (ticker.serve moment).due + index * ticker.period :=
          Nat.add_le_add_right (ticker.due_le_serve moment) _
        _ ≤ start.due := hserved

/-- What a resync puts between itself and a later one: a period for each step, less the tolerance,
and nothing less if it was late. -/
theorem spaced (h : Schedule ticker starts last) {first apart : Nat} {earlier later : Start}
    (hearlier : (resyncs starts)[first]? = some earlier)
    (hlater : (resyncs starts)[first + (apart + 1)]? = some later) :
    earlier.moment + (apart + 1) * ticker.period ≤ later.due + Ticker.tolerance ∧
      (earlier.due + Ticker.tolerance < earlier.moment →
        earlier.moment + (apart + 1) * ticker.period ≤ later.due) := by
  induction h generalizing first with
  | nil => cases hearlier
  | watch _ _ ih =>
    rw [resyncs_watch] at hearlier hlater
    exact ih hearlier hlater
  | @resync ticker last moment rest _ hrest ih =>
    rw [resyncs_resync] at hearlier hlater
    cases first with
    | zero =>
      rw [List.getElem?_cons_zero, Option.some.injEq] at hearlier
      rw [Nat.zero_add, List.getElem?_cons_succ] at hlater
      subst hearlier
      have hserved := hrest.le_due_resync hlater
      have hsoon := ticker.le_serve_due moment
      rw [Ticker.serve_period] at hserved
      rw [Nat.succ_mul]
      unfold Instant at *
      dsimp only
      refine ⟨by omega, fun hlate => ?_⟩
      rw [Ticker.serve_due_of_late hlate] at hserved
      omega
    | succ first =>
      rw [List.getElem?_cons_succ] at hearlier
      rw [Nat.succ_add, List.getElem?_cons_succ] at hlater
      have hspaced := ih hearlier hlater
      rw [Ticker.serve_period] at hspaced
      exact hspaced

end Schedule

namespace Loop

variable {loop : Loop} {event : Event}

/-! ## Runs -/

theorem start?_of_not_started (h : loop.started? (loop.step event).loop = none) :
    loop.start? event = none := by
  cases event with
  | poll now => rw [start?, h, Option.map_none]
  | _ => rfl

theorem start?_poll {now : Instant} {trigger : Trigger}
    (h : loop.started? (loop.step (.poll now)).loop = some trigger) :
    loop.start? (.poll now) = some ⟨trigger, now, loop.ticker.due⟩ := by
  rw [start?, h, Option.map_some]

/-- What an event starts is what the timer allows then. -/
theorem schedule_step (loop : Loop) (event : Event) {rest : List Start} {last : Ticker}
    (hrest : Schedule (loop.step event).loop.ticker rest last) :
    Schedule loop.ticker ((loop.start? event).toList ++ rest) last := by
  cases loop.opens_step event with
  | watch now hevent hdue hstarted hticker =>
    subst hevent
    rw [start?_poll hstarted]
    rw [hticker] at hrest
    exact .watch hdue hrest
  | resync now hevent hdue hstarted hticker =>
    subst hevent
    rw [start?_poll hstarted]
    rw [hticker] at hrest
    exact .resync hdue hrest
  | nothing hstarted hticker =>
    rw [start?_of_not_started hstarted]
    rw [hticker] at hrest
    exact hrest

/-- The starts of a run are what the timer allows. -/
theorem schedule_run (loop : Loop) (events : List Event) :
    Schedule loop.ticker (loop.starts events) (loop.run events).loop.ticker := by
  induction events generalizing loop with
  | nil => exact .nil loop.ticker
  | cons event rest ih => exact loop.schedule_step event (ih (loop.step event).loop)

/-- The listings that an event asks for are those of the resyncs it starts. -/
theorem lists_step (loop : Loop) (event : Event) :
    (loop.step event).requests.countP Request.lists
      = (resyncs (loop.start? event).toList).length := by
  cases loop.opens_step event with
  | watch now hevent _ hstarted _ hrequests =>
    subst hevent
    rw [start?_poll hstarted]
    exact List.countP_eq_zero.2 (by simpa using hrequests)
  | resync now hevent _ hstarted _ hrequests =>
    subst hevent
    rw [start?_poll hstarted, hrequests]
    rfl
  | nothing hstarted _ _ hrequests =>
    rw [start?_of_not_started hstarted]
    exact List.countP_eq_zero.2 (by simpa using hrequests)

theorem lists_run (loop : Loop) (events : List Event) :
    (loop.run events).requests.countP Request.lists = (resyncs (loop.starts events)).length := by
  induction events generalizing loop with
  | nil => rfl
  | cons event rest ih =>
    have hlater := ih (loop.step event).loop
    have hstep := loop.lists_step event
    simp only [run, starts, resyncs, List.countP_append, List.filter_append, List.length_append]
      at hlater hstep ⊢
    rw [hstep, hlater]

/-- A sync of the watch is started for every snapshot that is received. -/
theorem received_step (loop : Loop) (event : Event) :
    (loop.received? (loop.step event).loop).toList.length
      = (loop.start? event).toList.countP (·.trigger = .watch) := by
  cases loop.opens_step event with
  | watch now hevent _ hstarted =>
    subst hevent
    rw [start?_poll hstarted]
    obtain ⟨snapshot, hreceived⟩ := received?_of_watch hstarted
    rw [hreceived]
    rfl
  | resync now hevent _ hstarted =>
    subst hevent
    rw [start?_poll hstarted, received?_of_started hstarted (by simp)]
    rfl
  | nothing hstarted =>
    rw [start?_of_not_started hstarted, received?_of_started hstarted (by simp)]
    rfl

/-- An event that starts no cycle begins a sync only if it ends a survey. -/
theorem begun_step_le (h : loop.started? (loop.step event).loop = none) :
    ((loop.entries event).filterMap Entry.cycle?).length
        + (loop.step event).loop.consumer.isSurveying.toNat
      ≤ loop.consumer.isSurveying.toNat := by
  have hkept : (loop.step event).loop.consumer.isSurveying.toNat
      ≤ loop.consumer.isSurveying.toNat := by
    cases loop.opens_step event with
    | watch _ _ _ hstarted | resync _ _ _ hstarted => cases h.symm.trans hstarted
    | nothing _ _ hsurvey => exact Bool.toNat_le_toNat hsurvey
  have hacts := loop.acts_step event
  generalize loop.entries event = seen at hacts ⊢
  cases hacts with
  | watched | handed =>
    rw [filterMap_cycle?_watch, List.length_nil, Nat.zero_add]
    exact hkept
  | went =>
    rw [List.filterMap_nil, List.length_nil, Nat.zero_add]
    exact hkept
  | took hfull _ hempty =>
    rw [started?, received?, hempty, hfull] at h
    cases h
  | surveying hsurveys =>
    rw [hsurveys.filterMap_cycle?, List.length_nil, Nat.zero_add]
    exact hkept
  | @resynced fetch seen snapshot hsurveys _ _ _ hconsumer =>
    have hbefore : loop.consumer.isSurveying = true := by
      cases hsurveys with
      | listed _ hconsumer | fetched _ _ hconsumer => rw [hconsumer]; rfl
    have hafter : (loop.step event).loop.consumer.isSurveying = false :=
      Consumer.isSurveying_eq_false hconsumer
    have hone : Entry.cycle? (.began .resync snapshot) = some ⟨.resync, snapshot, []⟩ := rfl
    rw [List.filterMap_cons_some hone, hsurveys.filterMap_cycle?, hbefore, hafter]
    exact Nat.le_refl _

end Loop

namespace Cycle

theorem length_noteAnswer (answered : Option Exchange) (cycles : List Cycle) :
    (noteAnswer answered cycles).length = cycles.length := by
  unfold noteAnswer
  split <;> rfl

end Cycle

namespace Ledger

variable {ledger : Ledger} {event : Loop.Event}

theorem received_run (ledger : Ledger) (events : List Loop.Event) :
    (ledger.run events).received.length
      = (ledger.loop.starts events).countP (·.trigger = .watch) + ledger.received.length := by
  induction events generalizing ledger with
  | nil => exact (Nat.zero_add _).symm
  | cons event rest ih =>
    have hreceived : (ledger.step event).received.length
        = (ledger.loop.start? event).toList.countP (·.trigger = .watch)
          + ledger.received.length := by
      rw [← ledger.loop.received_step event, ← List.length_append, step]
    refine (ih (ledger.step event)).trans ?_
    rw [hreceived, Loop.starts, List.countP_append]
    exact Nat.add_left_comm _ _ _ |>.trans (Nat.add_assoc _ _ _).symm

/-- An event that starts no cycle begins a sync only if it ends the survey before it. -/
theorem cycles_step_le (h : ledger.loop.started? (ledger.step event).loop = none) :
    (ledger.step event).cycles.length + (ledger.step event).loop.consumer.isSurveying.toNat
      ≤ ledger.cycles.length + ledger.loop.consumer.isSurveying.toNat := by
  have hbegun := Loop.begun_step_le h
  have hcycles : (ledger.step event).cycles.length
      = ((ledger.loop.entries event).filterMap Loop.Entry.cycle?).length
        + ledger.cycles.length := by
    rw [step, List.length_append, Cycle.length_noteAnswer]
  rw [hcycles, Nat.add_right_comm, Nat.add_comm ledger.cycles.length]
  exact Nat.add_le_add_right hbegun _

/-- While a tick stays due and no resync starts, nothing starts, and the cycle under way is the only
one to run. -/
theorem cycles_run_le {stretch : List Loop.Event}
    (hdue : ∀ moment, Loop.Event.poll moment ∈ stretch → ledger.loop.ticker.due ≤ moment)
    (hunserved : resyncs (ledger.loop.starts stretch) = []) :
    ledger.loop.starts stretch = [] ∧
      (ledger.run stretch).cycles.length
          + (ledger.run stretch).loop.consumer.isSurveying.toNat
        ≤ ledger.cycles.length + ledger.loop.consumer.isSurveying.toNat := by
  induction stretch generalizing ledger with
  | nil => exact ⟨rfl, Nat.le_refl _⟩
  | cons event rest ih =>
    cases ledger.loop.opens_step event with
    | watch now hevent hearly =>
      subst hevent
      exact absurd (hdue now List.mem_cons_self) (Nat.not_le_of_lt hearly)
    | resync now hevent _ hstarted =>
      subst hevent
      rw [Loop.starts, Loop.start?_poll hstarted] at hunserved
      cases hunserved
    | nothing hstarted hticker =>
      rw [Loop.starts, Loop.start?_of_not_started hstarted] at hunserved ⊢
      obtain ⟨hstarts, hcycles⟩ := @ih (ledger.step event)
        (fun moment hpoll => hticker ▸ hdue moment (List.mem_cons_of_mem _ hpoll)) hunserved
      exact ⟨hstarts, hcycles.trans (cycles_step_le hstarted)⟩

end Ledger

namespace Loop

/-- A consumer that is free serves the tick that is due, whatever else waits. -/
theorem resync_of_due {loop : Loop} {moment : Instant} (hidle : loop.consumer = .idle)
    (hactive : loop.cancelled = false) (hdue : loop.ticker.due ≤ moment) :
    loop.started? (loop.step (.poll moment)).loop = some .resync := by
  have hlook : (loop.step (.poll moment)).loop
      = { loop with ticker := loop.ticker.serve moment, consumer := .surveying .listing } := by
    simp [step, hidle, look, hactive, Ticker.isDue, hdue]
  rw [hlook]
  simp [started?, received?_of_slot, hidle]

/-- The watch does not keep resyncs from starting, in every run of the loop.

Only a look starts a cycle, and no look starts a sync of the watch at or after the time at which
the next tick is due. A consumer that is free then starts the resync. So among the starts of a run
no sync of the watch comes after the time at which the tick of a later start was due, or the tick is
that was not served yet. From the time a tick is due to the start of its resync nothing else
starts: no sync begins there but the one that a survey under way leads to. -/
theorem resync_first_of_run (scope : Scope) (interval : Duration) (pace : Pace) (now : Instant)
    (events : List Event) (event : Event) (stretch : List Event) :
    let ledger := (Ledger.start scope interval pace now).run events
    let loop := ledger.loop
    let starts := (Loop.start scope interval pace now).loop.starts events
    (loop.started? (loop.step event).loop = some .watch →
        ∃ moment, event = .poll moment ∧ moment < loop.ticker.due) ∧
      (loop.started? (loop.step event).loop = some .resync →
        ∃ moment, event = .poll moment ∧ loop.ticker.due ≤ moment) ∧
      (loop.consumer = .idle → loop.cancelled = false → ∀ moment, loop.ticker.due ≤ moment →
        loop.started? (loop.step (.poll moment)).loop = some .resync) ∧
      (starts.Pairwise fun earlier later =>
        earlier.trigger = .watch → earlier.moment < later.due) ∧
      (∀ start ∈ starts, start.trigger = .watch → start.moment < loop.ticker.due) ∧
      (watched ledger.cycles).length = starts.countP (·.trigger = .watch) ∧
      ((∀ moment, .poll moment ∈ stretch → loop.ticker.due ≤ moment) →
        resyncs (loop.starts stretch) = [] →
        loop.starts stretch = [] ∧
          (ledger.run stretch).cycles.length
            ≤ ledger.cycles.length + loop.consumer.isSurveying.toNat) := by
  intro ledger loop starts
  have hschedule := schedule_run (Loop.start scope interval pace now).loop events
  have hloop : loop = ((Loop.start scope interval pace now).loop.run events).loop :=
    Ledger.loop_run _ events
  rw [← hloop] at hschedule
  refine ⟨?_, ?_, fun hidle hactive _ hdue => resync_of_due hidle hactive hdue,
    hschedule.watch_lt_due, hschedule.watch_lt_last, ?_, ?_⟩
  · intro hwatch
    cases loop.opens_step event with
    | watch moment hevent hdue => exact ⟨moment, hevent, hdue⟩
    | resync _ _ _ hstarted | nothing hstarted => cases hwatch.symm.trans hstarted
  · intro hresync
    cases loop.opens_step event with
    | resync moment hevent hdue => exact ⟨moment, hevent, hdue⟩
    | watch _ _ _ hstarted | nothing hstarted => cases hresync.symm.trans hstarted
  · have hhands := hands_run (hands_start scope interval pace now) events
    rw [hhands.synced]
    exact Ledger.received_run (.start scope interval pace now) events
  · intro hdue hunserved
    obtain ⟨hstarts, hcycles⟩ := ledger.cycles_run_le hdue hunserved
    exact ⟨hstarts, Nat.le_of_add_right_le hcycles⟩

/-- The distance of resyncs, in every run of the loop, however long its cycles are.

The first resync starts one interval after the start of the loop or later. A resync that follows
another one, with any number of them between, starts later by as many intervals as there are steps
from the one to the other, less the tolerance of the timer; nothing is missing if the earlier one
was served late. The ticks that the resyncs serve are those of a timer that is served at their
moments: a late one moves the next tick to an interval after it. Every listing that the loop asks
for is one of these resyncs. -/
theorem resyncs_apart_of_run (scope : Scope) (interval : Duration) (pace : Pace) (now : Instant)
    (events : List Event) :
    let loop := (Loop.start scope interval pace now).loop
    let resyncs := resyncs (loop.starts events)
    (∀ resync ∈ resyncs, now + interval.nanos ≤ resync.due ∧ resync.due ≤ resync.moment) ∧
      (∀ first apart earlier later,
        resyncs[first]? = some earlier → resyncs[first + (apart + 1)]? = some later →
          earlier.moment + (apart + 1) * interval.nanos ≤ later.moment + Ticker.tolerance ∧
          (earlier.due + Ticker.tolerance < earlier.moment →
            earlier.moment + (apart + 1) * interval.nanos ≤ later.moment)) ∧
      resyncs.map (·.due) = (Ticker.start interval now).dues (resyncs.map (·.moment)) ∧
      (loop.run events).requests.countP Request.lists = resyncs.length := by
  intro loop resyncs
  have hschedule : Schedule (.start interval now) (loop.starts events)
      (loop.run events).loop.ticker := loop.schedule_run events
  refine ⟨?_, ?_, hschedule.dues_resyncs, loop.lists_run events⟩
  · intro resync hresync
    exact ⟨hschedule.le_due resync (List.mem_filter.1 hresync).1,
      hschedule.due_le_moment resync hresync⟩
  · intro first apart earlier later hearlier hlater
    obtain ⟨hspaced, hlate⟩ := hschedule.spaced hearlier hlater
    have hserved := hschedule.due_le_moment later (List.mem_of_getElem? hlater)
    exact ⟨hspaced.trans (Nat.add_le_add_right hserved _),
      fun hdelayed => (hlate hdelayed).trans hserved⟩

end Loop

end CatalogBridge
