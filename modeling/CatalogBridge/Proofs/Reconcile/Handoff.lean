import CatalogBridge.Proofs.Reconcile.Ledger

/-!
# The handing over of snapshots

The watcher and the consumer are joined by a single slot. A snapshot that is
fetched waits with the watcher until the slot is free, and in the slot until the
consumer takes it.

* `Hands` says where the snapshots are that were fetched and not received: with the
  watcher and in the slot, in this order. A watcher that ends loses its own.
* `Hands.acts` says that this is so after whatever an event does, one case for
  everything an event can do.
* `watches_step` says which requests of an event are the watcher's. With it,
  `not_queries_of_crowded` says that the watcher asks nothing while two snapshots wait.
* `handoff_of_run` puts this together for every run.
-/

namespace CatalogBridge

namespace Watcher

variable {watcher : Watcher} {input : Input}

/-- Whether a request is a query of the catalog or of the health of a service. -/
def Request.queries : Request → Bool
  | .list _ | .instances _ => true
  | .sleep _ | .offer _ => false

theorem offered?_of_isStopped (h : watcher.isStopped = true) : watcher.offered? = none := by
  unfold isStopped at h
  unfold offered?
  split at h
  · rename_i hphase
    rw [hphase]
  · cases h

/-- The end of a watcher is final. -/
theorem isStopped_step (h : watcher.isStopped = true) (input : Input) :
    (watcher.step input).watcher.isStopped = true := by
  unfold isStopped at h
  split at h
  · rename_i hphase
    unfold step
    rw [hphase]
    split <;> simp_all [stop, stay, isStopped]
  · cases h

/-- A snapshot that the slot does not take stays with the watcher, unless the watcher ends. -/
theorem offered?_step (hinput : input ≠ .accepted) (hsome : watcher.offered?.isSome = true) :
    (watcher.step input).watcher.offered? = watcher.offered? ∨
      (watcher.step input).watcher.isStopped = true := by
  cases hphase : watcher.phase with
  | offering snapshot =>
    unfold step
    rw [hphase]
    cases input with
    | accepted => exact absurd rfl hinput
    | cancelled | died | refused => exact Or.inr rfl
    | listed answer => cases answer <;> exact Or.inl rfl
    | woke | fetched position answer => exact Or.inl rfl
  | listing | waiting | fetching fetch | stopped => simp [offered?, hphase] at hsome

theorem not_queries_proceed {fetch : Fetch} {queries : List InstanceQuery} {effects : List Effect}
    (h : (watcher.proceed fetch queries effects).watcher.offered?.isSome = true ∨
      (watcher.proceed fetch queries effects).watcher.isStopped = true) :
    ∀ request ∈ (watcher.proceed fetch queries effects).requests, request.queries = false := by
  unfold proceed at h ⊢
  cases hsnapshot : fetch.snapshot? with
  | some snapshot => simp [Request.queries]
  | none => simp [hsnapshot, offered?, isStopped] at h

/-- A step after which the watcher offers a snapshot or has ended asks nothing. -/
theorem not_queries_step (input : Input)
    (h : (watcher.step input).watcher.offered?.isSome = true ∨
      (watcher.step input).watcher.isStopped = true) :
    ∀ request ∈ (watcher.step input).requests, request.queries = false := by
  have hacts := watcher.acts_step input
  generalize watcher.step input = reaction at hacts h ⊢
  generalize watcher.noted input = noted at hacts
  cases hacts with
  | idle | stopped => exact fun _ hrequest => nomatch hrequest
  | failed error => simp [onFailure, Request.queries]
  | told page hphase =>
    simp only [onPage] at h ⊢
    split_ifs at h ⊢
    · simp [listFrom, offered?, isStopped] at h
    · simp [listFrom, offered?, isStopped] at h
    · exact not_queries_proceed h
  | woke | emitted => simp [listFrom, offered?, isStopped] at h
  | fetched => exact not_queries_proceed h

end Watcher

namespace Loop

variable {loop later : Loop} {requests : List Request}

/-! ## What an event is to the watcher -/

/-- An event is an input to the watcher, or it leaves the watcher alone and asks nothing for it. -/
inductive Watches (loop later : Loop) (requests : List Request) : Prop
  | watched (input : Watcher.Input) (hfree : input = .accepted → loop.slot = none)
      (hwatcher : later.watcher = (loop.watcher.step input).watcher)
      (hrequests : requests = (loop.watcher.step input).requests.map .watch)
  | left (hwatcher : later.watcher = loop.watcher)
      (hrequests : ∀ request, .watch request ∉ requests)

theorem watches_stay (loop : Loop) : loop.Watches loop.stay.loop loop.stay.requests :=
  .left rfl fun _ hrequest => nomatch hrequest

theorem watches_abandon (loop : Loop) : loop.Watches loop.abandon.loop loop.abandon.requests := by
  unfold abandon
  cases loop.consumer with
  | syncing trigger call next | surveying survey =>
    exact .left rfl fun _ hrequest => nomatch hrequest
  | idle | ended result => exact loop.watches_stay

theorem watches_unlessCancelled {reaction : Reaction}
    (h : loop.Watches reaction.loop reaction.requests) :
    loop.Watches (loop.unlessCancelled reaction).loop (loop.unlessCancelled reaction).requests := by
  unfold unlessCancelled
  cases loop.cancelled with
  | true => exact loop.watches_abandon
  | false => exact h

theorem watches_advance (loop base : Loop) (h : base.watcher = loop.watcher) (trigger : Trigger)
    (program : Program (Except Error Summary)) :
    loop.Watches (base.advance trigger program).loop (base.advance trigger program).requests := by
  refine .left ((base.advance_frame trigger program).1.trans h) ?_
  cases base.advances_advance trigger program with
  | asks _ _ hrequests => simp [hrequests]
  | ends _ _ hrequests => simp [hrequests]

/-- A tick starts a survey, which is not the watcher's. -/
theorem watches_tick (loop : Loop) (ticker : Ticker) :
    loop.Watches { loop with ticker := ticker, consumer := .surveying .listing }
      [.survey .list] :=
  .left rfl (by simp)

theorem watches_end (loop : Loop) (result : Except Error Unit) :
    loop.Watches { loop with consumer := .ended result } [] :=
  .left rfl fun _ hrequest => nomatch hrequest

theorem watches_look (loop : Loop) (now : Instant) :
    loop.Watches (loop.look now).loop (loop.look now).requests := by
  unfold look
  by_cases hcancelled : loop.cancelled = true
  · rw [if_pos hcancelled]
    exact loop.watches_end _
  · by_cases hdue : loop.ticker.isDue now = true
    · rw [if_neg hcancelled, if_pos hdue]
      exact loop.watches_tick _
    · rw [if_neg hcancelled, if_neg hdue]
      split
      · rename_i snapshot hslot
        exact loop.watches_advance { loop with slot := none } rfl .watch _
      · by_cases hstopped : loop.watcher.isStopped = true
        · rw [if_pos hstopped]
          exact loop.watches_end _
        · rw [if_neg hstopped]
          exact loop.watches_stay

theorem watches_onSurvey (loop base : Loop) (h : base.watcher = loop.watcher)
    (progress : Survey.Progress) :
    loop.Watches (base.onSurvey progress).loop (base.onSurvey progress).requests := by
  unfold onSurvey
  cases progress with
  | running survey queries => exact .left h (by simp)
  | done result =>
    cases result with
    | ok snapshot => exact loop.watches_advance base h .resync _
    | error error => exact .left h fun _ hrequest => nomatch hrequest

theorem watches_step (loop : Loop) (event : Event) :
    loop.Watches (loop.step event).loop (loop.step event).requests := by
  cases event with
  | watchListed answer | watchWoke | watchFetched position answer | watchDied =>
    exact .watched _ (by simp) rfl rfl
  | watchCancelled =>
    simp only [step]
    split_ifs
    · exact .watched .cancelled (by simp) rfl rfl
    · exact loop.watches_stay
  | handOver =>
    simp only [step]
    split
    · exact .watched .refused (by simp) rfl rfl
    · rename_i hslot _
      exact .watched .accepted (fun _ => hslot) rfl rfl
    · exact loop.watches_stay
  | poll now =>
    simp only [step]
    split
    · exact loop.watches_look now
    · exact loop.watches_stay
    · exact watches_unlessCancelled loop.watches_stay
  | surveyed input =>
    simp only [step]
    split
    · exact watches_unlessCancelled (loop.watches_onSurvey (loop.absorb _) rfl _)
    · exact loop.watches_stay
  | answered call answer =>
    simp only [step]
    split
    · refine watches_unlessCancelled ?_
      split_ifs
      · exact loop.watches_advance loop rfl _ _
      · exact loop.watches_stay
    · exact loop.watches_stay
  | cancel => exact .left rfl fun _ => List.not_mem_nil

/-! ## Where the snapshots are -/

theorem fetched?_of_watcher (h : later.watcher = loop.watcher) : loop.fetched? later = none := by
  unfold fetched?
  rw [h]
  cases loop.watcher.offered? <;> rfl

theorem received?_of_slot (h : later.slot = loop.slot) : loop.received? later = none := by
  unfold received?
  rw [h]
  cases loop.slot <;> rfl

theorem received?_of_empty (h : loop.slot = none) : loop.received? later = none := by
  unfold received?
  rw [h]
  cases later.slot <;> rfl

/-- The snapshots of the syncs that the watch began. -/
def watched (cycles : List Cycle) : List Snapshot :=
  (cycles.filter fun cycle => cycle.trigger = .watch).map (·.snapshot)

theorem watched_append (front back : List Cycle) :
    watched (front ++ back) = watched front ++ watched back := by
  rw [watched, List.filter_append, List.map_append, watched, watched]

/-- An answer changes neither what began a sync nor its snapshot. -/
theorem watched_noteAnswer (answered : Option Exchange) (cycles : List Cycle) :
    watched (Cycle.noteAnswer answered cycles) = watched cycles := by
  cases answered with
  | none => rfl
  | some exchange =>
    cases cycles with
    | nil => rfl
    | cons cycle earlier =>
      by_cases hwatch : cycle.trigger = .watch <;>
        simp [Cycle.noteAnswer, Cycle.note, watched, hwatch]

/-- The watcher holds the newest of the snapshots that were fetched, and nothing else; if it has
ended, it may have lost it. -/
def Holds (watcher : Watcher) (held : List Snapshot) : Prop :=
  held = watcher.offered?.toList ∨ watcher.isStopped = true ∧ held.length ≤ 1

/-- Of the snapshots that were fetched one waits with the watcher, one in the slot, and all others
were received and synced. -/
structure Hands (loop : Loop) (fetched received : List Snapshot) (cycles : List Cycle) : Prop where
  waiting : ∃ held, fetched = held ++ loop.slot.toList ++ received ∧ Holds loop.watcher held
  synced : watched cycles = received

theorem Holds.length_le {watcher : Watcher} {held : List Snapshot} (h : Holds watcher held) :
    held.length ≤ 1 := by
  rcases h with rfl | ⟨_, hlength⟩
  · cases watcher.offered? <;> simp
  · exact hlength

/-- Whatever reaches the watcher but the slot's acceptance, it holds what it has fetched. -/
theorem Holds.step {held : List Snapshot} (h : Holds loop.watcher held) {input : Watcher.Input}
    (hinput : input ≠ .accepted) (hwatcher : later.watcher = (loop.watcher.step input).watcher) :
    Holds later.watcher ((loop.fetched? later).toList ++ held) := by
  cases hoffered : loop.watcher.offered? with
  | some snapshot =>
    have hfetched : loop.fetched? later = none := by rw [fetched?, hoffered]
    have hsome : loop.watcher.offered?.isSome = true := by rw [hoffered]; rfl
    rw [hfetched]
    rcases Watcher.offered?_step hinput hsome with hsame | hstopped
    · rcases h with rfl | ⟨hstopped, _⟩
      · refine Or.inl ?_
        rw [hwatcher, hsame]
        rfl
      · simp [Watcher.offered?_of_isStopped hstopped] at hoffered
    · refine Or.inr ⟨?_, h.length_le⟩
      rw [hwatcher]
      exact hstopped
  | none =>
    have hfetched : loop.fetched? later = later.watcher.offered? := by rw [fetched?, hoffered]
    rw [hfetched]
    rcases h with rfl | ⟨hstopped, hlength⟩
    · refine Or.inl ?_
      rw [hoffered]
      simp
    · have hlater : later.watcher.isStopped = true := by
        rw [hwatcher]
        exact Watcher.isStopped_step hstopped input
      rw [Watcher.offered?_of_isStopped hlater]
      exact Or.inr ⟨hlater, hlength⟩

theorem Surveys.filterMap_cycle? {fetch : Fetch} {seen : List Entry}
    (h : loop.Surveys fetch seen) : seen.filterMap Entry.cycle? = [] := by
  cases h <;> rfl

variable {fetched received : List Snapshot} {cycles : List Cycle}

/-- An event that touches neither the watcher nor the slot. -/
theorem Hands.of_same (h : loop.Hands fetched received cycles)
    (hwatcher : later.watcher = loop.watcher) (hslot : later.slot = loop.slot)
    {begun : List Cycle} (hbegun : watched begun = []) (answered : Option Exchange) :
    later.Hands ((loop.fetched? later).toList ++ fetched)
      ((loop.received? later).toList ++ received)
      (begun ++ Cycle.noteAnswer answered cycles) := by
  rw [fetched?_of_watcher hwatcher, received?_of_slot hslot]
  refine ⟨?_, ?_⟩
  · rw [hwatcher, hslot]
    exact h.waiting
  · rw [watched_append, hbegun, watched_noteAnswer]
    exact h.synced

/-- Whatever an event does, every snapshot is where it belongs. -/
theorem Hands.acts {seen : List Entry} (h : loop.Hands fetched received cycles)
    (hacts : loop.Acts later seen) (answered : Option Exchange) :
    later.Hands ((loop.fetched? later).toList ++ fetched)
      ((loop.received? later).toList ++ received)
      (seen.filterMap Entry.cycle? ++ Cycle.noteAnswer answered cycles) := by
  obtain ⟨held, hfetched, hheld⟩ := h.waiting
  cases hacts with
  | watched input hinput hwatcher hslot _ =>
    refine ⟨⟨(loop.fetched? later).toList ++ held, ?_, hheld.step hinput hwatcher⟩, ?_⟩
    · rw [received?_of_slot hslot, hslot, hfetched]
      simp
    · rw [filterMap_cycle?_watch, watched_append, watched_noteAnswer, received?_of_slot hslot]
      exact h.synced
  | @handed snapshot hphase hempty hwatcher hslot _ =>
    have hoffered : loop.watcher.offered? = some snapshot := by rw [Watcher.offered?, hphase]
    have hreceived : loop.received? later = none := by rw [received?, hslot]
    have hnothing : loop.fetched? later = none := by rw [fetched?, hoffered]
    have hlater : later.watcher.offered? = none := by
      rw [hwatcher]
      simp [Watcher.step, hphase, Watcher.listFrom, Watcher.offered?]
    have hall : held = [snapshot] := by
      rcases hheld with hheld | ⟨hstopped, _⟩
      · rw [hheld, hoffered]
        rfl
      · simp [Watcher.isStopped, hphase] at hstopped
    rw [hreceived, hnothing]
    refine ⟨⟨[], ?_, Or.inl ?_⟩, ?_⟩
    · rw [hfetched, hall, hempty, hslot]
      rfl
    · rw [hlater]
      rfl
    · rw [filterMap_cycle?_watch, watched_append, watched_noteAnswer]
      exact h.synced
  | went hwatcher hslot _ => exact h.of_same hwatcher hslot rfl answered
  | @took snapshot hfull hwatcher hslot _ =>
    have hreceived : loop.received? later = some snapshot := by rw [received?, hslot, hfull]
    rw [fetched?_of_watcher hwatcher, hreceived]
    refine ⟨⟨held, ?_, ?_⟩, ?_⟩
    · rw [hfetched, hfull, hslot]
      simp
    · rw [hwatcher]
      exact hheld
    · rw [watched_append, watched_noteAnswer, h.synced]
      rfl
  | surveying hsurveys hwatcher hslot _ =>
    rw [hsurveys.filterMap_cycle?]
    exact h.of_same hwatcher hslot rfl answered
  | @resynced _ _ snapshot hsurveys _ hwatcher hslot _ =>
    have hbegun : [Entry.began .resync snapshot].filterMap Entry.cycle?
        = [⟨.resync, snapshot, []⟩] := rfl
    rw [← List.singleton_append, List.filterMap_append, hsurveys.filterMap_cycle?, hbegun]
    exact h.of_same hwatcher hslot rfl answered

/-! ## Two snapshots wait -/

/-- Whether a request is a query of the watcher. -/
def Request.queries : Request → Bool
  | .watch request => request.queries
  | .survey _ | .cluster _ => false

/-- Two of the snapshots that were fetched were not received. -/
theorem Hands.crowded (h : loop.Hands fetched received cycles)
    (hcrowded : received.length + 2 ≤ fetched.length) :
    loop.slot.isSome = true ∧
      (loop.watcher.offered?.isSome = true ∨ loop.watcher.isStopped = true) := by
  obtain ⟨held, hfetched, hheld⟩ := h.waiting
  have hlength := hheld.length_le
  rw [hfetched, List.length_append, List.length_append] at hcrowded
  refine ⟨?_, ?_⟩
  · cases hslot : loop.slot with
    | some snapshot => rfl
    | none =>
      simp only [hslot, Option.toList_none, List.length_nil] at hcrowded
      omega
  · rcases hheld with hheld | ⟨hstopped, _⟩
    · refine Or.inl ?_
      cases hoffered : loop.watcher.offered? with
      | some snapshot => rfl
      | none =>
        rw [hoffered] at hheld
        rw [hheld] at hcrowded
        cases hslot : loop.slot <;> simp [hslot] at hcrowded
        omega
    · exact Or.inr hstopped

/-- While a snapshot waits with the watcher and one in the slot, an event makes the watcher ask
nothing. -/
theorem not_queries_of_crowded (event : Event)
    (h : loop.slot.isSome = true ∧
        (loop.watcher.offered?.isSome = true ∨ loop.watcher.isStopped = true) ∨
      (loop.step event).loop.watcher.offered?.isSome = true ∨
        (loop.step event).loop.watcher.isStopped = true) :
    ∀ request ∈ (loop.step event).requests, request.queries = false := by
  intro request hrequest
  cases loop.watches_step event with
  | left _ hrequests =>
    cases request with
    | watch asked => exact absurd hrequest (hrequests asked)
    | survey asked | cluster call => rfl
  | watched input hfree hwatcher hrequests =>
    rw [hrequests] at hrequest
    obtain ⟨asked, hasked, rfl⟩ := List.mem_map.1 hrequest
    refine Watcher.not_queries_step input ?_ asked hasked
    rw [← hwatcher]
    rcases h with ⟨hfull, hwaits⟩ | hlater
    · have hinput : input ≠ .accepted := by
        intro haccepted
        rw [hfree haccepted] at hfull
        cases hfull
      rw [hwatcher]
      rcases hwaits with hoffered | hstopped
      · rcases Watcher.offered?_step hinput hoffered with hsame | hstopped
        · exact Or.inl (hsame ▸ hoffered)
        · exact Or.inr hstopped
      · exact Or.inr (Watcher.isStopped_step hstopped input)
    · exact hlater

/-! ## Runs -/

theorem hands_start (scope : Scope) (interval : Duration) (pace : Pace) (now : Instant) :
    (Ledger.start scope interval pace now).loop.Hands [] [] [] :=
  ⟨⟨[], rfl, Or.inl rfl⟩, rfl⟩

theorem hands_run {ledger : Ledger}
    (h : ledger.loop.Hands ledger.fetched ledger.received ledger.cycles) (events : List Event) :
    (ledger.run events).loop.Hands (ledger.run events).fetched (ledger.run events).received
      (ledger.run events).cycles := by
  induction events generalizing ledger with
  | nil => exact h
  | cons event rest ih => exact ih (h.acts (ledger.loop.acts_step event) _)

/-- How snapshots get from the watcher to the consumer, in every run of the loop.

Oldest first, the snapshots that were received are a beginning of those that were fetched. Two at
most wait: one with the watcher and one in the slot, and if the watcher has not ended these are all
that were not received. No event before or after which two of them wait makes the watcher query
anything. The syncs that the watch began are one for every snapshot received, in the same order,
and they are syncs of the loop. -/
theorem handoff_of_run (scope : Scope) (interval : Duration) (pace : Pace) (now : Instant)
    (events : List Event) (event : Event) :
    let ledger := (Ledger.start scope interval pace now).run events
    let later := ledger.step event
    ledger.received.reverse <+: ledger.fetched.reverse ∧
      ledger.fetched.length ≤ ledger.received.length + 2 ∧
      (ledger.loop.watcher.isStopped = false →
        ledger.fetched = ledger.loop.watcher.offered?.toList ++ ledger.loop.slot.toList
          ++ ledger.received) ∧
      (ledger.received.length + 2 ≤ ledger.fetched.length ∨
          later.received.length + 2 ≤ later.fetched.length →
        ∀ request ∈ (ledger.loop.step event).requests, request.queries = false) ∧
      watched ledger.cycles = ledger.received ∧
      ledger.loop.Books scope ledger.cycles ledger.skipped := by
  intro ledger later
  have hhands : ledger.loop.Hands ledger.fetched ledger.received ledger.cycles :=
    hands_run (hands_start scope interval pace now) events
  have hlater : later.loop.Hands later.fetched later.received later.cycles :=
    hhands.acts (ledger.loop.acts_step event) _
  have hbooks := Ledger.books_run (Ledger.books_start scope interval pace now) events
  obtain ⟨held, hfetched, hheld⟩ := hhands.waiting
  refine ⟨?_, ?_, ?_, ?_, hhands.synced, hbooks⟩
  · rw [List.reverse_prefix, hfetched]
    exact List.suffix_append _ _
  · have hlength := hheld.length_le
    rw [hfetched, List.length_append, List.length_append]
    cases ledger.loop.slot <;> simp <;> omega
  · intro hrunning
    rcases hheld with rfl | ⟨hstopped, _⟩
    · exact hfetched
    · exact absurd (hrunning.symm.trans hstopped) Bool.false_ne_true
  · intro hcrowded
    refine not_queries_of_crowded event ?_
    rcases hcrowded with hbefore | hafter
    · exact Or.inl (hhands.crowded hbefore)
    · exact Or.inr (hlater.crowded hafter).2

end Loop

end CatalogBridge
