import CatalogBridge.Proofs.Watch.Attention
import CatalogBridge.Reconcile.Loop

/-!
# The log of the loop

What can be seen of a loop while it runs: its watch, the listings of its resyncs,
and the syncs that begin. The log has the newest entry first, and the events of a
run may come in any order.

* `Loop.entries` says what an event adds to the log, and `History.run` keeps the log
  of a loop from its start.
* `Acts` lists what an event can do to the watcher, to the slot and to the consumer;
  everything about runs is proved from these cases (`acts_step`).
* `slot?` and `survey?` read off the log what the slot holds and which page a resync
  is fetching. `Course` says what must come before each entry.
* `Keeps.step` says that every event keeps the loop and its log together, and
  `History.keeps_run` that they are after every run.
-/

namespace CatalogBridge

namespace Loop

/-! ## Logs -/

/-- What can be seen of a loop. -/
inductive Entry where
  /-- What can be seen of its watch. -/
  | watch (entry : Watcher.Entry)
  /-- The listing of a resync was answered. -/
  | surveyed (page : CatalogPage)
  /-- A sync began. -/
  | began (trigger : Trigger) (snapshot : Snapshot)

/-- What an event is to the watcher. -/
def watchInput? (loop : Loop) : Event → Option Watcher.Input
  | .watchListed answer => some (.listed answer)
  | .watchWoke => some .woke
  | .watchFetched position answer => some (.fetched position answer)
  | .watchDied => some .died
  | .watchCancelled => if loop.cancelled then some .cancelled else none
  | .handOver =>
    match loop.watcher.offered?, loop.consumer, loop.slot with
    | some _, .ended _, _ => some .refused
    | some _, _, none => some .accepted
    | _, _, _ => none
  | _ => none

/-- The sync that begins when a survey is done. -/
def begun : Survey.Progress → List Entry
  | .done (.ok snapshot) => [.began .resync snapshot]
  | _ => []

/-- What an input is to the survey of a resync. -/
def surveyNoted (survey : Survey) (input : Survey.Input) : List Entry :=
  match survey, input with
  | .listing, .listed (.ok page) => begun (survey.step input).1 ++ [.surveyed page]
  | _, _ => begun (survey.step input).1

/-- What an event is to the consumer. -/
def noted (loop : Loop) : Event → List Entry
  | .poll now =>
    match loop.consumer, loop.slot with
    | .idle, some snapshot =>
      if loop.cancelled || loop.ticker.isDue now then [] else [.began .watch snapshot]
    | _, _ => []
  | .surveyed input =>
    match loop.consumer with
    | .surveying survey => if loop.cancelled then [] else surveyNoted survey input
    | _ => []
  | _ => []

/-- What an event adds to the log. -/
def entries (loop : Loop) (event : Event) : List Entry :=
  match loop.watchInput? event with
  | some input => (loop.watcher.entries input).map .watch
  | none => loop.noted event

end Loop

/-- A loop with its log. -/
structure History where
  loop : Loop
  log : List Loop.Entry

namespace History

/-- A loop that has just started. -/
def start (scope : Scope) (interval : Duration) (pace : Pace) (now : Instant) : History :=
  ⟨(Loop.start scope interval pace now).loop, (Watch.start pace).log.map .watch⟩

/-- One event, with what it adds to the log. -/
def step (history : History) (event : Loop.Event) : History :=
  ⟨(history.loop.step event).loop, history.loop.entries event ++ history.log⟩

/-- A loop after some events. -/
def run (history : History) (events : List Loop.Event) : History := events.foldl step history

/-- The log is kept beside the run and does not change it. -/
theorem loop_run (history : History) (events : List Loop.Event) :
    (history.run events).loop = (history.loop.run events).loop := by
  induction events generalizing history with
  | nil => rfl
  | cons event rest ih => exact ih (history.step event)

end History

namespace Loop

variable {loop later : Loop}

/-! ## What an event can do -/

/-- What an input can do to the survey of a resync: the fetch that it leads to, and what is noted
of it. -/
inductive Surveys (loop : Loop) : Fetch → List Entry → Prop
  | listed (page : CatalogPage) (hconsumer : loop.consumer = .surveying .listing) :
      Surveys loop (Fetch.start page.names).1 [.surveyed page]
  | fetched {fetch : Fetch} (position : Nat) (result : Except Error (List Instance))
      (hconsumer : loop.consumer = .surveying (.fetching fetch)) :
      Surveys loop (fetch.answer .resync position result).1 []

/-- What an event can do, with what is noted of it. -/
inductive Acts (loop later : Loop) : List Entry → Prop
  /-- The watcher goes on, but its snapshot does not leave it. -/
  | watched (input : Watcher.Input) (hinput : input ≠ .accepted)
      (hwatcher : later.watcher = (loop.watcher.step input).watcher)
      (hslot : later.slot = loop.slot) (hconsumer : later.consumer = loop.consumer) :
      Acts loop later ((loop.watcher.entries input).map .watch)
  /-- The snapshot of the watcher goes into the slot. -/
  | handed {snapshot : Snapshot} (hphase : loop.watcher.phase = .offering snapshot)
      (hempty : loop.slot = none)
      (hwatcher : later.watcher = (loop.watcher.step .accepted).watcher)
      (hslot : later.slot = some snapshot) (hconsumer : later.consumer = loop.consumer) :
      Acts loop later ((loop.watcher.entries .accepted).map .watch)
  /-- The consumer goes on with what it does, gives it up, or starts a survey. -/
  | went (hwatcher : later.watcher = loop.watcher) (hslot : later.slot = loop.slot)
      (hconsumer : ∀ fetch, later.consumer = .surveying (.fetching fetch) →
        loop.consumer = .surveying (.fetching fetch)) :
      Acts loop later []
  /-- The consumer syncs the snapshot of the slot. -/
  | took {snapshot : Snapshot} (hfull : loop.slot = some snapshot)
      (hwatcher : later.watcher = loop.watcher) (hslot : later.slot = none)
      (hconsumer : ∀ survey, later.consumer ≠ .surveying survey) :
      Acts loop later [.began .watch snapshot]
  /-- The survey of a resync goes on. -/
  | surveying {fetch : Fetch} {seen : List Entry} (hsurveys : loop.Surveys fetch seen)
      (hwatcher : later.watcher = loop.watcher) (hslot : later.slot = loop.slot)
      (hconsumer : later.consumer = .surveying (.fetching fetch)) :
      Acts loop later seen
  /-- The survey of a resync is done, and what it found is synced. -/
  | resynced {fetch : Fetch} {seen : List Entry} {snapshot : Snapshot}
      (hsurveys : loop.Surveys fetch seen) (hsnapshot : fetch.snapshot? = some snapshot)
      (hwatcher : later.watcher = loop.watcher) (hslot : later.slot = loop.slot)
      (hconsumer : ∀ survey, later.consumer ≠ .surveying survey) :
      Acts loop later (.began .resync snapshot :: seen)

/-- A sync that goes on or ends leaves watcher and slot alone, and the consumer surveys nothing. -/
theorem advance_frame (loop : Loop) (trigger : Trigger)
    (program : Program (Except Error Summary)) :
    (loop.advance trigger program).loop.watcher = loop.watcher ∧
      (loop.advance trigger program).loop.slot = loop.slot ∧
      ∀ survey, (loop.advance trigger program).loop.consumer ≠ .surveying survey := by
  unfold advance
  generalize program.pause = reached
  obtain ⟨effects, paused⟩ := reached
  cases paused with
  | ask call next => exact ⟨rfl, rfl, by simp⟩
  | done result => cases result <;> exact ⟨rfl, rfl, by simp [finish]⟩

theorem begin_frame (loop : Loop) (trigger : Trigger) (snapshot : Snapshot) :
    (loop.begin trigger snapshot).loop.watcher = loop.watcher ∧
      (loop.begin trigger snapshot).loop.slot = loop.slot ∧
      ∀ survey, (loop.begin trigger snapshot).loop.consumer ≠ .surveying survey :=
  advance_frame loop trigger _

theorem acts_stay (loop : Loop) : loop.Acts loop.stay.loop [] :=
  .went rfl rfl fun _ hconsumer => hconsumer

theorem acts_abandon (loop : Loop) : loop.Acts loop.abandon.loop [] := by
  unfold abandon
  cases hconsumer : loop.consumer with
  | syncing trigger call next | surveying survey => exact .went rfl rfl (by simp)
  | idle | ended result => exact loop.acts_stay

/-- Once the run is cancelled an answer only makes the consumer give up. -/
theorem acts_unlessCancelled {reaction : Reaction} {seen : List Entry}
    (hgiven : loop.cancelled = true → seen = [])
    (h : loop.cancelled = false → loop.Acts reaction.loop seen) :
    loop.Acts (loop.unlessCancelled reaction).loop seen := by
  unfold unlessCancelled
  cases hcancelled : loop.cancelled with
  | true =>
    rw [if_pos rfl, hgiven hcancelled]
    exact loop.acts_abandon
  | false =>
    rw [if_neg Bool.false_ne_true]
    exact h hcancelled

/-- An input to the watcher reaches nothing else. -/
theorem acts_watchInput (loop : Loop) (input : Watcher.Input) (hinput : input ≠ .accepted) :
    loop.Acts (loop.watchInput input).loop ((loop.watcher.entries input).map .watch) :=
  .watched input hinput rfl rfl rfl

/-- A look that finds the run cancelled or a tick due takes no snapshot. -/
theorem noted_poll_of_due {now : Instant}
    (h : (loop.cancelled || loop.ticker.isDue now) = true) : loop.noted (.poll now) = [] := by
  unfold noted
  cases loop.consumer <;> cases loop.slot <;> simp [h]

theorem noted_poll_of_empty {now : Instant} (h : loop.slot = none) :
    loop.noted (.poll now) = [] := by
  unfold noted
  cases loop.consumer <;> simp [h]

/-- A tick starts a survey. -/
theorem acts_tick (loop : Loop) (ticker : Ticker) :
    loop.Acts { loop with ticker := ticker, consumer := .surveying .listing } [] :=
  .went rfl rfl (by simp)

/-- The loop ends. -/
theorem acts_end (loop : Loop) (result : Except Error Unit) :
    loop.Acts { loop with consumer := .ended result } [] :=
  .went rfl rfl (by simp)

/-- The consumer looks at its sources: it takes a snapshot only if no tick is due. -/
theorem acts_look (now : Instant) (hidle : loop.consumer = .idle) :
    loop.Acts (loop.look now).loop (loop.noted (.poll now)) := by
  unfold look
  by_cases hcancelled : loop.cancelled = true
  · rw [if_pos hcancelled, noted_poll_of_due (by simp [hcancelled])]
    exact loop.acts_end _
  · by_cases hdue : loop.ticker.isDue now = true
    · rw [if_neg hcancelled, if_pos hdue, noted_poll_of_due (by simp [hdue])]
      exact loop.acts_tick _
    · rw [if_neg hcancelled, if_neg hdue]
      split
      · rename_i snapshot hslot
        obtain ⟨hwatcher, hempty, hconsumer⟩ :=
          begin_frame { loop with slot := none } .watch snapshot
        have hnoted : loop.noted (.poll now) = [.began .watch snapshot] := by
          simp [noted, hidle, hslot, hcancelled, hdue]
        rw [hnoted]
        exact .took hslot hwatcher hempty hconsumer
      · rename_i hslot
        rw [noted_poll_of_empty hslot]
        by_cases hstopped : loop.watcher.isStopped = true
        · rw [if_pos hstopped]
          exact loop.acts_end _
        · rw [if_neg hstopped]
          exact loop.acts_stay

/-- A survey that has fetched goes on, or what it found is synced. -/
theorem acts_proceed {fetch : Fetch} {seen : List Entry} (hsurveys : loop.Surveys fetch seen)
    (effects : List Effect) (queries : List InstanceQuery) :
    loop.Acts ((loop.absorb effects).onSurvey (Survey.proceed fetch queries)).loop
      (begun (Survey.proceed fetch queries) ++ seen) := by
  unfold Survey.proceed
  cases hsnapshot : fetch.snapshot? with
  | none => exact .surveying hsurveys rfl rfl rfl
  | some snapshot =>
    obtain ⟨hwatcher, hslot, hconsumer⟩ := begin_frame (loop.absorb effects) .resync snapshot
    exact .resynced hsurveys hsnapshot hwatcher hslot hconsumer

/-- An answer reaches the survey of a resync. -/
theorem acts_survey {survey : Survey} (hconsumer : loop.consumer = .surveying survey)
    (input : Survey.Input) :
    loop.Acts ((loop.absorb (survey.step input).2).onSurvey (survey.step input).1).loop
      (surveyNoted survey input) := by
  cases survey with
  | listing =>
    cases input with
    | listed answer =>
      cases answer with
      | ok page => exact acts_proceed (.listed page hconsumer) _ _
      | error error => exact .went rfl rfl (by simp [Survey.step, onSurvey])
    | fetched position result => exact .went rfl rfl (by simp [Survey.step, onSurvey])
  | fetching fetch =>
    cases input with
    | listed answer =>
      cases answer <;> exact .went rfl rfl fun _ hlater => hconsumer.trans hlater
    | fetched position result =>
      have hacts := acts_proceed (.fetched position result hconsumer)
        (fetch.answer .resync position result).2.2 (fetch.answer .resync position result).2.1
      rw [List.append_nil] at hacts
      exact hacts

theorem acts_step (loop : Loop) (event : Event) :
    loop.Acts (loop.step event).loop (loop.entries event) := by
  unfold entries
  cases event with
  | watchListed answer => exact loop.acts_watchInput _ (by simp)
  | watchWoke => exact loop.acts_watchInput _ (by simp)
  | watchFetched position answer => exact loop.acts_watchInput _ (by simp)
  | watchDied => exact loop.acts_watchInput _ (by simp)
  | watchCancelled =>
    by_cases hcancelled : loop.cancelled = true
    · simp only [watchInput?, step, hcancelled, if_true]
      exact loop.acts_watchInput _ (by simp)
    · simp only [watchInput?, step, hcancelled]
      exact loop.acts_stay
  | handOver =>
    simp only [watchInput?, step, Watcher.offered?]
    cases hphase : loop.watcher.phase with
    | offering snapshot =>
      cases hconsumer : loop.consumer with
      | ended result => exact loop.acts_watchInput .refused (by simp)
      | idle | surveying survey | syncing trigger call next =>
        cases hslot : loop.slot with
        | none => exact .handed hphase hslot rfl rfl hconsumer.symm
        | some other => exact loop.acts_stay
    | _ => exact loop.acts_stay
  | poll now =>
    simp only [watchInput?, step]
    cases hconsumer : loop.consumer with
    | idle => exact acts_look now hconsumer
    | ended result =>
      simp only [noted, hconsumer]
      exact loop.acts_stay
    | surveying survey | syncing trigger call next =>
      simp only [noted, hconsumer]
      exact acts_unlessCancelled (fun _ => rfl) fun _ => loop.acts_stay
  | surveyed input =>
    simp only [watchInput?, noted, step]
    cases hconsumer : loop.consumer with
    | surveying survey =>
      have hseen : loop.cancelled = false →
          (if loop.cancelled = true then [] else surveyNoted survey input)
            = surveyNoted survey input := by
        intro hcancelled
        simp [hcancelled]
      refine acts_unlessCancelled (fun hcancelled => if_pos hcancelled) fun hcancelled => ?_
      have hacts := acts_survey hconsumer input
      rw [← hseen hcancelled] at hacts
      exact hacts
    | idle | syncing trigger call next | ended result => exact loop.acts_stay
  | answered call answer =>
    simp only [watchInput?, noted, step]
    cases hconsumer : loop.consumer with
    | syncing trigger pending next =>
      refine acts_unlessCancelled (fun _ => rfl) fun _ => ?_
      split_ifs with hcall
      · obtain ⟨hwatcher, hslot, hlater⟩ := loop.advance_frame trigger (next (hcall ▸ answer))
        exact .went hwatcher hslot fun fetch hfetch => absurd hfetch (hlater _)
      · exact loop.acts_stay
    | idle | surveying survey | ended result => exact loop.acts_stay
  | cancel => exact .went rfl rfl fun _ hconsumer => hconsumer

end Loop

end CatalogBridge
