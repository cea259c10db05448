import CatalogBridge.Proofs.Reconcile.Log

/-!
# The course of the loop

The log of a loop tells what its parts are holding: the slot holds the latest
snapshot that no sync took, and a resync fetches the page of the latest listing
that no sync followed. So the states of a loop need not be looked at to say where
the snapshot of a sync came from.

* `slot?` and `survey?` read this off the log.
* `Course` says of every entry of a log what must come before it.
* `Keeps` relates a loop to its log. `Keeps.step` says that every event keeps them
  together, one case for everything an event can do, and `History.keeps_run` that
  they are together after every run.
-/

namespace CatalogBridge

namespace Loop

variable {loop later : Loop} {log : List Entry}

/-! ## Reading a log -/

/-- The log of the watch. -/
def watchLog : List Entry → List Watcher.Entry
  | [] => []
  | .watch entry :: earlier => entry :: watchLog earlier
  | .surveyed _ :: earlier | .began _ _ :: earlier => watchLog earlier

/-- The snapshot that the slot took and that no sync took from it. -/
def slot? : List Entry → Option Snapshot
  | [] => none
  | .watch (.emitted snapshot) :: _ => some snapshot
  | .began .watch _ :: _ => none
  | .watch (.asked _) :: earlier | .watch .failed :: earlier | .watch (.told _) :: earlier
  | .surveyed _ :: earlier | .began .resync _ :: earlier => slot? earlier

/-- The page that a resync listed and that no sync has followed. -/
def survey? : List Entry → Option CatalogPage
  | [] => none
  | .surveyed page :: _ => some page
  | .began _ _ :: _ => none
  | .watch _ :: earlier => survey? earlier

@[simp] theorem watchLog_append (entries : List Watcher.Entry) (log : List Entry) :
    watchLog (entries.map .watch ++ log) = entries ++ watchLog log := by
  induction entries with
  | nil => rfl
  | cons entry rest ih => rw [List.map_cons, List.cons_append, watchLog, ih, List.cons_append]

@[simp] theorem survey?_append (entries : List Watcher.Entry) (log : List Entry) :
    survey? (entries.map .watch ++ log) = survey? log := by
  induction entries with
  | nil => rfl
  | cons entry rest ih => rw [List.map_cons, List.cons_append, survey?, ih]

theorem slot?_watch {entry : Watcher.Entry} (h : ∀ snapshot, entry ≠ .emitted snapshot) :
    slot? (.watch entry :: log) = slot? log := by
  cases entry with
  | emitted snapshot => exact absurd rfl (h snapshot)
  | asked index | failed | told page => rfl

/-! ## Courses -/

/-- The logs of loops, entry by entry. -/
inductive Course : List Entry → Prop
  /-- The watch begins. -/
  | start : Course [.watch (.asked .none)]
  /-- The watch goes on. -/
  | watched {entry : Watcher.Entry} {log : List Entry} (h : Course log)
      (hwatch : Watcher.Course (entry :: watchLog log))
      (hkept : ∀ snapshot, entry ≠ .emitted snapshot) : Course (.watch entry :: log)
  /-- A snapshot goes into the empty slot. -/
  | handed {snapshot : Snapshot} {log : List Entry} (h : Course log)
      (hwatch : Watcher.Course (.emitted snapshot :: watchLog log)) (hempty : slot? log = none) :
      Course (.watch (.emitted snapshot) :: log)
  | surveyed {log : List Entry} (page : CatalogPage) (h : Course log) :
      Course (.surveyed page :: log)
  /-- The snapshot of the slot is synced. -/
  | took {snapshot : Snapshot} {log : List Entry} (h : Course log)
      (hfull : slot? log = some snapshot) : Course (.began .watch snapshot :: log)
  /-- What a survey found is synced. -/
  | resynced {page : CatalogPage} {snapshot : Snapshot} {log : List Entry} (h : Course log)
      (hsurvey : survey? log = some page) (hyields : page.Yields snapshot) :
      Course (.began .resync snapshot :: log)

theorem Course.tail {entry : Entry} {earlier : List Entry} (h : Course (entry :: earlier)) :
    earlier = [] ∨ Course earlier := by
  cases h with
  | start => exact Or.inl rfl
  | watched h _ _ | handed h _ _ | surveyed _ h | took h _ | resynced h _ _ => exact Or.inr h

/-- The beginning of a course is a course. -/
theorem Course.of_suffix {moment : List Entry} (h : Course log) (hsuffix : moment <:+ log)
    (hsome : moment ≠ []) : Course moment :=
  of_suffix_of_tail (fun _ _ => Course.tail) h hsuffix hsome

/-- What the watcher adds to the log without handing over a snapshot. -/
theorem Course.append_watch {entries : List Watcher.Entry} (h : Course log)
    (hwatch : Watcher.Course (entries ++ watchLog log))
    (hkept : ∀ entry ∈ entries, ∀ snapshot, entry ≠ .emitted snapshot) :
    Course (entries.map .watch ++ log) ∧ slot? (entries.map .watch ++ log) = slot? log := by
  induction entries with
  | nil => exact ⟨h, rfl⟩
  | cons entry rest ih =>
    have hentry := hkept entry List.mem_cons_self
    have hrest : ∀ other ∈ rest, ∀ snapshot, other ≠ .emitted snapshot :=
      fun other hother => hkept other (List.mem_cons_of_mem _ hother)
    have htail : Course (rest.map .watch ++ log) ∧
        slot? (rest.map .watch ++ log) = slot? log := by
      rcases hwatch.tail with hnil | htail
      · obtain ⟨rfl, _⟩ := List.append_eq_nil_iff.1 hnil
        exact ⟨h, rfl⟩
      · exact ih htail hrest
    refine ⟨htail.1.watched ?_ hentry, ?_⟩
    · rw [watchLog_append]
      exact hwatch
    · rw [List.map_cons, List.cons_append, slot?_watch hentry, htail.2]

/-! ## A loop and its log -/

/-- The loop holds what its log says. -/
structure Keeps (loop : Loop) (log : List Entry) : Prop where
  course : Course log
  watcher : loop.watcher.Follows (watchLog log)
  slot : loop.slot = slot? log
  survey : ∀ fetch, loop.consumer = .surveying (.fetching fetch) →
    ∃ page outcome, survey? log = some page ∧ fetch.Answered page.names outcome

/-- A survey that goes on fetches the page that the log names. -/
theorem Keeps.surveys {fetch : Fetch} {seen : List Entry} (h : loop.Keeps log)
    (hsurveys : loop.Surveys fetch seen) :
    Course (seen ++ log) ∧ watchLog (seen ++ log) = watchLog log ∧
      slot? (seen ++ log) = slot? log ∧
      ∃ page outcome, survey? (seen ++ log) = some page ∧ fetch.Answered page.names outcome := by
  cases hsurveys with
  | listed page hconsumer =>
    have hfetch := Fetch.answered_start page.names fun _ => .ok []
    exact ⟨h.course.surveyed page, rfl, rfl, page, _, rfl, hfetch⟩
  | fetched position result hconsumer =>
    obtain ⟨page, outcome, hsurvey, hanswered⟩ := h.survey _ hconsumer
    obtain ⟨next, hnext⟩ := hanswered.exists_answer .resync position result
    exact ⟨h.course, rfl, rfl, page, next, hsurvey, hnext⟩

/-- Whatever an event does, the loop holds what its log says. -/
theorem Keeps.acts {seen : List Entry} (h : loop.Keeps log) (hacts : loop.Acts later seen) :
    later.Keeps (seen ++ log) := by
  cases hacts with
  | watched input hinput hwatcher hslot hconsumer =>
    have hstep := h.watcher.step input
    obtain ⟨hcourse, hsame⟩ := h.course.append_watch hstep.course
      fun entry hentry => Watcher.not_emitted_of_mem_entries hinput hentry
    refine ⟨hcourse, ?_, ?_, ?_⟩
    · rw [hwatcher, watchLog_append]
      exact hstep
    · rw [hslot, h.slot, hsame]
    · rw [hconsumer, survey?_append]
      exact h.survey
  | @handed snapshot hphase hempty hwatcher hslot hconsumer =>
    have hstep := h.watcher.step .accepted
    rw [Watcher.entries_accepted hphase] at hstep ⊢
    have hemitted : Watcher.Course (.emitted snapshot :: watchLog log) :=
      hstep.course.tail.resolve_left (by simp)
    refine ⟨.watched (h.course.handed hemitted (h.slot.symm.trans hempty)) hstep.course (by simp),
      ?_, hslot, ?_⟩
    · rw [hwatcher]
      exact hstep
    · rw [hconsumer]
      exact h.survey
  | went hwatcher hslot hconsumer =>
    exact ⟨h.course, hwatcher ▸ h.watcher, hslot.trans h.slot,
      fun fetch hfetch => h.survey fetch (hconsumer fetch hfetch)⟩
  | took hfull hwatcher hslot hconsumer =>
    exact ⟨h.course.took (h.slot.symm.trans hfull), hwatcher ▸ h.watcher, hslot,
      fun fetch hfetch => absurd hfetch (hconsumer _)⟩
  | surveying hsurveys hwatcher hslot hconsumer =>
    obtain ⟨hcourse, hwatch, hsame, hsurvey⟩ := h.surveys hsurveys
    refine ⟨hcourse, ?_, ?_, ?_⟩
    · rw [hwatcher, hwatch]
      exact h.watcher
    · rw [hslot, h.slot, hsame]
    · intro fetch hfetch
      obtain rfl := Survey.fetching.inj (Consumer.surveying.inj (hconsumer.symm.trans hfetch))
      exact hsurvey
  | resynced hsurveys hsnapshot hwatcher hslot hconsumer =>
    obtain ⟨hcourse, hwatch, hsame, page, outcome, hsurvey, hanswered⟩ := h.surveys hsurveys
    refine ⟨hcourse.resynced hsurvey ⟨outcome, hanswered.snapshot?_eq hsnapshot⟩, ?_, ?_, ?_⟩
    · rw [hwatcher]
      exact hwatch ▸ h.watcher
    · rw [hslot, h.slot]
      exact hsame.symm
    · exact fun fetch hfetch => absurd hfetch (hconsumer _)

theorem Keeps.step (h : loop.Keeps log) (event : Event) :
    (loop.step event).loop.Keeps (loop.entries event ++ log) :=
  h.acts (loop.acts_step event)

end Loop

namespace History

theorem keeps_start (scope : Scope) (interval : Duration) (pace : Pace) (now : Instant) :
    (start scope interval pace now).loop.Keeps (start scope interval pace now).log :=
  ⟨.start, Watch.follows_start pace, rfl, fun _ hfetch => nomatch hfetch⟩

/-- A loop holds what its log says, in whatever order things happen. -/
theorem keeps_run {history : History} (h : history.loop.Keeps history.log)
    (events : List Loop.Event) :
    (history.run events).loop.Keeps (history.run events).log := by
  induction events generalizing history with
  | nil => exact h
  | cons event rest ih => exact ih (h.step event)

end History

end CatalogBridge
