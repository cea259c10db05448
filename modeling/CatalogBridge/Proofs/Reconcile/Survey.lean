import CatalogBridge.Proofs.Reconcile.Shutdown
import CatalogBridge.Proofs.Watch.Window

/-!
# What a survey finds

A resync lists the catalog once and fetches the page that it gets, beside a watcher
that goes on with its own queries. This module says what a survey comes to, in
whatever order its health queries are answered.

* `Surveying` is a survey with what it has asked, told and counted, and its `Course`
  has the listing answered first and then the queries in flight one by one.
* `Shows` says that a survey stands where a fetch of its page stands;
  `Shows.step` says that each answer keeps it so.
* `unfolds_of_course` says that a survey fails exactly if its listing does, and else is
  a fetch of the page, and `watcher_surveyed` that no step of it reaches the watcher.
* `fetched_in_any_order` puts together what holds of fetches, of surveys and of the
  watcher meanwhile.
-/

namespace CatalogBridge

/-- A survey with what it has asked, and what it has told and counted. -/
structure Surveying where
  progress : Survey.Progress
  asked : List Survey.Request
  effects : List Effect

namespace Surveying

/-- The health queries that a survey asks as it goes on. -/
def requests : Survey.Progress → List Survey.Request
  | .running _ queries => queries.map .instances
  | .done _ => []

/-- The listing is asked and not yet answered. -/
def start : Surveying := ⟨.running .listing [], [.list], []⟩

/-- The survey after an input; one that is done stays as it is. -/
def step (surveying : Surveying) (input : Survey.Input) : Surveying :=
  match surveying.progress with
  | .running survey _ =>
    let (progress, effects) := survey.step input
    ⟨progress, surveying.asked ++ requests progress, surveying.effects ++ effects⟩
  | .done _ => surveying

/-- The query of a place is in flight: it was asked, and is none of those answered. -/
def InFlight (surveying : Surveying) (order : List Nat) (position : Nat) : Prop :=
  (∃ query, .instances query ∈ surveying.asked ∧ query.position = position) ∧ position ∉ order

/-- A catalog answers the listing of a survey, and then the health queries are answered in some
order, each while it is in flight; the newest answer stands first. -/
inductive Course (catalog : ChangeIndex → Except Error CatalogPage)
    (outcome : Nat → Except Error (List Instance)) : List Nat → Surveying → Prop
  | listed : Course catalog outcome [] (start.step (.listed (catalog Survey.index)))
  | fetched {order : List Nat} {surveying : Surveying} {position : Nat}
      (h : Course catalog outcome order surveying)
      (hflight : surveying.InFlight order position) :
      Course catalog outcome (position :: order)
        (surveying.step (.fetched position (outcome position)))

/-- A survey stands where a fetch of its page stands. -/
structure Shows (surveying : Surveying) (fetching : Fetching) : Prop where
  progress : ∃ queries, surveying.progress = Survey.proceed fetching.fetch queries
  asked : surveying.asked = .list :: fetching.asked.map .instances
  effects : surveying.effects = fetching.effects

variable {catalog : ChangeIndex → Except Error CatalogPage}
  {outcome : Nat → Except Error (List Instance)} {names : List String} {order : List Nat}
  {surveying : Surveying} {fetching : Fetching} {position : Nat}

/-! ## Surveys and fetches -/

/-- A survey that goes on asks the queries of its fetch, and a fetch that is complete has none. -/
theorem requests_proceed (fetch : Fetch) :
    requests (Survey.proceed fetch.fill.1 fetch.fill.2) = fetch.fill.2.map .instances := by
  unfold Survey.proceed
  cases hsnapshot : fetch.fill.1.snapshot? with
  | none => rfl
  | some snapshot =>
    unfold Fetch.snapshot? at hsnapshot
    split_ifs at hsnapshot with hempty
    have hstarted := List.isEmpty_iff.1 (Bool.and_eq_true_iff.1 hempty).1
    have hnone : fetch.waiting.take fetch.room = [] := by
      simpa [Fetch.fill] using (List.append_eq_nil_iff.1 hstarted).2
    rw [Fetch.fill, hnone]
    rfl

theorem shows_listed (page : CatalogPage) :
    (start.step (.listed (.ok page))).Shows (Fetching.start page.names) :=
  ⟨⟨_, rfl⟩, congrArg (Survey.Request.list :: ·) (requests_proceed _), rfl⟩

theorem Shows.inFlight_iff (h : surveying.Shows fetching) :
    surveying.InFlight order position ↔ fetching.InFlight order position := by
  refine and_congr_left fun _ => ?_
  rw [h.asked]
  simp

/-- Where the fetch has its snapshot the survey is done with it. -/
theorem Shows.done_iff (h : surveying.Shows fetching) (result : Except Error Snapshot) :
    surveying.progress = .done result ↔
      ∃ snapshot, fetching.fetch.snapshot? = some snapshot ∧ result = .ok snapshot := by
  obtain ⟨queries, hprogress⟩ := h.progress
  rw [hprogress, Survey.proceed]
  cases hsnapshot : fetching.fetch.snapshot? with
  | none => simp
  | some snapshot => simp [eq_comm]

/-- An answer to a query in flight is one to the survey and to its fetch. -/
theorem Shows.step (h : surveying.Shows fetching)
    (hsound : fetching.Sound names outcome order) (hflight : surveying.InFlight order position) :
    (surveying.step (.fetched position (outcome position))).Shows
      (fetching.answer .resync position (outcome position)) := by
  have hfetching := h.inFlight_iff.1 hflight
  -- A fetch with a query in flight has no snapshot yet, so the survey is under way.
  have hopen : fetching.fetch.snapshot? = none := by
    by_contra hsome
    obtain ⟨snapshot, hsnapshot⟩ := Option.ne_none_iff_exists'.1 hsome
    exact hsound.not_inFlight_of_perm (hsound.snapshot?_eq_some_iff.1 hsnapshot).1 hfetching
  obtain ⟨queries, hprogress⟩ := h.progress
  have hrunning : surveying.progress = .running (.fetching fetching.fetch) queries := by
    rw [hprogress, Survey.proceed, hopen]
  obtain ⟨name, hawaited⟩ := hsound.awaited hfetching
  obtain ⟨handed, hanswer, _⟩ := Fetch.answer_eq .resync (outcome position) hawaited
  simp only [Surveying.step, hrunning, Survey.step, Fetching.answer, hanswer]
  refine ⟨⟨_, rfl⟩, ?_, by rw [h.effects]⟩
  rw [requests_proceed, h.asked, List.map_append, List.cons_append]

/-- A survey whose listing gives a page is a fetch of this page. -/
theorem exists_fetching {page : CatalogPage} (h : Course catalog outcome order surveying)
    (hpage : catalog .none = .ok page) :
    ∃ fetching, Fetching.Course .resync page.names outcome order fetching ∧
      surveying.Shows fetching := by
  induction h with
  | listed =>
    have hlisted : catalog Survey.index = .ok page := hpage
    rw [hlisted]
    exact ⟨_, .start, shows_listed page⟩
  | fetched _ hflight ih =>
    obtain ⟨fetching, hcourse, hshows⟩ := ih
    exact ⟨_, hcourse.answered (hshows.inFlight_iff.1 hflight),
      hshows.step (Fetching.sound_of_course hcourse) hflight⟩

/-- A survey whose listing fails gets no answer after it. -/
theorem eq_of_refused {error : Error} (h : Course catalog outcome order surveying)
    (hrefused : catalog .none = .error error) :
    surveying = ⟨.done (.error error), [.list], [.measure .registryError]⟩ := by
  induction h with
  | listed =>
    have hlisted : catalog Survey.index = .error error := hrefused
    rw [hlisted]
    rfl
  | fetched _ hflight ih =>
    obtain ⟨⟨query, hquery, _⟩, _⟩ := hflight
    rw [ih] at hquery
    cases List.mem_singleton.1 hquery

/-- What a survey comes to, by the answer to its listing. -/
inductive Unfolds (outcome : Nat → Except Error (List Instance)) (order : List Nat)
    (surveying : Surveying) : Except Error CatalogPage → Prop
  /-- The listing failed: the survey fails with its error, it asks nothing more, and one failure is
  counted. -/
  | refused (error : Error) (hprogress : surveying.progress = .done (.error error))
      (hasked : surveying.asked = [.list])
      (hcounted : ∀ metrics : Metrics,
        metrics.recordAll (Effect.measurements surveying.effects)
          = { metrics with registryErrors := metrics.registryErrors + 1 }) :
      Unfolds outcome order surveying (.error error)
  /-- The listing gave a page: the survey is a fetch of it, and is done with the snapshot of the
  fetch. -/
  | fetched (page : CatalogPage) (fetching : Fetching)
      (hcourse : Fetching.Course .resync page.names outcome order fetching)
      (hasked : surveying.asked = .list :: fetching.asked.map .instances)
      (heffects : surveying.effects = fetching.effects)
      (hdone : ∀ result, surveying.progress = .done result ↔
        ∃ snapshot, fetching.fetch.snapshot? = some snapshot ∧ result = .ok snapshot) :
      Unfolds outcome order surveying (.ok page)

theorem unfolds_of_course (h : Course catalog outcome order surveying) :
    surveying.Unfolds outcome order (catalog .none) := by
  cases hlisted : catalog .none with
  | error error =>
    rw [eq_of_refused h hlisted]
    exact .refused error rfl rfl fun _ => rfl
  | ok page =>
    obtain ⟨fetching, hcourse, hshows⟩ := exists_fetching h hlisted
    exact .fetched page fetching hcourse hshows.asked hshows.effects hshows.done_iff

end Surveying

/-! ## The watcher meanwhile -/

namespace Loop

/-- A look at the sources does not reach the watcher. -/
theorem watcher_look (loop : Loop) (now : Instant) :
    (loop.look now).loop.watcher = loop.watcher := by
  by_cases hcancelled : loop.cancelled = true
  · simp only [look, if_pos hcancelled]
  · by_cases hdue : loop.ticker.isDue now = true
    · simp only [look, if_neg hcancelled, if_pos hdue]
    · unfold look
      rw [if_neg hcancelled, if_neg hdue]
      split
      · exact (begin_frame { loop with slot := none } .watch _).1
      · by_cases hstopped : loop.watcher.isStopped = true
        · rw [if_pos hstopped]
        · rw [if_neg hstopped]
          rfl

/-- A resync begins beside the watcher. -/
theorem watcher_poll (loop : Loop) (now : Instant) :
    (loop.step (.poll now)).loop.watcher = loop.watcher := by
  simp only [step]
  cases loop.consumer with
  | idle => exact loop.watcher_look now
  | ended result => rfl
  | surveying survey | syncing trigger call next =>
    simp only [unlessCancelled]
    split_ifs
    · exact loop.watcher_abandon
    · rfl

/-- An answer to a survey does not reach the watcher. -/
theorem watcher_surveyed (loop : Loop) (input : Survey.Input) :
    (loop.step (.surveyed input)).loop.watcher = loop.watcher := by
  have honSurvey : ∀ (base : Loop) (progress : Survey.Progress),
      (base.onSurvey progress).loop.watcher = base.watcher := by
    intro base progress
    unfold onSurvey
    split
    · rfl
    · exact (begin_frame _ _ _).1
    · rfl
  simp only [step]
  cases loop.consumer with
  | surveying survey =>
    simp only [unlessCancelled]
    split_ifs
    · exact loop.watcher_abandon
    · exact honSurvey _ _
  | idle | syncing trigger call next | ended result => rfl

end Loop

/-- The queries of a fetch may be answered in any order. The snapshot has a state for each name of
the page in order, with the instances of this name or none if its query failed, and every failure is
counted. A survey is such a fetch unless its listing fails, and leaves the watcher as it is. -/
theorem fetched_in_any_order (outcome : Nat → Except Error (List Instance)) (order : List Nat) :
    (∀ trigger names fetching, Fetching.Course trigger names outcome order fetching →
        fetching.Faithful names outcome order) ∧
      (∀ catalog surveying, Surveying.Course catalog outcome order surveying →
        surveying.Unfolds outcome order (catalog .none)) ∧
      ∀ loop : Loop, (∀ now, (loop.step (.poll now)).loop.watcher = loop.watcher) ∧
        ∀ input, (loop.step (.surveyed input)).loop.watcher = loop.watcher :=
  ⟨fun _ _ _ hcourse => Fetching.faithful_of_course hcourse,
    fun _ _ hcourse => Surveying.unfolds_of_course hcourse,
    fun loop => ⟨loop.watcher_poll, loop.watcher_surveyed⟩⟩

end CatalogBridge
