import CatalogBridge.Proofs.Watch.Fetch

/-!
# The course of a watch

A watch shows itself in its catalog queries, in their answers, and in the
snapshots that the consumer's slot takes from it. Its log lists these, the newest
first.

* `Watcher.entries` says what one step adds to the log, and `Watch.run` keeps the
  log of a watcher from its start.
* `Watcher.Course` describes the logs that there are: it says for every entry what
  must come before it.
* `Watcher.Stands` relates what the watcher is doing to the end of its log.
* `acts_step` lists what a step can do. From it `Follows.step` concludes that every
  step keeps both, and `Watch.follows_run` that they hold after all inputs.

What the watcher does then is read off its log, without looking at its states.
-/

namespace CatalogBridge

/-- The snapshot holds a state for every name of the page, in its order, as the health queries of
the names came out. -/
def CatalogPage.Yields (page : CatalogPage) (snapshot : Snapshot) : Prop :=
  ∃ outcome, snapshot = Fetch.fetched page.names outcome

theorem ChangeIndex.isNone_iff {index : ChangeIndex} : index.isNone = true ↔ index = .none := by
  cases index
  simp [isNone, none]

/-- What the tail of every log keeps, the beginnings of logs keep. -/
theorem of_suffix_of_tail {α : Type} {P : List α → Prop}
    (htail : ∀ entry earlier, P (entry :: earlier) → earlier = [] ∨ P earlier)
    {log moment : List α} (h : P log) (hsuffix : moment <:+ log) (hsome : moment ≠ []) :
    P moment := by
  induction log with
  | nil => exact absurd (List.suffix_nil.1 hsuffix) hsome
  | cons entry earlier ih =>
    rcases List.suffix_cons_iff.1 hsuffix with rfl | hrest
    · exact h
    · rcases htail entry earlier h with rfl | hearlier
      · exact absurd (List.suffix_nil.1 hrest) hsome
      · exact ih hearlier hrest

namespace Watcher

/-! ## Logs -/

/-- What can be seen of a watcher. -/
inductive Entry where
  /-- It queries the catalog from a position on. -/
  | asked (index : ChangeIndex)
  /-- The query failed. -/
  | failed
  /-- The query was answered. -/
  | told (page : CatalogPage)
  /-- The slot took a snapshot. -/
  | emitted (snapshot : Snapshot)

/-- The catalog queries among requests, the newest first. -/
def asks (requests : List Request) : List Entry :=
  requests.reverse.filterMap fun
    | .list index => some (.asked index)
    | _ => none

/-- What an input is to the watcher. -/
def noted (watcher : Watcher) (input : Input) : List Entry :=
  match input, watcher.phase with
  | .listed (.ok page), .listing => [.told page]
  | .listed (.error _), .listing => [.failed]
  | .accepted, .offering snapshot => [.emitted snapshot]
  | _, _ => []

/-- What a step adds to the log: the input, and the query that follows it. -/
def entries (watcher : Watcher) (input : Input) : List Entry :=
  asks (watcher.step input).requests ++ watcher.noted input

end Watcher

/-- A watcher with its log. -/
structure Watch where
  watcher : Watcher
  log : List Watcher.Entry

namespace Watch

/-- A watcher that has just started. -/
def start (pace : Pace) : Watch :=
  ⟨(Watcher.start pace).watcher, Watcher.asks (Watcher.start pace).requests⟩

/-- One step, with what it adds to the log. -/
def step (watch : Watch) (input : Watcher.Input) : Watch :=
  ⟨(watch.watcher.step input).watcher, watch.watcher.entries input ++ watch.log⟩

/-- A watcher after a sequence of inputs. -/
def run (pace : Pace) (inputs : List Watcher.Input) : Watch := inputs.foldl step (start pace)

end Watch

namespace Watcher

/-! ## Courses -/

/-- The logs of watchers, entry by entry. -/
inductive Course : List Entry → Prop
  /-- The first query does not wait. -/
  | start : Course [.asked .none]
  | failed {index : ChangeIndex} {earlier : List Entry} (h : Course (.asked index :: earlier)) :
      Course (.failed :: .asked index :: earlier)
  | told {index : ChangeIndex} {earlier : List Entry} (page : CatalogPage)
      (h : Course (.asked index :: earlier)) : Course (.told page :: .asked index :: earlier)
  /-- A query that failed is made again. -/
  | retried {index : ChangeIndex} {earlier : List Entry}
      (h : Course (.failed :: .asked index :: earlier)) :
      Course (.asked index :: .failed :: .asked index :: earlier)
  /-- An index below that of the query restarts the watch. -/
  | restarted {index : ChangeIndex} {page : CatalogPage} {earlier : List Entry}
      (h : Course (.told page :: .asked index :: earlier))
      (hback : page.index.value < index.value) :
      Course (.asked .none :: .told page :: .asked index :: earlier)
  /-- The index of the query changes nothing. -/
  | unchanged {index : ChangeIndex} {page : CatalogPage} {earlier : List Entry}
      (h : Course (.told page :: .asked index :: earlier)) (hindex : index ≠ .none)
      (hsame : page.index = index) :
      Course (.asked index :: .told page :: .asked index :: earlier)
  /-- Any other answer becomes a snapshot. -/
  | emitted {index : ChangeIndex} {page : CatalogPage} {snapshot : Snapshot}
      {earlier : List Entry} (h : Course (.told page :: .asked index :: earlier))
      (hnew : index = .none ∨ index.value < page.index.value) (hyields : page.Yields snapshot) :
      Course (.emitted snapshot :: .told page :: .asked index :: earlier)
  /-- After a snapshot the watch goes on from its page. -/
  | moved {page : CatalogPage} {snapshot : Snapshot} {earlier : List Entry}
      (h : Course (.emitted snapshot :: .told page :: earlier)) :
      Course (.asked page.index :: .emitted snapshot :: .told page :: earlier)

/-- What the watcher is doing after a log. -/
inductive Stands (watcher : Watcher) : List Entry → Prop
  | listing {earlier : List Entry} (hphase : watcher.phase = .listing) :
      Stands watcher (.asked watcher.index :: earlier)
  | waiting {earlier : List Entry} (hphase : watcher.phase = .waiting) :
      Stands watcher (.failed :: .asked watcher.index :: earlier)
  | fetching {fetch : Fetch} {page : CatalogPage} {outcome : Nat → Except Error (List Instance)}
      {index : ChangeIndex} {earlier : List Entry} (hphase : watcher.phase = .fetching fetch)
      (hfetch : fetch.Answered page.names outcome) (hindex : watcher.index = page.index)
      (hnew : index = .none ∨ index.value < page.index.value) :
      Stands watcher (.told page :: .asked index :: earlier)
  | offering {snapshot : Snapshot} {page : CatalogPage} {index : ChangeIndex}
      {earlier : List Entry} (hphase : watcher.phase = .offering snapshot)
      (hyields : page.Yields snapshot) (hindex : watcher.index = page.index)
      (hnew : index = .none ∨ index.value < page.index.value) :
      Stands watcher (.told page :: .asked index :: earlier)
  | stopped {log : List Entry} (hphase : watcher.phase = .stopped) : Stands watcher log

/-- The watcher and its log belong together. -/
structure Follows (watcher : Watcher) (log : List Entry) : Prop where
  course : Course log
  stands : watcher.Stands log

variable {watcher : Watcher} {log earlier moment : List Entry}

/-- Before a snapshot stands the page that it shows, and the query that the page answers. -/
theorem Course.emitted_inv {snapshot : Snapshot} (h : Course (.emitted snapshot :: log)) :
    ∃ page index earlier, log = .told page :: .asked index :: earlier ∧ page.Yields snapshot := by
  cases h with
  | emitted _ _ hyields => exact ⟨_, _, _, rfl, hyields⟩

theorem Course.tail {entry : Entry} (h : Course (entry :: earlier)) :
    earlier = [] ∨ Course earlier := by
  cases h with
  | start => exact Or.inl rfl
  | failed h | told _ h | retried h | restarted h _ | unchanged h _ _ | emitted h _ _ | moved h =>
    exact Or.inr h

/-- The beginning of a course is a course. -/
theorem Course.of_suffix (h : Course log) (hsuffix : moment <:+ log) (hsome : moment ≠ []) :
    Course moment :=
  of_suffix_of_tail (fun _ _ => Course.tail) h hsuffix hsome

/-! ## One step -/

/-- What an input can do, with what is noted of it. -/
inductive Acts (watcher : Watcher) : Reaction → List Entry → Prop
  /-- The input does not fit what the watcher is doing. -/
  | idle : Acts watcher watcher.stay []
  | stopped : Acts watcher watcher.stop []
  | failed (error : Error) (hphase : watcher.phase = .listing) :
      Acts watcher (watcher.onFailure error) [.failed]
  | told (page : CatalogPage) (hphase : watcher.phase = .listing) :
      Acts watcher (watcher.onPage page) [.told page]
  | woke (hphase : watcher.phase = .waiting) : Acts watcher (watcher.listFrom watcher.index []) []
  | fetched {fetch : Fetch} (position : Nat) (result : Except Error (List Instance))
      (hphase : watcher.phase = .fetching fetch) :
      Acts watcher (watcher.proceed (fetch.answer .watch position result).1
        (fetch.answer .watch position result).2.1 (fetch.answer .watch position result).2.2) []
  | emitted {snapshot : Snapshot} (hphase : watcher.phase = .offering snapshot) :
      Acts watcher (watcher.listFrom watcher.index []) [.emitted snapshot]

theorem acts_step (watcher : Watcher) (input : Input) :
    watcher.Acts (watcher.step input) (watcher.noted input) := by
  unfold step noted
  cases input with
  | listed answer =>
    cases hphase : watcher.phase with
    | listing =>
      cases answer with
      | ok page => exact .told page hphase
      | error error => exact .failed error hphase
    | _ => cases answer <;> exact .idle
  | woke =>
    cases hphase : watcher.phase with
    | waiting => exact .woke hphase
    | _ => exact .idle
  | fetched position result =>
    cases hphase : watcher.phase with
    | fetching fetch => exact .fetched position result hphase
    | _ => exact .idle
  | accepted =>
    cases hphase : watcher.phase with
    | offering snapshot => exact .emitted hphase
    | _ => exact .idle
  | refused =>
    cases hphase : watcher.phase with
    | offering snapshot => exact .stopped
    | _ => exact .idle
  | cancelled | died => exact .stopped

@[simp] theorem asks_instances (queries : List InstanceQuery) :
    asks (queries.map .instances) = [] := by
  refine List.filterMap_eq_nil_iff.2 ?_
  intro request hrequest
  obtain ⟨query, _, rfl⟩ := List.mem_map.1 (List.mem_reverse.1 hrequest)
  rfl

theorem asks_proceed (watcher : Watcher) (fetch : Fetch) (queries : List InstanceQuery)
    (effects : List Effect) : asks (watcher.proceed fetch queries effects).requests = [] := by
  unfold proceed
  cases fetch.snapshot? with
  | some snapshot => rfl
  | none => exact asks_instances queries

theorem stands_proceed {fetch : Fetch} {page : CatalogPage} {index : ChangeIndex}
    {outcome : Nat → Except Error (List Instance)} (hfetch : fetch.Answered page.names outcome)
    (hindex : watcher.index = page.index) (hnew : index = .none ∨ index.value < page.index.value)
    (queries : List InstanceQuery) (effects : List Effect) :
    (watcher.proceed fetch queries effects).watcher.Stands
      (.told page :: .asked index :: earlier) := by
  unfold proceed
  cases hsnapshot : fetch.snapshot? with
  | some snapshot => exact .offering rfl ⟨outcome, hfetch.snapshot?_eq hsnapshot⟩ hindex hnew
  | none => exact .fetching rfl hfetch hindex hnew

/-- A page either restarts the watch, or tells nothing new, or is fetched. -/
theorem follows_onPage (hcourse : Course (.asked watcher.index :: earlier)) (page : CatalogPage) :
    (watcher.onPage page).watcher.Follows
      (asks (watcher.onPage page).requests ++ .told page :: .asked watcher.index :: earlier) := by
  have htold := hcourse.told page
  simp only [onPage]
  split_ifs with hback hsame
  · have hbelow : page.index.value < watcher.index.value := by
      simpa using (Bool.and_eq_true_iff.1 hback).2
    exact ⟨htold.restarted hbelow, .listing rfl⟩
  · obtain ⟨hsome, hindex⟩ := Bool.and_eq_true_iff.1 hsame
    rw [Bool.not_eq_true', ← Bool.not_eq_true, ChangeIndex.isNone_iff] at hsome
    exact ⟨htold.unchanged hsome (of_decide_eq_true hindex), .listing rfl⟩
  · have hnew : watcher.index = .none ∨ watcher.index.value < page.index.value := by
      by_cases hnone : watcher.index = .none
      · exact Or.inl hnone
      · have hsome : watcher.index.isNone = false := by
          rw [← Bool.not_eq_true, ChangeIndex.isNone_iff]
          exact hnone
        have hvalue : page.index.value ≠ watcher.index.value := by
          intro hvalue
          exact hsame (by rw [hsome, Bool.not_false, Bool.true_and]
                          exact decide_eq_true (congrArg ChangeIndex.mk hvalue))
        rw [hsome] at hback
        simp only [Bool.not_false, Bool.true_and, decide_eq_true_eq] at hback
        omega
    rw [asks_proceed]
    exact ⟨htold, stands_proceed (Fetch.answered_start page.names fun _ => .ok []) rfl hnew _ _⟩

/-- Only the slot makes the watcher show a snapshot. -/
theorem not_emitted_of_mem_entries {input : Input} (hinput : input ≠ .accepted) {entry : Entry}
    (hentry : entry ∈ watcher.entries input) (snapshot : Snapshot) :
    entry ≠ .emitted snapshot := by
  unfold entries at hentry
  rcases List.mem_append.1 hentry with hasked | hnoted
  · obtain ⟨request, _, hrequest⟩ := List.mem_filterMap.1 hasked
    cases request with
    | list index =>
      obtain rfl := Option.some.inj hrequest
      simp
    | instances query | sleep delay | offer snapshot => cases hrequest
  · unfold noted at hnoted
    split at hnoted
    · simp_all
    · simp_all
    · exact absurd rfl hinput
    · cases hnoted

/-- What the slot takes from the watcher is shown, and the watch goes on. -/
theorem entries_accepted {snapshot : Snapshot} (hphase : watcher.phase = .offering snapshot) :
    watcher.entries .accepted = [.asked watcher.index, .emitted snapshot] := by
  simp [entries, step, noted, hphase, listFrom, asks]

/-- Every step keeps to the course. -/
theorem Follows.step (h : watcher.Follows log) (input : Input) :
    (watcher.step input).watcher.Follows (watcher.entries input ++ log) := by
  obtain ⟨hcourse, hstands⟩ := h
  have hacts := watcher.acts_step input
  unfold entries
  generalize watcher.step input = reaction at hacts ⊢
  generalize watcher.noted input = noted at hacts ⊢
  cases hacts with
  | idle => exact ⟨hcourse, hstands⟩
  | stopped => exact ⟨hcourse, .stopped rfl⟩
  | failed error hphase =>
    cases hstands with
    | listing => exact ⟨hcourse.failed, .waiting rfl⟩
    | waiting hother | fetching hother | offering hother | stopped hother =>
      cases hphase.symm.trans hother
  | told page hphase =>
    cases hstands with
    | listing =>
      rw [List.append_assoc]
      exact follows_onPage hcourse page
    | waiting hother | fetching hother | offering hother | stopped hother =>
      cases hphase.symm.trans hother
  | woke hphase =>
    cases hstands with
    | waiting => exact ⟨hcourse.retried, .listing rfl⟩
    | listing hother | fetching hother | offering hother | stopped hother =>
      cases hphase.symm.trans hother
  | fetched position result hphase =>
    cases hstands with
    | fetching hother hfetch hindex hnew =>
      obtain rfl := Phase.fetching.inj (hphase.symm.trans hother)
      obtain ⟨later, hlater⟩ := hfetch.exists_answer .watch position result
      rw [asks_proceed]
      exact ⟨hcourse, stands_proceed hlater hindex hnew _ _⟩
    | listing hother | waiting hother | offering hother | stopped hother =>
      cases hphase.symm.trans hother
  | emitted hphase =>
    cases hstands with
    | offering hother hyields hindex hnew =>
      obtain rfl := Phase.offering.inj (hphase.symm.trans hother)
      have hmoved := (hcourse.emitted hnew hyields).moved
      rw [← hindex] at hmoved
      exact ⟨hmoved, .listing rfl⟩
    | listing hother | waiting hother | fetching hother | stopped hother =>
      cases hphase.symm.trans hother

end Watcher

namespace Watch

theorem follows_start (pace : Pace) : (start pace).watcher.Follows (start pace).log :=
  ⟨.start, .listing rfl⟩

/-- A watcher keeps to the course, whatever reaches it. -/
theorem follows_run (pace : Pace) (inputs : List Watcher.Input) :
    (run pace inputs).watcher.Follows (run pace inputs).log := by
  have hfold : ∀ watch : Watch, watch.watcher.Follows watch.log →
      (inputs.foldl step watch).watcher.Follows (inputs.foldl step watch).log := by
    induction inputs with
    | nil => exact fun _ h => h
    | cons input rest ih => exact fun _ h => ih _ (h.step input)
  exact hfold _ (follows_start pace)

end Watch

end CatalogBridge
