import CatalogBridge.Proofs.Reconcile.Course
import CatalogBridge.Proofs.Sync.Store
import Mathlib.Data.List.Count

/-!
# The order of syncs

Every sync shows the catalog as one listing found it. This module says how the order
in which syncs begin relates to the order in which their listings were answered.
Places in a log stand for moments: the place of an entry is the number of entries
before it.

* `rounds` reads the syncs off a log, each with the place of its listing and of its
  beginning. `Course.exists_listing` says that the listing at this place is the one
  that the snapshot shows.
* The two orders agree but for one case: a tick that is due is served before a
  snapshot that waits, so a resync may overtake the watch (`Course.ordered`).
* It overtakes two snapshots at most, one in the slot and one still with the watcher
  (`Course.countP_lags`).
* `sync_order_of_run` puts this together for every run, and `overtaken_of_late_tick`
  is a run in which it happens.
-/

namespace CatalogBridge

/-- A sync of a loop: what began it, its snapshot, the place of the answer that listed the
snapshot's services, and the place where the sync began. -/
structure Round where
  trigger : Trigger
  snapshot : Snapshot
  listed : Nat
  began : Nat
  deriving DecidableEq

namespace Loop

variable {log : List Entry} {page : CatalogPage} {snapshot : Snapshot}

/-! ## Places -/

/-- The place of the latest answer to the watch. -/
def toldAt : List Entry → Nat
  | [] => 0
  | .watch (.told _) :: earlier => earlier.length
  | .watch (.asked _) :: earlier | .watch .failed :: earlier | .watch (.emitted _) :: earlier
  | .surveyed _ :: earlier | .began _ _ :: earlier => toldAt earlier

/-- The place of the answer behind the snapshot that the slot took last. -/
def shownAt : List Entry → Nat
  | [] => 0
  | .watch (.emitted _) :: earlier => toldAt earlier
  | .watch (.asked _) :: earlier | .watch .failed :: earlier | .watch (.told _) :: earlier
  | .surveyed _ :: earlier | .began _ _ :: earlier => shownAt earlier

/-- The place of the latest listing of a resync. -/
def surveyedAt : List Entry → Nat
  | [] => 0
  | .surveyed _ :: earlier => earlier.length
  | .watch _ :: earlier | .began _ _ :: earlier => surveyedAt earlier

/-- The place of the listing behind a sync that begins after a log. -/
def listedAt : Trigger → List Entry → Nat
  | .watch => shownAt
  | .resync => surveyedAt

/-- The syncs in a log, the newest first. -/
def rounds : List Entry → List Round
  | [] => []
  | .began trigger snapshot :: earlier =>
    ⟨trigger, snapshot, listedAt trigger earlier, earlier.length⟩ :: rounds earlier
  | .watch _ :: earlier | .surveyed _ :: earlier => rounds earlier

/-- The entry at a place. -/
def entryAt (log : List Entry) (place : Nat) : Option Entry := log.reverse[place]?

/-- The entry that a listing of this trigger leaves in the log. -/
def listing : Trigger → CatalogPage → Entry
  | .watch, page => .watch (.told page)
  | .resync, page => .surveyed page

theorem entryAt_length (entry : Entry) (log : List Entry) :
    entryAt (entry :: log) log.length = some entry := by
  simp [entryAt]

/-- Entries stay where they are. -/
theorem entryAt_cons {place : Nat} {found : Entry} (h : entryAt log place = some found)
    (entry : Entry) : entryAt (entry :: log) place = some found := by
  have hplace : place < log.reverse.length := (List.getElem?_eq_some_iff.1 h).1
  rw [entryAt, List.reverse_cons, List.getElem?_append_left hplace]
  exact h

theorem entryAt_of_suffix {earlier : List Entry} {place : Nat} {found : Entry}
    (hsuffix : earlier <:+ log) (h : entryAt earlier place = some found) :
    entryAt log place = some found := by
  induction log with
  | nil => exact List.suffix_nil.1 hsuffix ▸ h
  | cons entry rest ih =>
    rcases List.suffix_cons_iff.1 hsuffix with rfl | hrest
    · exact h
    · exact entryAt_cons (ih hrest) entry

theorem toldAt_le (log : List Entry) : toldAt log ≤ log.length - 1 := by
  induction log with
  | nil => exact Nat.le_refl _
  | cons entry earlier ih =>
    cases entry with
    | watch seen => cases seen <;> simp only [toldAt, List.length_cons] <;> omega
    | surveyed page | began trigger snapshot =>
      simp only [toldAt, List.length_cons]
      omega

theorem shownAt_le (log : List Entry) : shownAt log ≤ log.length - 1 := by
  induction log with
  | nil => exact Nat.le_refl _
  | cons entry earlier ih =>
    have htold := toldAt_le earlier
    cases entry with
    | watch seen => cases seen <;> simp only [shownAt, List.length_cons] <;> omega
    | surveyed page | began trigger snapshot =>
      simp only [shownAt, List.length_cons]
      omega

theorem surveyedAt_le (log : List Entry) : surveyedAt log ≤ log.length - 1 := by
  induction log with
  | nil => exact Nat.le_refl _
  | cons entry earlier ih =>
    cases entry <;> simp only [surveyedAt, List.length_cons] <;> omega

/-- A page that no snapshot shows yet was told after the page behind the latest snapshot. -/
theorem shownAt_lt_toldAt {index : ChangeIndex} {earlier : List Watcher.Entry}
    (h : watchLog log = .told page :: .asked index :: earlier) : shownAt log < toldAt log := by
  induction log with
  | nil => cases h
  | cons entry rest ih =>
    cases entry with
    | watch seen =>
      obtain ⟨rfl, hrest⟩ := List.cons.inj h
      have hle := shownAt_le rest
      have hpos : 0 < rest.length := by
        refine List.length_pos_iff.2 ?_
        rintro rfl
        cases hrest
      simp only [shownAt, toldAt]
      omega
    | surveyed other | began trigger snapshot => exact ih h

/-! ## Rounds -/

/-- Where a sync comes from: the log before it. -/
theorem exists_of_mem_rounds {round : Round} (h : round ∈ rounds log) :
    ∃ earlier, .began round.trigger round.snapshot :: earlier <:+ log ∧
      round.listed = listedAt round.trigger earlier ∧ round.began = earlier.length := by
  induction log with
  | nil => cases h
  | cons entry rest ih =>
    cases entry with
    | began trigger snapshot =>
      rcases List.mem_cons.1 h with rfl | hrest
      · exact ⟨rest, List.suffix_refl _, rfl, rfl⟩
      · obtain ⟨earlier, hsuffix, hplaces⟩ := ih hrest
        exact ⟨earlier, hsuffix.trans (List.suffix_cons _ _), hplaces⟩
    | watch seen | surveyed page =>
      obtain ⟨earlier, hsuffix, hplaces⟩ := ih h
      exact ⟨earlier, hsuffix.trans (List.suffix_cons _ _), hplaces⟩

theorem began_lt {round : Round} (h : round ∈ rounds log) : round.began < log.length := by
  obtain ⟨earlier, hsuffix, _, hbegan⟩ := exists_of_mem_rounds h
  have hlength := hsuffix.length_le
  rw [List.length_cons] at hlength
  omega

/-- A sync stands in the log where it began. -/
theorem entryAt_began {round : Round} (h : round ∈ rounds log) :
    entryAt log round.began = some (.began round.trigger round.snapshot) := by
  obtain ⟨earlier, hsuffix, _, hbegan⟩ := exists_of_mem_rounds h
  rw [hbegan]
  exact entryAt_of_suffix hsuffix (entryAt_length _ _)

/-- The listing of a sync is answered before the sync begins. -/
theorem Course.listed_lt_began (hcourse : Course log) {round : Round} (h : round ∈ rounds log) :
    round.listed < round.began := by
  obtain ⟨earlier, hsuffix, hlisted, hbegan⟩ := exists_of_mem_rounds h
  obtain ⟨trigger, snapshot, listed, began⟩ := round
  dsimp only at hsuffix hlisted hbegan ⊢
  have hpos : 0 < earlier.length := by
    refine List.length_pos_iff.2 ?_
    rintro rfl
    cases hcourse.of_suffix hsuffix (by simp) with
    | took _ hfull => cases hfull
    | resynced _ hsurvey _ => cases hsurvey
  have hshown := shownAt_le earlier
  have hsurveyed := surveyedAt_le earlier
  cases trigger <;> simp only [listedAt] at hlisted <;> omega

/-! ## The order of two syncs -/

/-- What a survey lists is listed after all syncs so far have begun. -/
theorem began_lt_surveyedAt (hsurvey : survey? log = some page) {round : Round}
    (h : round ∈ rounds log) : round.began < surveyedAt log := by
  induction log with
  | nil => cases h
  | cons entry earlier ih =>
    cases entry with
    | surveyed other =>
      have hearlier : round ∈ rounds earlier := h
      exact began_lt hearlier
    | watch seen => exact ih hsurvey h
    | began trigger snapshot => cases hsurvey

/-- No sync of the watch shows a page later than the one behind the latest snapshot. -/
theorem Course.listed_le_shownAt (hcourse : Course log) {round : Round} (h : round ∈ rounds log)
    (htrigger : round.trigger = .watch) : round.listed ≤ shownAt log := by
  induction hcourse with
  | start => cases h
  | @watched entry log hlog hwatch hkept ih =>
    have hsame := ih h
    cases entry with
    | emitted snapshot => exact absurd rfl (hkept snapshot)
    | asked index | failed | told page => exact hsame
  | @handed snapshot log hlog hwatch hempty ih =>
    obtain ⟨page, index, earlier, hlast, _⟩ := hwatch.emitted_inv
    have hbefore := ih h
    have hnew := shownAt_lt_toldAt hlast
    simp only [shownAt]
    omega
  | surveyed page hlog ih => exact ih h
  | took hlog hfull ih =>
    rcases List.mem_cons.1 h with rfl | hearlier
    · exact Nat.le_refl _
    · exact ih hearlier
  | resynced hlog hsurvey hyields ih =>
    rcases List.mem_cons.1 h with rfl | hearlier
    · cases htrigger
    · exact ih hearlier

/-- Of two syncs the one that was listed first begins first, unless it waits in the watch while a
resync is served. -/
theorem Course.ordered (hcourse : Course log) {first second : Round} (hfirst : first ∈ rounds log)
    (hsecond : second ∈ rounds log) (hlisted : first.listed < second.listed) :
    first.began < second.began ∨ first.trigger = .watch ∧ second.trigger = .resync := by
  induction hcourse with
  | start => cases hfirst
  | watched hlog hwatch hkept ih | handed hlog hwatch hempty ih | surveyed page hlog ih =>
    exact ih hfirst hsecond
  | @took snapshot log hlog hfull ih =>
    rcases List.mem_cons.1 hsecond with rfl | hsecond
    · rcases List.mem_cons.1 hfirst with rfl | hfirst
      · exact absurd hlisted (Nat.lt_irrefl _)
      · exact Or.inl (began_lt hfirst)
    · rcases List.mem_cons.1 hfirst with rfl | hfirst
      · -- The sync of the slot's snapshot is the newest, so only a resync can be listed later.
        cases htrigger : second.trigger with
        | resync => exact Or.inr ⟨rfl, rfl⟩
        | watch =>
          have hbefore := hlog.listed_le_shownAt hsecond htrigger
          exact absurd hlisted (Nat.not_lt.2 hbefore)
      · exact ih hfirst hsecond
  | @resynced page snapshot log hlog hsurvey hyields ih =>
    rcases List.mem_cons.1 hsecond with rfl | hsecond
    · rcases List.mem_cons.1 hfirst with rfl | hfirst
      · exact absurd hlisted (Nat.lt_irrefl _)
      · exact Or.inl (began_lt hfirst)
    · rcases List.mem_cons.1 hfirst with rfl | hfirst
      · have hbegan := began_lt_surveyedAt hsurvey hsecond
        have hbefore := hlog.listed_lt_began hsecond
        simp only [listedAt] at hlisted
        omega
      · exact ih hfirst hsecond

/-! ## What a sync shows -/

theorem entryAt_toldAt (h : Watcher.told? (watchLog log) = some page) :
    entryAt log (toldAt log) = some (.watch (.told page)) := by
  induction log with
  | nil => cases h
  | cons entry earlier ih =>
    cases entry with
    | watch seen =>
      cases seen with
      | told other =>
        obtain rfl := Option.some.inj h
        exact entryAt_length _ _
      | asked index | failed | emitted snapshot => exact entryAt_cons (ih h) _
    | surveyed other | began trigger snapshot => exact entryAt_cons (ih h) _

theorem entryAt_surveyedAt (h : survey? log = some page) :
    entryAt log (surveyedAt log) = some (.surveyed page) := by
  induction log with
  | nil => cases h
  | cons entry earlier ih =>
    cases entry with
    | surveyed other =>
      obtain rfl := Option.some.inj h
      exact entryAt_length _ _
    | watch seen => exact entryAt_cons (ih h) _
    | began trigger snapshot => cases h

/-- The slot holds a snapshot of the page behind it. -/
theorem Course.entryAt_shownAt (hcourse : Course log) (hfull : slot? log = some snapshot) :
    ∃ page, entryAt log (shownAt log) = some (.watch (.told page)) ∧ page.Yields snapshot := by
  induction hcourse with
  | start => cases hfull
  | @watched entry log hlog hwatch hkept ih =>
    rw [slot?_watch hkept] at hfull
    obtain ⟨page, hplace, hyields⟩ := ih hfull
    cases entry with
    | emitted snapshot => exact absurd rfl (hkept snapshot)
    | asked index | failed | told other => exact ⟨page, entryAt_cons hplace _, hyields⟩
  | handed hlog hwatch hempty ih =>
    obtain ⟨page, index, earlier, hlast, hyields⟩ := hwatch.emitted_inv
    obtain rfl := Option.some.inj hfull
    have htold : Watcher.told? (watchLog _) = some page := congrArg Watcher.told? hlast
    exact ⟨page, entryAt_cons (entryAt_toldAt htold) _, hyields⟩
  | surveyed other hlog ih =>
    obtain ⟨page, hplace, hyields⟩ := ih hfull
    exact ⟨page, entryAt_cons hplace _, hyields⟩
  | took hlog hother ih => cases hfull
  | resynced hlog hsurvey hother ih =>
    obtain ⟨page, hplace, hyields⟩ := ih hfull
    exact ⟨page, entryAt_cons hplace _, hyields⟩

/-- A sync shows the page that was listed at its place. -/
theorem Course.exists_listing (hcourse : Course log) {round : Round} (h : round ∈ rounds log) :
    ∃ page, entryAt log round.listed = some (listing round.trigger page) ∧
      page.Yields round.snapshot := by
  obtain ⟨earlier, hsuffix, hlisted, _⟩ := exists_of_mem_rounds h
  have hbefore : earlier <:+ log := (List.suffix_cons _ _).trans hsuffix
  obtain ⟨trigger, snapshot, listed, began⟩ := round
  dsimp only at hsuffix hlisted ⊢
  rw [hlisted]
  cases hcourse.of_suffix hsuffix (by simp) with
  | took hlog hfull =>
    obtain ⟨page, hplace, hyields⟩ := hlog.entryAt_shownAt hfull
    exact ⟨page, entryAt_of_suffix hbefore hplace, hyields⟩
  | @resynced page _ _ hlog hsurvey hyields =>
    exact ⟨page, entryAt_of_suffix hbefore (entryAt_surveyedAt hsurvey), hyields⟩

/-! ## How many syncs are overtaken -/

/-- The sync shows a page of the watch from before a place, and began after it. -/
def lags (place : Nat) (round : Round) : Bool :=
  round.trigger = .watch ∧ round.listed < place ∧ place ≤ round.began

/-- One if the slot holds a snapshot of a page from before a place. -/
def held (place : Nat) (log : List Entry) : Nat :=
  if (slot? log).isSome ∧ shownAt log < place then 1 else 0

/-- One if the watcher was told a page before a place and has not handed it over. -/
def owed (place : Nat) (log : List Entry) : Nat :=
  if shownAt log < toldAt log ∧ toldAt log < place then 1 else 0

theorem held_le (place : Nat) (log : List Entry) : held place log ≤ 1 := by
  unfold held
  split <;> omega

theorem owed_le (place : Nat) (log : List Entry) : owed place log ≤ 1 := by
  unfold owed
  split <;> omega

theorem countP_lags_eq_zero {place : Nat} (h : log.length ≤ place) :
    (rounds log).countP (lags place) = 0 := by
  refine List.countP_eq_zero.2 ?_
  intro round hround hlags
  have hbegan := began_lt hround
  have hafter : place ≤ round.began := (of_decide_eq_true hlags).2.2
  omega

/-- A page that is told after a place is not owed from before it. -/
theorem owed_told {place : Nat} (h : place ≤ log.length) (page : CatalogPage) :
    owed place (.watch (.told page) :: log) = 0 := by
  unfold owed
  rw [if_neg]
  simp only [toldAt]
  omega

/-- What is handed over was owed, and is held from then on. -/
theorem held_emitted {index : ChangeIndex} {earlier : List Watcher.Entry} (place : Nat)
    (h : watchLog log = .told page :: .asked index :: earlier) (snapshot : Snapshot) :
    held place (.watch (.emitted snapshot) :: log) = owed place log ∧
      owed place (.watch (.emitted snapshot) :: log) = 0 := by
  have hnew := shownAt_lt_toldAt h
  simp [held, owed, slot?, shownAt, toldAt, hnew]

/-- What is taken from the slot was held. -/
theorem lags_took (place : Nat) (hfull : slot? log = some snapshot) (began : Nat) :
    (if lags place ⟨.watch, snapshot, shownAt log, began⟩ then 1 else 0) ≤ held place log := by
  unfold held
  by_cases hplace : shownAt log < place
  · simp only [hfull, hplace, Option.isSome_some, and_self, if_true]
    split <;> omega
  · simp [lags, hplace]

/-- Whatever is synced after a place and lags behind it was held or owed there, so there are two at
most. -/
theorem Course.countP_lags (hcourse : Course log) (place : Nat) :
    (rounds log).countP (lags place) + held place log + owed place log ≤ 2 := by
  induction hcourse with
  | start => exact Nat.zero_le 2
  | @watched entry log hlog hwatch hkept ih =>
    cases entry with
    | emitted snapshot => exact absurd rfl (hkept snapshot)
    | asked index | failed => exact ih
    | told page =>
      have hrounds : rounds (.watch (.told page) :: log) = rounds log := rfl
      have hsame : held place (.watch (.told page) :: log) = held place log := rfl
      rw [hrounds, hsame]
      by_cases hearly : log.length ≤ place
      · -- No sync has begun after the place yet.
        have hheld := held_le place log
        have howed := owed_le place (.watch (.told page) :: log)
        rw [countP_lags_eq_zero hearly]
        omega
      · rw [owed_told (Nat.le_of_not_le hearly)]
        omega
  | @handed snapshot log hlog hwatch hempty ih =>
    obtain ⟨page, index, earlier, hlast, _⟩ := hwatch.emitted_inv
    obtain ⟨hheld, howed⟩ := held_emitted place hlast snapshot
    have hrounds : rounds (.watch (.emitted snapshot) :: log) = rounds log := rfl
    rw [hrounds, hheld, howed]
    omega
  | surveyed page hlog ih => exact ih
  | @took snapshot log hlog hfull ih =>
    have htaken := lags_took place hfull log.length
    have hheld : held place (.began .watch snapshot :: log) = 0 := if_neg (by simp [slot?])
    have howed : owed place (.began .watch snapshot :: log) = owed place log := rfl
    rw [rounds, List.countP_cons, listedAt, hheld, howed]
    omega
  | @resynced page snapshot log hlog hsurvey hyields ih =>
    have hheld : held place (.began .resync snapshot :: log) = held place log := rfl
    have howed : owed place (.began .resync snapshot :: log) = owed place log := rfl
    have hresync : lags place ⟨.resync, snapshot, listedAt .resync log, log.length⟩ = false := by
      simp [lags]
    rw [rounds, List.countP_cons_of_neg (by simp [hresync]), hheld, howed]
    exact ih

/-- The other sync was listed before this one and begins after it. -/
def overtakes (round other : Round) : Bool :=
  other.listed < round.listed ∧ round.began < other.began

/-- No sync overtakes more than two others. -/
theorem Course.countP_overtakes (hcourse : Course log) {round : Round} (h : round ∈ rounds log) :
    (rounds log).countP (overtakes round) ≤ 2 := by
  have hlags : (rounds log).countP (overtakes round)
      ≤ (rounds log).countP (lags round.listed) := by
    refine List.countP_mono_left ?_
    intro other hother hovertakes
    obtain ⟨hlisted, hbegan⟩ := of_decide_eq_true hovertakes
    have hbefore := hcourse.listed_lt_began h
    have hwatch : other.trigger = .watch := by
      rcases hcourse.ordered hother h hlisted with hearlier | hexception
      · omega
      · exact hexception.1
    have hafter : round.listed ≤ other.began := by omega
    exact decide_eq_true ⟨hwatch, hlisted, hafter⟩
  have hbound := hcourse.countP_lags round.listed
  omega

/-! ## Runs -/

/-- The order of syncs in every run of the loop.

Of two syncs the one whose listing was answered first begins first, unless it is a sync of the
watch and the other one of a resync. A resync begins before at most two syncs of listings that were
answered before its own. Every sync stands at its place in the log, and its snapshot shows the page
that was listed at its place. -/
theorem sync_order_of_run (scope : Scope) (interval : Duration) (pace : Pace) (now : Instant)
    (events : List Event) :
    let log := ((History.start scope interval pace now).run events).log
    (∀ first ∈ rounds log, ∀ second ∈ rounds log, first.listed < second.listed →
        first.began < second.began ∨ first.trigger = .watch ∧ second.trigger = .resync) ∧
      (∀ round ∈ rounds log, (rounds log).countP (overtakes round) ≤ 2) ∧
      ∀ round ∈ rounds log,
        entryAt log round.began = some (.began round.trigger round.snapshot) ∧
          ∃ page, entryAt log round.listed = some (listing round.trigger page) ∧
            page.Yields round.snapshot := by
  intro log
  have hcourse : Course log :=
    (History.keeps_run (History.keeps_start scope interval pace now) events).course
  exact ⟨fun first hfirst second hsecond => hcourse.ordered hfirst hsecond,
    fun round hround => hcourse.countP_overtakes hround,
    fun round hround => ⟨entryAt_began hround, hcourse.exists_listing hround⟩⟩

/-- The first sync, of an empty catalog, takes a minute. Meanwhile the catalog lists `web`, and its
snapshot goes into the slot; then the tick of a resync falls due. The resync finds that `web` is
gone, and its sync comes first. -/
def lateTick : List Event :=
  let answers : List Event := [.answered .listServices (.ok []), .answered .listSlices (.ok []),
    .answered .listRoutes (.ok [])]
  [.watchListed (.ok ⟨[], ⟨5⟩⟩), .handOver, .poll 0, .watchListed (.ok ⟨["web"], ⟨6⟩⟩),
    .watchFetched 0 (.ok [⟨"web", "10.0.0.1", 80, ["public"]⟩]), .handOver] ++ answers ++
  [.poll 60000000000, .surveyed (.listed (.ok ⟨[], ⟨7⟩⟩))] ++ answers ++ [.poll 60000000000]

/-- A snapshot that waits in the slot is synced after the resync that found newer data. -/
theorem overtaken_of_late_tick :
    ¬ ∀ first ∈
        rounds ((History.start Sync.edgeScope (.ofSeconds 60) .standard 0).run lateTick).log,
      ∀ second ∈
        rounds ((History.start Sync.edgeScope (.ofSeconds 60) .standard 0).run lateTick).log,
        first.listed < second.listed → first.began < second.began := by
  decide +kernel

end Loop

end CatalogBridge
