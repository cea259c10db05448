import CatalogBridge.Proofs.Reconcile.Ledger
import CatalogBridge.Proofs.Reconcile.Order

/-!
# Where the requests to the cluster come from

The loop asks the cluster only for a sync, and a sync shows a page of the catalog. So
a catalog that cannot be listed leaves the cluster as it is.

* `Ledger.exists_page` says that every sync of a run shows a page that an answer of
  the run listed: it has one state for every name of the page, in the order of the page.
* `Drained` says that nothing that was listed is on its way to the cluster.
  `Drained.step` says that an event that lists no page keeps this, and that the loop
  then asks the cluster nothing and does not become ready.
* `provenance_of_run` puts this together for every run, and for every stretch of a
  run in which no catalog query succeeds.
-/

namespace CatalogBridge

theorem CatalogPage.Yields.map_name {page : CatalogPage} {snapshot : Snapshot}
    (h : page.Yields snapshot) : snapshot.map (·.name) = page.names := by
  obtain ⟨outcome, rfl⟩ := h
  refine List.ext_getElem (by simp [Fetch.fetched]) ?_
  intro position _ _
  simp [Fetch.fetched]

namespace Loop

variable {loop later : Loop} {requests : List Request} {event : Event} {page : CatalogPage}
  {log : List Entry}

/-! ## Pages -/

/-- The page that an event lists. -/
def Event.page? : Event → Option CatalogPage
  | .watchListed (.ok page) | .surveyed (.listed (.ok page)) => some page
  | _ => none

theorem told_of_mem_entries {watcher : Watcher} {input : Watcher.Input}
    (h : Watcher.Entry.told page ∈ watcher.entries input) : input = .listed (.ok page) := by
  rcases List.mem_append.1 h with hasked | hnoted
  · obtain ⟨request, _, hrequest⟩ := List.mem_filterMap.1 hasked
    cases request <;> cases hrequest
  · unfold Watcher.noted at hnoted
    split at hnoted <;> simp_all

/-- What an event lists for the watch. -/
theorem page?_of_watchInput? {input : Watcher.Input} (hinput : loop.watchInput? event = some input)
    (h : Watcher.Entry.told page ∈ loop.watcher.entries input) : event.page? = some page := by
  obtain rfl := told_of_mem_entries h
  cases event with
  | watchListed answer =>
    obtain rfl := Watcher.Input.listed.inj (Option.some.inj hinput)
    rfl
  | watchCancelled =>
    simp only [watchInput?] at hinput
    split at hinput <;> cases hinput
  | handOver =>
    simp only [watchInput?] at hinput
    split at hinput <;> cases hinput
  | watchWoke | watchFetched position answer | watchDied | poll now | surveyed input
  | answered call answer | cancel => cases hinput

theorem began_of_mem_begun {progress : Survey.Progress} {entry : Entry}
    (h : entry ∈ begun progress) : ∃ snapshot, entry = .began .resync snapshot := by
  unfold begun at h
  split at h
  · exact ⟨_, List.mem_singleton.1 h⟩
  · cases h

/-- The consumer notes that a sync begins, and what an event lists for a resync. -/
theorem noted_cases {entry : Entry} (h : entry ∈ loop.noted event) :
    (∃ trigger snapshot, entry = .began trigger snapshot) ∨
      ∃ page, entry = .surveyed page ∧ event.page? = some page := by
  unfold noted at h
  split at h
  · split at h
    · split_ifs at h
      · cases h
      · exact Or.inl ⟨_, _, List.mem_singleton.1 h⟩
    · cases h
  · split at h
    · split_ifs at h
      · cases h
      · unfold surveyNoted at h
        split at h
        · rcases List.mem_append.1 h with hbegun | hpage
          · exact Or.inl ⟨_, began_of_mem_begun hbegun⟩
          · exact Or.inr ⟨_, List.mem_singleton.1 hpage, rfl⟩
        · exact Or.inl ⟨_, began_of_mem_begun h⟩
    · cases h
  · cases h

/-- A page is in the log because an event listed it. -/
theorem page?_of_mem_entries {trigger : Trigger} (h : listing trigger page ∈ loop.entries event) :
    event.page? = some page := by
  unfold entries at h
  split at h
  · rename_i input hinput
    obtain ⟨entry, hentry, hsame⟩ := List.mem_map.1 h
    cases trigger with
    | watch =>
      obtain rfl := Entry.watch.inj hsame
      exact page?_of_watchInput? hinput hentry
    | resync => cases hsame
  · rcases noted_cases h with ⟨_, _, hbegan⟩ | ⟨other, hsurveyed, hpage⟩
    · cases trigger <;> cases hbegan
    · cases trigger with
      | watch => cases hsurveyed
      | resync => exact Entry.surveyed.inj hsurveyed ▸ hpage

/-- A page in the log of a run was listed by an event of the run. -/
theorem exists_event_of_mem_log {history : History} {trigger : Trigger} {events : List Event}
    (h : listing trigger page ∈ (history.run events).log) :
    listing trigger page ∈ history.log ∨ ∃ event ∈ events, event.page? = some page := by
  induction events generalizing history with
  | nil => exact Or.inl h
  | cons event rest ih =>
    rcases ih h with hbefore | ⟨other, hother, hpage⟩
    · rcases List.mem_append.1 hbefore with hentry | hlog
      · exact Or.inr ⟨event, List.mem_cons_self, page?_of_mem_entries hentry⟩
      · exact Or.inl hlog
    · exact Or.inr ⟨other, List.mem_cons_of_mem _ hother, hpage⟩

theorem mem_rounds_of_began {trigger : Trigger} {snapshot : Snapshot}
    (h : Entry.began trigger snapshot ∈ log) :
    ∃ round ∈ rounds log, round.trigger = trigger ∧ round.snapshot = snapshot := by
  induction log with
  | nil => cases h
  | cons entry earlier ih =>
    cases entry with
    | began other shown =>
      rcases List.mem_cons.1 h with hsame | hearlier
      · obtain ⟨rfl, rfl⟩ := Entry.began.inj hsame
        exact ⟨_, List.mem_cons_self, rfl, rfl⟩
      · obtain ⟨round, hround, hboth⟩ := ih hearlier
        exact ⟨round, List.mem_cons_of_mem _ hround, hboth⟩
    | watch seen | surveyed page =>
      rcases List.mem_cons.1 h with hsame | hearlier
      · cases hsame
      · exact ih hearlier

/-- A sync shows a page that the log lists. -/
theorem Course.exists_page (hcourse : Course log) {trigger : Trigger} {snapshot : Snapshot}
    (h : Entry.began trigger snapshot ∈ log) :
    ∃ page, listing trigger page ∈ log ∧ page.Yields snapshot := by
  obtain ⟨round, hround, rfl, rfl⟩ := mem_rounds_of_began h
  obtain ⟨page, hplace, hyields⟩ := hcourse.exists_listing hround
  exact ⟨page, List.mem_reverse.1 (List.mem_of_getElem? hplace), hyields⟩

/-! ## Syncs -/

/-- An answer changes neither what began a sync nor its snapshot. -/
theorem mem_noteAnswer {answered : Option Exchange} {cycles : List Cycle} {cycle : Cycle}
    (h : cycle ∈ Cycle.noteAnswer answered cycles) :
    ∃ before ∈ cycles, cycle.trigger = before.trigger ∧ cycle.snapshot = before.snapshot := by
  cases answered with
  | none => exact ⟨cycle, h, rfl, rfl⟩
  | some exchange =>
    cases cycles with
    | nil => cases h
    | cons first earlier =>
      rcases List.mem_cons.1 h with rfl | hearlier
      · exact ⟨first, List.mem_cons_self, rfl, rfl⟩
      · exact ⟨cycle, List.mem_cons_of_mem _ hearlier, rfl, rfl⟩

theorem began_of_cycle? {entries : List Entry} {cycle : Cycle}
    (h : cycle ∈ entries.filterMap Entry.cycle?) :
    Entry.began cycle.trigger cycle.snapshot ∈ entries := by
  obtain ⟨entry, hentry, hcycle⟩ := List.mem_filterMap.1 h
  cases entry with
  | began trigger snapshot =>
    obtain rfl := Option.some.inj hcycle
    exact hentry
  | watch seen | surveyed page => cases hcycle

end Loop

namespace Ledger

variable {ledger : Ledger} {cycle : Cycle}

/-- The syncs of the ledger are in the log. -/
theorem began_mem_log (h : ∀ cycle ∈ ledger.cycles,
      Loop.Entry.began cycle.trigger cycle.snapshot ∈ ledger.log)
    (events : List Loop.Event) : ∀ cycle ∈ (ledger.run events).cycles,
      Loop.Entry.began cycle.trigger cycle.snapshot ∈ (ledger.run events).log := by
  induction events generalizing ledger with
  | nil => exact h
  | cons event rest ih =>
    refine ih ?_
    intro cycle hcycle
    rcases List.mem_append.1 hcycle with hbegun | hearlier
    · exact List.mem_append_left _ (Loop.began_of_cycle? hbegun)
    · obtain ⟨before, hbefore, htrigger, hsnapshot⟩ := Loop.mem_noteAnswer hearlier
      rw [htrigger, hsnapshot]
      exact List.mem_append_right _ (h before hbefore)

/-- Every sync of a run shows a page that an event of the run listed. -/
theorem exists_page {scope : Scope} {interval : Duration} {pace : Pace} {now : Instant}
    {events : List Loop.Event}
    (h : cycle ∈ ((start scope interval pace now).run events).cycles) :
    ∃ page, (∃ event ∈ events, event.page? = some page) ∧ page.Yields cycle.snapshot := by
  have hnone : ∀ cycle ∈ (start scope interval pace now).cycles,
      Loop.Entry.began cycle.trigger cycle.snapshot ∈ (start scope interval pace now).log :=
    fun _ hcycle => nomatch hcycle
  have hbegan := began_mem_log hnone events cycle h
  rw [toHistory_run] at hbegan
  have hkeeps := History.keeps_run (History.keeps_start scope interval pace now) events
  obtain ⟨page, hpage, hyields⟩ := hkeeps.course.exists_page hbegan
  refine ⟨page, ?_, hyields⟩
  rcases Loop.exists_event_of_mem_log hpage with hstart | hevent
  · have hasked := List.mem_singleton.1 hstart
    revert hasked
    cases cycle.trigger <;> exact fun hasked => nomatch hasked
  · exact hevent

end Ledger

namespace Loop

variable {loop later : Loop} {requests : List Request} {event : Event}

/-! ## What asks the cluster -/

/-- A request to the cluster is what a sync waits for. -/
theorem Serves.asked {begun : List Cycle} {answered : Option Exchange} {failure : Option Error}
    {call : ClusterCall} (h : loop.Serves later requests begun answered failure)
    (hcall : .cluster call ∈ requests) :
    ∃ trigger next, later.consumer = .syncing trigger call next := by
  have hadvances : ∀ {trigger program}, loop.Advances trigger program later requests →
      ∃ trigger next, later.consumer = .syncing trigger call next := by
    intro trigger program hadvances
    cases hadvances with
    | asks _ hconsumer hrequests =>
      rw [hrequests] at hcall
      obtain rfl := Request.cluster.inj (List.mem_singleton.1 hcall)
      exact ⟨_, _, hconsumer⟩
    | ends _ _ hrequests =>
      rw [hrequests] at hcall
      cases hcall
  cases h with
  | stays _ _ hrequests | turns _ _ _ hrequests => exact absurd hcall (hrequests call)
  | skips _ _ _ _ _ hrequests =>
    rw [hrequests] at hcall
    cases hcall
  | begins _ _ _ h | goes _ _ _ _ h => exact hadvances h

/-- If no sync is under way and none begins, the cluster is asked nothing. -/
theorem Serves.quiet {answered : Option Exchange} {failure : Option Error}
    (h : loop.Serves later requests [] answered failure)
    (hfree : loop.consumer.isSyncing = false) :
    later.consumer.isSyncing = false ∧ (∀ call, .cluster call ∉ requests) ∧ answered = none ∧
      later.ready = loop.ready := by
  cases h with
  | stays _ hconsumer hrequests hscore =>
    exact ⟨hconsumer ▸ hfree, hrequests, rfl, congrArg Score.ready hscore⟩
  | turns _ _ hconsumer hrequests hscore =>
    exact ⟨hconsumer, hrequests, rfl, congrArg Score.ready hscore⟩
  | skips _ _ _ _ hconsumer hrequests hscore =>
    rw [hconsumer, hrequests]
    exact ⟨rfl, by simp, rfl, congrArg Score.ready hscore⟩
  | goes _ _ _ hconsumer =>
    rw [hconsumer] at hfree
    cases hfree

/-- The listing of a resync begins a sync only by listing a page. -/
theorem begun_of_listing (hconsumer : loop.consumer = .surveying .listing)
    (hlisted : ∀ page, event ≠ .surveyed (.listed (.ok page))) :
    (loop.entries event).filterMap Entry.cycle? = [] := by
  unfold entries
  split
  · exact filterMap_cycle?_watch _
  · cases event with
    | poll now => simp [noted, hconsumer]
    | surveyed input =>
      cases input with
      | listed answer =>
        cases answer with
        | ok page => exact absurd rfl (hlisted page)
        | error error => simp [noted, hconsumer, surveyNoted, Survey.step, begun]
      | fetched position result => simp [noted, hconsumer, surveyNoted, Survey.step, begun]
    | watchListed answer | watchWoke | watchFetched position answer | watchDied | watchCancelled
    | handOver | answered call answer | cancel => rfl

/-- A resync that cannot list the catalog is over. -/
theorem idle_of_listing_failed (hconsumer : loop.consumer = .surveying .listing) (error : Error) :
    (loop.step (.surveyed (.listed (.error error)))).loop.consumer = .idle := by
  simp only [step, hconsumer, unlessCancelled]
  split_ifs
  · simp [abandon, hconsumer]
  · rfl

/-! ## Nothing on its way -/

/-- Nothing that was listed is on its way to the cluster: the watcher fetches and offers nothing,
the slot is empty, and the consumer neither fetches what a resync listed nor syncs. -/
structure Drained (loop : Loop) : Prop where
  slot : loop.slot = none
  fetches : ∀ fetch, loop.watcher.phase ≠ .fetching fetch
  offers : ∀ snapshot, loop.watcher.phase ≠ .offering snapshot
  surveys : ∀ fetch, loop.consumer ≠ .surveying (.fetching fetch)
  syncs : loop.consumer.isSyncing = false

theorem Drained.begun (h : loop.Drained) (hpage : event.page? = none) :
    (loop.entries event).filterMap Entry.cycle? = [] := by
  cases hconsumer : loop.consumer with
  | surveying survey =>
    cases survey with
    | listing =>
      refine begun_of_listing hconsumer ?_
      rintro page rfl
      cases hpage
    | fetching fetch => exact absurd hconsumer (h.surveys fetch)
  | idle | syncing trigger call next | ended result =>
    unfold entries
    split
    · exact filterMap_cycle?_watch _
    · cases event with
      | poll now => simp [noted_poll_of_empty h.slot]
      | surveyed input => simp [noted, hconsumer]
      | watchListed answer | watchWoke | watchFetched position answer | watchDied | watchCancelled
      | handOver | answered call answer | cancel => rfl

/-- A watcher that is told no page fetches and offers nothing new. -/
theorem phase_step {watcher : Watcher} {input : Watcher.Input}
    (hfetches : ∀ fetch, watcher.phase ≠ .fetching fetch)
    (hoffers : ∀ snapshot, watcher.phase ≠ .offering snapshot)
    (htold : ∀ page, Watcher.Entry.told page ∉ watcher.entries input) :
    (∀ fetch, (watcher.step input).watcher.phase ≠ .fetching fetch) ∧
      ∀ snapshot, (watcher.step input).watcher.phase ≠ .offering snapshot := by
  have hacts := watcher.acts_step input
  unfold Watcher.entries at htold
  generalize watcher.step input = reaction at hacts htold ⊢
  generalize watcher.noted input = noted at hacts htold
  cases hacts with
  | idle => exact ⟨hfetches, hoffers⟩
  | stopped | failed | woke =>
    simp [Watcher.stop, Watcher.onFailure, Watcher.listFrom]
  | told page => exact absurd (List.mem_append_right _ (List.mem_singleton.2 rfl)) (htold page)
  | fetched _ _ hphase => exact absurd hphase (hfetches _)
  | emitted hphase => exact absurd hphase (hoffers _)

/-- Only a page that is listed sets something on its way. -/
theorem Drained.acts {seen : List Entry} (h : loop.Drained) (hacts : loop.Acts later seen)
    (hnone : ∀ trigger page, listing trigger page ∉ seen)
    (hsyncs : later.consumer.isSyncing = false) : later.Drained := by
  cases hacts with
  | watched input _ hwatcher hslot hconsumer =>
    have htold : ∀ page, Watcher.Entry.told page ∉ loop.watcher.entries input :=
      fun page hpage => hnone .watch page (List.mem_map_of_mem hpage)
    obtain ⟨hfetches, hoffers⟩ := phase_step h.fetches h.offers htold
    rw [← hwatcher] at hfetches hoffers
    exact ⟨hslot.trans h.slot, hfetches, hoffers, hconsumer ▸ h.surveys, hsyncs⟩
  | handed hphase => exact absurd hphase (h.offers _)
  | went hwatcher hslot hconsumer =>
    exact ⟨hslot.trans h.slot, hwatcher ▸ h.fetches, hwatcher ▸ h.offers,
      fun fetch hfetch => h.surveys fetch (hconsumer fetch hfetch), hsyncs⟩
  | took hfull => cases h.slot.symm.trans hfull
  | surveying hsurveys =>
    cases hsurveys with
    | listed page => exact absurd (List.mem_singleton.2 rfl) (hnone .resync page)
    | fetched _ _ hconsumer => exact absurd hconsumer (h.surveys _)
  | resynced hsurveys =>
    cases hsurveys with
    | listed page =>
      exact absurd (List.mem_cons_of_mem _ (List.mem_singleton.2 rfl)) (hnone .resync page)
    | fetched _ _ hconsumer => exact absurd hconsumer (h.surveys _)

/-- An event that lists no page. -/
theorem Drained.step (h : loop.Drained) (hpage : event.page? = none) :
    (loop.step event).loop.Drained ∧ (∀ call, .cluster call ∉ (loop.step event).requests) ∧
      (loop.step event).loop.ready = loop.ready := by
  have hserves := loop.serves_step event
  rw [h.begun hpage] at hserves
  obtain ⟨hsyncs, hrequests, _, hready⟩ := hserves.quiet h.syncs
  refine ⟨h.acts (loop.acts_step event) ?_ hsyncs, hrequests, hready⟩
  intro trigger page hentry
  rw [page?_of_mem_entries hentry] at hpage
  cases hpage

/-- However long no page is listed, the cluster is asked nothing. -/
theorem Drained.run {events : List Event} (h : loop.Drained)
    (hpages : ∀ event ∈ events, event.page? = none) :
    (loop.run events).loop.Drained ∧ (∀ call, .cluster call ∉ (loop.run events).requests) ∧
      (loop.run events).loop.ready = loop.ready := by
  induction events generalizing loop with
  | nil => exact ⟨h, by simp [run, stay], rfl⟩
  | cons event rest ih =>
    obtain ⟨hfirst, hquiet, hready⟩ := h.step (hpages event List.mem_cons_self)
    obtain ⟨hlast, hlater, hstill⟩ :=
      ih hfirst fun other hother => hpages other (List.mem_cons_of_mem _ hother)
    refine ⟨hlast, ?_, hstill.trans hready⟩
    intro call hcall
    rcases List.mem_append.1 hcall with hnow | hthen
    · exact hquiet call hnow
    · exact hlater call hthen

theorem drained_start (scope : Scope) (interval : Duration) (pace : Pace) (now : Instant) :
    (start scope interval pace now).loop.Drained where
  slot := rfl
  fetches _ := by simp [start, Watcher.start]
  offers _ := by simp [start, Watcher.start]
  surveys _ := by simp [start]
  syncs := rfl

/-! ## Runs -/

/-- Where the requests to the cluster come from, in every run of the loop.

Every request to the cluster is what the newest sync of the loop waits for, and this sync shows
exactly one page that the catalog answered: one state for every name, in the order of the page. A
resync whose listing is under way asks the cluster nothing before a page is listed for it; if the
listing fails the cycle is over and no sync has begun. And while nothing that was listed is on its
way, as at the start, nothing is asked of the cluster for as long as no catalog query succeeds, and
the loop does not become ready either. -/
theorem provenance_of_run (scope : Scope) (interval : Duration) (pace : Pace) (now : Instant)
    (events stretch : List Event) (event : Event) :
    let ledger := (Ledger.start scope interval pace now).run events
    let later := ledger.step event
    (∀ call, .cluster call ∈ (ledger.loop.step event).requests →
        ∃ cycle earlier next page, later.cycles = cycle :: earlier ∧
          cycle.stand? scope = some (.ask call next) ∧
          (∃ answer ∈ events ++ [event], answer.page? = some page) ∧ page.Yields cycle.snapshot ∧
          cycle.snapshot.map (·.name) = page.names) ∧
      (ledger.loop.consumer = .surveying .listing →
        (∀ page, event ≠ .surveyed (.listed (.ok page))) →
        (∀ call, .cluster call ∉ (ledger.loop.step event).requests) ∧
          later.cycles = ledger.cycles ∧
          ∀ error, event = .surveyed (.listed (.error error)) → later.loop.consumer = .idle) ∧
      (ledger.loop.Drained → (∀ answer ∈ stretch, answer.page? = none) →
        (∀ call, .cluster call ∉ (ledger.loop.run stretch).requests) ∧
          (ledger.loop.run stretch).loop.ready = ledger.loop.ready) ∧
      (Ledger.start scope interval pace now).loop.Drained := by
  intro ledger later
  have hserves := ledger.loop.serves_step event
  refine ⟨?_, ?_, ?_, drained_start scope interval pace now⟩
  · intro call hcall
    have hlater : later = (Ledger.start scope interval pace now).run (events ++ [event]) := by
      rw [Ledger.run_append]
      rfl
    have hbooks := Ledger.books_run (Ledger.books_start scope interval pace now)
      (events ++ [event])
    rw [← hlater] at hbooks
    obtain ⟨trigger, next, hconsumer⟩ := hserves.asked hcall
    obtain ⟨cycle, earlier, hcycles, _, hstand⟩ := hbooks.busy _ _ _ hconsumer
    have hnewest : cycle ∈ later.cycles := by
      rw [hcycles]
      exact List.mem_cons_self
    rw [hlater] at hnewest
    obtain ⟨page, hpage, hyields⟩ := Ledger.exists_page hnewest
    exact ⟨cycle, earlier, next, page, hcycles, hstand, hpage, hyields, hyields.map_name⟩
  · intro hconsumer hlisted
    have hfree : ledger.loop.consumer.isSyncing = false := by rw [hconsumer]; rfl
    have hbegun := begun_of_listing hconsumer hlisted
    rw [hbegun] at hserves
    obtain ⟨_, hrequests, hanswered, _⟩ := hserves.quiet hfree
    refine ⟨hrequests, ?_, ?_⟩
    · simp only [later, Ledger.step, hbegun, hanswered, List.nil_append]
      rfl
    · rintro error rfl
      exact idle_of_listing_failed hconsumer error
  · intro hdrained hpages
    obtain ⟨_, hrequests, hready⟩ := hdrained.run hpages
    exact ⟨hrequests, hready⟩

end Loop

end CatalogBridge
