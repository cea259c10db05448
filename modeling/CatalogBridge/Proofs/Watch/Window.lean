import CatalogBridge.Proofs.Watch.Fetch
import Mathlib.Data.List.Range
import Mathlib.Data.List.Count

/-!
# The window of a fetch

A fetch starts health queries in the order of the page, at most a window of them
at a time, and hands states on in that order while answers arrive in another. This
module says what a fetch asks, tells and counts while its queries are answered in
any order at all.

* `Fetching` is a fetch with the queries that it has asked and what it has told and
  counted, and `Fetching.Course` lets the queries in flight be answered one by one.
* `Fetch.Settled` is how a fetch stands between answers: the query in front is in
  flight, and queries wait only while the window is full (`settled_fill`).
* `Fetching.Sound` relates a fetch to its page and to the answers so far.
  `Sound.answer` says that each answer keeps it, and `sound_of_course` that it holds
  all along.
* `Sound.perm_or_inFlight` and `Sound.snapshot?_eq_some_iff` are what follows: the fetch
  goes on until every query is answered, and then it has its snapshot.
-/

namespace CatalogBridge

namespace Fetch

variable {names : List String} {fetch : Fetch}

/-! ## One answer -/

/-- The queries of a page in its order. -/
def queries (names : List String) : List InstanceQuery := names.mapIdx InstanceQuery.mk

/-- The first query that is not handed on is in flight. -/
def Fronted (fetch : Fetch) : Prop :=
  ∀ name state rest, fetch.started ≠ (name, some state) :: rest

/-- How a fetch stands between answers: the query in front is in flight, and queries wait only
while the window is full. -/
structure Settled (fetch : Fetch) : Prop where
  front : fetch.Fronted
  full : fetch.waiting = [] ∨ fetch.started.length = fetchWindow
  window : fetch.started.length ≤ fetchWindow

theorem getElem?_queries (names : List String) (position : Nat) :
    (queries names)[position]? = names[position]?.map (InstanceQuery.mk position) :=
  List.getElem?_mapIdx

theorem length_slots (fetch : Fetch) :
    fetch.slots.length = fetch.nextPosition + fetch.waiting.length := by
  simp [slots, nextPosition, Nat.add_assoc]

theorem nextPosition_fill (fetch : Fetch) :
    fetch.fill.1.nextPosition = fetch.nextPosition + fetch.fill.2.length := by
  simp [nextPosition, fill, Nat.add_assoc]

/-- The queries that are started are the next ones of the page. -/
theorem fill_queries (h : fetch.waiting = names.drop fetch.nextPosition) :
    fetch.fill.2 = ((queries names).drop fetch.nextPosition).take fetch.room := by
  refine List.ext_getElem? fun offset => ?_
  simp only [fill, h, List.getElem?_map, List.getElem?_zipIdx, List.getElem?_take,
    List.getElem?_drop, getElem?_queries]
  split_ifs
  · cases names[fetch.nextPosition + offset]? <;> simp
  · rfl

theorem settled_fill (hfront : fetch.Fronted) (hwindow : fetch.started.length ≤ fetchWindow) :
    fetch.fill.1.Settled := by
  refine ⟨?_, ?_, length_fill_started_le fetch hwindow⟩
  · intro name state rest hstarted
    cases hfetch : fetch.started with
    | cons first others =>
      simp only [fill, hfetch, List.cons_append, List.cons.injEq] at hstarted
      exact hfront name state others (by rw [hfetch, hstarted.1])
    | nil =>
      -- Then the first query is one that was just started.
      simp only [fill, hfetch, List.nil_append] at hstarted
      have hmem : (name, some state) ∈ (fetch.waiting.take fetch.room).map
          fun name => (name, (none : Option ServiceState)) := by
        rw [hstarted]
        exact List.mem_cons_self
      obtain ⟨_, _, hsame⟩ := List.mem_map.1 hmem
      cases hsame
  · simp only [fill, List.length_append, List.length_map, List.length_take,
      List.drop_eq_nil_iff, room]
    omega

theorem length_splitFinished (started : List (String × Option ServiceState)) :
    (splitFinished started).1.length + (splitFinished started).2.length = started.length := by
  induction started with
  | nil => rfl
  | cons entry rest ih =>
    obtain ⟨name, known⟩ := entry
    cases known with
    | none => simp [splitFinished]
    | some state =>
      simp only [splitFinished, List.length_cons]
      omega

theorem splitFinished_ne (started : List (String × Option ServiceState)) (name : String)
    (state : ServiceState) (rest : List (String × Option ServiceState)) :
    (splitFinished started).2 ≠ (name, some state) :: rest := by
  induction started with
  | nil => simp [splitFinished]
  | cons entry others ih =>
    obtain ⟨other, known⟩ := entry
    cases known with
    | none => simp [splitFinished]
    | some found => exact ih

/-- After an answer that is waited for, what is finished in front is handed on, and further queries
are started. -/
theorem answer_eq {position : Nat} {name : String} (trigger : Trigger)
    (result : Except Error (List Instance)) (h : fetch.awaited? position = some name) :
    ∃ handed : Fetch, fetch.answer trigger position result
        = (handed.fill.1, handed.fill.2, effectsOf trigger name result) ∧
      handed.waiting = fetch.waiting ∧ handed.nextPosition = fetch.nextPosition ∧
      handed.Fronted ∧ handed.started.length ≤ fetch.started.length := by
  let started := fetch.started.set (position - fetch.taken.length)
    (name, some (stateOf name result))
  have hlength := length_splitFinished started
  have hset : started.length = fetch.started.length := List.length_set
  refine ⟨take { fetch with started := started }, ?_, rfl, ?_, ?_, ?_⟩
  · simp only [answer, h]
    rfl
  · simp only [nextPosition, take, List.length_append]
    omega
  · exact splitFinished_ne started
  · simp only [take]
    omega

/-- A started query without a state is waited for. -/
theorem awaited?_of_slot {position : Nat} {name : String}
    (hslot : fetch.slots[position]? = some (name, none)) (hlt : position < fetch.nextPosition) :
    fetch.awaited? position = some name := by
  rw [slots, List.getElem?_append, List.length_map] at hslot
  split_ifs at hslot with htaken
  · rw [List.getElem?_map, Option.map_eq_some_iff] at hslot
    obtain ⟨_, _, hsame⟩ := hslot
    cases hsame
  · have hstarted : position - fetch.taken.length < fetch.started.length := by
      rw [nextPosition] at hlt
      omega
    rw [List.getElem?_append_left hstarted] at hslot
    exact awaited?_eq_some_iff.2 ⟨Nat.not_lt.1 htaken, hslot⟩

theorem Answered.map_slots {outcome : Nat → Except Error (List Instance)}
    (h : fetch.Answered names outcome) : fetch.slots.map (·.1) = names := by
  refine List.ext_getElem? fun position => ?_
  rw [List.getElem?_map]
  cases hslot : fetch.slots[position]? with
  | none =>
    rw [List.getElem?_eq_none_iff, h.length, ← List.getElem?_eq_none_iff] at hslot
    exact hslot.symm
  | some slot => exact (h.slot position slot.1 slot.2 hslot).1.symm

/-- The names that wait are those of the page behind the queries that were started. -/
theorem Answered.waiting_eq {outcome : Nat → Except Error (List Instance)}
    (h : fetch.Answered names outcome) : fetch.waiting = names.drop fetch.nextPosition := by
  have hnames := h.map_slots
  have hmap : (fetch.waiting.map fun name => (name, (none : Option ServiceState))).map (·.1)
      = fetch.waiting := by
    rw [List.map_map]
    exact List.map_id _
  rw [slots, ← List.append_assoc, List.map_append, hmap] at hnames
  rw [← hnames, List.drop_left']
  simp [nextPosition]

end Fetch

/-! ## Courses -/

/-- A fetch under way, with the queries that it has asked and what it has told and counted. -/
structure Fetching where
  fetch : Fetch
  asked : List InstanceQuery
  effects : List Effect

namespace Fetching

/-- Before the first answer. -/
def start (names : List String) : Fetching := ⟨(Fetch.start names).1, (Fetch.start names).2, []⟩

/-- The fetch after an answer. -/
def answer (trigger : Trigger) (fetching : Fetching) (position : Nat)
    (result : Except Error (List Instance)) : Fetching :=
  let (next, queries, effects) := fetching.fetch.answer trigger position result
  ⟨next, fetching.asked ++ queries, fetching.effects ++ effects⟩

/-- The query of a place is in flight: it was asked, and is none of those answered. -/
def InFlight (fetching : Fetching) (order : List Nat) (position : Nat) : Prop :=
  (∃ query ∈ fetching.asked, query.position = position) ∧ position ∉ order

/-- The queries of a page are answered in some order, each while it is in flight; the newest answer
stands first. -/
inductive Course (trigger : Trigger) (names : List String)
    (outcome : Nat → Except Error (List Instance)) : List Nat → Fetching → Prop
  | start : Course trigger names outcome [] (start names)
  | answered {order : List Nat} {fetching : Fetching} {position : Nat}
      (h : Course trigger names outcome order fetching)
      (hflight : fetching.InFlight order position) :
      Course trigger names outcome (position :: order)
        (fetching.answer trigger position (outcome position))

/-- The query of a place failed. -/
def fails (outcome : Nat → Except Error (List Instance)) (position : Nat) : Bool :=
  !(outcome position).isOk

/-- A fetch agrees with its page and with the answers so far. -/
structure Sound (names : List String) (outcome : Nat → Except Error (List Instance))
    (order : List Nat) (fetching : Fetching) : Prop where
  answered : fetching.fetch.Answered names outcome
  filled : ∀ position name known, fetching.fetch.slots[position]? = some (name, known) →
    (known.isSome = true ↔ position ∈ order)
  settled : fetching.fetch.Settled
  asked : fetching.asked <+: Fetch.queries names
  length : fetching.asked.length = fetching.fetch.nextPosition
  nodup : order.Nodup
  listed : ∀ position ∈ order, position < names.length
  counted : ∀ metrics : Metrics, metrics.recordAll (Effect.measurements fetching.effects)
    = { metrics with registryErrors := metrics.registryErrors + order.countP (fails outcome) }

variable {names : List String} {outcome : Nat → Except Error (List Instance)} {order : List Nat}
  {fetching : Fetching} {position : Nat}

/-! ## What each answer keeps -/

theorem recordAll_effectsOf (trigger : Trigger) (name : String)
    (result : Except Error (List Instance)) (metrics : Metrics) :
    metrics.recordAll (Effect.measurements (Fetch.effectsOf trigger name result))
      = { metrics with registryErrors := metrics.registryErrors + (!result.isOk).toNat } := by
  cases result <;> rfl

theorem sound_start (names : List String) (outcome : Nat → Except Error (List Instance)) :
    Sound names outcome [] (start names) := by
  have hslots : (start names).fetch.slots = names.map fun name => (name, none) :=
    Fetch.slots_fill _
  have hqueries : (Fetch.ofNames names).fill.2 = ((Fetch.queries names).drop 0).take fetchWindow :=
    Fetch.fill_queries rfl
  refine ⟨Fetch.answered_start names outcome, ?_, ?_, ?_, ?_, List.nodup_nil, by simp,
    fun metrics => rfl⟩
  · intro position name known hslot
    rw [hslots, List.getElem?_map, Option.map_eq_some_iff] at hslot
    obtain ⟨_, _, hsame⟩ := hslot
    obtain ⟨rfl, rfl⟩ := Prod.mk.inj hsame
    simp
  · exact Fetch.settled_fill (by simp [Fetch.Fronted, Fetch.ofNames]) (Nat.zero_le _)
  · change (Fetch.ofNames names).fill.2 <+: _
    rw [hqueries]
    exact List.take_prefix _ _
  · change _ = (Fetch.ofNames names).fill.1.nextPosition
    rw [Fetch.nextPosition_fill]
    exact (Nat.zero_add _).symm

/-- The queries that were asked stand at their places. -/
theorem Sound.position_eq (h : Sound names outcome order fetching) {query : InstanceQuery}
    (hquery : fetching.asked[position]? = some query) : query.position = position := by
  obtain ⟨behind, hbehind⟩ := h.asked
  have hlisted : (Fetch.queries names)[position]? = some query := by
    rw [← hbehind, List.getElem?_append_left (List.getElem?_eq_some_iff.1 hquery).1, hquery]
  rw [Fetch.getElem?_queries, Option.map_eq_some_iff] at hlisted
  obtain ⟨_, _, rfl⟩ := hlisted
  rfl

theorem Sound.exists_slot (h : Sound names outcome order fetching)
    (hposition : position < names.length) :
    ∃ name known, fetching.fetch.slots[position]? = some (name, known) := by
  rw [← h.answered.length] at hposition
  exact ⟨_, _, List.getElem?_eq_getElem hposition⟩

theorem Sound.nextPosition_le (h : Sound names outcome order fetching) :
    fetching.fetch.nextPosition ≤ names.length := by
  rw [← h.answered.length, Fetch.length_slots]
  exact Nat.le_add_right _ _

/-- A query is in flight if its place comes before those that wait and is not among those
answered. -/
theorem Sound.inFlight_iff (h : Sound names outcome order fetching) :
    fetching.InFlight order position ↔
      position < fetching.fetch.nextPosition ∧ position ∉ order := by
  refine and_congr_left fun _ => ?_
  rw [← h.length]
  constructor
  · rintro ⟨query, hquery, rfl⟩
    obtain ⟨index, hindex⟩ := List.mem_iff_getElem?.1 hquery
    rw [h.position_eq hindex]
    exact (List.getElem?_eq_some_iff.1 hindex).1
  · intro hlt
    have hquery := List.getElem?_eq_getElem hlt
    exact ⟨_, List.mem_of_getElem? hquery, h.position_eq hquery⟩

/-- A query in flight is one that is waited for. -/
theorem Sound.awaited (h : Sound names outcome order fetching)
    (hflight : fetching.InFlight order position) :
    ∃ name, fetching.fetch.awaited? position = some name := by
  obtain ⟨hlt, hopen⟩ := h.inFlight_iff.1 hflight
  obtain ⟨name, known, hslot⟩ := h.exists_slot (Nat.lt_of_lt_of_le hlt h.nextPosition_le)
  have hnone : known = none := by
    rw [← Option.not_isSome_iff_eq_none, h.filled position name known hslot]
    exact hopen
  rw [hnone] at hslot
  exact ⟨name, Fetch.awaited?_of_slot hslot hlt⟩

/-- Every answer to a query in flight keeps the fetch sound. -/
theorem Sound.answer (h : Sound names outcome order fetching) (trigger : Trigger)
    (hflight : fetching.InFlight order position) :
    Sound names outcome (position :: order)
      (fetching.answer trigger position (outcome position)) := by
  obtain ⟨name, hawaited⟩ := h.awaited hflight
  obtain ⟨hlt, hopen⟩ := h.inFlight_iff.1 hflight
  have hslots := Fetch.slots_answer trigger (outcome position) h.answered.named hawaited
  have hanswered := h.answered.answer trigger position
  obtain ⟨handed, hanswer, hwaiting, hnext, hfront, hwindow⟩ :=
    Fetch.answer_eq trigger (outcome position) hawaited
  have hfetching : fetching.answer trigger position (outcome position)
      = ⟨handed.fill.1, fetching.asked ++ handed.fill.2,
        fetching.effects ++ Fetch.effectsOf trigger name (outcome position)⟩ := by
    simp only [Fetching.answer, hanswer]
  rw [hanswer] at hslots hanswered
  have hqueries : handed.fill.2
      = ((Fetch.queries names).drop fetching.asked.length).take handed.room := by
    rw [h.length, ← hnext]
    refine Fetch.fill_queries ?_
    rw [hwaiting, hnext, h.answered.waiting_eq]
  rw [hfetching]
  refine ⟨hanswered, ?_, Fetch.settled_fill hfront (hwindow.trans h.settled.window), ?_, ?_,
    List.nodup_cons.2 ⟨hopen, h.nodup⟩, ?_, ?_⟩
  · intro place asked known hslot
    rw [hslots, List.getElem?_set] at hslot
    split_ifs at hslot with hplace
    · subst hplace
      obtain ⟨rfl, rfl⟩ := Prod.mk.inj (Option.some.inj hslot)
      simp
    · rw [h.filled place asked known hslot, List.mem_cons, or_iff_right (Ne.symm hplace)]
  · have hasked := List.prefix_iff_eq_take.1 h.asked
    rw [hqueries, hasked, List.length_take_of_le h.asked.length_le, ← List.take_add]
    exact List.take_prefix _ _
  · rw [List.length_append, Fetch.nextPosition_fill, hnext, h.length]
  · exact List.forall_mem_cons.2 ⟨Nat.lt_of_lt_of_le hlt h.nextPosition_le, h.listed⟩
  · intro metrics
    rw [Effect.measurements_append, Metrics.recordAll_append, h.counted, recordAll_effectsOf,
      List.countP_cons, ← fails]
    cases fails outcome position <;> simp [Nat.add_assoc]

theorem sound_of_course {trigger : Trigger} (h : Course trigger names outcome order fetching) :
    Sound names outcome order fetching := by
  induction h with
  | start => exact sound_start names outcome
  | answered _ hflight ih => exact ih.answer trigger hflight

/-! ## The end of a fetch -/

/-- While a query is started and not handed on, the one in front is in flight. -/
theorem Sound.inFlight_front (h : Sound names outcome order fetching)
    (hstarted : fetching.fetch.started ≠ []) :
    fetching.InFlight order fetching.fetch.taken.length := by
  obtain ⟨⟨name, known⟩, rest, hfront⟩ := List.exists_cons_of_ne_nil hstarted
  have hnone : known = none := by
    cases known with
    | none => rfl
    | some state => exact absurd hfront (h.settled.front name state rest)
  have hslot : fetching.fetch.slots[fetching.fetch.taken.length]? = some (name, none) := by
    rw [Fetch.slots, List.getElem?_append_right (by simp), hfront, hnone]
    simp
  refine h.inFlight_iff.2 ⟨?_, fun hanswered => ?_⟩
  · simp [Fetch.nextPosition, hfront]
  · exact absurd ((h.filled _ _ _ hslot).2 hanswered) Bool.false_ne_true

/-- When no query is started any more, all are answered. -/
theorem Sound.perm_of_started (h : Sound names outcome order fetching)
    (hstarted : fetching.fetch.started = []) :
    fetching.fetch.waiting = [] ∧ order.Perm (List.range names.length) := by
  have hwaiting : fetching.fetch.waiting = [] := by
    rcases h.settled.full with hwaiting | hfull
    · exact hwaiting
    · rw [hstarted] at hfull
      cases hfull
  refine ⟨hwaiting, (List.perm_ext_iff_of_nodup h.nodup List.nodup_range).2 fun position => ?_⟩
  rw [List.mem_range]
  constructor
  · exact h.listed position
  · intro hposition
    obtain ⟨name, known, hslot⟩ := h.exists_slot hposition
    refine (h.filled position name known hslot).1 ?_
    rw [Fetch.slots, hstarted, hwaiting, List.map_nil, List.append_nil, List.append_nil,
      List.getElem?_map, Option.map_eq_some_iff] at hslot
    obtain ⟨state, _, hsame⟩ := hslot
    obtain ⟨_, rfl⟩ := Prod.mk.inj hsame
    rfl

/-- All queries are answered, or some are in flight. -/
theorem Sound.perm_or_inFlight (h : Sound names outcome order fetching) :
    order.Perm (List.range names.length) ∨ ∃ position, fetching.InFlight order position := by
  by_cases hstarted : fetching.fetch.started = []
  · exact Or.inl (h.perm_of_started hstarted).2
  · exact Or.inr ⟨_, h.inFlight_front hstarted⟩

theorem Sound.not_inFlight_of_perm (h : Sound names outcome order fetching)
    (hperm : order.Perm (List.range names.length)) : ¬ fetching.InFlight order position := by
  intro hflight
  obtain ⟨hlt, hopen⟩ := h.inFlight_iff.1 hflight
  exact hopen (hperm.mem_iff.2 (List.mem_range.2 (Nat.lt_of_lt_of_le hlt h.nextPosition_le)))

/-- The fetch has its snapshot when all queries are answered. -/
theorem Sound.snapshot?_eq_some_iff (h : Sound names outcome order fetching)
    {snapshot : Snapshot} : fetching.fetch.snapshot? = some snapshot ↔
      order.Perm (List.range names.length) ∧ snapshot = Fetch.fetched names outcome := by
  constructor
  · intro hsnapshot
    refine ⟨?_, h.answered.snapshot?_eq hsnapshot⟩
    unfold Fetch.snapshot? at hsnapshot
    split_ifs at hsnapshot with hempty
    exact (h.perm_of_started (List.isEmpty_iff.1 (Bool.and_eq_true_iff.1 hempty).1)).2
  · rintro ⟨hperm, rfl⟩
    have hstarted : fetching.fetch.started = [] := by
      by_contra hstarted
      exact h.not_inFlight_of_perm hperm (h.inFlight_front hstarted)
    have hsome : fetching.fetch.snapshot? = some fetching.fetch.taken := by
      rw [Fetch.snapshot?, hstarted, (h.perm_of_started hstarted).1]
      rfl
    rw [hsome, h.answered.snapshot?_eq hsome]

/-- At most a window of queries is in flight. -/
theorem Sound.countP_inFlight_le (h : Sound names outcome order fetching) :
    (fetching.asked.countP fun query => query.position ∉ order) ≤ fetchWindow := by
  -- What is handed on is answered, so only started queries can be in flight.
  have hhanded : ((fetching.asked.take fetching.fetch.taken.length).countP
      fun query => query.position ∉ order) = 0 := by
    rw [List.countP_eq_zero]
    intro query hquery
    obtain ⟨position, hposition⟩ := List.mem_iff_getElem?.1 hquery
    rw [List.getElem?_take] at hposition
    split_ifs at hposition with htaken
    have hslot : ∃ state, fetching.fetch.slots[position]? = some (state.name, some state) := by
      refine ⟨fetching.fetch.taken[position], ?_⟩
      rw [Fetch.slots, List.getElem?_append_left (by simpa using htaken), List.getElem?_map,
        List.getElem?_eq_getElem htaken]
      rfl
    obtain ⟨state, hslot⟩ := hslot
    rw [h.position_eq hposition]
    simpa using (h.filled _ _ _ hslot).1 rfl
  have hstarted : (fetching.asked.drop fetching.fetch.taken.length).length
      = fetching.fetch.started.length := by
    rw [List.length_drop, h.length, Fetch.nextPosition, Nat.add_sub_cancel_left]
  rw [← List.take_append_drop fetching.fetch.taken.length fetching.asked, List.countP_append,
    hhanded, Nat.zero_add]
  exact List.countP_le_length.trans (hstarted.le.trans h.settled.window)

/-- What can be seen of a fetch: it asks for the names of its page in order, a window of them at a
time, and goes on until all are answered. Then its snapshot holds a state for each name in order,
with the instances of that name as they came, or none if its query failed. Failures are counted. -/
structure Faithful (names : List String) (outcome : Nat → Except Error (List Instance))
    (order : List Nat) (fetching : Fetching) : Prop where
  asked : fetching.asked <+: Fetch.queries names
  window : (fetching.asked.countP fun query => query.position ∉ order) ≤ fetchWindow
  goesOn : order.Perm (List.range names.length) ∨ ∃ position, fetching.InFlight order position
  snapshot : ∀ snapshot, fetching.fetch.snapshot? = some snapshot ↔
    order.Perm (List.range names.length) ∧
      snapshot = names.mapIdx fun position name => ⟨name, (outcome position).toOption.getD []⟩
  counted : ∀ metrics : Metrics, metrics.recordAll (Effect.measurements fetching.effects)
    = { metrics with registryErrors := metrics.registryErrors + order.countP (fails outcome) }

theorem fetched_eq (names : List String) (outcome : Nat → Except Error (List Instance)) :
    Fetch.fetched names outcome
      = names.mapIdx fun position name => ⟨name, (outcome position).toOption.getD []⟩ := by
  have hstate : ∀ (name : String) (result : Except Error (List Instance)),
      Fetch.stateOf name result = ⟨name, result.toOption.getD []⟩ := by
    intro name result
    cases result <;> rfl
  simp only [Fetch.fetched, hstate]

/-- Every fetch is faithful, in whatever order its queries are answered. -/
theorem faithful_of_course {trigger : Trigger}
    (h : Course trigger names outcome order fetching) : Faithful names outcome order fetching := by
  have hsound := sound_of_course h
  refine ⟨hsound.asked, hsound.countP_inFlight_le, hsound.perm_or_inFlight, fun snapshot => ?_,
    hsound.counted⟩
  rw [hsound.snapshot?_eq_some_iff, fetched_eq]

/-- The second of two queries may be answered first. -/
example : ∃ fetching, Course .watch ["api", "web"] (fun _ => .ok []) [0, 1] fetching ∧
    fetching.fetch.snapshot? = some [⟨"api", []⟩, ⟨"web", []⟩] :=
  ⟨_, .answered (.answered .start ⟨⟨⟨1, "web"⟩, by decide, rfl⟩, by decide⟩)
    ⟨⟨⟨0, "api"⟩, by decide, rfl⟩, by decide⟩, rfl⟩

end Fetching

end CatalogBridge
