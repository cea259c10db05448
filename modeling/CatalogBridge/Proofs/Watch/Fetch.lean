import CatalogBridge.Watch.Survey
import CatalogBridge.Watch.Watcher
import Mathlib.Data.List.Basic

/-!
# What a fetch hands on

The health queries of a page may be answered in any order. This module shows that
the snapshot does not depend on it.

* `Fetch.slots` are the places of a page in order, whether handed on, started or
  still waiting. Starting queries and handing states on leave the slots as they
  are (`slots_fill`, `slots_take`), and an answer fills one slot (`slots_answer`).
* `Answered` says that every filled slot holds what the query of its place came to.
  It holds at the start and after every answer.
* `eq_fetched_of_delivers` concludes for both ways to get a snapshot, the survey
  and the watcher: it is `fetched`, a state for every name in the order of the page.
-/

namespace CatalogBridge

namespace Fetch

/-! ## Slots -/

/-- The places of a page in order: the name, and its state once that is known. -/
def slots (fetch : Fetch) : List (String × Option ServiceState) :=
  fetch.taken.map (fun state => (state.name, some state)) ++
    (fetch.started ++ fetch.waiting.map fun name => (name, none))

theorem slots_fill (fetch : Fetch) : fetch.fill.1.slots = fetch.slots := by
  have hwaiting : (fetch.waiting.take fetch.room).map (fun name => (name, none))
      ++ (fetch.waiting.drop fetch.room).map (fun name => (name, (none : Option ServiceState)))
        = fetch.waiting.map fun name => (name, none) := by
    rw [← List.map_append, List.take_append_drop]
  simp only [slots, fill, List.append_assoc, hwaiting]

/-- The states at the front and what is left are what there was, if every state has the name of
its place. -/
theorem splitFinished_eq {started : List (String × Option ServiceState)}
    (hnamed : ∀ name state, (name, some state) ∈ started → state.name = name) :
    (splitFinished started).1.map (fun state => (state.name, some state))
      ++ (splitFinished started).2 = started := by
  induction started with
  | nil => rfl
  | cons entry rest ih =>
    obtain ⟨name, known⟩ := entry
    cases known with
    | none => rfl
    | some state =>
      have hname : state.name = name := hnamed name state List.mem_cons_self
      have hrest := ih fun name state hmem => hnamed name state (List.mem_cons_of_mem _ hmem)
      rw [splitFinished, List.map_cons, List.cons_append, hrest, hname]

theorem slots_take {fetch : Fetch}
    (hnamed : ∀ name state, (name, some state) ∈ fetch.started → state.name = name) :
    fetch.take.slots = fetch.slots := by
  have hsplit := splitFinished_eq hnamed
  simp only [slots, take, List.map_append, List.append_assoc]
  rw [← List.append_assoc _ (splitFinished fetch.started).2, hsplit]

theorem awaited?_eq_some_iff {fetch : Fetch} {position : Nat} {name : String} :
    fetch.awaited? position = some name ↔ fetch.taken.length ≤ position ∧
      fetch.started[position - fetch.taken.length]? = some (name, none) := by
  unfold awaited?
  by_cases htaken : position < fetch.taken.length
  · simp [htaken, Nat.not_le.2 htaken]
  · rw [if_neg htaken]
    constructor
    · intro h
      split at h
      · rename_i hstarted
        obtain rfl := Option.some.inj h
        exact ⟨Nat.not_lt.1 htaken, hstarted⟩
      · cases h
    · intro hplace
      obtain ⟨_, hstarted⟩ := hplace
      rw [hstarted]

/-- The slot of an answer that is waited for is empty. -/
theorem getElem?_slots_of_awaited {fetch : Fetch} {position : Nat} {name : String}
    (h : fetch.awaited? position = some name) : fetch.slots[position]? = some (name, none) := by
  obtain ⟨hle, hstarted⟩ := awaited?_eq_some_iff.1 h
  have hlt : position - fetch.taken.length < fetch.started.length :=
    (List.getElem?_eq_some_iff.1 hstarted).1
  rw [slots, List.getElem?_append_right (by simpa using hle), List.length_map,
    List.getElem?_append_left hlt, hstarted]

/-- An answer that is waited for fills the slot of its place. -/
theorem slots_answer {fetch : Fetch} {position : Nat} {name : String} (trigger : Trigger)
    (result : Except Error (List Instance))
    (hnamed : ∀ name state, (name, some state) ∈ fetch.started → state.name = name)
    (h : fetch.awaited? position = some name) :
    (fetch.answer trigger position result).1.slots
      = fetch.slots.set position (name, some (stateOf name result)) := by
  obtain ⟨hle, hstarted⟩ := awaited?_eq_some_iff.1 h
  have hlt : position - fetch.taken.length < fetch.started.length :=
    (List.getElem?_eq_some_iff.1 hstarted).1
  simp only [answer, h]
  rw [slots_fill, slots_take]
  · simp only [slots]
    rw [List.set_append_right _ _ (by simpa using hle), List.length_map,
      List.set_append_left _ _ hlt]
  · intro other state hmem
    rcases List.mem_or_eq_of_mem_set hmem with hmem | hsame
    · exact hnamed other state hmem
    · obtain ⟨rfl, hstate⟩ := Prod.mk.inj hsame
      rw [Option.some.inj hstate]
      cases result <;> rfl

/-! ## Answers in any order -/

variable {names : List String} {outcome : Nat → Except Error (List Instance)}

/-- The slots are those of the page, and the filled ones hold what the queries came to. -/
structure Answered (names : List String) (outcome : Nat → Except Error (List Instance))
    (fetch : Fetch) : Prop where
  length : fetch.slots.length = names.length
  slot : ∀ position name known, fetch.slots[position]? = some (name, known) →
    names[position]? = some name ∧
      ∀ state, known = some state → state = stateOf name (outcome position)

@[simp] theorem name_stateOf (name : String) (result : Except Error (List Instance)) :
    (stateOf name result).name = name := by
  cases result <;> rfl

/-- A state that is known has the name of its place. -/
theorem Answered.named {fetch : Fetch} (h : fetch.Answered names outcome) (name : String)
    (state : ServiceState) (hmem : (name, some state) ∈ fetch.started) : state.name = name := by
  have hslot : (name, some state) ∈ fetch.slots :=
    List.mem_append_right _ (List.mem_append_left _ hmem)
  obtain ⟨position, hposition⟩ := List.mem_iff_getElem?.1 hslot
  rw [(h.slot position name _ hposition).2 state rfl, name_stateOf]

theorem answered_start (names : List String) (outcome : Nat → Except Error (List Instance)) :
    (start names).1.Answered names outcome := by
  have hslots : (start names).1.slots = names.map fun name => (name, none) := slots_fill _
  refine ⟨by rw [hslots, List.length_map], ?_⟩
  intro position name known hslot
  rw [hslots, List.getElem?_map, Option.map_eq_some_iff] at hslot
  obtain ⟨asked, hasked, hsame⟩ := hslot
  obtain ⟨rfl, rfl⟩ := Prod.mk.inj hsame
  exact ⟨hasked, fun state hstate => nomatch hstate⟩

/-- Every answer, waited for or not, leaves the filled slots right. -/
theorem Answered.answer {fetch : Fetch} (h : fetch.Answered names outcome) (trigger : Trigger)
    (position : Nat) :
    (fetch.answer trigger position (outcome position)).1.Answered names outcome := by
  cases hawaited : fetch.awaited? position with
  | none =>
    rw [Fetch.answer, hawaited]
    exact h
  | some name =>
    have hslots := slots_answer trigger (outcome position) h.named hawaited
    refine ⟨by rw [hslots, List.length_set, h.length], ?_⟩
    intro place asked known hslot
    rw [hslots, List.getElem?_set] at hslot
    split_ifs at hslot with hplace
    · subst hplace
      obtain ⟨rfl, rfl⟩ := Prod.mk.inj (Option.some.inj hslot)
      exact ⟨(h.slot position name none (getElem?_slots_of_awaited hawaited)).1,
        fun state hstate => (Option.some.inj hstate).symm⟩
    · exact h.slot place asked known hslot

/-- What the query of a place comes to is open as long as its answer is waited for. -/
theorem Answered.update {fetch : Fetch} (h : fetch.Answered names outcome) {position : Nat}
    {name : String} (hawaited : fetch.awaited? position = some name)
    (result : Except Error (List Instance)) :
    fetch.Answered names (Function.update outcome position result) := by
  refine ⟨h.length, ?_⟩
  intro place asked known hslot
  obtain ⟨hname, hknown⟩ := h.slot place asked known hslot
  refine ⟨hname, fun state hstate => ?_⟩
  have hplace : place ≠ position := by
    rintro rfl
    rw [getElem?_slots_of_awaited hawaited, hstate] at hslot
    cases hslot
  rw [Function.update_of_ne hplace, hknown state hstate]

/-- Whatever answers arrive, the filled slots hold what some queries came to. -/
theorem Answered.exists_answer {fetch : Fetch} (h : fetch.Answered names outcome)
    (trigger : Trigger) (position : Nat) (result : Except Error (List Instance)) :
    ∃ later, (fetch.answer trigger position result).1.Answered names later := by
  cases hawaited : fetch.awaited? position with
  | none =>
    rw [Fetch.answer, hawaited]
    exact ⟨outcome, h⟩
  | some name =>
    have hnext := (h.update hawaited result).answer trigger position
    rw [Function.update_self] at hnext
    exact ⟨_, hnext⟩

/-- The states of a page in its order: a service whose query failed has no instances. -/
def fetched (names : List String) (outcome : Nat → Except Error (List Instance)) : Snapshot :=
  names.mapIdx fun position name => stateOf name (outcome position)

/-- A complete fetch hands on the states of its page. -/
theorem Answered.snapshot?_eq {fetch : Fetch} {snapshot : Snapshot}
    (h : fetch.Answered names outcome) (hsnapshot : fetch.snapshot? = some snapshot) :
    snapshot = fetched names outcome := by
  unfold snapshot? at hsnapshot
  split_ifs at hsnapshot with hempty
  obtain rfl := Option.some.inj hsnapshot
  obtain ⟨hstarted, hwaiting⟩ := Bool.and_eq_true_iff.1 hempty
  have hslots : fetch.slots = fetch.taken.map fun state => (state.name, some state) := by
    rw [slots, List.isEmpty_iff.1 hstarted, List.isEmpty_iff.1 hwaiting]
    simp
  have hlength : fetch.taken.length = names.length := by
    rw [← h.length, hslots, List.length_map]
  refine List.ext_getElem? fun position => ?_
  rw [fetched, List.getElem?_mapIdx]
  cases htaken : fetch.taken[position]? with
  | none =>
    have hout : names[position]? = none := by
      rw [List.getElem?_eq_none_iff] at htaken ⊢
      rw [← hlength]
      exact htaken
    rw [hout, Option.map_none]
  | some state =>
    have hslot : fetch.slots[position]? = some (state.name, some state) := by
      rw [hslots, List.getElem?_map, htaken, Option.map_some]
    obtain ⟨hname, hstate⟩ := h.slot position _ _ hslot
    rw [hname, Option.map_some, ← hstate state rfl]

end Fetch

/-! ## Surveys and the watcher -/

variable {names : List String} {outcome : Nat → Except Error (List Instance)}

namespace Survey

/-- A survey whose health queries are answered, in this order. -/
def answered (outcome : Nat → Except Error (List Instance)) (progress : Progress)
    (order : List Nat) : Progress :=
  order.foldl (fun progress position =>
    match progress with
    | .running survey _ => (survey.step (.fetched position (outcome position))).1
    | .done result => .done result) progress

/-- A survey is under way with right answers, or done with the states of its page. -/
def Right (names : List String) (outcome : Nat → Except Error (List Instance))
    (progress : Progress) : Prop :=
  (∃ fetch queries, progress = .running (.fetching fetch) queries ∧
      fetch.Answered names outcome) ∨
    progress = .done (.ok (Fetch.fetched names outcome))

theorem right_proceed {fetch : Fetch} (h : fetch.Answered names outcome)
    (queries : List InstanceQuery) : Right names outcome (proceed fetch queries) := by
  unfold proceed
  cases hsnapshot : fetch.snapshot? with
  | none => exact Or.inl ⟨fetch, queries, rfl, h⟩
  | some snapshot => exact Or.inr (by rw [h.snapshot?_eq hsnapshot])

theorem right_listed (page : CatalogPage) (outcome : Nat → Except Error (List Instance)) :
    Right page.names outcome (listing.step (.listed (.ok page))).1 :=
  right_proceed (Fetch.answered_start page.names outcome) _

theorem right_answered {progress : Progress} (h : Right names outcome progress)
    (order : List Nat) : Right names outcome (answered outcome progress order) := by
  induction order generalizing progress with
  | nil => exact h
  | cons position rest ih =>
    refine ih ?_
    rcases h with ⟨fetch, queries, rfl, hfetch⟩ | rfl
    · exact right_proceed (hfetch.answer .resync position) _
    · exact Or.inr rfl

end Survey

namespace Watcher

/-- A watcher whose health queries are answered, in this order. -/
def answered (outcome : Nat → Except Error (List Instance)) (watcher : Watcher)
    (order : List Nat) : Watcher :=
  order.foldl (fun watcher position =>
    (watcher.step (.fetched position (outcome position))).watcher) watcher

/-- The watcher fetches with right answers, offers the states of its page, or lists again because
the page told nothing new. -/
def Right (names : List String) (outcome : Nat → Except Error (List Instance))
    (watcher : Watcher) : Prop :=
  (∃ fetch, watcher.phase = .fetching fetch ∧ fetch.Answered names outcome) ∨
    watcher.phase = .offering (Fetch.fetched names outcome) ∨ watcher.phase = .listing

theorem right_proceed {fetch : Fetch} (h : fetch.Answered names outcome) (watcher : Watcher)
    (queries : List InstanceQuery) (effects : List Effect) :
    Right names outcome (watcher.proceed fetch queries effects).watcher := by
  unfold proceed
  cases hsnapshot : fetch.snapshot? with
  | none => exact Or.inl ⟨fetch, rfl, h⟩
  | some snapshot =>
    refine Or.inr (Or.inl ?_)
    rw [← h.snapshot?_eq hsnapshot]

theorem right_onPage (watcher : Watcher) (page : CatalogPage)
    (outcome : Nat → Except Error (List Instance)) :
    Right page.names outcome (watcher.onPage page).watcher := by
  simp only [onPage]
  split_ifs
  · exact Or.inr (Or.inr rfl)
  · exact Or.inr (Or.inr rfl)
  · exact right_proceed (Fetch.answered_start page.names outcome) _ _ _

theorem right_answered {watcher : Watcher} (h : Right names outcome watcher)
    (order : List Nat) : Right names outcome (answered outcome watcher order) := by
  induction order generalizing watcher with
  | nil => exact h
  | cons position rest ih =>
    refine ih ?_
    rcases h with ⟨fetch, hphase, hfetch⟩ | hphase | hphase
    · simp only [step, hphase]
      exact right_proceed (hfetch.answer .watch position) _ _ _
    · simp only [step, hphase]
      exact Or.inr (Or.inl hphase)
    · simp only [step, hphase]
      exact Or.inr (Or.inr hphase)

end Watcher

/-- The ways in which a page becomes a snapshot, once its health queries are answered: a survey is
done with it, or the watcher offers it. -/
inductive Delivers (page : CatalogPage) (outcome : Nat → Except Error (List Instance))
    (snapshot : Snapshot) : Prop
  | surveyed (order : List Nat)
      (h : Survey.answered outcome (Survey.listing.step (.listed (.ok page))).1 order
        = .done (.ok snapshot))
  | watched (watcher : Watcher) (order : List Nat) (hlisting : watcher.phase = .listing)
      (h : (Watcher.answered outcome (watcher.step (.listed (.ok page))).watcher order).offered?
        = some snapshot)

/-- A snapshot holds the states of its page, in whatever order the queries were answered. -/
theorem eq_fetched_of_delivers {page : CatalogPage} {snapshot : Snapshot}
    (h : Delivers page outcome snapshot) : snapshot = Fetch.fetched page.names outcome := by
  cases h with
  | surveyed order h =>
    rcases Survey.right_answered (Survey.right_listed page outcome) order with
      ⟨fetch, queries, hrunning, _⟩ | hdone
    · cases h.symm.trans hrunning
    · exact Except.ok.inj (Survey.Progress.done.inj (h.symm.trans hdone))
  | watched watcher order hlisting h =>
    have hpage : (watcher.step (.listed (.ok page))).watcher = (watcher.onPage page).watcher := by
      simp only [Watcher.step, hlisting]
    rw [hpage] at h
    unfold Watcher.offered? at h
    rcases Watcher.right_answered (Watcher.right_onPage watcher page outcome) order with
      ⟨fetch, hphase, _⟩ | hphase | hphase
    · rw [hphase] at h
      cases h
    · rw [hphase] at h
      exact (Option.some.inj h).symm
    · rw [hphase] at h
      cases h

example : Survey.answered (fun _ => .ok []) (Survey.listing.step (.listed (.ok
    ⟨["api", "web"], ⟨1⟩⟩))).1 [1, 0] = .done (.ok [⟨"api", []⟩, ⟨"web", []⟩]) := rfl

end CatalogBridge
