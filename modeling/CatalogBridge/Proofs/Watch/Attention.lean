import CatalogBridge.Proofs.Watch.Course

/-!
# No watched change is lost

A watcher has one position, and what it does with an answer depends on it: an
answer may restart the watch, tell nothing new, or become a snapshot. This module
says, about the log of every watch, that the position never runs ahead of what the
consumer got, and that a catalog that starts over is caught up with.

* `told?`, `shown?` and `WentBack` read off a log the latest answer, the page
  behind the latest snapshot, and whether the latest answer went back.
* `Course.ready` gives the three reasons why a query names its position.
* `Course.pairwise_climb` says that the positions of snapshots rise until the
  watch restarts.
* `Attentive` collects what holds of a log at every query, snapshot and answer, and
  `attentive_run` says that it holds of every watch.

`.asked index :: earlier <:+ log` says that this query was made at the end of the
log `earlier`, so `earlier` is the watch just before it.
-/

namespace CatalogBridge.Watcher

variable {log earlier moment : List Entry} {index : ChangeIndex} {page shown : CatalogPage}

/-! ## Reading a log -/

/-- The position that the latest query named. -/
def asked? : List Entry → Option ChangeIndex
  | [] => none
  | .asked index :: _ => some index
  | .failed :: earlier | .told _ :: earlier | .emitted _ :: earlier => asked? earlier

/-- The latest answer. -/
def told? : List Entry → Option CatalogPage
  | [] => none
  | .told page :: _ => some page
  | .asked _ :: earlier | .failed :: earlier | .emitted _ :: earlier => told? earlier

/-- The page behind the latest snapshot. -/
def shown? : List Entry → Option CatalogPage
  | [] => none
  | .emitted _ :: earlier => told? earlier
  | .asked _ :: earlier | .failed :: earlier | .told _ :: earlier => shown? earlier

/-- The latest answer has an index below the position that its query named. -/
def WentBack : List Entry → Prop
  | [] => False
  | .told page :: earlier => ∃ index, asked? earlier = some index ∧ page.index.value < index.value
  | .asked _ :: earlier | .failed :: earlier | .emitted _ :: earlier => WentBack earlier

/-- The indexes of the pages behind the snapshots since the latest query that did not wait, the
newest first. -/
def climb : List Entry → List Nat
  | [] => []
  | .asked index :: earlier => if index = .none then [] else climb earlier
  | .emitted _ :: earlier => ((told? earlier).map (·.index.value)).toList ++ climb earlier
  | .failed :: earlier | .told _ :: earlier => climb earlier

/-! ## Why a query names its position -/

/-- The reasons for a query from a position on. -/
inductive Ready (index : ChangeIndex) (log : List Entry) : Prop
  /-- The catalog has not answered yet. -/
  | fresh (hindex : index = .none) (htold : told? log = none) (hshown : shown? log = none)
  /-- The latest answer went back. -/
  | restarted (hindex : index = .none) (hback : WentBack log)
  /-- The latest answer has this index, and so has the page behind the latest snapshot. -/
  | current {page shown : CatalogPage} (htold : told? log = some page) (hpage : page.index = index)
      (hshown : shown? log = some shown) (hsame : shown.index = index) (hback : ¬ WentBack log)

/-- A failure changes nothing about the reasons. -/
theorem Ready.retry {other : ChangeIndex} (h : Ready index log) :
    Ready index (.failed :: .asked other :: log) := by
  cases h with
  | fresh hindex htold hshown => exact .fresh hindex htold hshown
  | restarted hindex hback => exact .restarted hindex hback
  | current htold hpage hshown hsame hback => exact .current htold hpage hshown hsame hback

theorem wentBack_told_iff :
    WentBack (.told page :: .asked index :: earlier) ↔ page.index.value < index.value := by
  simp [WentBack, asked?]

/-- A page that becomes a snapshot did not go back. -/
theorem not_wentBack_of_new (hnew : index = .none ∨ index.value < page.index.value) :
    ¬ WentBack (.told page :: .asked index :: earlier) := by
  rw [wentBack_told_iff]
  rcases hnew with rfl | hnew
  · exact Nat.not_lt_zero _
  · omega

/-- Every query has one of the reasons. -/
theorem Course.ready {index : ChangeIndex} {earlier : List Entry} :
    Course (.asked index :: earlier) → Ready index earlier
  | .start => .fresh rfl rfl rfl
  | .retried (.failed h) => h.ready.retry
  | .restarted _ hback => .restarted rfl (wentBack_told_iff.2 hback)
  | .unchanged (.told _ h) hsome hsame => by
    -- The query before named the same position, and only a snapshot can be its reason.
    cases h.ready with
    | fresh hindex | restarted hindex => exact absurd hindex hsome
    | current htold hpage hshown hshownIndex hback =>
      refine .current rfl hsame hshown hshownIndex ?_
      rw [wentBack_told_iff, hsame]
      exact Nat.lt_irrefl _
  | .moved (.emitted _ hnew _) => .current rfl rfl rfl rfl (not_wentBack_of_new hnew)

/-! ## Rising indexes -/

/-- The latest snapshot is the first of the climb, unless the watch restarted since. -/
theorem climb_eq (h : shown? log = some shown) :
    climb log = [] ∨ ∃ rest, climb log = shown.index.value :: rest := by
  induction log with
  | nil => exact Or.inl rfl
  | cons entry earlier ih =>
    cases entry with
    | asked index =>
      by_cases hnone : index = .none
      · exact Or.inl (by simp [climb, hnone])
      · simpa [climb, hnone] using ih h
    | emitted snapshot =>
      have htold : told? earlier = some shown := h
      exact Or.inr ⟨climb earlier, by simp [climb, htold]⟩
    | failed | told page => exact ih h

theorem climb_le (h : shown? log = some shown) (hclimb : (climb log).Pairwise (· > ·)) :
    ∀ value ∈ climb log, value ≤ shown.index.value := by
  rcases climb_eq h with hnil | ⟨rest, hcons⟩
  · simp [hnil]
  · rw [hcons] at hclimb ⊢
    intro value hvalue
    rcases List.mem_cons.1 hvalue with rfl | hrest
    · exact Nat.le_refl _
    · exact Nat.le_of_lt ((List.pairwise_cons.1 hclimb).1 value hrest)

/-- The snapshots since the last restart have risen. -/
theorem Course.pairwise_climb (h : Course log) : (climb log).Pairwise (· > ·) := by
  induction h with
  | start => simp [climb]
  | failed h ih | told page h ih => exact ih
  | restarted h hback ih => simp [climb]
  | @retried index earlier h ih =>
    by_cases hnone : index = .none
    · simp [climb, hnone]
    · simpa [climb, hnone] using ih
  | @unchanged index page earlier h hsome hsame ih => simpa [climb, hsome] using ih
  | @moved page snapshot earlier h ih =>
    by_cases hnone : page.index = .none
    · simp [climb, hnone]
    · simpa [climb, hnone, told?] using ih
  | @emitted index page snapshot earlier h hnew hyields ih =>
    have hclimb : climb (.emitted snapshot :: .told page :: .asked index :: earlier)
        = page.index.value :: climb (.told page :: .asked index :: earlier) := by
      simp [climb, told?]
    rw [hclimb, List.pairwise_cons]
    refine ⟨?_, ih⟩
    by_cases hnone : index = .none
    · simp [climb, hnone]
    · -- The query named the index of the last snapshot, and the answer is above it.
      have habove : index.value < page.index.value := hnew.resolve_left hnone
      have hsame : climb (.told page :: .asked index :: earlier) = climb earlier := by
        simp [climb, hnone]
      rw [hsame] at ih ⊢
      cases h with
      | told _ h =>
        cases h.ready with
        | fresh hindex | restarted hindex => exact absurd hindex hnone
        | current htold hpage hshown hshownIndex hback =>
          intro value hvalue
          have hle := climb_le hshown ih value hvalue
          rw [hshownIndex] at hle
          omega

/-! ## Attention -/

/-- What a snapshot shows: the latest answer, which did not go back. -/
theorem Course.emission {snapshot : Snapshot} (h : Course (.emitted snapshot :: earlier)) :
    ∃ page, told? earlier = some page ∧ page.Yields snapshot ∧ ¬ WentBack earlier := by
  cases h with
  | emitted _ hnew hyields => exact ⟨_, rfl, hyields, not_wentBack_of_new hnew⟩

/-- The answer to a query that did not wait becomes a snapshot at once. -/
theorem Course.caught {entry : Entry} (h : Course (entry :: .told page :: earlier))
    (hasked : asked? earlier = some .none) :
    ∃ snapshot, entry = .emitted snapshot ∧ page.Yields snapshot := by
  cases h with
  | emitted _ _ hyields => exact ⟨_, rfl, hyields⟩
  | restarted _ hback =>
    obtain rfl := Option.some.inj hasked
    exact absurd hback (Nat.not_lt_zero _)
  | unchanged _ hsome _ => exact absurd (Option.some.inj hasked) hsome

/-- What a log says of a watch that loses no change. -/
structure Attentive (log : List Entry) : Prop where
  /-- A query does not wait, or it waits from the index of the latest answer, which is that of the
  page behind the latest snapshot. -/
  query : ∀ index earlier, .asked index :: earlier <:+ log → index = .none ∨
    (∃ page, told? earlier = some page ∧ page.index = index) ∧
      ∃ shown, shown? earlier = some shown ∧ shown.index = index
  /-- The indexes of snapshots rise from one query that does not wait to the next. -/
  rising : ∀ moment, moment <:+ log → (climb moment).Pairwise (· > ·)
  /-- A snapshot shows the latest answer, and that answer did not go back. -/
  emission : ∀ snapshot earlier, .emitted snapshot :: earlier <:+ log →
    ∃ page, told? earlier = some page ∧ page.Yields snapshot ∧ ¬ WentBack earlier
  /-- After an answer that went back no query waits until the catalog has answered again. -/
  restart : ∀ index earlier, .asked index :: earlier <:+ log → WentBack earlier → index = .none
  /-- What follows the answer to a query that did not wait is its snapshot. -/
  caught : ∀ entry page earlier, entry :: .told page :: earlier <:+ log →
    asked? earlier = some .none → ∃ snapshot, entry = .emitted snapshot ∧ page.Yields snapshot
  /-- At a query the latest snapshot has the index of the latest answer, unless that went back. -/
  current : ∀ index earlier, .asked index :: earlier <:+ log → ¬ WentBack earlier →
    (shown? earlier).map (·.index) = (told? earlier).map (·.index)

theorem Course.attentive (h : Course log) : Attentive log where
  query := by
    intro index earlier hsuffix
    cases (h.of_suffix hsuffix (by simp)).ready with
    | fresh hindex | restarted hindex => exact Or.inl hindex
    | current htold hpage hshown hsame =>
      exact Or.inr ⟨⟨_, htold, hpage⟩, _, hshown, hsame⟩
  rising := by
    intro moment hsuffix
    by_cases hnil : moment = []
    · simp [hnil, climb]
    · exact (h.of_suffix hsuffix hnil).pairwise_climb
  emission := fun _ _ hsuffix => (h.of_suffix hsuffix (by simp)).emission
  restart := by
    intro index earlier hsuffix hback
    cases (h.of_suffix hsuffix (by simp)).ready with
    | fresh hindex | restarted hindex => exact hindex
    | current _ _ _ _ hnot => exact absurd hback hnot
  caught := fun _ _ _ hsuffix => (h.of_suffix hsuffix (by simp)).caught
  current := by
    intro index earlier hsuffix hnot
    cases (h.of_suffix hsuffix (by simp)).ready with
    | fresh _ htold hshown => rw [htold, hshown]
    | restarted _ hback => exact absurd hback hnot
    | current htold hpage hshown hsame =>
      rw [htold, hshown, Option.map_some, Option.map_some, hpage, hsame]

/-- Every watch is attentive, whatever the catalog answers and in whatever order. -/
theorem attentive_run (pace : Pace) (inputs : List Input) :
    Attentive (Watch.run pace inputs).log :=
  (Watch.follows_run pace inputs).course.attentive

-- The catalog starts over at a lower index: the watch restarts and shows the page it missed.
example : climb (Watch.run .standard [.listed (.ok ⟨[], ⟨7⟩⟩), .accepted, .listed (.ok ⟨[], ⟨3⟩⟩),
    .listed (.ok ⟨[], ⟨3⟩⟩), .accepted]).log = [3] := by
  decide

end CatalogBridge.Watcher
