import CatalogBridge.Proofs.Watch.Pacing

/-!
# When the greatest delay bounds every delay

The greatest delay of a pace cuts every delay that is grown from another one. The initial delay
is not grown: it is the next delay at the start and after every success, and nothing cuts it.

* `Pace.Bounds` says that a delay is not above the greatest one of its pace, and `bounds_nth_iff`
  that only the first delay in a row can be.
* `Backoff.bounds_next_iff` says after which steps the next delay is bounded, and
  `bounds_delays_iff` when all delays of a sequence of steps are.
* `Watcher.bounds_sleeps_iff` says after which inputs the next sleep of a watch is bounded, and
  `Watch.bounded_iff` when all sleeps of a watch are.
* `bounds_iff_of_pace` puts these together. `not_bounds_of_high_initial` is a pace whose initial
  delay is above its greatest one.
-/

namespace CatalogBridge

/-- The delay is at most the greatest one of the pace. -/
def Pace.Bounds (pace : Pace) (delay : Duration) : Prop := delay.nanos ≤ pace.longest.nanos

instance (pace : Pace) (delay : Duration) : Decidable (pace.Bounds delay) :=
  inferInstanceAs (Decidable (delay.nanos ≤ pace.longest.nanos))

variable {pace : Pace}

/-- All delays are bounded but the first one in a row, which is the initial delay. -/
theorem Pace.bounds_nth_iff {count : Nat} :
    pace.Bounds (pace.nth count) ↔ count ≠ 0 ∨ pace.Bounds pace.initial := by
  rcases Nat.eq_zero_or_pos count with rfl | hpos
  · rw [nth_zero]
    exact ⟨Or.inr, fun h => h.resolve_left (absurd rfl)⟩
  · have hne : count ≠ 0 := Nat.pos_iff_ne_zero.1 hpos
    refine iff_of_true ?_ (.inl hne)
    rw [nth, if_neg hne, Bounds, Duration.min_nanos]
    exact Nat.min_le_right _ _

namespace Backoff

/-- After any steps the next delay is bounded unless it is the first one in a row. -/
theorem bounds_next_iff (hlongest : pace.longest.Expressible) (steps : List Step) :
    pace.Bounds (after (start pace) steps).next.1
      ↔ streak steps ≠ 0 ∨ pace.Bounds pace.initial := by
  rw [after_eq hlongest]
  exact Pace.bounds_nth_iff

/-- Without a delay there is no streak. -/
theorem streak_eq_zero {steps : List Step} (h : .next ∉ steps) : streak steps = 0 := by
  rw [streak, List.length_eq_zero_iff, List.rtakeWhile_eq_nil_iff]
  intro hne hlast
  rw [decide_eq_true_eq] at hlast
  exact h (hlast ▸ List.getLast_mem hne)

/-- The delays of any steps are all bounded exactly if there are none or the initial delay is
bounded. -/
theorem bounds_delays_iff (hlongest : pace.longest.Expressible) (steps : List Step) :
    (∀ delay, some delay ∈ (start pace).delays steps → pace.Bounds delay)
      ↔ .next ∉ steps ∨ pace.Bounds pace.initial := by
  induction steps using List.reverseRecOn with
  | nil => simp [delays]
  | append_singleton steps step ih =>
    cases step with
    | reset => simpa [delays_append, delays] using ih
    | next =>
      have hlast : (after (start pace) steps).delays [.next]
          = [some (after (start pace) steps).next.1] := rfl
      rw [delays_append, hlast]
      constructor
      · intro hall
        -- The first delay of all is the initial one, whether it is this one or an earlier one.
        have hbefore := ih.1 fun delay hdelay => hall delay (List.mem_append_left _ hdelay)
        have hthis := (bounds_next_iff hlongest steps).1
          (hall _ (List.mem_append_right _ List.mem_cons_self))
        rcases hbefore with hnone | hinitial
        · exact .inr (hthis.resolve_left (absurd (streak_eq_zero hnone)))
        · exact .inr hinitial
      · intro hbounded delay hdelay
        have hinitial := hbounded.resolve_left fun hnone => hnone (by simp)
        rcases List.mem_append.1 hdelay with hbefore | hthis
        · exact ih.2 (.inr hinitial) delay hbefore
        · obtain rfl := Option.some.inj (List.mem_singleton.1 hthis)
          exact (bounds_next_iff hlongest steps).2 (.inr hinitial)

end Backoff

/-! ## Sleeps of a watch -/

namespace Watcher

variable {log : List Entry}

/-- A watch sleeps only after a listing that failed, for the delay of its failures in a row. -/
theorem Paced.of_mem_sleeps {watch : Watch} {input : Input} (h : Paced pace watch input)
    {delay : Duration} (hdelay : delay ∈ sleeps (watch.watcher.step input).requests) :
    .failed ∈ watch.watcher.noted input ∧ delay = pace.nth (failures watch.log) := by
  have hfailed : .failed ∈ watch.watcher.noted input := by
    by_contra hfailed
    by_cases htold : ∃ page, .told page ∈ watch.watcher.noted input
    · obtain ⟨page, hpage⟩ := htold
      rw [(h.answered page hpage).1] at hdelay
      cases hdelay
    · rw [(h.other hfailed (not_exists.1 htold)).1] at hdelay
      cases hdelay
  rw [(h.failed hfailed).1] at hdelay
  exact ⟨hfailed, List.mem_singleton.1 hdelay⟩

/-- After any inputs the next sleep is bounded unless it is the first one in a row. -/
theorem bounds_sleeps_iff (hlongest : pace.longest.Expressible) (inputs : List Input)
    (input : Input) {delay : Duration}
    (hdelay : delay ∈ sleeps ((Watch.run pace inputs).watcher.step input).requests) :
    pace.Bounds delay ↔ failures (Watch.run pace inputs).log ≠ 0 ∨ pace.Bounds pace.initial := by
  obtain ⟨_, rfl⟩ := ((Watch.kept_run hlongest inputs).paced input).of_mem_sleeps hdelay
  exact Pace.bounds_nth_iff

/-- Before a listing fails there are no failures. -/
theorem failures_eq_zero (h : .failed ∉ log) : failures log = 0 := by
  induction log with
  | nil => rfl
  | cons entry earlier ih =>
    rw [List.mem_cons, not_or] at h
    obtain ⟨hentry, hearlier⟩ := h
    cases entry with
    | failed => exact absurd rfl hentry
    | told page => rfl
    | asked index | emitted snapshot => exact ih hearlier

theorem failed_notMem_asks (requests : List Request) : .failed ∉ asks requests := by
  intro hfailed
  obtain ⟨request, _, hrequest⟩ := List.mem_filterMap.1 hfailed
  cases request <;> cases hrequest

theorem failed_mem_entries_iff {watcher : Watcher} {input : Input} :
    .failed ∈ watcher.entries input ↔ .failed ∈ watcher.noted input := by
  rw [entries, List.mem_append, or_iff_right (failed_notMem_asks _)]

end Watcher

namespace Watch

open Watcher

/-- Along its inputs a watch never sleeps longer than the greatest delay of its pace. -/
def Bounded (pace : Pace) (inputs : List Input) : Prop :=
  ∀ front input back, inputs = front ++ input :: back →
    ∀ delay ∈ sleeps ((run pace front).watcher.step input).requests, pace.Bounds delay

theorem run_concat (pace : Pace) (inputs : List Input) (input : Input) :
    run pace (inputs ++ [input]) = (run pace inputs).step input :=
  List.foldl_concat ..

theorem bounded_nil (pace : Pace) : Bounded pace [] := by
  intro front input back hsplit
  cases front <;> cases hsplit

theorem bounded_concat_iff {inputs : List Input} {input : Input} :
    Bounded pace (inputs ++ [input]) ↔ Bounded pace inputs ∧
      ∀ delay ∈ sleeps ((run pace inputs).watcher.step input).requests, pace.Bounds delay := by
  constructor
  · intro hbounded
    constructor
    · intro front other back hsplit
      exact hbounded front other (back ++ [input]) (by rw [hsplit, List.append_assoc]; rfl)
    · exact hbounded inputs input [] rfl
  · intro hboth front other back hsplit
    obtain ⟨hbefore, hlast⟩ := hboth
    rcases List.eq_nil_or_concat' back with rfl | ⟨between, last, rfl⟩
    · obtain ⟨rfl, hsame⟩ := List.append_inj' hsplit rfl
      obtain rfl := List.singleton_inj.1 hsame
      exact hlast
    · rw [← List.cons_append, ← List.append_assoc] at hsplit
      exact hbefore front other between (List.append_inj' hsplit rfl).1

/-- A listing failed along the inputs, or with the last of them. -/
theorem failed_mem_run_concat_iff {inputs : List Input} {input : Input} :
    .failed ∈ (run pace (inputs ++ [input])).log
      ↔ .failed ∈ (run pace inputs).watcher.noted input ∨ .failed ∈ (run pace inputs).log := by
  rw [run_concat, step, List.mem_append, failed_mem_entries_iff]

/-- All sleeps of a watch are bounded exactly if no listing failed or the initial delay is
bounded. -/
theorem bounded_iff (hlongest : pace.longest.Expressible) (inputs : List Input) :
    Bounded pace inputs ↔ .failed ∉ (run pace inputs).log ∨ pace.Bounds pace.initial := by
  induction inputs using List.reverseRecOn with
  | nil => exact iff_of_true (bounded_nil pace) (.inl (failed_notMem_asks _))
  | append_singleton inputs input ih =>
    have hpaced := (kept_run hlongest inputs).paced input
    rw [bounded_concat_iff, failed_mem_run_concat_iff, ih]
    constructor
    · intro hboth
      obtain ⟨hbefore, hlast⟩ := hboth
      by_cases hinitial : pace.Bounds pace.initial
      · exact .inr hinitial
      · -- A failure now would be the first one, and the sleep after it the initial delay.
        have hnone := hbefore.resolve_right hinitial
        refine .inl (not_or.2 ⟨?_, hnone⟩)
        intro hfailed
        have hsleep := hlast (pace.nth (failures (run pace inputs).log)) (by
          rw [(hpaced.failed hfailed).1]
          exact List.mem_cons_self)
        rw [failures_eq_zero hnone, Pace.nth_zero] at hsleep
        exact hinitial hsleep
    · intro hbounded
      rcases hbounded with hnone | hinitial
      · obtain ⟨hnow, hbefore⟩ := not_or.1 hnone
        exact ⟨.inl hbefore, fun delay hdelay => absurd (hpaced.of_mem_sleeps hdelay).1 hnow⟩
      · exact ⟨.inr hinitial, fun delay hdelay =>
          (bounds_sleeps_iff hlongest inputs input hdelay).2 (.inr hinitial)⟩

end Watch

/-- The greatest delay of a pace bounds every delay but the initial one, which is the next delay
at the start and after every success. So it bounds all delays of a sequence of steps, and all
sleeps of a watch, exactly if there are none or the initial delay is not above it. -/
theorem bounds_iff_of_pace (pace : Pace) (hlongest : pace.longest.Expressible) :
    (∀ steps : List Backoff.Step,
      (pace.Bounds (Backoff.after (.start pace) steps).next.1
        ↔ Backoff.streak steps ≠ 0 ∨ pace.Bounds pace.initial) ∧
      ((∀ delay, some delay ∈ (Backoff.start pace).delays steps → pace.Bounds delay)
        ↔ .next ∉ steps ∨ pace.Bounds pace.initial)) ∧
    ∀ inputs : List Watcher.Input,
      (∀ input, ∀ delay ∈ Watcher.sleeps ((Watch.run pace inputs).watcher.step input).requests,
        (pace.Bounds delay ↔ Watcher.failures (Watch.run pace inputs).log ≠ 0
          ∨ pace.Bounds pace.initial)) ∧
      (Watch.Bounded pace inputs
        ↔ .failed ∉ (Watch.run pace inputs).log ∨ pace.Bounds pace.initial) := by
  constructor
  · intro steps
    exact ⟨Backoff.bounds_next_iff hlongest steps, Backoff.bounds_delays_iff hlongest steps⟩
  · intro inputs
    exact ⟨fun input _ hdelay => Watcher.bounds_sleeps_iff hlongest inputs input hdelay,
      Watch.bounded_iff hlongest inputs⟩

/-- The pace that is used by default bounds every sleep, here those after four failures in a row. -/
theorem bounds_iff_of_pace_standard :
    let failure := Watcher.Input.listed (.error (.registry "refused" none))
    Pace.standard.longest.Expressible ∧ Pace.standard.Bounds Pace.standard.initial ∧
      Watch.Bounded .standard [failure, .woke, failure, .woke, failure, .woke, failure] := by
  intro failure
  obtain ⟨_, hwatch⟩ := bounds_iff_of_pace .standard (by decide)
  exact ⟨by decide, by decide, (hwatch _).2.2 (.inr (by decide))⟩

/-- The initial delay of this pace is above its greatest one: the first delay is too long, the
second is not, and a watch sleeps too long after the first listing that fails. -/
theorem not_bounds_of_high_initial :
    let pace : Pace := ⟨.ofSeconds 9, .ofSeconds 5, 2⟩
    let failure := Watcher.Input.listed (.error (.registry "refused" none))
    pace.longest.Expressible ∧ pace.initial.Expressible ∧
      (Backoff.start pace).delays [.next, .next] = [some (.ofSeconds 9), some (.ofSeconds 5)] ∧
      ¬ pace.Bounds (.ofSeconds 9) ∧ ¬ Watch.Bounded pace [failure] := by
  intro pace failure
  refine ⟨by decide, by decide, by decide, by decide, ?_⟩
  intro hbounded
  have hsleep : .ofSeconds 9 ∈ Watcher.sleeps ((Watch.run pace []).watcher.step failure).requests :=
    List.mem_cons_self
  exact absurd (hbounded [] failure [] rfl _ hsleep) (by decide)

end CatalogBridge
