import CatalogBridge.Proofs.Backoff
import CatalogBridge.Proofs.Watch.Course

/-!
# The pace of a watch

A watch that cannot list the catalog tries again and again, each time after a longer
sleep, and any answer of the catalog starts this over. The watcher keeps the next
delay in its state and resets it before it looks at the page, so also before it finds
that a page tells nothing new or that the catalog went back.

* `failures` counts the failed listings at the end of a log, and `sleeps` are the
  sleeps among requests.
* `Kept` says that the backoff of a watch stands where the failures of its log put
  it. `Kept.step` says that every step keeps this, and `kept_run` that it holds of
  every watch.
* `Paced` says what each sort of step has to do with the pace, and `paced_run` that
  it holds of every step of every watch.
-/

namespace CatalogBridge

variable {pace : Pace} {watcher : Watcher} {log : List Watcher.Entry}

namespace Watcher

/-! ## Failures and sleeps -/

/-- How many listings failed in a row at the end of a log. -/
def failures : List Entry → Nat
  | [] => 0
  | .failed :: earlier => failures earlier + 1
  | .told _ :: _ => 0
  | .asked _ :: earlier | .emitted _ :: earlier => failures earlier

/-- The sleeps among requests. -/
def sleeps (requests : List Request) : List Duration :=
  requests.filterMap fun
    | .sleep delay => some delay
    | _ => none

/-- A query changes nothing about the failures before it. -/
theorem failures_asks (requests : List Request) (log : List Entry) :
    failures (asks requests ++ log) = failures log := by
  unfold asks
  induction requests.reverse with
  | nil => rfl
  | cons request rest ih => cases request <;> exact ih

theorem sleeps_proceed (watcher : Watcher) (fetch : Fetch) (queries : List InstanceQuery)
    (effects : List Effect) : sleeps (watcher.proceed fetch queries effects).requests = [] := by
  unfold proceed
  cases fetch.snapshot? with
  | some snapshot => rfl
  | none =>
    refine List.filterMap_eq_nil_iff.2 ?_
    intro request hrequest
    obtain ⟨query, _, rfl⟩ := List.mem_map.1 hrequest
    rfl

theorem sleeps_onPage (watcher : Watcher) (page : CatalogPage) :
    sleeps (watcher.onPage page).requests = [] := by
  simp only [onPage]
  split_ifs
  · rfl
  · rfl
  · exact sleeps_proceed _ _ _ _

@[simp] theorem backoff_proceed (watcher : Watcher) (fetch : Fetch) (queries : List InstanceQuery)
    (effects : List Effect) :
    (watcher.proceed fetch queries effects).watcher.backoff = watcher.backoff := by
  unfold proceed
  cases fetch.snapshot? <;> rfl

/-- Every page resets the backoff, whatever becomes of it. -/
theorem backoff_onPage (watcher : Watcher) (page : CatalogPage) :
    (watcher.onPage page).watcher.backoff = watcher.backoff.reset := by
  simp only [onPage]
  split_ifs
  · rfl
  · rfl
  · exact backoff_proceed _ _ _ _

/-- A page is not counted. -/
theorem measurements_onPage (watcher : Watcher) (page : CatalogPage) :
    Effect.measurements (watcher.onPage page).effects = [] := by
  simp only [onPage]
  split_ifs
  · rfl
  · rfl
  · unfold proceed
    cases (Fetch.start page.names).1.snapshot? <;> rfl

/-! ## The backoff behind a log -/

/-- The backoff stands where the failures of the log put it. -/
def Kept (pace : Pace) (watcher : Watcher) (log : List Entry) : Prop :=
  watcher.backoff = ⟨pace, pace.nth (failures log)⟩

/-- What changes neither the backoff nor the failures keeps their relation. -/
theorem Kept.of_same {later : Watcher} {entries : List Entry} (h : watcher.Kept pace log)
    (hbackoff : later.backoff = watcher.backoff)
    (hfailures : failures (entries ++ log) = failures log) :
    later.Kept pace (entries ++ log) := by
  rw [Kept, hbackoff, hfailures]
  exact h

/-- Every step keeps the backoff with the log. -/
theorem Kept.step (hlongest : pace.longest.Expressible) (h : watcher.Kept pace log)
    (input : Input) : (watcher.step input).watcher.Kept pace (watcher.entries input ++ log) := by
  have hacts := watcher.acts_step input
  unfold entries
  generalize watcher.step input = reaction at hacts ⊢
  generalize watcher.noted input = noted at hacts ⊢
  have hbackoff : watcher.backoff = ⟨pace, pace.nth (failures log)⟩ := h
  cases hacts with
  | idle | stopped => exact h
  | failed error hphase =>
    show watcher.backoff.next.2 = ⟨pace, pace.nth (failures log + 1)⟩
    rw [hbackoff, ← Pace.grow_nth hlongest]
    rfl
  | told page hphase =>
    have hfailures : failures (asks (watcher.onPage page).requests ++ [.told page] ++ log) = 0 := by
      rw [List.append_assoc, failures_asks]
      rfl
    rw [Kept, hfailures, backoff_onPage, hbackoff, Pace.nth_zero]
    rfl
  | woke hphase => exact h.of_same rfl rfl
  | fetched position result hphase =>
    refine h.of_same (backoff_proceed _ _ _ _) ?_
    rw [List.append_nil, failures_asks]
  | emitted hphase => exact h.of_same rfl rfl

end Watcher

namespace Watch

/-- The backoff of every watch stands where the failures of its log put it. -/
theorem kept_run (hlongest : pace.longest.Expressible)
    (inputs : List Watcher.Input) :
    (run pace inputs).watcher.Kept pace (run pace inputs).log := by
  have hfold : ∀ watch : Watch, watch.watcher.Kept pace watch.log →
      (inputs.foldl step watch).watcher.Kept pace (inputs.foldl step watch).log := by
    induction inputs with
    | nil => exact fun _ h => h
    | cons input rest ih => exact fun _ h => ih _ (h.step hlongest input)
  exact hfold (start pace) rfl

end Watch

namespace Watcher

/-! ## Sorts of steps -/

variable {reaction : Reaction} {noted : List Entry}

theorem Acts.eq_onFailure (h : watcher.Acts reaction noted) (hfailed : .failed ∈ noted) :
    ∃ error, reaction = watcher.onFailure error ∧ noted = [.failed] := by
  cases h with
  | failed error hphase => exact ⟨error, rfl, rfl⟩
  | idle | stopped | told | woke | fetched | emitted => simp at hfailed

theorem Acts.eq_onPage {page : CatalogPage} (h : watcher.Acts reaction noted)
    (htold : .told page ∈ noted) : reaction = watcher.onPage page ∧ noted = [.told page] := by
  cases h with
  | told other hphase =>
    obtain rfl : page = other := by simpa using htold
    exact ⟨rfl, rfl⟩
  | idle | stopped | failed | woke | fetched | emitted => simp at htold

/-- A step that answers no listing neither sleeps nor changes the number of failures. -/
theorem Acts.no_sleep (h : watcher.Acts reaction noted) (hfailed : .failed ∉ noted)
    (htold : ∀ page, .told page ∉ noted) :
    sleeps reaction.requests = [] ∧ failures (noted ++ log) = failures log := by
  cases h with
  | idle | stopped | woke | emitted => exact ⟨rfl, rfl⟩
  | fetched position result hphase => exact ⟨sleeps_proceed _ _ _ _, rfl⟩
  | failed error hphase => exact absurd List.mem_cons_self hfailed
  | told page hphase => exact absurd List.mem_cons_self (htold page)

theorem noted_fetched (watcher : Watcher) (position : Nat)
    (result : Except Error (List Instance)) : watcher.noted (.fetched position result) = [] := by
  unfold noted
  cases watcher.phase <;> rfl

/-- Only waking leads a sleeping watcher on. -/
theorem eq_woke_of_waiting {input : Input} (hphase : watcher.phase = .waiting)
    (hrequests : (watcher.step input).requests ≠ []) : input = .woke := by
  unfold step at hrequests
  rw [hphase] at hrequests
  cases input with
  | woke => rfl
  | listed answer => cases answer <;> exact absurd rfl hrequests
  | fetched position answer | accepted | refused | cancelled | died => exact absurd rfl hrequests

/-! ## Pacing -/

/-- What a step of a watch has to do with its pace. -/
structure Paced (pace : Pace) (watch : Watch) (input : Input) : Prop where
  /-- After a listing that failed the watch sleeps once, for the delay after as many failures as
  came right before, and the failure is counted. -/
  failed : .failed ∈ watch.watcher.noted input →
    sleeps (watch.watcher.step input).requests = [pace.nth (failures watch.log)] ∧
      (watch.watcher.step input).watcher.phase = .waiting ∧
      failures (watch.step input).log = failures watch.log + 1 ∧
      ∀ metrics : Metrics,
        metrics.recordAll (Effect.measurements (watch.watcher.step input).effects)
          = { metrics with registryErrors := metrics.registryErrors + 1 }
  /-- After any other listing it does not sleep, nothing is counted, and the failures start over. -/
  answered : ∀ page, .told page ∈ watch.watcher.noted input →
    sleeps (watch.watcher.step input).requests = [] ∧ failures (watch.step input).log = 0 ∧
      ∀ metrics : Metrics,
        metrics.recordAll (Effect.measurements (watch.watcher.step input).effects) = metrics
  /-- No other step sleeps or changes the number of failures. -/
  other : .failed ∉ watch.watcher.noted input → (∀ page, .told page ∉ watch.watcher.noted input) →
    sleeps (watch.watcher.step input).requests = [] ∧
      failures (watch.step input).log = failures watch.log
  /-- The answers to instance queries, failures among them, are no listings. -/
  fetched : ∀ position result, input = .fetched position result → watch.watcher.noted input = []
  /-- A sleeping watch asks for nothing until it wakes. -/
  asleep : watch.watcher.phase = .waiting → (watch.watcher.step input).requests ≠ [] → input = .woke

theorem failures_step (watch : Watch) (input : Input) :
    failures (watch.step input).log = failures (watch.watcher.noted input ++ watch.log) := by
  show failures (watch.watcher.entries input ++ watch.log) = _
  rw [entries, List.append_assoc, failures_asks]

/-- A backoff that stands right paces the next step. -/
theorem Kept.paced {watch : Watch} (h : watch.watcher.Kept pace watch.log) (input : Input) :
    Paced pace watch input := by
  have hbackoff : watch.watcher.backoff = ⟨pace, pace.nth (failures watch.log)⟩ := h
  have hacts := watch.watcher.acts_step input
  refine ⟨?_, ?_, ?_, ?_, eq_woke_of_waiting⟩
  · intro hfailed
    obtain ⟨error, hreaction, hnoted⟩ := hacts.eq_onFailure hfailed
    have hsleeps : sleeps (watch.watcher.onFailure error).requests
        = [watch.watcher.backoff.current] := rfl
    rw [failures_step, hreaction, hnoted, hsleeps, hbackoff]
    exact ⟨rfl, rfl, rfl, fun _ => rfl⟩
  · intro page htold
    obtain ⟨hreaction, hnoted⟩ := hacts.eq_onPage htold
    rw [failures_step, hreaction, hnoted, sleeps_onPage, measurements_onPage]
    exact ⟨rfl, rfl, fun _ => rfl⟩
  · intro hfailed htold
    rw [failures_step]
    exact hacts.no_sleep hfailed htold
  · intro position result hinput
    rw [hinput, noted_fetched]

/-- Every step of every watch keeps the pace, whatever the catalog answers and in whatever order. -/
theorem paced_run (pace : Pace) (hlongest : pace.longest.Expressible) (inputs : List Input)
    (input : Input) : Paced pace (Watch.run pace inputs) input :=
  (Watch.kept_run hlongest inputs).paced input

/-- A page that tells nothing new starts the failures over: of the three failures of this watch the
last is the second in a row. -/
theorem paced_run_unchanged :
    let failure := Input.listed (.error (.registry "refused" none))
    let watch := Watch.run .standard [.listed (.ok ⟨[], ⟨7⟩⟩), .accepted, failure, .woke,
      .listed (.ok ⟨[], ⟨7⟩⟩), failure, .woke]
    Pace.standard.longest.Expressible ∧ Paced .standard watch failure ∧
      sleeps (watch.watcher.step failure).requests = [.ofSeconds 2] := by
  refine ⟨by decide, paced_run .standard (by decide) _ _, ?_⟩
  have hpaced := paced_run .standard (by decide) [.listed (.ok ⟨[], ⟨7⟩⟩), .accepted,
    .listed (.error (.registry "refused" none)), .woke, .listed (.ok ⟨[], ⟨7⟩⟩),
    .listed (.error (.registry "refused" none)), .woke]
    (.listed (.error (.registry "refused" none)))
  exact (hpaced.failed List.mem_cons_self).1.trans (by decide)

end Watcher

end CatalogBridge
