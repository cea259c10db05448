import CatalogBridge.Health.Router
import CatalogBridge.Proofs.Reconcile.Ledger

/-!
# Readiness and the counters of cycles

A cycle is counted when it comes to its end: a sync by its result, a resync that
could not list the catalog as a failure. A sync that the end of the run interrupts is
not counted. The loop is ready from its first success on.

* `Score.ready_total_iff` says that the ledger of a loop that is ready has a success.
* `Serves.of_cancelled` says that no event of a cancelled run enters or counts
  anything, and `Ledger.run_of_cancelled` that no further run does.
* `Ledger.frames_run` says that a loop stays ready.
* `readiness_of_run` puts this together for every run, with what the probe of
  readiness answers.
-/

namespace CatalogBridge

theorem Score.ready_total_iff {scope : Scope} {cycles : List Cycle} {skipped : Nat} :
    (total scope cycles skipped).ready = true ↔ 1 ≤ (total scope cycles skipped).succeeded := by
  simp only [total, List.any_eq_true]
  exact List.countP_pos_iff.symm

namespace Loop

variable {loop later : Loop} {requests : List Request}

/-- Nothing is entered or counted once the run is cancelled. -/
theorem Serves.of_cancelled {begun : List Cycle} {answered : Option Exchange}
    {failure : Option Error} (h : loop.Serves later requests begun answered failure)
    (hcancelled : loop.cancelled = true) :
    begun = [] ∧ answered = none ∧ failure = none ∧ later.score = loop.score := by
  cases h with
  | stays _ _ _ hscore | turns _ _ _ _ hscore => exact ⟨rfl, rfl, rfl, hscore⟩
  | skips _ hactive | begins hactive | goes _ hactive =>
    exact absurd (hactive.symm.trans hcancelled) Bool.false_ne_true

end Loop

namespace Ledger

variable {ledger : Ledger}

theorem frames_run (ledger : Ledger) (events : List Loop.Event) :
    ledger.loop.Frames (ledger.run events).loop := by
  induction events generalizing ledger with
  | nil => exact ledger.loop.frames_refl
  | cons event rest ih =>
    exact (ledger.loop.serves_step event).frames.trans (ih (ledger.step event))

/-- The account of a cancelled run is closed. -/
theorem run_of_cancelled (h : ledger.loop.cancelled = true) (events : List Loop.Event) :
    (ledger.run events).cycles = ledger.cycles ∧ (ledger.run events).skipped = ledger.skipped ∧
      (ledger.run events).loop.score = ledger.loop.score := by
  induction events generalizing ledger with
  | nil => exact ⟨rfl, rfl, rfl⟩
  | cons event rest ih =>
    have hserves := ledger.loop.serves_step event
    obtain ⟨hbegun, hanswered, hfailure, hscore⟩ := hserves.of_cancelled h
    have hstill : (ledger.step event).loop.cancelled = true := hserves.frames.cancelled h
    obtain ⟨hcycles, hskipped, hlast⟩ := ih hstill
    refine ⟨hcycles.trans ?_, hskipped.trans ?_, hlast.trans hscore⟩
    · simp only [step, hbegun, hanswered, List.nil_append]
      rfl
    · simp only [step, hfailure]
      rfl

end Ledger

namespace Loop

/-- What the probe of readiness answers for a loop. -/
def readiness (loop : Loop) (build : Health.Build) (readings : Readings) : Nat :=
  (Health.respond ⟨build, loop.ready, readings⟩ "GET" "/readyz").code

theorem readiness_eq (loop : Loop) (build : Health.Build) (readings : Readings) :
    loop.readiness build readings = if loop.ready then 200 else 503 :=
  Health.respond_readyz _

/-- Readiness and the counters of cycles, in every run of the loop.

The counter of successes is the number of syncs that came to their end without an error, and the
counter of failures the number of those that ended with one and of the resyncs that could not list
the catalog. A sync that is not through is under way, or the run is cancelled; from then on no sync
comes to its end and nothing is counted. The loop is ready exactly if a sync has succeeded, and the
probe says so: it answers 200 from the first success on, and 503 before. -/
theorem readiness_of_run (scope : Scope) (interval : Duration) (pace : Pace) (now : Instant)
    (events more : List Event) (build : Health.Build) (readings : Readings) :
    let ledger := (Ledger.start scope interval pace now).run events
    let later := ledger.run more
    ledger.loop.metrics.reconcileSuccess = ledger.cycles.countP (·.succeeded scope) ∧
      ledger.loop.metrics.reconcileError
        = ledger.cycles.countP (·.failed scope) + ledger.skipped.length ∧
      (ledger.loop.ready = true ↔ 1 ≤ ledger.loop.metrics.reconcileSuccess) ∧
      (ledger.loop.cancelled = false →
        ∀ cycle ∈ ledger.loop.past ledger.cycles, ∃ result, cycle.result? scope = some result) ∧
      (ledger.loop.cancelled = true →
        later.cycles = ledger.cycles ∧ later.skipped = ledger.skipped ∧
          later.loop.score = ledger.loop.score) ∧
      ledger.loop.readiness build readings
        = (if ∃ cycle ∈ ledger.cycles, cycle.succeeded scope = true then 200 else 503) ∧
      (ledger.loop.readiness build readings = 200 → later.loop.readiness build readings = 200) := by
  intro ledger later
  have hbooks := Ledger.books_run (Ledger.books_start scope interval pace now) events
  have hscore : ledger.loop.score = .total scope ledger.cycles ledger.skipped.length :=
    hbooks.score
  have hready : ledger.loop.ready = (Score.total scope ledger.cycles ledger.skipped.length).ready :=
    congrArg Score.ready hscore
  have hsuccess : ledger.loop.metrics.reconcileSuccess
      = (Score.total scope ledger.cycles ledger.skipped.length).succeeded :=
    congrArg Score.succeeded hscore
  refine ⟨hsuccess, congrArg Score.failed hscore, ?_, hbooks.through,
    fun hcancelled => Ledger.run_of_cancelled hcancelled more, ?_, ?_⟩
  · rw [hready, hsuccess]
    exact Score.ready_total_iff
  · rw [readiness_eq, hready]
    simp only [Score.total, List.any_eq_true]
  · rw [readiness_eq, readiness_eq]
    intro hanswer
    by_cases hbefore : ledger.loop.ready = true
    · rw [if_pos ((ledger.frames_run more).ready hbefore)]
    · simp [hbefore] at hanswer

end Loop

end CatalogBridge
