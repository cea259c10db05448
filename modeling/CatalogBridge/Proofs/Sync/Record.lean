import CatalogBridge.Proofs.Sync.Conversation
import CatalogBridge.Sync.Cycle
import Mathlib.Data.List.Basic

/-!
# What a cycle keeps of its exchanges

A cycle counts what succeeded, keeps the failures that it reports, and adds one
to a counter for every failure. All three are functions of the exchanges:

* `complaints` are the failures that a cycle reports, each with the object that
  it concerns. Failures to list slices and to delete slices and routes are not
  among them (`ClusterCall.isReported`).
* `tally` counts what succeeded.
* `strikes` are the changes of the counter of failures.

`Recorded` says that a piece of a cycle kept exactly this of its exchanges, and
`Recorded.append` puts pieces together.
-/

namespace CatalogBridge

namespace ClusterCall

/-- The failure of a request as a cycle reports it: with the object that it concerns. -/
def blame : ClusterCall → Error → Error
  | .applyService service, error => .apply .service (service.metadata.name.getD "") error
  | .applySlice slice, error => .apply .endpointSlice (slice.metadata.name.getD "") error
  | .applyRoute route, error => .apply .httpRoute route.metadata.name error
  | .delete kind name, error => .delete kind name error
  | _, error => error

/-- Whether a cycle reports the failure of a request. -/
def isReported : ClusterCall → Bool
  | .listSlices | .delete .endpointSlice _ | .delete .httpRoute _ => false
  | _ => true

end ClusterCall

namespace Exchange

/-- The failure of a request, with the object that it concerns. -/
def failure? (exchange : Exchange) : Option Error :=
  match exchange.answer with
  | .ok _ => none
  | .error error => some (exchange.call.blame error)

/-- The failure of a request if a cycle reports it. -/
def complaint? (exchange : Exchange) : Option Error :=
  if exchange.call.isReported then exchange.failure? else none

/-- What a successful request adds to the summary of a cycle. -/
def tally : Exchange → Summary
  | ⟨.applySlice slice, .ok _⟩ => ⟨1, slice.addresses.length, 0, 0⟩
  | ⟨.applyRoute _, .ok _⟩ => ⟨0, 0, 1, 0⟩
  | ⟨.delete .service _, .ok _⟩ | ⟨.delete .httpRoute _, .ok _⟩ => ⟨0, 0, 0, 1⟩
  | _ => ⟨0, 0, 0, 0⟩

/-- The change of the counter of failures. -/
def strike? (exchange : Exchange) : Option Measurement :=
  match exchange.answer with
  | .ok _ => none
  | .error _ => some .orchestratorError

end Exchange

namespace Sync

/-- The failures that a cycle reports. -/
def complaints (exchanges : List Exchange) : List Error := exchanges.filterMap Exchange.complaint?

/-- The changes of the counter of failures. -/
def strikes (exchanges : List Exchange) : List Measurement := exchanges.filterMap Exchange.strike?

/-- A count added up over exchanges. -/
def total (count : Exchange → Nat) : List Exchange → Nat
  | [] => 0
  | exchange :: rest => count exchange + total count rest

/-- What the successful requests add up to. -/
def tally (exchanges : List Exchange) : Summary :=
  ⟨total (·.tally.services) exchanges, total (·.tally.endpoints) exchanges,
    total (·.tally.routes) exchanges, total (·.tally.deleted) exchanges⟩

@[simp] theorem complaints_append (front back : List Exchange) :
    complaints (front ++ back) = complaints front ++ complaints back :=
  List.filterMap_append

@[simp] theorem strikes_append (front back : List Exchange) :
    strikes (front ++ back) = strikes front ++ strikes back :=
  List.filterMap_append

@[simp] theorem total_nil (count : Exchange → Nat) : total count [] = 0 := rfl

@[simp] theorem total_cons (count : Exchange → Nat) (exchange : Exchange)
    (rest : List Exchange) : total count (exchange :: rest) = count exchange + total count rest :=
  rfl

theorem total_append (count : Exchange → Nat) (front back : List Exchange) :
    total count (front ++ back) = total count front + total count back := by
  induction front with
  | nil => simp
  | cons exchange rest ih => rw [List.cons_append, total_cons, total_cons, ih, Nat.add_assoc]

theorem total_eq_zero {count : Exchange → Nat} {exchanges : List Exchange}
    (h : ∀ exchange ∈ exchanges, count exchange = 0) : total count exchanges = 0 := by
  induction exchanges with
  | nil => rfl
  | cons exchange rest ih =>
    rw [total_cons, h exchange List.mem_cons_self,
      ih fun other hother => h other (List.mem_cons_of_mem _ hother)]

theorem tally_append (front back : List Exchange) :
    tally (front ++ back) = ⟨(tally front).services + (tally back).services,
      (tally front).endpoints + (tally back).endpoints, (tally front).routes + (tally back).routes,
      (tally front).deleted + (tally back).deleted⟩ := by
  simp only [tally, total_append]

/-- Nothing is reported of requests that did not fail. -/
theorem complaints_eq_nil {exchanges : List Exchange}
    (h : ∀ exchange ∈ exchanges, ¬ exchange.Failed) : complaints exchanges = [] := by
  refine List.filterMap_eq_nil_iff.2 ?_
  intro exchange hexchange
  have hok := h exchange hexchange
  obtain ⟨call, answer⟩ := exchange
  cases answer with
  | ok value => simp [Exchange.complaint?, Exchange.failure?]
  | error error => exact absurd (Exchange.failed_error call error) hok

/-- Requests that did not fail change the counter of failures not at all. -/
theorem strikes_eq_nil {exchanges : List Exchange}
    (h : ∀ exchange ∈ exchanges, ¬ exchange.Failed) : strikes exchanges = [] := by
  refine List.filterMap_eq_nil_iff.2 ?_
  intro exchange hexchange
  have hok := h exchange hexchange
  obtain ⟨call, answer⟩ := exchange
  cases answer with
  | ok value => rfl
  | error error => exact absurd (Exchange.failed_error call error) hok

/-- Failures that are reported are all complaints. -/
theorem complaints_of_isReported {exchanges : List Exchange}
    (h : ∀ exchange ∈ exchanges, exchange.call.isReported = true) :
    complaints exchanges = exchanges.filterMap Exchange.failure? := by
  refine List.filterMap_congr ?_
  intro exchange hexchange
  rw [Exchange.complaint?, if_pos (h exchange hexchange)]

/-- Failures that are not reported are no complaints. -/
theorem complaints_of_not_isReported {exchanges : List Exchange}
    (h : ∀ exchange ∈ exchanges, exchange.call.isReported = false) :
    complaints exchanges = [] := by
  refine List.filterMap_eq_nil_iff.2 ?_
  intro exchange hexchange
  rw [Exchange.complaint?, h exchange hexchange]
  rfl

/-- The progress after some exchanges. -/
def Progress.record (progress : Progress) (exchanges : List Exchange) : Progress :=
  { progress with
    services := progress.services + (tally exchanges).services
    endpoints := progress.endpoints + (tally exchanges).endpoints
    routes := progress.routes + (tally exchanges).routes
    errors := progress.errors ++ complaints exchanges }

@[simp] theorem Progress.record_nil (progress : Progress) : progress.record [] = progress := by
  simp [Progress.record, tally, complaints]

theorem Progress.record_append (progress : Progress) (front back : List Exchange) :
    progress.record (front ++ back) = (progress.record front).record back := by
  simp [Progress.record, tally_append, Nat.add_assoc]

/-- A piece of a cycle kept of its exchanges what there is to keep. -/
structure Recorded (progress : Progress) (exchanges : List Exchange) (effects : List Effect)
    (later : Progress) : Prop where
  progress : later = progress.record exchanges
  measurements : Effect.measurements effects = strikes exchanges

theorem recorded_nil (progress : Progress) {effects : List Effect}
    (h : Effect.measurements effects = []) : Recorded progress [] effects progress :=
  ⟨progress.record_nil.symm, h⟩

theorem Recorded.append {progress middle last : Progress} {front back : List Exchange}
    {told later : List Effect} (hfront : Recorded progress front told middle)
    (hback : Recorded middle back later last) :
    Recorded progress (front ++ back) (told ++ later) last := by
  constructor
  · rw [Progress.record_append, ← hfront.progress, hback.progress]
  · rw [Effect.measurements_append, strikes_append, hfront.measurements, hback.measurements]

end Sync

end CatalogBridge
