import CatalogBridge.Proofs.Cluster.Object
import CatalogBridge.Proofs.Error
import CatalogBridge.Proofs.Sync.Store

/-!
# What the report of a cycle names

A cycle reports all its failures as one, and its text is the one line that is told of them.

* `complaint?_eq_some` and `mem_complaints` say that a failed request that is reported is
  among the complaints of a cycle, blamed on the object that it concerns.
* `Sync.Names` says that a text names every object that could not be applied and every
  service that could not be deleted, and `names_of_complaints` that the joined complaints do.
* `told_of_failed` puts this after what joining does to any failures, nested or not.
-/

namespace CatalogBridge

/-- The failure to apply an object is blamed on the object. -/
theorem ClusterCall.blame_apply (object : Object) (cause : Error) :
    object.apply.blame cause = .apply object.kind object.name cause := by
  cases object <;> rfl

/-- Failures to apply an object are reported. -/
theorem ClusterCall.isReported_apply (object : Object) : object.apply.isReported = true := by
  cases object <;> rfl

/-- A failure that is reported is the cause with the blame on the object of the request. -/
theorem Exchange.complaint?_eq_some {exchange : Exchange} {cause : Error}
    (hreported : exchange.call.isReported = true) (hfailed : exchange.answer = .error cause) :
    exchange.complaint? = some (exchange.call.blame cause) := by
  rw [complaint?, if_pos hreported, failure?, hfailed]

namespace Error

/-- Several failures are joined to one unless there are none. -/
theorem join_of_ne_nil {errors : List Error} (h : errors ≠ []) :
    join errors = some (.sync errors) := by
  rw [join, if_neg (mt List.isEmpty_iff.1 h)]

/-- What is joined is some failures, kept as they are. -/
theorem eq_sync_of_join {errors : List Error} {joined : Error} (h : join errors = some joined) :
    joined = .sync errors := by
  have hne : errors ≠ [] := by
    intro hnone
    rw [join_eq_none_iff.2 hnone] at h
    cases h
  rw [join_of_ne_nil hne] at h
  exact (Option.some.inj h).symm

end Error

namespace Sync

variable {exchanges : List Exchange}

theorem mem_complaints {exchange : Exchange} {cause : Error} (hexchange : exchange ∈ exchanges)
    (hreported : exchange.call.isReported = true) (hfailed : exchange.answer = .error cause) :
    exchange.call.blame cause ∈ complaints exchanges :=
  List.mem_filterMap.2 ⟨exchange, hexchange, exchange.complaint?_eq_some hreported hfailed⟩

/-- The text names what failed, with the text of the cause. -/
structure Names (exchanges : List Exchange) (text : String) : Prop where
  /-- Every object that could not be applied. -/
  applied : ∀ exchange ∈ exchanges, ∀ cause, exchange.answer = .error cause →
    ∀ object : Object, exchange.call = object.apply →
      Mentions text ("applying " ++ object.kind.name ++ " " ++ object.name ++ ": "
        ++ cause.message)
  /-- Every service that could not be deleted. -/
  deleted : ∀ exchange ∈ exchanges, ∀ cause, exchange.answer = .error cause →
    ∀ name, exchange.call = .delete .service name →
      Mentions text ("deleting " ++ Kind.service.name ++ " " ++ name ++ ": " ++ cause.message)

/-- The text of a cycle's complaints names what failed. -/
theorem names_of_complaints (exchanges : List Exchange) :
    Names exchanges (Error.sync (complaints exchanges)).message where
  applied exchange hexchange cause hfailed object hcall := by
    have hmem := mem_complaints hexchange (by rw [hcall, ClusterCall.isReported_apply]) hfailed
    rw [hcall, ClusterCall.blame_apply] at hmem
    rw [← Error.message_apply]
    exact Error.mentions_message_of_within (.sync hmem .here)
  deleted exchange hexchange cause hfailed name hcall := by
    have hmem := mem_complaints hexchange (by rw [hcall]; rfl) hfailed
    rw [hcall, ClusterCall.blame] at hmem
    rw [← Error.message_delete]
    exact Error.mentions_message_of_within (.sync hmem .here)

/-- A failed request that is reported makes the cycle fail with its complaints. -/
theorem result_of_failedOn {call : ClusterCall} (hreported : call.isReported = true)
    (h : FailedOn exchanges call) : result exchanges = .error (.sync (complaints exchanges)) := by
  obtain ⟨exchange, hexchange, rfl, cause, hcause⟩ := h
  rw [result, Error.join_of_ne_nil
    (List.ne_nil_of_mem (mem_complaints hexchange hreported hcause))]

/-- What a cycle fails with is the complaints about its exchanges. -/
theorem eq_complaints_of_result {error : Error} (h : result exchanges = .error error) :
    error = .sync (complaints exchanges) := by
  rw [result] at h
  split at h
  · rename_i joined hjoin
    exact (Except.error.inj h).symm.trans (Error.eq_sync_of_join hjoin)
  · cases h

/-- Failures are joined unless there are none, and the text of what they are joined to states how
many there are, holds the texts of all of them in order, and says everything about whatever
failure there is within them. So a cycle in which an object cannot be applied or a service
cannot be deleted fails, and the text of what it fails with names all these objects. -/
theorem told_of_failed :
    (∀ errors : List Error, (Error.join errors = none ↔ errors = []) ∧
      ∀ joined, Error.join errors = some joined →
        joined.message = "sync finished with " ++ toString errors.length ++ " error(s): "
          ++ "; ".intercalate (errors.map Error.message) ∧
        ∀ entry ∈ errors, ∀ inner, Error.Within inner entry → Error.Tells joined.message inner) ∧
    ∀ (scope : Scope) (snapshot : Snapshot) {σ : Type} (behaviour : Program.Behaviour σ)
      (start : σ),
      let ran := (cycle scope snapshot).run behaviour start
      let exchanges := (cycle scope snapshot).exchanges behaviour start
      ((∃ object : Object, FailedOn exchanges object.apply) ∨
          (∃ name, FailedOn exchanges (.delete .service name)) →
        ∃ error, ran.value = .error error) ∧
      ∀ error, ran.value = .error error → Names exchanges error.message := by
  constructor
  · intro errors
    refine ⟨Error.join_eq_none_iff, ?_⟩
    intro joined hjoined
    obtain rfl := Error.eq_sync_of_join hjoined
    exact ⟨Error.message_sync errors,
      fun entry hentry inner hwithin => Error.tells_of_within (.sync hentry hwithin)⟩
  · intro scope snapshot σ behaviour start ran exchanges
    have hvalue : ran.value = result exchanges :=
      (conversation_cycle (Program.conversation_run _ _ _)).2.1
    rw [hvalue]
    constructor
    · intro hfailed
      rcases hfailed with ⟨object, hobject⟩ | ⟨name, hname⟩
      · exact ⟨_, result_of_failedOn (ClusterCall.isReported_apply object) hobject⟩
      · exact ⟨_, result_of_failedOn rfl hname⟩
    · intro error herror
      obtain rfl := eq_complaints_of_result herror
      exact names_of_complaints exchanges

/-- A failure three levels deep is named, and so are a service that is refused and another one that
is not deleted in one cycle. -/
theorem told_of_failed_refused :
    let nested : Error :=
      .apply .httpRoute "web-edge" (.sync [.delete .service "old" (.kube .unreachable)])
    let fates := Fates.refusing fun call =>
      call == .applyService (.build "bad" "default" 80) || call == .delete .service "old"
    let cluster := after edgeScope .calm .empty [publicService "old" 80]
    let snapshot := [publicService "bad" 80, publicService "web" 80]
    let ran := run edgeScope fates cluster snapshot
    Mentions (Error.sync [.config "no token", nested]).message "deleting Service old" ∧
      ∃ error, ran.value = .error error ∧ Mentions error.message "applying Service bad" ∧
        Mentions error.message "deleting Service old" := by
  intro nested fates cluster snapshot ran
  obtain ⟨hjoin, hcycle⟩ := told_of_failed
  have hdelete : "deleting " ++ Kind.service.name ++ " " ++ "old" = "deleting Service old" := by
    decide
  have happly : "applying " ++ Kind.service.name ++ " " ++ "bad" = "applying Service bad" := by
    decide
  constructor
  · obtain ⟨_, hjoined⟩ := hjoin [.config "no token", nested]
    have htells := (hjoined _ rfl).2 nested (.tail _ (.head _)) _
      (.apply (.sync (.head _) .here))
    rw [← hdelete]
    exact htells.deleted .service "old" _ rfl
  · obtain ⟨hfails, hnames⟩ := hcycle edgeScope snapshot (Store.behaviour fates) ⟨cluster, 0⟩
    have hbad : FailedOn (exchanges edgeScope fates cluster snapshot)
        (Object.service (.build "bad" "default" 80)).apply := by
      decide +kernel
    have hold : FailedOn (exchanges edgeScope fates cluster snapshot)
        (.delete .service "old") := by
      decide +kernel
    obtain ⟨error, herror⟩ := hfails (.inl ⟨_, hbad⟩)
    obtain ⟨refused, hrefused, hcall, cause, hcause⟩ := hbad
    obtain ⟨kept, hkept, hkeptCall, keptCause, hkeptCause⟩ := hold
    have happlied := (hnames error herror).applied refused hrefused cause hcause _ hcall
    have hdeleted := (hnames error herror).deleted kept hkept keptCause hkeptCause _ hkeptCall
    refine ⟨error, herror, ?_, ?_⟩
    · rw [← happly]
      exact happlied.trans (Mentions.refl _).of_append_left.of_append_left
    · rw [← hdelete]
      exact hdeleted.trans (Mentions.refl _).of_append_left.of_append_left

end Sync

end CatalogBridge
