import CatalogBridge.Proofs.Sync.Course

/-!
# Where a sync stands

The loop does not run a sync in one go. It holds the sync at a request until the
answer is there, and it may give the sync up in between. So a part of a sync is
known by the exchanges that it has had.

* `Program.stand?` is the request, or the end, that a program has come to after
  some exchanges. `stand?_append` follows it from answer to answer.
* Whatever a program has told so far belongs to some conversation that it can still
  have (`exists_conversation`, `conversation_of_stand?`). So what is known of whole
  syncs holds of every part: no part counts a cycle
  (`Sync.uncounted_pause`, `Sync.uncounted_of_stand?`).
-/

namespace CatalogBridge

namespace Program

variable {α : Type}

/-- Where a program at a pause comes to if its requests are answered like this; nowhere if the
exchanges are not its own. -/
def Paused.follow : Paused α → List Exchange → Option (Paused α)
  | paused, [] => some paused
  | .done _, _ :: _ => none
  | .ask call next, exchange :: rest =>
    if hcall : exchange.call = call then (next (hcall ▸ exchange.answer)).pause.2.follow rest
    else none

/-- The request or the end that a program has come to after some exchanges. -/
def stand? (program : Program α) (exchanges : List Exchange) : Option (Paused α) :=
  program.pause.2.follow exchanges

theorem Paused.follow_append (paused : Paused α) (front back : List Exchange) :
    paused.follow (front ++ back) = (paused.follow front).bind (·.follow back) := by
  induction front generalizing paused with
  | nil => rfl
  | cons exchange rest ih =>
    cases paused with
    | done value => rfl
    | ask call next =>
      rw [List.cons_append, follow, follow]
      split
      · exact ih _
      · rfl

theorem stand?_append (program : Program α) (front back : List Exchange) :
    program.stand? (front ++ back) = (program.stand? front).bind (·.follow back) :=
  Paused.follow_append _ _ _

/-- A program at a request goes on to where its answer leads. -/
theorem stand?_concat {program : Program α} {exchanges : List Exchange} {call : ClusterCall}
    {next : Except Error call.Answer → Program α}
    (h : program.stand? exchanges = some (.ask call next)) (answer : Except Error call.Answer) :
    program.stand? (exchanges ++ [⟨call, answer⟩]) = some (next answer).pause.2 := by
  rw [stand?_append, h]
  simp [Paused.follow]

/-! ## What has been told so far -/

/-- What a program tells at once begins some conversation. -/
theorem exists_conversation (program : Program α) :
    ∃ exchanges effects value,
      program.Conversation exchanges (program.pause.1 ++ effects) value := by
  induction program with
  | done value => exact ⟨[], [], value, rfl, rfl, rfl⟩
  | tell effect program ih =>
    obtain ⟨exchanges, effects, value, h⟩ := ih
    exact ⟨exchanges, effects, value, _, rfl, h⟩
  | ask call next ih =>
    -- No answer is needed to know that there are some; that the request fails is one of them.
    obtain ⟨exchanges, effects, value, h⟩ := ih (.error (.kube .unreachable))
    exact ⟨_, _, value, _, _, rfl, h⟩

/-- A conversation from a request on goes on with the exchanges that led to it. -/
theorem conversation_of_stand? {program : Program α} {front back : List Exchange}
    {call : ClusterCall} {next : Except Error call.Answer → Program α}
    {answer : Except Error call.Answer} {effects : List Effect} {value : α}
    (h : program.stand? front = some (.ask call next))
    (hnext : (next answer).Conversation back effects value) :
    ∃ told, program.Conversation (front ++ ⟨call, answer⟩ :: back) (told ++ effects) value := by
  induction program generalizing front with
  | done result => cases front <;> cases h
  | tell effect program ih =>
    obtain ⟨told, hrest⟩ := ih h
    exact ⟨effect :: told, _, rfl, hrest⟩
  | ask first rest ih =>
    cases front with
    | nil =>
      cases h
      exact ⟨[], answer, back, rfl, hnext⟩
    | cons exchange others =>
      obtain ⟨asked, reply⟩ := exchange
      by_cases hcall : asked = first
      · subst hcall
        have hstand : (rest reply).stand? others = some (.ask call next) := by
          simpa [stand?, pause, Paused.follow] using h
        obtain ⟨told, hrest⟩ := ih reply hstand
        exact ⟨told, reply, _, rfl, hrest⟩
      · simp [stand?, pause, Paused.follow, hcall] at h

end Program

/-- Nothing among the effects counts a cycle. -/
def Effect.Uncounted (effects : List Effect) : Prop :=
  ∀ outcome, Measurement.reconciled outcome ∉ Effect.measurements effects

theorem Effect.Uncounted.of_append {front middle back : List Effect}
    (h : Uncounted (front ++ middle ++ back)) : Uncounted middle := by
  intro outcome hcounted
  refine h outcome ?_
  rw [measurements_append, measurements_append]
  exact List.mem_append_left _ (List.mem_append_right _ hcounted)

namespace Sync

variable {scope : Scope} {snapshot : Snapshot} {exchanges : List Exchange}

/-- A sync counts failures and sets gauges, but it does not count itself. -/
theorem uncounted_of_conversation {effects : List Effect} {value : Except Error Summary}
    (h : (cycle scope snapshot).Conversation exchanges effects value) :
    Effect.Uncounted effects := by
  intro outcome hcounted
  rw [(conversation_cycle h).2.2] at hcounted
  rcases List.mem_append.1 hcounted with hstrike | hgauge
  · obtain ⟨⟨call, answer⟩, _, hsame⟩ := List.mem_filterMap.1 hstrike
    cases answer <;> simp [Exchange.strike?] at hsame
  · unfold gauges at hgauge
    split_ifs at hgauge <;> simp at hgauge

/-- What a sync tells before its first request counts no cycle. -/
theorem uncounted_pause (scope : Scope) (snapshot : Snapshot) :
    Effect.Uncounted (cycle scope snapshot).pause.1 := by
  obtain ⟨_, effects, _, h⟩ := (cycle scope snapshot).exists_conversation
  have hwhole : Effect.Uncounted ([] ++ (cycle scope snapshot).pause.1 ++ effects) :=
    uncounted_of_conversation h
  exact hwhole.of_append

/-- What a sync tells from one request to the next counts no cycle. -/
theorem uncounted_of_stand? {call : ClusterCall}
    {next : Except Error call.Answer → Program (Except Error Summary)}
    (h : (cycle scope snapshot).stand? exchanges = some (.ask call next))
    (answer : Except Error call.Answer) : Effect.Uncounted (next answer).pause.1 := by
  obtain ⟨_, effects, _, hnext⟩ := (next answer).exists_conversation
  obtain ⟨told, hwhole⟩ := Program.conversation_of_stand? h hnext
  rw [← List.append_assoc] at hwhole
  exact .of_append (uncounted_of_conversation hwhole)

end Sync

end CatalogBridge
