import CatalogBridge.Sync.Program

/-!
# Conversations

What a program does depends on the cluster only through the answers that it
gets. A conversation is the list of requests of a program with their answers, so
it says everything about a run but the state behind the answers.

* `Asked` and `FailedOn` say that a request is among some exchanges, and that it
  failed there.
* `Program.Conversation` relates a program to the exchanges that it can have,
  to what it tells and counts meanwhile, and to the value that it ends with.
  It is defined along the program, so its cases are equations.
* `conversation_bind_iff` splits the conversation of two programs in a row. With
  it the conversation of a program is read off the program piece by piece.
* `conversation_run` says that every run is a conversation, whatever the
  behaviour of the cluster.
-/

namespace CatalogBridge

/-- A request with its answer. -/
structure Exchange where
  call : ClusterCall
  answer : Except Error call.Answer

/-- The request failed. -/
def Exchange.Failed (exchange : Exchange) : Prop := ∃ error, exchange.answer = .error error

theorem Exchange.failed_error (call : ClusterCall) (error : Error) :
    (⟨call, .error error⟩ : Exchange).Failed :=
  ⟨error, rfl⟩

theorem Exchange.not_failed_ok (call : ClusterCall) (value : call.Answer) :
    ¬ (⟨call, .ok value⟩ : Exchange).Failed := by
  intro hfailed
  obtain ⟨error, herror⟩ := hfailed
  cases herror

instance (exchange : Exchange) : Decidable exchange.Failed :=
  match exchange with
  | ⟨call, .ok value⟩ => .isFalse (Exchange.not_failed_ok call value)
  | ⟨call, .error error⟩ => .isTrue (Exchange.failed_error call error)

/-- The call is among the exchanges. -/
def Asked (exchanges : List Exchange) (call : ClusterCall) : Prop :=
  ∃ exchange ∈ exchanges, exchange.call = call

/-- The call is among the exchanges and failed. -/
def FailedOn (exchanges : List Exchange) (call : ClusterCall) : Prop :=
  ∃ exchange ∈ exchanges, exchange.call = call ∧ exchange.Failed

instance (exchanges : List Exchange) (call : ClusterCall) : Decidable (Asked exchanges call) :=
  inferInstanceAs (Decidable (∃ exchange ∈ exchanges, exchange.call = call))

instance (exchanges : List Exchange) (call : ClusterCall) : Decidable (FailedOn exchanges call) :=
  inferInstanceAs (Decidable (∃ exchange ∈ exchanges, exchange.call = call ∧ exchange.Failed))

theorem asked_append {front back : List Exchange} {call : ClusterCall} :
    Asked (front ++ back) call ↔ Asked front call ∨ Asked back call := by
  simp only [Asked, List.mem_append, or_and_right, exists_or]

theorem failedOn_append {front back : List Exchange} {call : ClusterCall} :
    FailedOn (front ++ back) call ↔ FailedOn front call ∨ FailedOn back call := by
  simp only [FailedOn, List.mem_append, or_and_right, exists_or]

theorem Asked.of_cons {exchange : Exchange} {rest : List Exchange} {call : ClusterCall}
    (h : Asked (exchange :: rest) call) (hcall : exchange.call ≠ call) : Asked rest call := by
  obtain ⟨asked, hasked, hsame⟩ := h
  rcases List.mem_cons.1 hasked with rfl | hrest
  · exact absurd hsame hcall
  · exact ⟨asked, hrest, hsame⟩

theorem FailedOn.cons {exchange : Exchange} {rest : List Exchange} {call : ClusterCall}
    (h : FailedOn rest call) : FailedOn (exchange :: rest) call := by
  obtain ⟨failed, hfailed, hcall⟩ := h
  exact ⟨failed, List.mem_cons_of_mem _ hfailed, hcall⟩

theorem not_failedOn {exchanges : List Exchange} {call : ClusterCall}
    (hok : ∀ exchange ∈ exchanges, ¬ exchange.Failed) : ¬ FailedOn exchanges call := by
  intro hfailure
  obtain ⟨exchange, hexchange, _, hfailed⟩ := hfailure
  exact hok exchange hexchange hfailed

theorem FailedOn.asked {exchanges : List Exchange} {call : ClusterCall}
    (h : FailedOn exchanges call) : Asked exchanges call := by
  obtain ⟨exchange, hexchange, hcall, _⟩ := h
  exact ⟨exchange, hexchange, hcall⟩

namespace Program

variable {α β σ : Type}

/-- Answered in this way, the program tells and counts these effects and ends with this value. -/
def Conversation : Program α → List Exchange → List Effect → α → Prop
  | .done result, exchanges, effects, value => exchanges = [] ∧ effects = [] ∧ result = value
  | .tell effect program, exchanges, effects, value =>
    ∃ later, effects = effect :: later ∧ program.Conversation exchanges later value
  | .ask call next, exchanges, effects, value =>
    ∃ answer later, exchanges = ⟨call, answer⟩ :: later ∧
      (next answer).Conversation later effects value

/-- The conversation of two programs in a row is one conversation after the other. -/
theorem conversation_bind_iff {program : Program α} {next : α → Program β}
    {exchanges : List Exchange} {effects : List Effect} {value : β} :
    (program.bind next).Conversation exchanges effects value ↔
      ∃ middle front back told later, exchanges = front ++ back ∧ effects = told ++ later ∧
        program.Conversation front told middle ∧
          (next middle).Conversation back later value := by
  induction program generalizing exchanges effects with
  | done result =>
    constructor
    · intro h
      exact ⟨result, [], exchanges, [], effects, rfl, rfl, ⟨rfl, rfl, rfl⟩, h⟩
    · intro hsplit
      obtain ⟨middle, front, back, told, later, rfl, rfl, ⟨rfl, rfl, rfl⟩, h⟩ := hsplit
      exact h
  | tell effect program ih =>
    constructor
    · intro hwhole
      obtain ⟨rest, rfl, h⟩ := hwhole
      obtain ⟨middle, front, back, told, later, rfl, rfl, hfirst, hsecond⟩ := ih.1 h
      exact ⟨middle, front, back, effect :: told, later, rfl, rfl, ⟨told, rfl, hfirst⟩, hsecond⟩
    · intro hsplit
      obtain ⟨middle, front, back, _, later, rfl, rfl, ⟨told, rfl, hfirst⟩, hsecond⟩ := hsplit
      exact ⟨told ++ later, rfl, ih.2 ⟨middle, front, back, told, later, rfl, rfl, hfirst, hsecond⟩⟩
  | ask call program ih =>
    constructor
    · intro hwhole
      obtain ⟨answer, rest, rfl, h⟩ := hwhole
      obtain ⟨middle, front, back, told, later, rfl, rfl, hfirst, hsecond⟩ := (ih answer).1 h
      exact ⟨middle, ⟨call, answer⟩ :: front, back, told, later, rfl, rfl,
        ⟨answer, front, rfl, hfirst⟩, hsecond⟩
    · intro hsplit
      obtain ⟨middle, _, back, told, later, rfl, rfl, hfirst, hsecond⟩ := hsplit
      obtain ⟨answer, front, rfl, hfirst⟩ := hfirst
      exact ⟨answer, front ++ back, rfl,
        (ih answer).2 ⟨middle, front, back, told, later, rfl, rfl, hfirst, hsecond⟩⟩

/-- The exchanges of a run, in order. -/
def exchanges (behaviour : Behaviour σ) : Program α → σ → List Exchange
  | .done _, _ => []
  | .tell _ program, state => program.exchanges behaviour state
  | .ask call next, state =>
    let answered := behaviour state call
    ⟨call, answered.1⟩ :: (next answered.1).exchanges behaviour answered.2

/-- Every run is a conversation. -/
theorem conversation_run (behaviour : Behaviour σ) (program : Program α) (state : σ) :
    program.Conversation (program.exchanges behaviour state)
      (program.run behaviour state).effects (program.run behaviour state).value := by
  induction program generalizing state with
  | done value => exact ⟨rfl, rfl, rfl⟩
  | tell effect program ih => exact ⟨_, rfl, ih state⟩
  | ask call next ih => exact ⟨_, _, rfl, ih _ _⟩

end Program

end CatalogBridge
