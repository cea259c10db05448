import CatalogBridge.Proofs.Reconcile.Handoff
import CatalogBridge.Proofs.Reconcile.Turn

/-!
# What a part of a look can do

Everything about turns is proved from the list of what an event can do to one.

* `Loop.Outside` is what an event does in which the consumer has no part: the watcher goes on,
  a snapshot goes into the empty slot, or the run is cancelled. Only the watcher asks for
  anything then, and it ends only for one of four reasons.
* `Turn.Part` adds what the consumer does at its stages, one case for everything it can do:
  a stage says what the consumer has asked about, and so what it may start. `part_step` says
  that these are all cases.
-/

namespace CatalogBridge

/-- Whether a notice says that a cycle starts. -/
def Notice.begins : Notice → Bool
  | .reconciling _ _ => true
  | _ => false

/-! ## The watcher -/

theorem Fetch.not_begins_answer (trigger : Trigger) (fetch : Fetch) (position : Nat)
    (result : Except Error (List Instance)) :
    ∀ notice ∈ Effect.notices (fetch.answer trigger position result).2.2,
      notice.begins = false := by
  unfold answer
  cases fetch.awaited? position with
  | none => exact List.forall_mem_nil _
  | some name => cases result <;> simp [effectsOf, Effect.notices, Notice.begins]

namespace Watcher

variable {watcher : Watcher} {input : Input}

theorem effects_proceed (watcher : Watcher) (fetch : Fetch) (queries : List InstanceQuery)
    (effects : List Effect) : (watcher.proceed fetch queries effects).effects = effects := by
  unfold proceed
  cases fetch.snapshot? <;> rfl

theorem isStopped_proceed (watcher : Watcher) (fetch : Fetch) (queries : List InstanceQuery)
    (effects : List Effect) :
    (watcher.proceed fetch queries effects).watcher.isStopped = false := by
  unfold proceed
  cases fetch.snapshot? <;> rfl

/-- The watcher does not say that a cycle starts. -/
theorem not_begins_step (watcher : Watcher) (input : Input) :
    ∀ notice ∈ Effect.notices (watcher.step input).effects, notice.begins = false := by
  have hacts := watcher.acts_step input
  generalize watcher.step input = reaction at hacts ⊢
  generalize watcher.noted input = noted at hacts
  cases hacts with
  | idle | stopped | woke | emitted => exact List.forall_mem_nil _
  | failed error => simp [onFailure, Effect.notices, Notice.begins]
  | told page =>
    simp only [onPage]
    split_ifs
    · simp [listFrom, Effect.notices, Notice.begins]
    · simp [listFrom, Effect.notices]
    · simp [effects_proceed, Effect.notices, Notice.begins]
  | @fetched fetch position result =>
    rw [effects_proceed]
    exact fetch.not_begins_answer .watch position result

theorem isStopped_onPage (watcher : Watcher) (page : CatalogPage) :
    (watcher.onPage page).watcher.isStopped = false := by
  simp only [onPage]
  split_ifs
  · rfl
  · rfl
  · exact isStopped_proceed _ _ _ _

/-- No answer ends a watcher. -/
theorem isStopped_of_step (h : (watcher.step input).watcher.isStopped = true) :
    watcher.isStopped = true ∨ input = .cancelled ∨ input = .died ∨ input = .refused := by
  unfold step at h
  split at h
  · exact Or.inr (Or.inl rfl)
  · exact Or.inr (Or.inr (Or.inl rfl))
  · rw [isStopped_onPage] at h
    cases h
  · cases h
  · cases h
  · rw [isStopped_proceed] at h
    cases h
  · cases h
  · exact Or.inr (Or.inr (Or.inr rfl))
  · exact Or.inl h

end Watcher

/-! ## What the consumer has no part in -/

namespace Loop

variable {loop later last : Loop} {event : Event}

/-- What an event does that is not the consumer's: the watcher goes on, a snapshot goes into the
empty slot, or the run is cancelled. -/
structure Outside (loop : Loop) (event : Event) (reaction : Reaction) : Prop where
  consumer : reaction.loop.consumer = loop.consumer
  ticker : reaction.loop.ticker = loop.ticker
  score : reaction.loop.score = loop.score
  slot : loop.slot.isSome = true → reaction.loop.slot = loop.slot
  cancelled : loop.cancelled = true → reaction.loop.cancelled = true
  /-- What ends the watcher. -/
  stopped : reaction.loop.watcher.isStopped = true →
    loop.watcher.isStopped = true ∨ event = .watchDied ∨ loop.cancelled = true ∨
      ∃ result, loop.result? = some result
  requests : ∀ request ∈ reaction.requests, ∃ asked, request = .watch asked
  notices : ∀ notice ∈ reaction.notices, notice.begins = false

theorem outside_stay (loop : Loop) (event : Event) : loop.Outside event loop.stay where
  consumer := rfl
  ticker := rfl
  score := rfl
  slot _ := rfl
  cancelled := id
  stopped := Or.inl
  requests := List.forall_mem_nil _
  notices := List.forall_mem_nil _

theorem outside_watchInput (loop : Loop) (input : Watcher.Input)
    (hends : input = .cancelled ∨ input = .died ∨ input = .refused →
      event = .watchDied ∨ loop.cancelled = true ∨ ∃ result, loop.result? = some result) :
    loop.Outside event (loop.watchInput input) where
  consumer := rfl
  ticker := rfl
  score := by
    show (loop.absorb (loop.watcher.step input).effects).score = loop.score
    exact score_absorb (loop.watcher.uncounted_step input)
  slot _ := rfl
  cancelled := id
  stopped hstopped := (Watcher.isStopped_of_step hstopped).imp_right hends
  requests request hrequest := by
    obtain ⟨asked, _, rfl⟩ := List.mem_map.1 hrequest
    exact ⟨asked, rfl⟩
  notices := loop.watcher.not_begins_step input

/-- A snapshot goes into the slot. -/
theorem outside_handed {snapshot : Snapshot} (hempty : loop.slot = none) :
    loop.Outside event ({ loop with slot := some snapshot }.watchInput .accepted) := by
  let handed : Loop := { loop with slot := some snapshot }
  have houtside : handed.Outside event (handed.watchInput .accepted) :=
    handed.outside_watchInput .accepted (by simp)
  refine ⟨houtside.consumer, houtside.ticker, houtside.score, ?_, houtside.cancelled,
    houtside.stopped, houtside.requests, houtside.notices⟩
  rw [hempty]
  exact (absurd · Bool.false_ne_true)

/-- The watcher sees that the run is cancelled. -/
theorem outside_watchCancelled (loop : Loop) :
    loop.Outside .watchCancelled (loop.step .watchCancelled) := by
  simp only [step]
  split_ifs with hcancelled
  · exact loop.outside_watchInput .cancelled fun _ => Or.inr (Or.inl hcancelled)
  · exact loop.outside_stay _

/-- The snapshot that the watcher offers is handed over, or refused if the loop has ended. -/
theorem outside_handOver (loop : Loop) : loop.Outside .handOver (loop.step .handOver) := by
  simp only [step]
  split
  · rename_i result _ hconsumer
    have hresult : loop.result? = some result := by rw [result?, hconsumer]
    exact loop.outside_watchInput .refused fun _ => Or.inr (Or.inr ⟨result, hresult⟩)
  · rename_i hslot _
    exact outside_handed hslot
  · exact loop.outside_stay _

theorem outside_cancel (loop : Loop) : loop.Outside .cancel (loop.step .cancel) where
  consumer := rfl
  ticker := rfl
  score := rfl
  slot _ := rfl
  cancelled _ := rfl
  stopped := Or.inl
  requests := List.forall_mem_nil _
  notices := List.forall_mem_nil _

theorem result?_advance (loop : Loop) (trigger : Trigger)
    (program : Program (Except Error Summary)) :
    (loop.advance trigger program).loop.result? = none := by
  cases loop.advances_advance trigger program with
  | asks _ hconsumer | ends _ hconsumer => rw [result?, hconsumer]

theorem cancelled_advance (loop : Loop) (trigger : Trigger)
    (program : Program (Except Error Summary)) :
    (loop.advance trigger program).loop.cancelled = loop.cancelled := by
  unfold advance
  generalize program.pause = reached
  obtain ⟨effects, paused⟩ := reached
  cases paused with
  | ask call next => rfl
  | done result => cases result <;> rfl

end Loop

namespace Turn

variable {turn : Turn} {event : Loop.Event}

/-! ## What a part can be -/

/-- What an event can do to a turn. -/
inductive Part (turn : Turn) (event : Loop.Event) : Reaction → Prop
  /-- The consumer has no part in it. -/
  | outside {reaction : Loop.Reaction} (houtside : turn.loop.Outside event reaction) :
      Part turn event (reach reaction turn.stage)
  /-- The consumer goes on to another stage. -/
  | moves (stage : Stage) (notices : List Notice)
      (hworking : stage = .working → turn.stage = .working ∨ turn.loop.cancelled = false)
      (hdeserted : stage = .deserted →
        turn.stage = .deserted ∨ turn.loop.watcher.isStopped = true)
      (hresting : turn.stage = .resting → turn.loop.cancelled = true → stage = .resting)
      (hnotices : ∀ notice ∈ notices, notice.begins = false) :
      Part turn event ⟨⟨turn.loop, stage⟩, [], notices⟩
  /-- It gives up what is under way. -/
  | abandons (hcancelled : turn.loop.cancelled = true) :
      Part turn event (reach turn.loop.abandon .resting)
  /-- It ends the loop because the run is cancelled. -/
  | stops (hcancelled : turn.loop.cancelled = true) : Part turn event (stop turn.loop)
  /-- It ends the loop because the watcher has ended. -/
  | fails (error : Error) (hstage : turn.stage = .deserted)
      (hactive : turn.loop.cancelled = false) :
      Part turn event
        (reach ⟨{ turn.loop with consumer := .ended (.error error) }, [], []⟩ .resting)
  /-- It serves the tick. -/
  | serves (ticker : Ticker) (hstage : turn.stage = .timing) :
      Part turn event (reach ⟨{ turn.loop with ticker := ticker }, [], []⟩ .ticked)
  /-- It takes the snapshot. -/
  | takes (snapshot : Snapshot) (hstage : turn.stage = .receiving) :
      Part turn event
        (reach ⟨{ turn.loop with slot := none }, [], [.reconciling .watch snapshot.length]⟩
          (.holding .watch snapshot))
  /-- It goes on with a survey or a sync. -/
  | works {reaction : Reaction} (hstage : turn.stage ≠ .resting)
      (hactive : turn.stage = .working ∨ turn.loop.cancelled = false)
      (hwatcher : reaction.turn.loop.watcher = turn.loop.watcher)
      (hcancelled : reaction.turn.loop.cancelled = turn.loop.cancelled)
      (hresult : reaction.turn.loop.result? = none)
      (hdeserted : reaction.turn.stage ≠ .deserted) : Part turn event reaction

/-- A stage that needs no reason. -/
theorem Part.next {stage : Stage} (hworking : stage ≠ .working) (hdeserted : stage ≠ .deserted)
    (hresting : turn.stage = .resting → turn.loop.cancelled = true → stage = .resting) :
    Part turn event (reach turn.loop.stay stage) :=
  .moves stage [] (absurd · hworking) (absurd · hdeserted) hresting (List.forall_mem_nil _)

theorem part_stay (turn : Turn) (event : Loop.Event) :
    Part turn event (reach turn.loop.stay turn.stage) :=
  .moves turn.stage [] Or.inl Or.inl (fun hresting _ => hresting) (List.forall_mem_nil _)

theorem settle_turn (reaction : Loop.Reaction) :
    (settle reaction).turn.loop = reaction.loop ∧ (settle reaction).turn.stage ≠ .deserted := by
  unfold settle
  cases reaction.loop.consumer <;> exact ⟨rfl, Stage.noConfusion⟩

/-- A sync goes on. -/
theorem part_advance (hstage : turn.stage ≠ .resting)
    (hactive : turn.stage = .working ∨ turn.loop.cancelled = false) (trigger : Trigger)
    (program : Program (Except Error Summary)) :
    Part turn event (settle (turn.loop.advance trigger program)) := by
  obtain ⟨hloop, hdeserted⟩ := settle_turn (turn.loop.advance trigger program)
  refine .works hstage hactive ?_ ?_ ?_ hdeserted
  · rw [hloop]
    exact (turn.loop.advance_frame trigger program).1
  · rw [hloop]
    exact turn.loop.cancelled_advance trigger program
  · rw [hloop]
    exact turn.loop.result?_advance trigger program

theorem part_resting (turn : Turn) (now : Instant) :
    Part turn event (poll turn.loop now .resting) := by
  simp only [poll]
  cases hcancelled : turn.loop.cancelled with
  | true =>
    cases turn.loop.consumer with
    | ended result => exact .next Stage.noConfusion Stage.noConfusion fun _ _ => rfl
    | idle => exact .stops hcancelled
    | surveying survey | syncing trigger call next => exact .abandons hcancelled
  | false =>
    have hactive : turn.loop.cancelled = true → False := by simp [hcancelled]
    cases turn.loop.consumer with
    | ended result => exact .next Stage.noConfusion Stage.noConfusion fun _ _ => rfl
    | idle =>
      exact .next Stage.noConfusion Stage.noConfusion fun _ hstops => (hactive hstops).elim
    | surveying survey | syncing trigger call next =>
      exact .moves .working [] (fun _ => Or.inr hcancelled) Stage.noConfusion
        (fun _ hstops => (hactive hstops).elim) (List.forall_mem_nil _)

/-- The part of a poll, one case for every stage. -/
theorem part_poll (turn : Turn) (now : Instant) :
    Part turn (.poll now) (turn.step (.poll now)) := by
  show Part turn (.poll now) (poll turn.loop now turn.stage)
  cases hstage : turn.stage with
  | resting => exact part_resting turn now
  | working => exact .next Stage.noConfusion Stage.noConfusion fun _ _ => rfl
  | timing =>
    simp only [poll]
    split_ifs with hdue
    · exact .serves _ hstage
    · exact .next Stage.noConfusion Stage.noConfusion (by simp [hstage])
  | receiving =>
    simp only [poll]
    cases hslot : turn.loop.slot with
    | some snapshot => exact .takes snapshot hstage
    | none =>
      split_ifs with hstopped
      · exact .moves .deserted [] Stage.noConfusion (fun _ => Or.inr hstopped)
          (by simp [hstage]) (List.forall_mem_nil _)
      · exact .next Stage.noConfusion Stage.noConfusion fun _ _ => rfl
  | ticked =>
    simp only [poll]
    split_ifs with hcancelled
    · exact .next Stage.noConfusion Stage.noConfusion fun _ _ => rfl
    · exact .works (by simp [hstage]) (Or.inr (Bool.eq_false_of_not_eq_true hcancelled)) rfl rfl
        rfl Stage.noConfusion
  | holding trigger snapshot =>
    simp only [poll]
    split_ifs with hcancelled
    · exact .moves .resting [.interrupted trigger] Stage.noConfusion Stage.noConfusion
        (fun _ _ => rfl) (by simp [Notice.begins])
    · exact part_advance (by simp [hstage]) (Or.inr (Bool.eq_false_of_not_eq_true hcancelled)) _ _
  | deserted =>
    simp only [poll]
    split_ifs with hcancelled
    · exact .stops hcancelled
    · exact .fails _ hstage (Bool.eq_false_of_not_eq_true hcancelled)

/-- A survey goes on. -/
theorem part_onSurvey (hstage : turn.stage = .working) (effects before : List Effect)
    (progress : Survey.Progress) :
    Part turn event { onSurvey (turn.loop.absorb effects) progress with
      notices := Effect.notices before
        ++ (onSurvey (turn.loop.absorb effects) progress).notices } := by
  have hbusy : turn.stage ≠ .resting := by simp [hstage]
  cases progress with
  | running survey queries =>
    exact .works hbusy (Or.inl hstage) rfl rfl rfl Stage.noConfusion
  | done result =>
    cases result <;> exact .works hbusy (Or.inl hstage) rfl rfl rfl Stage.noConfusion

theorem part_step (turn : Turn) (event : Loop.Event) : Part turn event (turn.step event) := by
  cases event with
  | watchListed answer | watchWoke | watchFetched position answer =>
    exact .outside (turn.loop.outside_watchInput _ (by simp))
  | watchDied => exact .outside (turn.loop.outside_watchInput .died fun _ => Or.inl rfl)
  | watchCancelled => exact .outside turn.loop.outside_watchCancelled
  | handOver => exact .outside turn.loop.outside_handOver
  | cancel => exact .outside turn.loop.outside_cancel
  | poll now => exact turn.part_poll now
  | surveyed input =>
    simp only [step]
    split
    · rename_i hstage _
      exact part_onSurvey hstage _ _ _
    · exact turn.part_stay _
  | answered call answer =>
    simp only [step]
    split
    · rename_i hstage _
      split_ifs with hcall
      · exact part_advance (by simp [hstage]) (Or.inl hstage) _ _
      · exact turn.part_stay _
    · exact turn.part_stay _

end Turn

end CatalogBridge
