import CatalogBridge.Proofs.Reconcile.Part
import CatalogBridge.Proofs.Reconcile.Readiness

/-!
# Shutdown

What a run does once it is cancelled, and that nothing else ends it.

* `Loop.Silent` is what a cancelled run is like: only the watcher asks for anything, no
  cycle is counted, no tick is served, no snapshot is taken. `Turn.silent_step` says that
  every event keeps to it while the consumer is between two looks, and
  `Turn.silent_run` that every run does. `Loop.Closed` is what is left of it while the
  consumer is still within a look (`Turn.closed_run`).
* `Turn.result?_step` says how a loop ends. `shutdown_of_run` puts this together for
  every run of the loop and of its turns.
* `Turn.Standing` relates the ends of the watcher and of the consumer to the
  cancellation. Every event but the death of the watcher keeps it (`Standing.step`), so
  a run ends only if it is cancelled (`standing_of_run`).
-/

namespace CatalogBridge

/-! ## Once the run is cancelled -/

namespace Loop

variable {loop later last : Loop} {event : Event} {reaction : Reaction}
  {front back : List Request} {early late : List Notice}

/-- From a moment on only the watcher asks for anything, and no cycle is counted. -/
structure Closed (loop later : Loop) (requests : List Request) : Prop where
  requests : ∀ request ∈ requests, ∃ asked, request = .watch asked
  score : later.score = loop.score

/-- From a moment on, besides, no tick is served and no snapshot is taken, and no cycle is said to
start. -/
structure Silent (loop later : Loop) (requests : List Request) (notices : List Notice) : Prop
    extends Closed loop later requests where
  ticker : later.ticker = loop.ticker
  slot : loop.slot.isSome = true → later.slot = loop.slot
  notices : ∀ notice ∈ notices, notice.begins = false

theorem Closed.trans (h : loop.Closed later front) (hlast : later.Closed last back) :
    loop.Closed last (front ++ back) where
  requests := List.forall_mem_append.2 ⟨h.requests, hlast.requests⟩
  score := hlast.score.trans h.score

theorem Silent.trans (h : loop.Silent later front early) (hlast : later.Silent last back late) :
    loop.Silent last (front ++ back) (early ++ late) where
  toClosed := h.toClosed.trans hlast.toClosed
  ticker := hlast.ticker.trans h.ticker
  slot hfull := by
    have hkept := h.slot hfull
    exact (hlast.slot (hkept ▸ hfull)).trans hkept
  notices := List.forall_mem_append.2 ⟨h.notices, hlast.notices⟩

/-- Nothing is taken from the slot. -/
theorem Silent.received? (h : loop.Silent later front early) : loop.received? later = none := by
  cases hslot : loop.slot with
  | none => exact received?_of_empty hslot
  | some snapshot => exact received?_of_slot (h.slot (by rw [hslot]; rfl))

theorem silent_refl (loop : Loop) : loop.Silent loop [] [] :=
  ⟨⟨List.forall_mem_nil _, rfl⟩, rfl, fun _ => rfl, List.forall_mem_nil _⟩

theorem Outside.silent (h : loop.Outside event reaction) :
    loop.Silent reaction.loop reaction.requests reaction.notices :=
  ⟨⟨h.requests, h.score⟩, h.ticker, h.slot, h.notices⟩

theorem silent_abandon (loop : Loop) :
    loop.Silent loop.abandon.loop loop.abandon.requests loop.abandon.notices := by
  unfold abandon
  cases loop.consumer with
  | syncing trigger call next =>
    exact ⟨⟨List.forall_mem_nil _, rfl⟩, rfl, fun _ => rfl, by simp [Notice.begins]⟩
  | surveying survey =>
    exact ⟨⟨List.forall_mem_nil _, rfl⟩, rfl, fun _ => rfl, List.forall_mem_nil _⟩
  | idle | ended result => exact loop.silent_refl

theorem cancelled_abandon (loop : Loop) : loop.abandon.loop.cancelled = loop.cancelled := by
  unfold abandon
  cases loop.consumer <;> rfl

theorem watcher_abandon (loop : Loop) : loop.abandon.loop.watcher = loop.watcher := by
  unfold abandon
  cases loop.consumer <;> rfl

theorem result?_of_consumer (h : later.consumer = loop.consumer) :
    later.result? = loop.result? := by
  rw [result?, result?, h]

theorem result?_abandon {result : Except Error Unit} (h : loop.abandon.loop.result? = some result) :
    loop.result? = some result := by
  unfold abandon at h
  split at h
  · cases h
  · cases h
  · exact h
  · exact h

/-- A cancelled loop ends when its consumer looks twice: it gives up what is under way, and
stops. -/
theorem ends_of_cancelled (h : loop.cancelled = true) (first second : Instant) :
    (loop.run [.poll first, .poll second]).loop.result?.isSome = true := by
  cases hconsumer : loop.consumer <;>
    simp [run, step, hconsumer, look, h, unlessCancelled, abandon, stay, result?]

end Loop

namespace Turn

variable {turn : Turn} {event : Loop.Event} {reaction : Reaction} {result : Except Error Unit}

theorem cancelled_step (h : turn.loop.cancelled = true) (event : Loop.Event) :
    (turn.step event).turn.loop.cancelled = true := by
  have hpart := turn.part_step event
  generalize turn.step event = reaction at hpart ⊢
  cases hpart with
  | outside houtside => exact houtside.cancelled h
  | moves | stops | fails | serves | takes => exact h
  | abandons => exact turn.loop.cancelled_abandon.trans h
  | works _ _ _ hcancelled => exact hcancelled.trans h

/-- How a loop ends. -/
theorem result?_step (h : (turn.step event).turn.loop.result? = some result) :
    turn.loop.result? = some result ∨ turn.loop.cancelled = true ∧ result = .ok () ∨
      turn.stage = .deserted ∧ turn.loop.cancelled = false := by
  have hpart := turn.part_step event
  generalize turn.step event = reaction at hpart h
  cases hpart with
  | outside houtside =>
    have hsame := Loop.result?_of_consumer houtside.consumer
    exact Or.inl (hsame.symm.trans h)
  | moves | serves | takes => exact Or.inl h
  | abandons => exact Or.inl (Loop.result?_abandon h)
  | stops hcancelled => exact Or.inr (Or.inl ⟨hcancelled, (Option.some.inj h).symm⟩)
  | fails error hstage hactive => exact Or.inr (Or.inr ⟨hstage, hactive⟩)
  | works _ _ _ _ hresult => cases hresult.symm.trans h

/-- Unless the consumer is at work, a cancelled turn starts nothing, as it asks before it does. -/
theorem closed_step (h : turn.loop.cancelled = true) (hstage : turn.stage ≠ .working)
    (event : Loop.Event) :
    turn.loop.Closed (turn.step event).turn.loop (turn.step event).requests ∧
      (turn.step event).turn.stage ≠ .working := by
  have hcancelled : turn.loop.cancelled ≠ false := by simp [h]
  have hpart := turn.part_step event
  generalize turn.step event = reaction at hpart ⊢
  cases hpart with
  | outside houtside => exact ⟨houtside.silent.toClosed, hstage⟩
  | moves stage notices hworking =>
    have hidle : stage ≠ .working := fun hnext => (hworking hnext).elim hstage hcancelled
    exact ⟨turn.loop.silent_refl.toClosed, hidle⟩
  | abandons => exact ⟨turn.loop.silent_abandon.toClosed, Stage.noConfusion⟩
  | stops | serves | takes => exact ⟨⟨List.forall_mem_nil _, rfl⟩, Stage.noConfusion⟩
  | fails _ _ hactive => exact absurd hactive hcancelled
  | works _ hactive => exact absurd hactive (not_or_intro hstage hcancelled)

/-- Between two looks a cancelled turn starts nothing at all, and the consumer stays there. -/
theorem silent_step (h : turn.loop.cancelled = true) (hstage : turn.stage = .resting)
    (event : Loop.Event) :
    turn.loop.Silent (turn.step event).turn.loop (turn.step event).requests
        (turn.step event).notices ∧
      (turn.step event).turn.stage = .resting := by
  have hpart := turn.part_step event
  generalize turn.step event = reaction at hpart ⊢
  cases hpart with
  | outside houtside => exact ⟨houtside.silent, hstage⟩
  | moves stage notices _ _ hresting hnotices =>
    exact ⟨⟨⟨List.forall_mem_nil _, rfl⟩, rfl, fun _ => rfl, hnotices⟩, hresting hstage h⟩
  | abandons => exact ⟨turn.loop.silent_abandon, rfl⟩
  | stops =>
    have hnotices : ∀ notice ∈ [Notice.loopStopped], notice.begins = false := by
      simp [Notice.begins]
    exact ⟨⟨⟨List.forall_mem_nil _, rfl⟩, rfl, fun _ => rfl, hnotices⟩, rfl⟩
  | fails _ hdeserted => cases hstage.symm.trans hdeserted
  | serves _ htiming => cases hstage.symm.trans htiming
  | takes _ hreceiving => cases hstage.symm.trans hreceiving
  | works hbusy => exact absurd hstage hbusy

theorem closed_run (turn : Turn) (h : turn.loop.cancelled = true) (hstage : turn.stage ≠ .working)
    (events : List Loop.Event) :
    turn.loop.Closed (turn.run events).turn.loop (turn.run events).requests := by
  induction events generalizing turn with
  | nil => exact turn.loop.silent_refl.toClosed
  | cons event rest ih =>
    obtain ⟨hclosed, hnext⟩ := closed_step h hstage event
    exact hclosed.trans (ih _ (cancelled_step h event) hnext)

theorem silent_run (turn : Turn) (h : turn.loop.cancelled = true) (hstage : turn.stage = .resting)
    (events : List Loop.Event) :
    turn.loop.Silent (turn.run events).turn.loop (turn.run events).requests
      (turn.run events).notices := by
  induction events generalizing turn with
  | nil => exact turn.loop.silent_refl
  | cons event rest ih =>
    obtain ⟨hsilent, hnext⟩ := silent_step h hstage event
    exact hsilent.trans (ih _ (cancelled_step h event) hnext)

/-- A cancelled turn ends without an error, if it has not ended before. -/
theorem result?_run (turn : Turn) (h : turn.loop.cancelled = true) (events : List Loop.Event)
    (hresult : (turn.run events).turn.loop.result? = some result) :
    turn.loop.result? = some result ∨ result = .ok () := by
  induction events generalizing turn with
  | nil => exact Or.inl hresult
  | cons event rest ih =>
    rcases ih _ (cancelled_step h event) hresult with hnext | hok
    · rcases result?_step hnext with hbefore | ⟨_, hok⟩ | ⟨_, hactive⟩
      · exact Or.inl hbefore
      · exact Or.inr hok
      · exact absurd (hactive.symm.trans h) Bool.false_ne_true
    · exact Or.inr hok

end Turn

/-! ## Runs of the loop -/

namespace Loop

variable {loop : Loop}

/-- What a cancelled loop does is what its turns do. -/
theorem silent_run (h : loop.cancelled = true) (events : List Event) :
    loop.Silent (loop.run events).loop (loop.run events).requests (loop.run events).notices := by
  obtain ⟨parts, _, hparts⟩ := Turn.takes_run loop events
  have hsilent := Turn.silent_run ⟨loop, .resting⟩ h rfl parts
  rw [hparts] at hsilent
  exact hsilent

theorem result?_run (h : loop.cancelled = true) (events : List Event) {result : Except Error Unit}
    (hresult : (loop.run events).loop.result? = some result) :
    loop.result? = some result ∨ result = .ok () := by
  obtain ⟨parts, _, hparts⟩ := Turn.takes_run loop events
  refine Turn.result?_run ⟨loop, .resting⟩ h parts ?_
  rw [hparts]
  exact hresult

end Loop

namespace Ledger

variable {ledger : Ledger}

/-- A cancelled loop takes no snapshot. -/
theorem received_of_cancelled (h : ledger.loop.cancelled = true) (events : List Loop.Event) :
    (ledger.run events).received = ledger.received := by
  induction events generalizing ledger with
  | nil => rfl
  | cons event rest ih =>
    have hstill : (ledger.step event).loop.cancelled = true :=
      (ledger.loop.serves_step event).frames.cancelled h
    have hsilent : ledger.loop.Silent (ledger.step event).loop _ _ := Loop.silent_run h [event]
    have hnothing := hsilent.received?
    have hreceived : (ledger.step event).received = ledger.received := by
      show (ledger.loop.received? (ledger.step event).loop).toList ++ ledger.received = _
      rw [hnothing]
      rfl
    exact (ih hstill).trans hreceived

end Ledger

namespace Loop

/-- Shutdown, in every run of the loop and from whatever point on at which it is cancelled.

A cancelled loop asks nothing of the cluster and nothing for a resync. It serves no tick and takes
no snapshot, neither one in the slot nor one that the watcher still hands over; no cycle is said to
start, and none is begun, entered or counted. It ends when its consumer has looked twice, and if it
had not ended before it ends without an error.

The same holds of turns, where the run may be cancelled between any two parts of a look: from the
time on when the consumer is between two looks. Before that nothing is asked or counted either,
unless the run was cancelled while the consumer was at work; then it is between two looks when it
pauses. No other result can come of it, whatever the consumer was doing. -/
theorem shutdown_of_run (scope : Scope) (interval : Duration) (pace : Pace) (now : Instant)
    (events more : List Event) :
    let ledger := (Ledger.start scope interval pace now).run events
    let later := ledger.run more
    let turn := ((Turn.start scope interval pace now).run events).turn
    let last := turn.run more
    (ledger.loop.cancelled = true →
        ledger.loop.Silent later.loop (ledger.loop.run more).requests
          (ledger.loop.run more).notices ∧
        later.cycles = ledger.cycles ∧ later.skipped = ledger.skipped ∧
        later.received = ledger.received ∧
        (∀ first second, (later.loop.run [.poll first, .poll second]).loop.result?.isSome = true) ∧
        ∀ result, later.loop.result? = some result →
          ledger.loop.result? = some result ∨ result = .ok ()) ∧
      (turn.loop.cancelled = true →
        (turn.stage = .resting →
          turn.loop.Silent last.turn.loop last.requests last.notices) ∧
        (turn.stage ≠ .working → turn.loop.Closed last.turn.loop last.requests) ∧
        (turn.stage = .working → ∀ moment,
          turn.step (.poll moment) = Turn.reach turn.loop.stay .resting) ∧
        ∀ result, last.turn.loop.result? = some result →
          turn.loop.result? = some result ∨ result = .ok ()) := by
  intro ledger later turn last
  have hlater : later.loop = (ledger.loop.run more).loop := ledger.loop_run more
  refine ⟨fun hcancelled => ?_, fun hcancelled => ?_⟩
  · obtain ⟨hcycles, hskipped, _⟩ := Ledger.run_of_cancelled hcancelled more
    have hstill : later.loop.cancelled = true := (ledger.frames_run more).cancelled hcancelled
    refine ⟨hlater ▸ silent_run hcancelled more, hcycles, hskipped,
      Ledger.received_of_cancelled hcancelled more, ends_of_cancelled hstill, ?_⟩
    intro result hresult
    exact result?_run hcancelled more (hlater ▸ hresult)
  · refine ⟨fun hresting => turn.silent_run hcancelled hresting more,
      fun hbusy => turn.closed_run hcancelled hbusy more, ?_, ?_⟩
    · intro hworking moment
      show Turn.poll turn.loop moment turn.stage = _
      rw [hworking, Turn.poll]
    · intro result hresult
      exact turn.result?_run hcancelled more hresult

end Loop

/-! ## Nothing but cancellation ends a run -/

namespace Turn

variable {turn : Turn} {event : Loop.Event}

/-- A run that is not cancelled stands: its watcher goes on, and its consumer neither ends nor finds
itself deserted. A run that ends does so without an error. -/
structure Standing (turn : Turn) : Prop where
  watcher : turn.loop.watcher.isStopped = true → turn.loop.cancelled = true
  result : ∀ result, turn.loop.result? = some result →
    turn.loop.cancelled = true ∧ result = .ok ()
  deserted : turn.stage = .deserted → turn.loop.cancelled = true

theorem standing_start (scope : Scope) (interval : Duration) (pace : Pace) (now : Instant) :
    Standing (start scope interval pace now) where
  watcher hstopped := by cases hstopped
  result result hresult := by cases hresult
  deserted hdeserted := by cases hdeserted

/-- How a watcher ends. -/
theorem isStopped_step (h : (turn.step event).turn.loop.watcher.isStopped = true) :
    turn.loop.watcher.isStopped = true ∨ event = .watchDied ∨ turn.loop.cancelled = true ∨
      ∃ result, turn.loop.result? = some result := by
  have hpart := turn.part_step event
  generalize turn.step event = reaction at hpart h
  cases hpart with
  | outside houtside => exact houtside.stopped h
  | moves | stops | fails | serves | takes => exact Or.inl h
  | abandons => exact Or.inl (turn.loop.watcher_abandon ▸ h)
  | works _ _ hwatcher => exact Or.inl (hwatcher ▸ h)

/-- The consumer finds itself deserted only if the watcher has ended. -/
theorem deserted_step (h : (turn.step event).turn.stage = .deserted) :
    turn.stage = .deserted ∨ turn.loop.watcher.isStopped = true := by
  have hpart := turn.part_step event
  generalize turn.step event = reaction at hpart h
  cases hpart with
  | outside => exact Or.inl h
  | moves _ _ _ hdeserted => exact hdeserted h
  | abandons | stops | fails | serves | takes => cases h
  | works _ _ _ _ _ hdeserted => exact absurd h hdeserted

theorem Standing.step (h : Standing turn) (halive : event ≠ .watchDied) :
    Standing (turn.step event).turn where
  watcher hstopped := by
    refine cancelled_step ?_ event
    rcases isStopped_step hstopped with hbefore | hdied | hcancelled | ⟨result, hresult⟩
    · exact h.watcher hbefore
    · exact absurd hdied halive
    · exact hcancelled
    · exact (h.result result hresult).1
  result result hresult := by
    rcases result?_step hresult with hbefore | ⟨hcancelled, hok⟩ | ⟨hdeserted, hactive⟩
    · obtain ⟨hcancelled, hok⟩ := h.result result hbefore
      exact ⟨cancelled_step hcancelled event, hok⟩
    · exact ⟨cancelled_step hcancelled event, hok⟩
    · exact absurd (hactive.symm.trans (h.deserted hdeserted)) Bool.false_ne_true
  deserted hdeserted := by
    refine cancelled_step ?_ event
    rcases deserted_step hdeserted with hbefore | hstopped
    · exact h.deserted hbefore
    · exact h.watcher hstopped

theorem Standing.run {events : List Loop.Event} (h : Standing turn)
    (halive : .watchDied ∉ events) : Standing (turn.run events).turn := by
  induction events generalizing turn with
  | nil => exact h
  | cons event rest ih =>
    have hevent : event ≠ .watchDied := (List.ne_of_not_mem_cons halive).symm
    have hrest : .watchDied ∉ rest := List.not_mem_of_not_mem_cons halive
    exact ih (h.step hevent) hrest

end Turn

namespace Loop

/-- A run never ends by itself.

Unless the watcher breaks down, and whatever the catalog and the cluster answer in whatever order,
the watcher has ended only if the run was cancelled, and so has the consumer, without an error. The
consumer never finds the slot empty and the watcher ended in a run that is not cancelled, also when
the parts of its looks are taken one by one. -/
theorem standing_of_run (scope : Scope) (interval : Duration) (pace : Pace) (now : Instant)
    (events : List Event) (halive : .watchDied ∉ events) :
    let loop := ((Loop.start scope interval pace now).loop.run events).loop
    let turn := ((Turn.start scope interval pace now).run events).turn
    (loop.watcher.isStopped = true → loop.cancelled = true) ∧
      (∀ result, loop.result? = some result → loop.cancelled = true ∧ result = .ok ()) ∧
      turn.Standing := by
  intro loop turn
  have hstart := Turn.standing_start scope interval pace now
  obtain ⟨parts, hparts, hrun⟩ := Turn.takes_run (Loop.start scope interval pace now).loop events
  have hquiet : .watchDied ∉ parts := by
    intro hdied
    rcases hparts _ hdied with hmem | ⟨moment, hpoll⟩
    · exact halive hmem
    · cases hpoll
  have hstanding := hstart.run hquiet
  rw [Turn.start, hrun] at hstanding
  exact ⟨hstanding.watcher, hstanding.result, hstart.run halive⟩

/-- A run that is cancelled when its consumer has just been told that it is not. The watcher ends
before the consumer comes to the slot. -/
def lateCancel : List Event := [.poll 0, .poll 0, .cancel, .watchCancelled, .poll 0]

/-- The consumer finds itself deserted there, asks once more whether the run is cancelled, and ends
the loop without an error. -/
theorem standing_of_lateCancel :
    let start := Turn.start ⟨"default", .disabled⟩ (.ofSeconds 60) .standard 0
    let turn := (start.run lateCancel).turn
    .watchDied ∉ lateCancel ∧ turn.stage = .deserted ∧ turn.loop.cancelled = true ∧
      (turn.step (.poll 0)).turn.loop.result? = some (.ok ()) := by
  intro start turn
  have halive : .watchDied ∉ lateCancel := by simp [lateCancel]
  have hdeserted : turn.stage = .deserted := rfl
  obtain ⟨_, _, hstanding⟩ :=
    standing_of_run ⟨"default", .disabled⟩ (.ofSeconds 60) .standard 0 lateCancel halive
  exact ⟨halive, hdeserted, hstanding.deserted hdeserted, rfl⟩

end Loop

end CatalogBridge
