import CatalogBridge.Proofs.Reconcile.Ledger

/-!
# The parts of a look

A look of the consumer is one event of the loop. The consumer goes through it part by
part, though: it asks whether the run is cancelled, then whether a tick is due, then
whether a snapshot waits, and what it found it starts after it has asked once more
whether the run is cancelled. The watcher goes on meanwhile, and the run may be
cancelled between any two parts.

* A `Turn` is a loop with the `Stage` of the look at which the consumer is. The events
  are those of the loop; a poll of a turn is the next part, and all others may happen at
  every stage. A query or a request that is answered while the consumer is working is
  taken up at once, without asking whether the run is cancelled.
* `takes_step` says that an event of the loop comes about part by part if nothing else
  happens meanwhile: a look (`takes_look`), and an answer for a survey or a sync
  (`takes_surveyed`, `takes_answered`). `takes_run` says so of runs, so what holds of
  every run of turns holds of every run of the loop.
-/

namespace CatalogBridge

/-- How far the consumer has come with a look. -/
inductive Stage where
  /-- It is between two looks; it asks next whether the run is cancelled. -/
  | resting
  /-- It goes on with what is under way. -/
  | working
  /-- It asks next whether a tick is due. -/
  | timing
  /-- It asks next whether a snapshot waits. -/
  | receiving
  /-- It has served a tick, and is about to list the catalog. -/
  | ticked
  /-- It has a snapshot, and is about to sync it. -/
  | holding (trigger : Trigger) (snapshot : Snapshot)
  /-- No snapshot waits and the watcher has ended. -/
  | deserted

/-- A loop and the stage of its consumer. -/
structure Turn where
  loop : Loop
  stage : Stage

namespace Turn

/-- What an event leads to. -/
structure Reaction where
  turn : Turn
  requests : List Loop.Request
  notices : List Notice

/-- A reaction of the loop, after which the consumer is at a stage. -/
def reach (reaction : Loop.Reaction) (stage : Stage) : Reaction :=
  ⟨⟨reaction.loop, stage⟩, reaction.requests, reaction.notices⟩

/-- One reaction after another. -/
def Reaction.followed (first later : Reaction) : Reaction :=
  ⟨later.turn, first.requests ++ later.requests, first.notices ++ later.notices⟩

/-- The consumer is at work as long as a sync or a survey is under way. -/
def settle (reaction : Loop.Reaction) : Reaction :=
  match reaction.loop.consumer with
  | .syncing _ _ _ | .surveying _ => reach reaction .working
  | .idle | .ended _ => reach reaction .resting

/-- The loop stops because the run is cancelled. -/
def stop (loop : Loop) : Reaction :=
  reach ⟨{ loop with consumer := .ended (.ok ()) }, [], [.loopStopped]⟩ .resting

/-- The next part of a look. -/
def poll (loop : Loop) (now : Instant) : Stage → Reaction
  | .resting =>
    match loop.consumer with
    | .ended _ => reach loop.stay .resting
    | .idle => if loop.cancelled then stop loop else reach loop.stay .timing
    | .surveying _ | .syncing _ _ _ =>
      if loop.cancelled then reach loop.abandon .resting else reach loop.stay .working
  | .working => reach loop.stay .resting
  | .timing =>
    if loop.ticker.isDue now then
      reach ⟨{ loop with ticker := loop.ticker.serve now }, [], []⟩ .ticked
    else reach loop.stay .receiving
  | .receiving =>
    match loop.slot with
    | some snapshot =>
      reach ⟨{ loop with slot := none }, [], [.reconciling .watch snapshot.length]⟩
        (.holding .watch snapshot)
    | none => reach loop.stay (if loop.watcher.isStopped then .deserted else .resting)
  | .ticked =>
    if loop.cancelled then reach loop.stay .resting
    else reach ⟨{ loop with consumer := .surveying .listing }, [.survey .list], []⟩ .working
  | .holding trigger snapshot =>
    if loop.cancelled then reach ⟨loop, [], [.interrupted trigger]⟩ .resting
    else settle (loop.advance trigger (Sync.cycle loop.scope snapshot))
  | .deserted =>
    if loop.cancelled then stop loop
    else
      let error : Error := .internal "reconciler" "consul watch stream closed unexpectedly"
      reach ⟨{ loop with consumer := .ended (.error error) }, [], []⟩ .resting

/-- A survey went on. What it found is held until the consumer has asked whether the run is
cancelled. -/
def onSurvey (loop : Loop) : Survey.Progress → Reaction
  | .done (.ok snapshot) =>
    reach ⟨{ loop with consumer := .idle }, [], [.reconciling .resync snapshot.length]⟩
      (.holding .resync snapshot)
  | progress => settle (loop.onSurvey progress)

/-- One step. -/
def step (turn : Turn) : Loop.Event → Reaction
  | .poll now => poll turn.loop now turn.stage
  | .surveyed input =>
    match turn.stage, turn.loop.consumer with
    | .working, .surveying survey =>
      let (progress, effects) := survey.step input
      let reaction := onSurvey (turn.loop.absorb effects) progress
      { reaction with notices := Effect.notices effects ++ reaction.notices }
    | _, _ => reach turn.loop.stay turn.stage
  | .answered call answer =>
    match turn.stage, turn.loop.consumer with
    | .working, .syncing trigger pending next =>
      if hcall : call = pending then
        settle (turn.loop.advance trigger (next (hcall ▸ answer)))
      else reach turn.loop.stay turn.stage
    | _, _ => reach turn.loop.stay turn.stage
  | event => reach (turn.loop.step event) turn.stage

/-- A run: the turn after a list of events, and everything it asked for and told on the way, in
order. -/
def run : Turn → List Loop.Event → Reaction
  | turn, [] => reach turn.loop.stay turn.stage
  | turn, event :: rest => (turn.step event).followed ((turn.step event).turn.run rest)

/-- A loop that has just started; its consumer has not looked yet. -/
def start (scope : Scope) (interval : Duration) (pace : Pace) (now : Instant) : Turn :=
  ⟨(Loop.start scope interval pace now).loop, .resting⟩

/-! ## Runs of parts -/

section

variable {turn : Turn} {loop : Loop} {event part : Loop.Event} {first later goal : Reaction}

theorem followed_assoc (first second third : Reaction) :
    (first.followed second).followed third = first.followed (second.followed third) := by
  simp only [Reaction.followed, List.append_assoc]

theorem run_append (turn : Turn) (front back : List Loop.Event) :
    turn.run (front ++ back) = (turn.run front).followed ((turn.run front).turn.run back) := by
  induction front generalizing turn with
  | nil => rfl
  | cons event rest ih =>
    show (turn.step event).followed ((turn.step event).turn.run (rest ++ back)) = _
    rw [ih, ← followed_assoc]
    rfl

/-- A reaction comes about through an event and parts of looks. -/
def Takes (turn : Turn) (event : Loop.Event) (goal : Reaction) : Prop :=
  ∃ parts, (∀ part ∈ parts, part = event ∨ ∃ now, part = .poll now) ∧ turn.run parts = goal

theorem takes_rest (loop : Loop) (event : Loop.Event) :
    Takes ⟨loop, .resting⟩ event (reach loop.stay .resting) := by
  refine ⟨[], ?_, rfl⟩
  intro part hpart
  cases hpart

theorem Takes.cons (hpart : part = event ∨ ∃ now, part = .poll now) (hstep : turn.step part = first)
    (h : Takes first.turn event later) (hgoal : first.followed later = goal) :
    Takes turn event goal := by
  obtain ⟨parts, hparts, hrun⟩ := h
  refine ⟨part :: parts, List.forall_mem_cons.2 ⟨hpart, hparts⟩, ?_⟩
  rw [run, hstep, hrun, hgoal]

theorem reach_followed (reaction : Loop.Reaction) (stage : Stage) :
    (reach reaction stage).followed (reach reaction.loop.stay .resting)
      = reach reaction .resting := by
  simp only [Reaction.followed, reach, Loop.stay, List.append_nil]

/-- The last part of a look. -/
theorem Takes.last {reaction : Loop.Reaction} (hpart : part = event ∨ ∃ now, part = .poll now)
    (hstep : turn.step part = reach reaction .resting) :
    Takes turn event (reach reaction .resting) :=
  .cons hpart hstep (takes_rest reaction.loop event) (reach_followed reaction .resting)

/-- The consumer goes on to the next part of its look. -/
theorem Takes.poll {now : Instant} {next : Turn} (hstep : turn.step (.poll now) = ⟨next, [], []⟩)
    (h : Takes next event goal) : Takes turn event goal :=
  .cons (Or.inr ⟨now, rfl⟩) hstep h rfl

/-- What is under way waits for its answer, or it is over. -/
theorem takes_settle (reaction : Loop.Reaction) (event : Loop.Event) :
    Takes (settle reaction).turn event (reach reaction.loop.stay .resting) := by
  have hrest := takes_rest reaction.loop event
  have hstep : step ⟨reaction.loop, .working⟩ (.poll 0) = reach reaction.loop.stay .resting := rfl
  unfold settle
  cases reaction.loop.consumer with
  | syncing trigger call next | surveying survey => exact .poll hstep hrest
  | idle | ended result => exact hrest

theorem settle_followed (reaction : Loop.Reaction) :
    (settle reaction).followed (reach reaction.loop.stay .resting) = reach reaction .resting := by
  unfold settle
  cases reaction.loop.consumer <;> exact reach_followed reaction _

/-- A snapshot that is held is synced, if the run is not cancelled. -/
theorem takes_holding (loop : Loop) (hactive : ¬loop.cancelled = true) (trigger : Trigger)
    (snapshot : Snapshot) (event : Loop.Event) :
    Takes ⟨loop, .holding trigger snapshot⟩ event
      (reach (loop.advance trigger (Sync.cycle loop.scope snapshot)) .resting) := by
  have hstep : step ⟨loop, .holding trigger snapshot⟩ (.poll 0)
      = settle (loop.advance trigger (Sync.cycle loop.scope snapshot)) := by
    rw [step, poll, if_neg hactive]
  exact .cons (Or.inr ⟨0, rfl⟩) hstep (takes_settle _ event) (settle_followed _)

/-! ## Events of the loop -/

/-- A tick that is served. -/
theorem takes_ticked (loop : Loop) (hactive : ¬loop.cancelled = true) (now : Instant)
    (event : Loop.Event) :
    Takes ⟨loop, .ticked⟩ event
      (reach ⟨{ loop with consumer := .surveying .listing }, [.survey .list], []⟩ .resting) := by
  let listing : Loop := { loop with consumer := .surveying .listing }
  have hlist : step ⟨loop, .ticked⟩ (.poll now)
      = reach ⟨listing, [.survey .list], []⟩ .working := by
    rw [step, poll, if_neg hactive]
  have hwait : step ⟨listing, .working⟩ (.poll now) = reach listing.stay .resting := rfl
  exact .cons (Or.inr ⟨now, rfl⟩) hlist (.poll hwait (takes_rest listing event)) rfl

/-- The slot, when no tick is due. -/
theorem takes_receiving (loop : Loop) (hactive : ¬loop.cancelled = true) (now : Instant)
    (event : Loop.Event) :
    Takes ⟨loop, .receiving⟩ event
      (reach (match loop.slot with
        | some snapshot => { loop with slot := none }.begin .watch snapshot
        | none =>
          if loop.watcher.isStopped then
            let error : Error := .internal "reconciler" "consul watch stream closed unexpectedly"
            ⟨{ loop with consumer := .ended (.error error) }, [], []⟩
          else loop.stay) .resting) := by
  have hstep : step ⟨loop, .receiving⟩ (.poll now) = poll loop now .receiving := rfl
  rw [poll] at hstep
  split at hstep
  · rename_i snapshot hslot
    let taken : Loop := { loop with slot := none }
    exact .cons (Or.inr ⟨now, rfl⟩) hstep (takes_holding taken hactive .watch snapshot event) rfl
  · by_cases hstopped : loop.watcher.isStopped = true
    · rw [if_pos hstopped] at hstep ⊢
      have hlast : step ⟨loop, .deserted⟩ (.poll now) = poll loop now .deserted := rfl
      rw [poll, if_neg hactive] at hlast
      exact .poll hstep (.poll hlast (takes_rest _ event))
    · rw [if_neg hstopped] at hstep ⊢
      exact .poll hstep (takes_rest loop event)

/-- The consumer looks at its sources. -/
theorem takes_look (now : Instant) (hidle : loop.consumer = .idle) :
    Takes ⟨loop, .resting⟩ (.poll now) (reach (loop.look now) .resting) := by
  have hstep : step ⟨loop, .resting⟩ (.poll now) = poll loop now .resting := rfl
  rw [poll, hidle] at hstep
  unfold Loop.look
  by_cases hcancelled : loop.cancelled = true
  · simp only [if_pos hcancelled] at hstep ⊢
    exact .last (Or.inr ⟨now, rfl⟩) hstep
  · simp only [if_neg hcancelled] at hstep ⊢
    refine .poll hstep ?_
    have hnext : step ⟨loop, .timing⟩ (.poll now) = poll loop now .timing := rfl
    rw [poll] at hnext
    by_cases hdue : loop.ticker.isDue now = true
    · simp only [if_pos hdue] at hnext ⊢
      let served : Loop := { loop with ticker := loop.ticker.serve now }
      exact .poll hnext (takes_ticked served hcancelled now _)
    · simp only [if_neg hdue] at hnext ⊢
      exact .poll hnext (takes_receiving loop hcancelled now _)

/-- A sync that goes on says what the consumer does next, whatever it did before. -/
theorem advance_consumer (loop : Loop) (consumer : Consumer) (trigger : Trigger)
    (program : Program (Except Error Summary)) :
    { loop with consumer := consumer }.advance trigger program = loop.advance trigger program := by
  unfold Loop.advance
  generalize program.pause = reached
  obtain ⟨effects, paused⟩ := reached
  cases paused with
  | ask call next => rfl
  | done result => cases result <;> rfl

/-- A survey goes on, and what it found is synced. -/
theorem takes_onSurvey (loop : Loop) (hactive : ¬loop.cancelled = true)
    (progress : Survey.Progress) (event : Loop.Event) :
    ∃ rest, Takes (onSurvey loop progress).turn event rest ∧
      (onSurvey loop progress).followed rest = reach (loop.onSurvey progress) .resting := by
  cases progress with
  | running survey queries => exact ⟨_, takes_settle _ event, settle_followed _⟩
  | done result =>
    cases result with
    | error error => exact ⟨_, takes_settle _ event, settle_followed _⟩
    | ok snapshot =>
      let held : Loop := { loop with consumer := .idle }
      refine ⟨_, takes_holding held hactive .resync snapshot event, ?_⟩
      rw [advance_consumer]
      rfl

/-- A busy consumer asks whether the run is cancelled, and if it is not it takes the event up. -/
theorem takes_busy {reaction : Loop.Reaction} (hidle : loop.consumer ≠ .idle)
    (hrunning : ∀ result, loop.consumer ≠ .ended result)
    (h : ¬loop.cancelled = true → Takes ⟨loop, .working⟩ event (reach reaction .resting)) :
    Takes ⟨loop, .resting⟩ event (reach (loop.unlessCancelled reaction) .resting) := by
  have hstep : step ⟨loop, .resting⟩ (.poll 0)
      = if loop.cancelled then reach loop.abandon .resting else reach loop.stay .working := by
    simp only [step, poll]
    cases hconsumer : loop.consumer with
    | idle => exact absurd hconsumer hidle
    | ended result => exact absurd hconsumer (hrunning result)
    | surveying survey | syncing trigger call next => rfl
  unfold Loop.unlessCancelled
  by_cases hcancelled : loop.cancelled = true
  · rw [if_pos hcancelled] at hstep ⊢
    exact .last (Or.inr ⟨0, rfl⟩) hstep
  · rw [if_neg hcancelled] at hstep ⊢
    exact .poll hstep (h hcancelled)

/-- The survey under way gets an answer. -/
theorem takes_surveyed {survey : Survey} (hconsumer : loop.consumer = .surveying survey)
    (hactive : ¬loop.cancelled = true) (input : Survey.Input) :
    let found := survey.step input
    let reaction := (loop.absorb found.2).onSurvey found.1
    Takes ⟨loop, .working⟩ (.surveyed input)
      (reach { reaction with notices := Effect.notices found.2 ++ reaction.notices } .resting) := by
  intro found reaction
  let first := onSurvey (loop.absorb found.2) found.1
  have hstep : step ⟨loop, .working⟩ (.surveyed input)
      = { first with notices := Effect.notices found.2 ++ first.notices } := by
    simp only [step, hconsumer]
    rfl
  obtain ⟨rest, hrest, hgoal⟩ :=
    takes_onSurvey (loop.absorb found.2) hactive found.1 (.surveyed input)
  refine .cons (Or.inl rfl) hstep hrest ?_
  calc Reaction.followed { first with notices := Effect.notices found.2 ++ first.notices } rest
      = { first.followed rest with
          notices := Effect.notices found.2 ++ (first.followed rest).notices } := by
        simp only [Reaction.followed, List.append_assoc]
    _ = _ := by rw [hgoal]; rfl

/-- The sync under way gets an answer. -/
theorem takes_answered {trigger : Trigger} {pending : ClusterCall}
    {next : Except Error pending.Answer → Program (Except Error Summary)}
    (hconsumer : loop.consumer = .syncing trigger pending next) (call : ClusterCall)
    (answer : Except Error call.Answer) :
    Takes ⟨loop, .working⟩ (.answered call answer)
      (reach (if hcall : call = pending then loop.advance trigger (next (hcall ▸ answer))
        else loop.stay) .resting) := by
  have hstep : step ⟨loop, .working⟩ (.answered call answer)
      = if hcall : call = pending then settle (loop.advance trigger (next (hcall ▸ answer)))
        else reach loop.stay .working := by
    simp only [step, hconsumer]
  split_ifs at hstep ⊢ with hcall
  · exact .cons (Or.inl rfl) hstep (takes_settle _ _) (settle_followed _)
  · have hwait : step ⟨loop, .working⟩ (.poll 0) = reach loop.stay .resting := rfl
    exact .poll hwait (takes_rest loop _)

/-- Each event of the loop comes about part by part. -/
theorem takes_step (loop : Loop) (event : Loop.Event) :
    Takes ⟨loop, .resting⟩ event (reach (loop.step event) .resting) := by
  cases event with
  | watchListed answer | watchWoke | watchFetched position answer | watchDied | watchCancelled
  | handOver | cancel => exact .last (Or.inl rfl) rfl
  | poll now =>
    simp only [Loop.step]
    split
    · rename_i hidle
      exact takes_look now hidle
    · exact takes_rest loop _
    · rename_i hidle hrunning
      have hwait : step ⟨loop, .working⟩ (.poll now) = reach loop.stay .resting := rfl
      exact takes_busy hidle hrunning fun _ => .poll hwait (takes_rest loop _)
  | surveyed input =>
    simp only [Loop.step]
    split
    · rename_i survey hconsumer
      exact takes_busy (by simp [hconsumer]) (by simp [hconsumer]) fun hactive =>
        takes_surveyed hconsumer hactive input
    · exact takes_rest loop _
  | answered call answer =>
    simp only [Loop.step]
    split
    · rename_i trigger pending next hconsumer
      exact takes_busy (by simp [hconsumer]) (by simp [hconsumer]) fun _ =>
        takes_answered hconsumer call answer
    · exact takes_rest loop _

/-- Every run of the loop is a run of turns that asks for the same and tells the same. -/
theorem takes_run (loop : Loop) (events : List Loop.Event) :
    ∃ parts, (∀ part ∈ parts, part ∈ events ∨ ∃ now, part = .poll now) ∧
      run ⟨loop, .resting⟩ parts = reach (loop.run events) .resting := by
  induction events generalizing loop with
  | nil =>
    refine ⟨[], ?_, rfl⟩
    intro part hpart
    cases hpart
  | cons event rest ih =>
    obtain ⟨front, hfront, hfirst⟩ := takes_step loop event
    obtain ⟨back, hback, hlater⟩ := ih (loop.step event).loop
    refine ⟨front ++ back, ?_, ?_⟩
    · intro part hpart
      rcases List.mem_append.1 hpart with hpart | hpart
      · exact (hfront part hpart).imp_left fun hsame => List.mem_cons.2 (Or.inl hsame)
      · exact (hback part hpart).imp_left (List.mem_cons_of_mem event)
    · rw [run_append, hfirst]
      show (reach (loop.step event) .resting).followed
        (run ⟨(loop.step event).loop, .resting⟩ back) = _
      rw [hlater]
      rfl

end

end Turn

end CatalogBridge
