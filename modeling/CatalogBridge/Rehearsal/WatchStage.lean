import CatalogBridge.Rehearsal.Script
import CatalogBridge.Rehearsal.Timers
import CatalogBridge.Watch.Survey
import CatalogBridge.Watch.Watcher

/-!
# Rehearsing the watcher

The watcher against a scripted catalog, on a virtual clock, with somebody who takes its snapshots,
lets go of them, or makes a survey of their own. That one acts first whenever time has passed.
-/

namespace CatalogBridge.Rehearsal

/-- A piece of work of the watcher or of a survey. -/
inductive WatchWork where
  | watch (input : Watcher.Input)
  | survey (input : Survey.Input)
  | askWatch (request : Watcher.Request)
  | askSurvey (request : Survey.Request)

/-- Whether a piece of work belongs to the watcher. -/
def WatchWork.isWatcher : WatchWork → Bool
  | .watch _ | .askWatch _ => true
  | .survey _ | .askSurvey _ => false

/-- A watcher that may not have started yet, the slot, a survey, and what was seen
since the last look. -/
structure WatchStage where
  pace : Pace
  script : Script
  watcher : Option Watcher
  slot : Option Snapshot
  dropped : Bool
  cancelled : Bool
  survey : Option Survey
  found : Option (Except Error Snapshot)
  timers : Timers WatchWork
  surveyWork : List WatchWork
  watcherWork : List WatchWork
  asked : List Asked
  notices : List Notice
  metrics : Metrics

/-- How waiting for a snapshot ends. -/
inductive Received where
  | snapshot (snapshot : Snapshot)
  | timeout
  | closed

namespace WatchStage

/-- Before the start. -/
def initial (pace : Pace) (script : Script) : WatchStage where
  pace := pace
  script := script
  watcher := none
  slot := none
  dropped := false
  cancelled := false
  survey := none
  found := none
  timers := .initial
  surveyWork := []
  watcherWork := []
  asked := []
  notices := []
  metrics := .initial

/-- Work at the end of its queue. -/
def push (stage : WatchStage) (work : WatchWork) : WatchStage :=
  if work.isWatcher then { stage with watcherWork := stage.watcherWork ++ [work] }
  else { stage with surveyWork := stage.surveyWork ++ [work] }

/-- Work at the front of its queue. -/
def pushFront (stage : WatchStage) (work : WatchWork) : WatchStage :=
  if work.isWatcher then { stage with watcherWork := work :: stage.watcherWork }
  else { stage with surveyWork := work :: stage.surveyWork }

/-- Work now or after a delay. -/
def later (stage : WatchStage) (delay : Nat) (work : WatchWork) : WatchStage :=
  if delay = 0 then stage.pushFront work else { stage with timers := stage.timers.after delay work }

/-- The stage with what was told and counted. -/
def absorb (stage : WatchStage) (effects : List Effect) : WatchStage :=
  { stage with
    notices := stage.notices ++ Effect.notices effects
    metrics := stage.metrics.recordAll (Effect.measurements effects) }

/-- Put an offered snapshot into the slot if it is free, or tell the watcher that
nobody takes it. -/
def handOver (stage : WatchStage) : WatchStage :=
  match stage.watcher.bind Watcher.offered? with
  | none => stage
  | some snapshot =>
    if stage.dropped then stage.pushFront (.watch .refused)
    else if stage.slot.isNone then { stage with slot := some snapshot }.pushFront (.watch .accepted)
    else stage

/-- The stage after a reaction of the watcher. -/
def follow (stage : WatchStage) (reaction : Watcher.Reaction) : WatchStage :=
  let stage := { stage.absorb reaction.effects with watcher := some reaction.watcher }
  reaction.requests.foldl (fun stage request => stage.push (.askWatch request)) stage

/-- The stage after a survey went on. -/
def followSurvey (stage : WatchStage) (progress : Survey.Progress) (effects : List Effect) :
    WatchStage :=
  let stage := stage.absorb effects
  match progress with
  | .running survey queries =>
    queries.foldl (fun stage query => stage.push (.askSurvey (.instances query)))
      { stage with survey := some survey }
  | .done result => { stage with survey := none, found := some result }

/-- Note a query. -/
def note (stage : WatchStage) (text : String) : WatchStage :=
  { stage with asked := stage.asked ++ [⟨stage.timers.now, text⟩] }

/-- The work of an outcome. -/
def workOf {α : Type} (work : Except Error α → WatchWork) (breakdown : Option WatchWork) :
    Outcome α → Option WatchWork
  | .answer value => some (work (.ok value))
  | .failure error => some (work (.error error))
  | .breakdown => breakdown

/-- A listing is asked. -/
def askList (stage : WatchStage) (index : ChangeIndex) (work : Except Error CatalogPage → WatchWork)
    (breakdown : Option WatchWork) : WatchStage :=
  let stage := stage.note (listText index)
  let (scripted, script) := stage.script.list index
  let stage := { stage with script := script }
  match scripted.bind fun scripted =>
    (workOf work breakdown scripted.outcome).map (scripted.delay, ·) with
  | some (delay, work) => stage.later delay work
  | none => stage

/-- A health query is asked. -/
def askHealth (stage : WatchStage) (query : InstanceQuery)
    (work : Except Error (List Instance) → WatchWork) (breakdown : Option WatchWork) :
    WatchStage :=
  let stage := stage.note (healthText query.name)
  let (scripted, script) := stage.script.health query.name
  let stage := { stage with script := script }
  match workOf work breakdown scripted.outcome with
  | some work => stage.later scripted.delay work
  | none => stage

/-- A watcher that has ended does nothing more. -/
def dropWatcherWork (stage : WatchStage) : WatchStage :=
  if stage.watcher.any Watcher.isStopped then { stage with watcherWork := [] } else stage

/-- Do one piece of work. -/
def work (stage : WatchStage) : WatchWork → WatchStage
  | .watch input =>
    match stage.watcher with
    | some watcher => (stage.follow (watcher.step input)).dropWatcherWork
    | none => stage
  | .survey input =>
    match stage.survey with
    | some survey =>
      let (progress, effects) := survey.step input
      stage.followSurvey progress effects
    | none => stage
  | .askWatch (.list index) =>
    stage.askList index (fun answer => .watch (.listed answer)) (some (.watch .died))
  | .askWatch (.instances query) =>
    stage.askHealth query (fun answer => .watch (.fetched query.position answer))
      (some (.watch .died))
  | .askWatch (.sleep delay) => stage.later ((delay.nanos + 999999) / 1000000) (.watch .woke)
  | .askWatch (.offer _) => stage.handOver
  | .askSurvey .list => stage.askList Survey.index (fun answer => .survey (.listed answer)) none
  | .askSurvey (.instances query) =>
    stage.askHealth query (fun answer => .survey (.fetched query.position answer)) none

/-- The next piece of work; a survey goes first. -/
def next? (stage : WatchStage) : Option (WatchWork × WatchStage) :=
  match stage.surveyWork, stage.watcherWork with
  | work :: rest, _ => some (work, { stage with surveyWork := rest })
  | [], work :: rest => some (work, { stage with watcherWork := rest })
  | [], [] => none

/-- Do everything that can happen at the current moment, but no more than so many pieces of work. -/
def settle : Nat → WatchStage → WatchStage
  | 0, stage => stage
  | fuel + 1, stage =>
    match stage.next? with
    | some (work, stage) => settle fuel (stage.work work)
    | none => stage

/-- Move the clock to a moment and put to work what it brings. -/
def moveTo (stage : WatchStage) (moment : Nat) : WatchStage :=
  let (timers, due) := stage.timers.moveTo moment
  due.foldl push { stage with timers := timers }

/-- Do the work of a survey only. -/
def settleSurvey : Nat → WatchStage → WatchStage
  | 0, stage => stage
  | fuel + 1, stage =>
    match stage.surveyWork with
    | work :: rest => settleSurvey fuel ({ stage with surveyWork := rest }.work work)
    | [] => stage

/-- Let time pass until something is there or a moment is reached, for so many moments at most. At
the moment itself whoever waits acts before anything else, so it is left to `settle`. The flag
tells whether the thing was there. -/
def waitUntil (there : WatchStage → Bool) (work : Nat) : Nat → Nat → WatchStage → Bool × WatchStage
  | 0, limit, stage => (false, stage.moveTo limit)
  | fuel + 1, limit, stage =>
    if there stage then (true, stage)
    else
      match stage.timers.next? with
      | some moment =>
        if moment < limit then
          let stage := (stage.moveTo moment).settleSurvey work
          if there stage then (true, stage) else waitUntil there work fuel limit (stage.settle work)
        else (false, stage.moveTo limit)
      | none => (false, stage.moveTo limit)

/-- Whether the watcher has ended. -/
def watcherEnded (stage : WatchStage) : Bool := stage.watcher.all Watcher.isStopped

/-- Start the watcher. -/
def start (stage : WatchStage) : WatchStage :=
  let stage := stage.follow (Watcher.start stage.pace)
  if stage.cancelled then stage.pushFront (.watch .cancelled) else stage

/-- Wait for a snapshot up to a moment. -/
def receive (work fuel limit : Nat) (stage : WatchStage) : Received × WatchStage :=
  let (_, stage) :=
    waitUntil (fun stage => stage.slot.isSome || stage.watcherEnded) work fuel limit stage
  match stage.slot with
  | some snapshot => (.snapshot snapshot, { stage with slot := none }.handOver)
  | none => (if stage.watcherEnded then .closed else .timeout, stage)

/-- Let time pass up to a moment. -/
def sleep (work fuel limit : Nat) (stage : WatchStage) : WatchStage :=
  (waitUntil (fun _ => false) work fuel limit stage).2

/-- Cancel the watch. -/
def cancel (stage : WatchStage) : WatchStage :=
  { stage with cancelled := true }.pushFront (.watch .cancelled)

/-- Let go of the slot. -/
def drop (stage : WatchStage) : WatchStage := { stage with dropped := true, slot := none }.handOver

/-- Make a survey, given up at a moment. -/
def surveyAll (work fuel limit : Nat) (stage : WatchStage) :
    Option (Except Error Snapshot) × WatchStage :=
  let stage := { stage with survey := some .listing, found := none }.push (.askSurvey .list)
  let (_, stage) :=
    waitUntil (fun stage => stage.found.isSome) work fuel limit (stage.settleSurvey work)
  (stage.found, { stage with survey := none, found := none, surveyWork := [] })

end WatchStage

end CatalogBridge.Rehearsal
