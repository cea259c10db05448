import CatalogBridge.Reconcile.Loop
import CatalogBridge.Rehearsal.Faults
import CatalogBridge.Rehearsal.Script
import CatalogBridge.Rehearsal.Timers

/-!
# Rehearsing the loop

The reconcile loop against a scripted catalog and a cluster in memory, on a virtual clock. The
stage only chooses which event comes next: answers that take no time come at once, the watcher and
the consumer each run until they wait, and time passes when nothing else can happen.
-/

namespace CatalogBridge.Rehearsal

/-- Who has work to do. -/
inductive Task where
  | watcher
  | consumer
  deriving DecidableEq

/-- A piece of work: an event of the loop, or a request whose turn has come. -/
inductive Work where
  | event (event : Loop.Event)
  | perform (request : Loop.Request)
  /-- The timer of the resync has run out. -/
  | tick
  /-- A request takes effect in the cluster. -/
  | settle (call : ClusterCall)

/-- Whose work a piece is. -/
def Work.task : Work → Task
  | .event (.watchListed _) | .event .watchWoke | .event (.watchFetched _ _) | .event .watchDied
  | .event .watchCancelled | .event .handOver | .perform (.watch _) => .watcher
  | _ => .consumer

/-- Whether a piece of work is a look at the sources. -/
def Work.isPoll : Work → Bool
  | .event (.poll _) => true
  | _ => false

/-- Whether a piece of work is a handing over. -/
def Work.isHandOver : Work → Bool
  | .event .handOver => true
  | _ => false

/-- A loop that may not have started yet, its surroundings, and what was seen
since the last look. -/
structure LoopStage where
  scope : Scope
  interval : Duration
  pace : Pace
  loop : Option Loop
  cancelled : Bool
  script : Script
  plant : Plant
  timers : Timers Work
  /-- Whether the timer of the resync is set. -/
  armed : Bool
  turn : Task
  watcherWork : List Work
  consumerWork : List Work
  asked : List Asked
  called : List String
  notices : List Notice

namespace LoopStage

/-- Before the start. -/
def initial (scope : Scope) (interval : Duration) (pace : Pace) (script : Script) : LoopStage where
  scope := scope
  interval := interval
  pace := pace
  loop := none
  cancelled := false
  script := script
  plant := .initial
  timers := .initial
  armed := false
  turn := .consumer
  watcherWork := []
  consumerWork := []
  asked := []
  called := []
  notices := []

/-- The moment of the clock as the loop sees it. -/
def instant (stage : LoopStage) : Instant := stage.timers.now * 1000000

/-- Work at the end of its task's queue. -/
def push (stage : LoopStage) (work : Work) : LoopStage :=
  match work.task with
  | .watcher => { stage with watcherWork := stage.watcherWork ++ [work] }
  | .consumer => { stage with consumerWork := stage.consumerWork ++ [work] }

/-- Work at the front of its task's queue. -/
def pushFront (stage : LoopStage) (work : Work) : LoopStage :=
  match work.task with
  | .watcher => { stage with watcherWork := work :: stage.watcherWork }
  | .consumer => { stage with consumerWork := work :: stage.consumerWork }

/-- Work now or after a delay. -/
def later (stage : LoopStage) (delay : Nat) (work : Work) : LoopStage :=
  if delay = 0 then stage.pushFront work else { stage with timers := stage.timers.after delay work }

/-- Set the timer of the resync when the consumer begins to wait for it. -/
def arm (stage : LoopStage) : LoopStage :=
  match stage.loop with
  | some loop =>
    match loop.consumer with
    | .idle =>
      if stage.armed || loop.ticker.isDue stage.instant then stage
      else
        { stage with
          armed := true
          timers := stage.timers.after
            ((loop.ticker.due - stage.instant + 999999) / 1000000) .tick }
    | _ => stage
  | none => stage

/-- Put the consumer and the watcher to work if their sources call for it. -/
def prompt (stage : LoopStage) : LoopStage :=
  match stage.loop with
  | none => stage
  | some loop =>
    let stage :=
      if loop.wantsHandOver && !stage.watcherWork.any Work.isHandOver then
        stage.pushFront (.event .handOver)
      else stage
    if loop.wantsLook stage.instant && !stage.consumerWork.any Work.isPoll then
      stage.push (.event (.poll stage.instant))
    else stage

/-- The stage after a reaction of the loop. -/
def follow (stage : LoopStage) (reaction : Loop.Reaction) : LoopStage :=
  let stage :=
    { stage with loop := some reaction.loop, notices := stage.notices ++ reaction.notices }.arm
  (reaction.requests.foldl (fun stage request => stage.push (.perform request)) stage).prompt

/-- Note a query. -/
def note (stage : LoopStage) (text : String) : LoopStage :=
  { stage with asked := stage.asked ++ [⟨stage.timers.now, text⟩] }

/-- The event of an outcome; a consumer that breaks down gets no answer. -/
def eventOf {α : Type} (event : Except Error α → Loop.Event) (breakdown : Option Loop.Event) :
    Outcome α → Option Loop.Event
  | .answer value => some (event (.ok value))
  | .failure error => some (event (.error error))
  | .breakdown => breakdown

/-- A listing is asked. -/
def askList (stage : LoopStage) (index : ChangeIndex)
    (event : Except Error CatalogPage → Loop.Event) (breakdown : Option Loop.Event) :
    LoopStage :=
  let stage := stage.note (listText index)
  let (scripted, script) := stage.script.list index
  let stage := { stage with script := script }
  match scripted.bind fun scripted =>
    (eventOf event breakdown scripted.outcome).map (scripted.delay, ·) with
  | some (delay, event) => stage.later delay (.event event)
  | none => stage

/-- A health query is asked. -/
def askHealth (stage : LoopStage) (query : InstanceQuery)
    (event : Except Error (List Instance) → Loop.Event) (breakdown : Option Loop.Event) :
    LoopStage :=
  let stage := stage.note (healthText query.name)
  let (scripted, script) := stage.script.health query.name
  let stage := { stage with script := script }
  match eventOf event breakdown scripted.outcome with
  | some event => stage.later scripted.delay (.event event)
  | none => stage

/-- Whether the consumer waits for the answer to a request. -/
def waitsFor (loop : Loop) (call : ClusterCall) : Bool :=
  !loop.cancelled &&
    match loop.consumer with
    | .syncing _ pending _ => pending = call
    | _ => false

/-- A watcher that has ended does nothing more. -/
def dropWatcherWork (stage : LoopStage) : LoopStage :=
  if stage.loop.any fun loop => loop.watcher.isStopped then { stage with watcherWork := [] }
  else stage

/-- Do one piece of work. -/
def work (stage : LoopStage) : Work → LoopStage
  | .event event =>
    match stage.loop with
    | some loop => (stage.follow (loop.step event)).dropWatcherWork
    | none => stage
  | .tick => { stage with armed := false }.prompt
  | .perform (.watch (.list index)) => stage.askList index .watchListed (some .watchDied)
  | .perform (.watch (.instances query)) =>
    stage.askHealth query (.watchFetched query.position) (some .watchDied)
  | .perform (.watch (.sleep delay)) =>
    stage.later ((delay.nanos + 999999) / 1000000) (.event .watchWoke)
  | .perform (.watch (.offer _)) => stage
  | .perform (.survey .list) =>
    stage.askList Survey.index (fun answer => .surveyed (.listed answer)) none
  | .perform (.survey (.instances query)) =>
    stage.askHealth query (fun answer => .surveyed (.fetched query.position answer)) none
  | .perform (.cluster call) =>
    { stage with called := stage.called ++ [call.text] }.later (stage.plant.delayOf call)
      (.settle call)
  | .settle call =>
    if stage.loop.any (waitsFor · call) then
      let (answer, plant) := stage.plant.perform call
      { stage with plant := plant }.pushFront (.event (.answered call answer))
    else stage

/-- The next piece of work: the task whose turn it is goes on until it waits. -/
def next? (stage : LoopStage) : Option (Work × LoopStage) :=
  match stage.turn, stage.watcherWork, stage.consumerWork with
  | .watcher, work :: rest, _ => some (work, { stage with watcherWork := rest })
  | .watcher, [], work :: rest =>
    some (work, { stage with turn := .consumer, consumerWork := rest })
  | .consumer, _, work :: rest => some (work, { stage with consumerWork := rest })
  | .consumer, work :: rest, [] => some (work, { stage with turn := .watcher, watcherWork := rest })
  | _, [], [] => none

/-- Do everything that can happen at the current moment, but no more than so many pieces of work. -/
def settle : Nat → LoopStage → LoopStage
  | 0, stage => stage
  | fuel + 1, stage =>
    match stage.next? with
    | some (work, stage) => settle fuel (stage.work work)
    | none => stage

/-- Move the clock to a moment and put to work what it brings. -/
def moveTo (stage : LoopStage) (moment : Nat) : LoopStage :=
  let (timers, due) := stage.timers.moveTo moment
  let stage := { stage with timers := timers, turn := (due.head?.map Work.task).getD .consumer }
  (due.foldl push stage).prompt

/-- Let time pass up to a moment, for so many moments at most. -/
def advance (work : Nat) : Nat → Nat → LoopStage → LoopStage
  | 0, limit, stage => stage.moveTo limit
  | fuel + 1, limit, stage =>
    match stage.timers.next? with
    | some moment =>
      if moment ≤ limit then advance work fuel limit ((stage.moveTo moment).settle work)
      else stage.moveTo limit
    | none => stage.moveTo limit

/-- Start the loop. -/
def start (stage : LoopStage) : LoopStage :=
  let stage := stage.follow (Loop.start stage.scope stage.interval stage.pace stage.instant)
  if stage.cancelled then (stage.work (.event .cancel)).pushFront (.event .watchCancelled)
  else stage

/-- Cancel the run. -/
def cancel (stage : LoopStage) : LoopStage :=
  let stage := { stage with cancelled := true }
  if stage.loop.isSome then (stage.work (.event .cancel)).pushFront (.event .watchCancelled)
  else stage

end LoopStage

end CatalogBridge.Rehearsal
