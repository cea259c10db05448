import CatalogBridge.Reconcile.Ticker
import CatalogBridge.Sync.Cycle
import CatalogBridge.Watch.Survey
import CatalogBridge.Watch.Watcher

/-!
# The reconcile loop

One consumer drives every sync. It waits for a snapshot of the watcher, handed over through a
single slot, and for the resync timer, so at most one sync is in flight; a tick that is due is
served before a snapshot that waits.

The watcher, the slot, the timer and the consumer are one state, and what may happen to them is
one type of events: answers arrive, the slot is filled, the consumer looks at its sources, the run
is cancelled. `step` says what each event does. Every interleaving of the parts is a list of
events; an event that cannot happen now changes nothing.
-/

namespace CatalogBridge

/-- What the consumer is doing. -/
inductive Consumer where
  /-- It waits for a tick or a snapshot. -/
  | idle
  /-- The survey of a resync is under way. -/
  | surveying (survey : Survey)
  /-- A sync waits for the answer to a request. -/
  | syncing (trigger : Trigger) (call : ClusterCall)
      (next : Except Error call.Answer → Program (Except Error Summary))
  /-- The loop has ended. -/
  | ended (result : Except Error Unit)

/-- The running loop. -/
structure Loop where
  scope : Scope
  ticker : Ticker
  watcher : Watcher
  slot : Option Snapshot
  consumer : Consumer
  cancelled : Bool
  ready : Bool
  metrics : Metrics

namespace Loop

/-- What may happen to a running loop. -/
inductive Event where
  /-- The watcher's catalog query was answered. -/
  | watchListed (answer : Except Error CatalogPage)
  /-- The watcher's wait is over. -/
  | watchWoke
  /-- One of the watcher's health queries was answered. -/
  | watchFetched (position : Nat) (answer : Except Error (List Instance))
  /-- The watcher broke down. -/
  | watchDied
  /-- The watcher sees that the run is cancelled. -/
  | watchCancelled
  /-- The snapshot that the watcher offers goes into the slot. -/
  | handOver
  /-- The consumer looks at its sources. -/
  | poll (now : Instant)
  /-- A query of a resync's survey was answered. -/
  | surveyed (input : Survey.Input)
  /-- The cluster answered a request. -/
  | answered (call : ClusterCall) (answer : Except Error call.Answer)
  /-- The run is cancelled. -/
  | cancel

/-- What the loop asks of its surroundings. -/
inductive Request where
  | watch (request : Watcher.Request)
  | survey (request : Survey.Request)
  | cluster (call : ClusterCall)

/-- What an event leads to. -/
structure Reaction where
  loop : Loop
  requests : List Request
  notices : List Notice

/-- Nothing happens. -/
def stay (loop : Loop) : Reaction := ⟨loop, [], []⟩

/-- The loop with the changes of metrics among some effects. -/
def absorb (loop : Loop) (effects : List Effect) : Loop :=
  { loop with metrics := loop.metrics.recordAll (Effect.measurements effects) }

/-- The loop after a step of the watcher. -/
def withWatcher (loop : Loop) (reaction : Watcher.Reaction) : Reaction :=
  ⟨{ loop.absorb reaction.effects with watcher := reaction.watcher },
    reaction.requests.map .watch, Effect.notices reaction.effects⟩

/-- The loop after the watcher got an input. -/
def watchInput (loop : Loop) (input : Watcher.Input) : Reaction :=
  loop.withWatcher (loop.watcher.step input)

/-- A loop started now. -/
def start (scope : Scope) (interval : Duration) (pace : Pace) (now : Instant) : Reaction :=
  let reaction := Watcher.start pace
  let loop : Loop := {
    scope := scope
    ticker := .start interval now
    watcher := reaction.watcher
    slot := none
    consumer := .idle
    cancelled := false
    ready := false
    metrics := .initial }
  ⟨loop, reaction.requests.map .watch, [.loopStarting interval]⟩

/-- The loop is through with a sync. -/
def finish (loop : Loop) (trigger : Trigger) (result : Except Error Summary) : Reaction :=
  match result with
  | .ok summary =>
    ⟨{ loop with
        consumer := .idle
        ready := true
        metrics := loop.metrics.record (.reconciled .success) }, [], [.reconciled trigger summary]⟩
  | .error error =>
    ⟨{ loop with
        consumer := .idle
        metrics := loop.metrics.record (.reconciled .error) }, [], [.reconcileFailed trigger error]⟩

/-- Go on with a sync up to its next request or its end. -/
def advance (loop : Loop) (trigger : Trigger) (program : Program (Except Error Summary)) :
    Reaction :=
  let (effects, paused) := program.pause
  let loop := loop.absorb effects
  match paused with
  | .ask call next =>
    ⟨{ loop with consumer := .syncing trigger call next }, [.cluster call], Effect.notices effects⟩
  | .done result =>
    let reaction := loop.finish trigger result
    { reaction with notices := Effect.notices effects ++ reaction.notices }

/-- Start a sync. -/
def begin (loop : Loop) (trigger : Trigger) (snapshot : Snapshot) : Reaction :=
  let reaction := loop.advance trigger (Sync.cycle loop.scope snapshot)
  { reaction with notices := .reconciling trigger snapshot.length :: reaction.notices }

/-- A survey went on: sync what it found, skip the cycle if the catalog could not be listed. -/
def onSurvey (loop : Loop) : Survey.Progress → Reaction
  | .running survey queries =>
    ⟨{ loop with consumer := .surveying survey },
      queries.map fun query => .survey (.instances query), []⟩
  | .done (.ok snapshot) => loop.begin .resync snapshot
  | .done (.error error) =>
    ⟨{ loop with
        consumer := .idle
        metrics := loop.metrics.record (.reconciled .error) }, [], [.resyncSkipped error]⟩

/-- Give up what the consumer is doing. -/
def abandon (loop : Loop) : Reaction :=
  match loop.consumer with
  | .syncing trigger _ _ => ⟨{ loop with consumer := .idle }, [], [.interrupted trigger]⟩
  | .surveying _ => ⟨{ loop with consumer := .idle }, [], []⟩
  | .idle | .ended _ => loop.stay

/-- The consumer looks at its sources: a cancelled run comes first, then a tick, then a snapshot. -/
def look (loop : Loop) (now : Instant) : Reaction :=
  if loop.cancelled then ⟨{ loop with consumer := .ended (.ok ()) }, [], [.loopStopped]⟩
  else if loop.ticker.isDue now then
    ⟨{ loop with ticker := loop.ticker.serve now, consumer := .surveying .listing },
      [.survey .list], []⟩
  else
    match loop.slot with
    | some snapshot => { loop with slot := none }.begin .watch snapshot
    | none =>
      if loop.watcher.isStopped then
        let error : Error := .internal "reconciler" "consul watch stream closed unexpectedly"
        ⟨{ loop with consumer := .ended (.error error) }, [], []⟩
      else loop.stay

/-- An answer for the consumer; once the run is cancelled it only makes the consumer give up. -/
def unlessCancelled (loop : Loop) (reaction : Reaction) : Reaction :=
  if loop.cancelled then loop.abandon else reaction

/-- One step. -/
def step (loop : Loop) : Event → Reaction
  | .watchListed answer => loop.watchInput (.listed answer)
  | .watchWoke => loop.watchInput .woke
  | .watchFetched position answer => loop.watchInput (.fetched position answer)
  | .watchDied => loop.watchInput .died
  | .watchCancelled => if loop.cancelled then loop.watchInput .cancelled else loop.stay
  | .handOver =>
    match loop.watcher.offered?, loop.consumer, loop.slot with
    | some _, .ended _, _ => loop.watchInput .refused
    | some snapshot, _, none => { loop with slot := some snapshot }.watchInput .accepted
    | _, _, _ => loop.stay
  | .poll now =>
    match loop.consumer with
    | .idle => loop.look now
    | .ended _ => loop.stay
    | _ => loop.unlessCancelled loop.stay
  | .surveyed input =>
    match loop.consumer with
    | .surveying survey =>
      loop.unlessCancelled <|
        let (progress, effects) := survey.step input
        let reaction := (loop.absorb effects).onSurvey progress
        { reaction with notices := Effect.notices effects ++ reaction.notices }
    | _ => loop.stay
  | .answered call answer =>
    match loop.consumer with
    | .syncing trigger pending next =>
      loop.unlessCancelled <|
        if hcall : call = pending then loop.advance trigger (next (hcall ▸ answer)) else loop.stay
    | _ => loop.stay
  | .cancel => ⟨{ loop with cancelled := true }, [], []⟩

/-- Whether the snapshot that the watcher offers can leave it. -/
def wantsHandOver (loop : Loop) : Bool :=
  loop.watcher.offered?.isSome &&
    match loop.consumer with
    | .ended _ => true
    | _ => loop.slot.isNone

/-- Whether the consumer would do something if it looked at its sources. -/
def wantsLook (loop : Loop) (now : Instant) : Bool :=
  match loop.consumer with
  | .idle => loop.cancelled || loop.ticker.isDue now || loop.slot.isSome || loop.watcher.isStopped
  | .ended _ => false
  | _ => loop.cancelled

/-- The result of a loop that has ended. -/
def result? (loop : Loop) : Option (Except Error Unit) :=
  match loop.consumer with
  | .ended result => some result
  | _ => none

/-- A run: the loop after a list of events, and everything it asked for and told on
the way, in order. -/
def run : Loop → List Event → Reaction
  | loop, [] => loop.stay
  | loop, event :: rest =>
    let first := loop.step event
    let later := first.loop.run rest
    ⟨later.loop, first.requests ++ later.requests, first.notices ++ later.notices⟩

end Loop

end CatalogBridge
