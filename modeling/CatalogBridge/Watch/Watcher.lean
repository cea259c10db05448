import CatalogBridge.Backoff
import CatalogBridge.Watch.Fetch

/-!
# The watcher

Follows the catalog with queries that wait for changes and turns each change into a snapshot. It
does one thing at a time: it lists, waits after a failure, fetches, or offers a snapshot until the
consumer's single slot is free.

The watcher is a step function: an input, the answer it waits for or a sign from outside, gives
the next state, what to ask next, and what to tell and count. Inputs that do not fit the phase
change nothing.
-/

namespace CatalogBridge

namespace Watcher

/-- What the watcher is doing. -/
inductive Phase where
  /-- A catalog query is under way. -/
  | listing
  /-- A failure is being waited out. -/
  | waiting
  /-- The health queries of a page are under way. -/
  | fetching (fetch : Fetch)
  /-- A snapshot waits for the slot. -/
  | offering (snapshot : Snapshot)
  /-- The watcher has ended. -/
  | stopped

/-- What reaches the watcher. -/
inductive Input where
  | listed (answer : Except Error CatalogPage)
  | woke
  | fetched (position : Nat) (answer : Except Error (List Instance))
  /-- The slot took the snapshot. -/
  | accepted
  /-- Nobody is left to take a snapshot. -/
  | refused
  | cancelled
  /-- A query broke down in a way that ends the watcher. -/
  | died

/-- What the watcher asks of its surroundings. -/
inductive Request where
  | list (index : ChangeIndex)
  | instances (query : InstanceQuery)
  | sleep (delay : Duration)
  | offer (snapshot : Snapshot)

end Watcher

/-- The watcher: the position of its next query, its backoff, and what it is doing. -/
structure Watcher where
  index : ChangeIndex
  backoff : Backoff
  phase : Watcher.Phase

namespace Watcher

/-- What a step leads to. -/
structure Reaction where
  watcher : Watcher
  requests : List Request
  effects : List Effect

/-- The first query, which does not wait. -/
def start (pace : Pace) : Reaction := ⟨⟨.none, .start pace, .listing⟩, [.list .none], []⟩

/-- Nothing happens. -/
def stay (watcher : Watcher) : Reaction := ⟨watcher, [], []⟩

/-- List from a position on. -/
def listFrom (watcher : Watcher) (index : ChangeIndex) (effects : List Effect) : Reaction :=
  ⟨{ watcher with index := index, phase := .listing }, [.list index], effects⟩

/-- Offer the snapshot if the fetch is complete, otherwise go on fetching. -/
def proceed (watcher : Watcher) (fetch : Fetch) (queries : List InstanceQuery)
    (effects : List Effect) : Reaction :=
  match fetch.snapshot? with
  | some snapshot => ⟨{ watcher with phase := .offering snapshot }, [.offer snapshot], effects⟩
  | none => ⟨{ watcher with phase := .fetching fetch }, queries.map .instances, effects⟩

/-- The catalog answered. An index below the last one means that the catalog started over, so the
watch does too; the same index means that nothing changed. -/
def onPage (watcher : Watcher) (page : CatalogPage) : Reaction :=
  let watcher := { watcher with backoff := watcher.backoff.reset }
  if !watcher.index.isNone && page.index.value < watcher.index.value then
    watcher.listFrom .none [.notice (.indexWentBack watcher.index page.index)]
  else if !watcher.index.isNone && page.index = watcher.index then
    watcher.listFrom watcher.index []
  else
    let (fetch, queries) := Fetch.start page.names
    { watcher with index := page.index }.proceed fetch queries
      [.notice (.catalogChanged page.names page.index)]

/-- The catalog could not be listed. -/
def onFailure (watcher : Watcher) (error : Error) : Reaction :=
  let (delay, backoff) := watcher.backoff.next
  ⟨{ watcher with backoff := backoff, phase := .waiting }, [.sleep delay],
    [.measure .registryError, .notice (.catalogFailed error delay)]⟩

/-- The end of the watcher. -/
def stop (watcher : Watcher) : Reaction := ⟨{ watcher with phase := .stopped }, [], []⟩

/-- One step. -/
def step (watcher : Watcher) (input : Input) : Reaction :=
  match input, watcher.phase with
  | .cancelled, _ => watcher.stop
  | .died, _ => watcher.stop
  | .listed (.ok page), .listing => watcher.onPage page
  | .listed (.error error), .listing => watcher.onFailure error
  | .woke, .waiting => watcher.listFrom watcher.index []
  | .fetched position result, .fetching fetch =>
    let (next, queries, effects) := fetch.answer .watch position result
    watcher.proceed next queries effects
  | .accepted, .offering _ => watcher.listFrom watcher.index []
  | .refused, .offering _ => watcher.stop
  | _, _ => watcher.stay

/-- The snapshot that waits for the slot. -/
def offered? (watcher : Watcher) : Option Snapshot :=
  match watcher.phase with
  | .offering snapshot => some snapshot
  | _ => none

/-- Whether the watcher has ended. -/
def isStopped (watcher : Watcher) : Bool :=
  match watcher.phase with
  | .stopped => true
  | _ => false

end Watcher

end CatalogBridge
