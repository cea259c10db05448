import CatalogBridge.Sync.Program

/-!
# Fetching a snapshot

The health queries behind one catalog page. At most eight are under way or waiting to be handed
on, and states are handed on in the order of the page, whatever the order of the answers. A name
whose query failed stays in the snapshot without instances: leaving it out would make its objects
look unwanted.
-/

namespace CatalogBridge

/-- How many queries of one snapshot are started and not yet handed on, at most. -/
def fetchWindow : Nat := 8

/-- The queries of one page: what is handed on, what is started with its state once that is known,
and what is not started. -/
structure Fetch where
  taken : List ServiceState
  started : List (String × Option ServiceState)
  waiting : List String

/-- A query for the instances of a service, by its place in the page. -/
structure InstanceQuery where
  position : Nat
  name : String
  deriving DecidableEq, Repr

namespace Fetch

/-- Before the first query of a page. -/
def ofNames (names : List String) : Fetch := ⟨[], [], names⟩

/-- The states at the front of the started queries, and what is left behind the last of them. -/
def splitFinished :
    List (String × Option ServiceState) → List ServiceState × List (String × Option ServiceState)
  | (_, some state) :: rest =>
    let (states, left) := splitFinished rest
    (state :: states, left)
  | started => ([], started)

/-- Hand on what is finished at the front. -/
def take (fetch : Fetch) : Fetch :=
  let (states, left) := splitFinished fetch.started
  { fetch with taken := fetch.taken ++ states, started := left }

/-- How many queries may be started. -/
def room (fetch : Fetch) : Nat := fetchWindow - fetch.started.length

/-- The place of the next query to start. -/
def nextPosition (fetch : Fetch) : Nat := fetch.taken.length + fetch.started.length

/-- Start queries as long as there is room. -/
def fill (fetch : Fetch) : Fetch × List InstanceQuery :=
  let names := fetch.waiting.take fetch.room
  ({ fetch with
      started := fetch.started ++ names.map fun name => (name, none)
      waiting := fetch.waiting.drop fetch.room },
    names.zipIdx.map fun (name, offset) => ⟨fetch.nextPosition + offset, name⟩)

/-- The first queries of a page. -/
def start (names : List String) : Fetch × List InstanceQuery := (ofNames names).fill

/-- The name that a place asks about, if its answer is still missing. -/
def awaited? (fetch : Fetch) (position : Nat) : Option String :=
  if position < fetch.taken.length then none
  else match fetch.started[position - fetch.taken.length]? with
    | some (name, none) => some name
    | _ => none

/-- What an answer says about a service. -/
def stateOf (name : String) : Except Error (List Instance) → ServiceState
  | .ok instances => ⟨name, instances⟩
  | .error _ => .withoutInstances name

/-- What is told and counted about an answer. -/
def effectsOf (trigger : Trigger) (name : String) : Except Error (List Instance) → List Effect
  | .ok _ => []
  | .error error => [.measure .registryError, .notice (.instancesFailed name trigger error)]

/-- Put an answer in its place, hand on what is finished and start further queries. An answer that
nobody waits for changes nothing. -/
def answer (trigger : Trigger) (fetch : Fetch) (position : Nat)
    (result : Except Error (List Instance)) : Fetch × List InstanceQuery × List Effect :=
  match fetch.awaited? position with
  | none => (fetch, [], [])
  | some name =>
    let started :=
      fetch.started.set (position - fetch.taken.length) (name, some (stateOf name result))
    let (next, queries) := { fetch with started := started }.take.fill
    (next, queries, effectsOf trigger name result)

/-- The snapshot, once every state is handed on. -/
def snapshot? (fetch : Fetch) : Option Snapshot :=
  if fetch.started.isEmpty && fetch.waiting.isEmpty then some fetch.taken else none

theorem length_fill_started_le (fetch : Fetch) (hwindow : fetch.started.length ≤ fetchWindow) :
    fetch.fill.1.started.length ≤ fetchWindow := by
  simp only [fill, List.length_append, List.length_map, List.length_take, room]
  omega

end Fetch

end CatalogBridge
