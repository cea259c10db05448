import CatalogBridge.Watch.Fetch

/-!
# Surveys

The complete current picture, fetched without waiting for a change: one listing of the catalog,
then the health queries of its page. The position that the watcher follows is neither read nor
changed.
-/

namespace CatalogBridge

/-- A survey under way. -/
inductive Survey where
  /-- The listing is under way. -/
  | listing
  /-- The health queries are under way. -/
  | fetching (fetch : Fetch)

namespace Survey

/-- The position that a survey lists the catalog from: none, so that the answer does not
wait for a change. -/
def index : ChangeIndex := .none

/-- What reaches a survey. -/
inductive Input where
  | listed (answer : Except Error CatalogPage)
  | fetched (position : Nat) (answer : Except Error (List Instance))

/-- What a survey asks for. -/
inductive Request where
  /-- The catalog, from the position of surveys on. -/
  | list
  | instances (query : InstanceQuery)

/-- How far a survey has come. -/
inductive Progress where
  | running (survey : Survey) (queries : List InstanceQuery)
  | done (result : Except Error Snapshot)

/-- The survey is done when its fetch is complete. -/
def proceed (fetch : Fetch) (queries : List InstanceQuery) : Progress :=
  match fetch.snapshot? with
  | some snapshot => .done (.ok snapshot)
  | none => .running (.fetching fetch) queries

/-- One step, with what is told and counted. -/
def step : Survey → Input → Progress × List Effect
  | .listing, .listed (.ok page) =>
    let (fetch, queries) := Fetch.start page.names
    (proceed fetch queries, [])
  | .listing, .listed (.error error) => (.done (.error error), [.measure .registryError])
  | .fetching fetch, .fetched position answer =>
    let (next, queries, effects) := fetch.answer .resync position answer
    (proceed next queries, effects)
  | survey, _ => (.running survey [], [])

end Survey

end CatalogBridge
