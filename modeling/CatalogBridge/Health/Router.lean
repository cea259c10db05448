import CatalogBridge.Health.Readings
import CatalogBridge.Json.Writer

/-!
# Health endpoints

What the health server answers: whether the program lives, whether it is ready, which build it is,
and a scrape of its metrics. It is ready once a sync has succeeded, and stays so. A target is a
path or a whole address; its query and fragment do not count. A page can be read with `GET` and
`HEAD`; `HEAD` leaves the body out.
-/

namespace CatalogBridge.Health

/-- Which build of the program runs. -/
structure Build where
  version : String
  commit : String
  deriving DecidableEq, Repr

/-- What the endpoints show. -/
structure Status where
  build : Build
  ready : Bool
  readings : Readings
  deriving DecidableEq, Repr

namespace Status

/-- At the start. -/
def initial (build : Build) : Status := ⟨build, false, .initial⟩

/-- After a sync has succeeded. -/
def markReady (status : Status) : Status := { status with ready := true }

/-- After a change of a metric. -/
def record (status : Status) (change : Measurement) : Status :=
  { status with readings := status.readings.record change }

end Status

/-- An answer of the server. -/
structure Response where
  code : Nat
  contentType : Option String
  allow : Option String
  body : String
  deriving DecidableEq, Repr

/-- What can be read. -/
inductive Page where
  | liveness
  | readiness
  | build
  | metrics
  deriving DecidableEq, Repr

namespace Page

/-- The page at a path. -/
def ofPath? (path : String) : Option Page :=
  if path = "/healthz" then some .liveness
  else if path = "/readyz" then some .readiness
  else if path = "/version" then some .build
  else if path = "/metrics" then some .metrics
  else none

/-- The type of plain text. -/
def plainText : String := "text/plain; charset=utf-8"

/-- A page as it is read. -/
def read (status : Status) : Page → Response
  | .liveness => ⟨200, some plainText, none, "ok"⟩
  | .readiness =>
    if status.ready then ⟨200, some plainText, none, "ok"⟩
    else ⟨503, some plainText, none, "not ready"⟩
  | .build =>
    ⟨200, some "application/json", none,
      Json.render (.record
        [("version", .str status.build.version), ("commit", .str status.build.commit)])⟩
  | .metrics => ⟨200, some "text/plain; version=0.0.4", none, status.readings.exposition⟩

end Page

/-- There is nothing to read. -/
def notFound : Response := ⟨404, none, none, ""⟩

/-- The page can only be read. -/
def methodNotAllowed : Response := ⟨405, none, some "GET,HEAD", ""⟩

/-- What follows the scheme of a target that is a whole address. -/
def afterScheme? : List Char → Option (List Char)
  | ':' :: '/' :: '/' :: rest => some rest
  | _ :: rest => afterScheme? rest
  | [] => none

/-- A text up to its query or its fragment. -/
def withoutQuery (text : List Char) : List Char := text.takeWhile fun c => c ≠ '?' && c ≠ '#'

/-- The path of a target: of a whole address what follows the host, and one slash
if nothing does. -/
def pathOf (target : String) : String :=
  match target.toList with
  | '/' :: rest => String.ofList ('/' :: withoutQuery rest)
  | text =>
    match afterScheme? text with
    | none => ""
    | some rest =>
      match withoutQuery (rest.dropWhile fun c => c ≠ '/' && c ≠ '?' && c ≠ '#') with
      | [] => "/"
      | path => String.ofList path

/-- The answer to a request. -/
def respond (status : Status) (method target : String) : Response :=
  match Page.ofPath? (pathOf target) with
  | none => notFound
  | some page =>
    if method = "GET" then page.read status
    else if method = "HEAD" then { page.read status with body := "" }
    else methodNotAllowed

theorem ofPath?_pathOf_readyz : Page.ofPath? (pathOf "/readyz") = some .readiness := by decide

theorem respond_readyz (status : Status) :
    (respond status "GET" "/readyz").code = if status.ready then 200 else 503 := by
  rw [respond, ofPath?_pathOf_readyz]
  cases h : status.ready <;> simp [Page.read, h]

end CatalogBridge.Health
