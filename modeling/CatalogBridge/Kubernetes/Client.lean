import CatalogBridge.Duration.Basic
import CatalogBridge.Json.Writer
import CatalogBridge.Kubernetes.Answer
import CatalogBridge.Net.Form
import CatalogBridge.Sync.Program

/-!
# The cluster client

The requests that are put to the API server of the cluster, and what comes of them. Objects are
applied on the server's side in the name of this program, listings ask for the managed objects
only, and deleting an object that is already gone succeeds (`settle_delete_of_notFound`), so a
deletion that somebody else was faster with is no failure.
-/

namespace CatalogBridge

/-- How long connecting to the API server may take. -/
def ClusterCall.connectTimeout : Duration := .ofSeconds 5

/-- How long the API server may be silent. -/
def ClusterCall.readTimeout : Duration := .ofSeconds 30

/-- A request on its way to the API server. -/
structure ClusterRequest where
  method : String
  /-- Path and query. -/
  target : String
  contentType : Option String
  body : Option Json

namespace ClusterRequest

/-- The path in a target. -/
def path (request : ClusterRequest) : String :=
  String.ofList (request.target.toList.takeWhile fun c => c ≠ '?' && c ≠ '#')

/-- The pairs in the query of a target, as they stand there. -/
def query (request : ClusterRequest) : List (String × String) :=
  let text := (request.target.toList.takeWhile (· ≠ '#')).dropWhile (· ≠ '?') |>.drop 1
  ((Form.pieces '&' text).filter (!·.isEmpty)).map fun piece =>
    (String.ofList (piece.takeWhile (· ≠ '=')), String.ofList ((piece.dropWhile (· ≠ '=')).drop 1))

/-- What may stand in a path. -/
def isPathChar (c : Char) : Bool :=
  33 ≤ c.toNat && c.toNat < 127 && !(['#', '<', '>', '?', '\x60'].contains c)

/-- What may stand in a query. -/
def isQueryChar (c : Char) : Bool :=
  33 ≤ c.toNat && c.toNat < 127 && !(['"', '#', '<', '>'].contains c)

/-- Whether a target can be sent as it stands. -/
def isSendable (request : ClusterRequest) : Bool :=
  let text := request.target.toList.takeWhile (· ≠ '#')
  (text.takeWhile (· ≠ '?')).all isPathChar && ((text.dropWhile (· ≠ '?')).drop 1).all isQueryChar

/-- The path of the objects of a kind in a namespace. -/
def collection (namespaceName : String) (kind : Kind) : String :=
  let scope := if namespaceName = "" then "" else "namespaces/" ++ namespaceName ++ "/"
  match kind with
  | .service => "/api/v1/" ++ scope ++ "services"
  | .endpointSlice => "/apis/discovery.k8s.io/v1/" ++ scope ++ "endpointslices"
  | .httpRoute => "/apis/" ++ HttpRoute.standardApiVersion ++ "/" ++ scope ++ HttpRoute.plural

/-- The path and query of a request about objects, with pairs for the query. -/
def targetOf (path : String) (pairs : List (String × String)) : String :=
  path ++ "?" ++ (if pairs.isEmpty then "" else "&" ++ String.ofList (Form.encodePairs pairs))

/-- The request that applies an object. -/
def patch (namespaceName : String) (kind : Kind) (name : String) (document : Json) :
    ClusterRequest where
  method := "PATCH"
  target := targetOf (collection namespaceName kind ++ "/" ++ name) [("fieldManager", Name.manager)]
  contentType := some "application/apply-patch+yaml"
  body := some document

/-- The request that lists the managed objects of a kind. -/
def list (namespaceName : String) (kind : Kind) : ClusterRequest where
  method := "GET"
  target := targetOf (collection namespaceName kind) [("labelSelector", Name.managedSelector)]
  contentType := none
  body := none

/-- The request that deletes an object. -/
def delete (namespaceName : String) (kind : Kind) (name : String) : ClusterRequest where
  method := "DELETE"
  target := targetOf (collection namespaceName kind ++ "/" ++ name) []
  contentType := some "application/json"
  body := some (.record [])

end ClusterRequest

namespace ClusterCall

/-- A request, if it can be sent. -/
def sendable (request : ClusterRequest) : Except Error ClusterRequest :=
  if request.isSendable then .ok request else .error (.kube .unsendable)

/-- A request about one object, which must have a name. -/
def named (name : String) (request : ClusterRequest) : Except Error ClusterRequest :=
  if name = "" then .error (.kube .unsendable) else sendable request

/-- What is sent for a call, unless the object has no name or its name cannot stand in a path. -/
def request (namespaceName : String) : ClusterCall → Except Error ClusterRequest
  | .applyService service =>
    match service.metadata.name with
    | none => .error (.internal "apply_service" "service has no name")
    | some name => named name (.patch namespaceName .service name service.document)
  | .applySlice slice =>
    match slice.metadata.name with
    | none => .error (.internal "apply_endpoint_slice" "endpointslice has no name")
    | some name => named name (.patch namespaceName .endpointSlice name slice.document)
  | .applyRoute route =>
    named route.metadata.name (.patch namespaceName .httpRoute route.metadata.name route.document)
  | .delete kind name => named name (.delete namespaceName kind name)
  | .listServices => sendable (.list namespaceName .service)
  | .listSlices => sendable (.list namespaceName .endpointSlice)
  | .listRoutes => sendable (.list namespaceName .httpRoute)

/-- The result of a call from what the API server said: an object that cannot be deleted because
it is not there is as good as deleted. -/
def settle (call : ClusterCall) (result : Except ApiFailure call.Answer) :
    Except Error call.Answer :=
  match call, result with
  | .delete _ _, result =>
    match result.mapError Error.kube with
    | .error error => if error.isNotFound then .ok () else .error error
    | .ok () => .ok ()
  | _, result => result.mapError Error.kube

/-- The result of a call from the answer to its request, if there is one. -/
def readAnswer (call : ClusterCall) (answer : Option ClusterAnswer) : Except Error call.Answer :=
  call.settle (match answer with
    | some answer => call.read answer
    | none => .error .unreachable)

theorem settle_delete_of_notFound (kind : Kind) (name : String) (status : ApiStatus)
    (h : status.code = 404) : settle (.delete kind name) (.error (.refused status)) = .ok () := by
  have hnotFound : (Error.kube (.refused status)).isNotFound = true := by simp [Error.isNotFound, h]
  exact if_pos hnotFound

theorem settle_delete_of_refused (kind : Kind) (name : String) (status : ApiStatus)
    (h : status.code ≠ 404) :
    settle (.delete kind name) (.error (.refused status)) = .error (.kube (.refused status)) := by
  have hnotFound : ¬ (Error.kube (.refused status)).isNotFound = true := by
    simp [Error.isNotFound, h]
  exact if_neg hnotFound

/-- A behaviour of the API server as a behaviour of the cluster. -/
def behaviour {σ : Type} (server : σ → (call : ClusterCall) → Except ApiFailure call.Answer × σ) :
    Program.Behaviour σ :=
  fun state call =>
    let (result, state) := server state call
    (call.settle result, state)

end ClusterCall

end CatalogBridge
