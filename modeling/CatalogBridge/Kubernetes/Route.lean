import CatalogBridge.Json.Reader
import CatalogBridge.Json.Shape
import CatalogBridge.Kubernetes.Kind
import CatalogBridge.Kubernetes.Object

/-!
# Routes

A route of the gateway API as far as this library sets its fields, its document, and the reading
of documents as routes. Empty labels and hostnames and absent options are left out of a document;
reading gives them back.

`RouteSettings` says which services get routes: each binding ties a tag to a gateway.
-/

namespace CatalogBridge

/-- A tag and the gateway that services with the tag get a route on. -/
structure RouteBinding where
  tag : String
  gateway : String
  deriving DecidableEq, Repr

/-- How routes are made, and whether they are made at all. -/
structure RouteSettings where
  enabled : Bool
  domainSuffix : String
  gatewayNamespace : String
  listener : String
  bindings : List RouteBinding
  deriving DecidableEq, Repr

namespace RouteSettings

/-- No routes. -/
def disabled : RouteSettings := ⟨false, "", "", "", []⟩

/-- The host name of a service. -/
def hostname (settings : RouteSettings) (service : String) : String :=
  service ++ "." ++ settings.domainSuffix

end RouteSettings

/-- The name, namespace and labels of a route. -/
structure RouteMetadata where
  name : String
  namespaceName : String
  labels : Labels
  deriving DecidableEq, Repr

/-- The gateway listener that a route hangs on. -/
structure ParentRef where
  name : String
  namespaceName : Option String
  sectionName : Option String
  deriving DecidableEq, Repr

/-- The service port that a route leads to. -/
structure BackendRef where
  name : String
  port : Int
  deriving DecidableEq, Repr

/-- A rule of a route. -/
structure RouteRule where
  backendRefs : List BackendRef
  deriving DecidableEq, Repr

/-- What a route asks for. -/
structure RouteSpec where
  parentRefs : List ParentRef
  hostnames : List String
  rules : List RouteRule
  deriving DecidableEq, Repr

/-- A route. -/
structure HttpRoute where
  apiVersion : String
  kind : String
  metadata : RouteMetadata
  spec : RouteSpec
  deriving DecidableEq, Repr

namespace HttpRoute

/-- The API group of routes. -/
def group : String := "gateway.networking.k8s.io"

/-- The version of the group. -/
def version : String := "v1"

/-- The group with its version. -/
def standardApiVersion : String := "gateway.networking.k8s.io/v1"

/-- The kind of routes. -/
def standardKind : String := Kind.httpRoute.name

/-- What routes are called in request paths. -/
def plural : String := "httproutes"

/-- The route of a service on a gateway. -/
def build (service namespaceName : String) (port : Int) (gateway : String)
    (settings : RouteSettings) : HttpRoute where
  apiVersion := standardApiVersion
  kind := standardKind
  metadata := ⟨Name.route service gateway, namespaceName, Labels.managed service⟩
  spec := {
    parentRefs := [⟨gateway, some settings.gatewayNamespace, some settings.listener⟩]
    hostnames := [settings.hostname service]
    rules := [⟨[⟨service, port⟩]⟩] }

end HttpRoute

/-! ## Documents -/

/-- Metadata of a route as a document. -/
def RouteMetadata.document (metadata : RouteMetadata) : Json :=
  .record ([("name", .str metadata.name), ("namespace", .str metadata.namespaceName)]
    ++ optionalField "labels" metadata.labels.document?)

/-- A parent as a document. -/
def ParentRef.document (parent : ParentRef) : Json :=
  .record ([("name", .str parent.name)]
    ++ optionalField "namespace" (parent.namespaceName.map .str)
    ++ optionalField "sectionName" (parent.sectionName.map .str))

/-- A backend as a document. -/
def BackendRef.document (backend : BackendRef) : Json :=
  .record [("name", .str backend.name), ("port", .int backend.port)]

/-- A rule as a document. -/
def RouteRule.document (rule : RouteRule) : Json :=
  .record [("backendRefs", .array (rule.backendRefs.map BackendRef.document))]

/-- What a route asks for, as a document. -/
def RouteSpec.document (spec : RouteSpec) : Json :=
  .record ([("parentRefs", .array (spec.parentRefs.map ParentRef.document))]
    ++ optionalField "hostnames"
      (if spec.hostnames.isEmpty then none else some (.array (spec.hostnames.map .str)))
    ++ [("rules", .array (spec.rules.map RouteRule.document))])

/-- A route as a document. -/
def HttpRoute.document (route : HttpRoute) : Json :=
  .record [
    ("apiVersion", .str route.apiVersion),
    ("kind", .str route.kind),
    ("metadata", route.metadata.document),
    ("spec", route.spec.document)]

/-! ## Reading -/

open Json in
/-- The metadata that a document denotes. -/
def RouteMetadata.ofDocument? : Shape RouteMetadata := fun document => do
  let record ← asCells ["name", "namespace", "labels"] document
  return {
    name := ← record.get 0 asText .required
    namespaceName := ← record.get 1 asText .required
    labels := ← record.get 2 (asTable asText) (.orElse []) }

open Json in
/-- The parent that a document denotes. -/
def ParentRef.ofDocument? : Shape ParentRef := fun document => do
  let record ← asCells ["name", "namespace", "sectionName"] document
  return {
    name := ← record.get 0 asText .required
    namespaceName := ← record.get 1 (asOption asText) (.orElse none)
    sectionName := ← record.get 2 (asOption asText) (.orElse none) }

open Json in
/-- The backend that a document denotes. -/
def BackendRef.ofDocument? : Shape BackendRef := fun document => do
  let record ← asCells ["name", "port"] document
  return {
    name := ← record.get 0 asText .required
    port := ← record.get 1 asInt32 .required }

open Json in
/-- The rule that a document denotes. -/
def RouteRule.ofDocument? : Shape RouteRule := fun document => do
  let record ← asCells ["backendRefs"] document
  return { backendRefs := ← record.get 0 (asList BackendRef.ofDocument?) .required }

open Json in
/-- What a route asks for, from a document. -/
def RouteSpec.ofDocument? : Shape RouteSpec := fun document => do
  let record ← asCells ["parentRefs", "hostnames", "rules"] document
  return {
    parentRefs := ← record.get 0 (asList ParentRef.ofDocument?) .required
    hostnames := ← record.get 1 (asList asText) (.orElse [])
    rules := ← record.get 2 (asList RouteRule.ofDocument?) .required }

open Json in
/-- The route that a document denotes. -/
def HttpRoute.ofDocument? : Shape HttpRoute := fun document => do
  let record ← asCells ["apiVersion", "kind", "metadata", "spec"] document
  return {
    apiVersion := ← record.get 0 asText (.orElse standardApiVersion)
    kind := ← record.get 1 asText (.orElse standardKind)
    metadata := ← record.get 2 RouteMetadata.ofDocument? .required
    spec := ← record.get 3 RouteSpec.ofDocument? .required }

/-- The route that a text denotes. -/
def HttpRoute.parse? (text : String) : Option HttpRoute :=
  (Json.parse? text).bind HttpRoute.ofDocument?

end CatalogBridge
