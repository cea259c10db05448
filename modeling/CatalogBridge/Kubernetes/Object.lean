import CatalogBridge.Json.Basic
import CatalogBridge.Kubernetes.Name

/-!
# Services and endpoint slices

The headless service of a catalog service and the slice that lists its instances, as far as this
library knows their fields, and the documents that they are written as. A field without a value
does not appear. Objects made by other hands may lack what the ones built here always have.
-/

namespace CatalogBridge

/-- Labels in ascending order of their keys, each key once. -/
abbrev Labels := List (String × String)

/-- The value of a label. -/
def Labels.get? (labels : Labels) (key : String) : Option String :=
  (labels.find? fun label => label.1 = key).map (·.2)

/-- The labels of every managed object: the marker and the name of its service. -/
def Labels.managed (service : String) : Labels :=
  [(Name.managedByLabel, Name.manager), (Name.nameLabel, service)]

/-- The labels of a managed slice. -/
def Labels.managedSlice (service : String) : Labels :=
  Labels.managed service
    ++ [(Name.sliceManagedByLabel, Name.manager), (Name.serviceNameLabel, service)]

/-- Labels as a document. -/
def Labels.document (labels : Labels) : Json :=
  .record (labels.map fun label => (label.1, .str label.2))

/-- The name, namespace and labels of a service or a slice. -/
structure Metadata where
  name : Option String
  namespaceName : Option String
  labels : Labels
  deriving DecidableEq, Repr

/-- A field that is left out when it has no value. -/
def optionalField (name : String) (value : Option Json) : List (String × Json) :=
  (value.map fun document => (name, document)).toList

/-- Labels as the value of a field that is left out when there are none. -/
def Labels.document? (labels : Labels) : Option Json :=
  if labels.isEmpty then none else some labels.document

/-- Metadata as a document. -/
def Metadata.document (metadata : Metadata) : Json :=
  .record (optionalField "labels" metadata.labels.document?
    ++ optionalField "name" (metadata.name.map .str)
    ++ optionalField "namespace" (metadata.namespaceName.map .str))

/-- The address family of a slice. -/
inductive AddressType where
  | ipv4
  | ipv6
  | fqdn
  deriving DecidableEq, Repr

/-- The family as documents name it. -/
def AddressType.name : AddressType → String
  | .ipv4 => "IPv4"
  | .ipv6 => "IPv6"
  | .fqdn => "FQDN"

/-- A headless service and the TCP ports that it exposes. -/
structure ServiceObject where
  metadata : Metadata
  ports : List Int
  deriving DecidableEq, Repr

/-- A slice of one address family whose endpoints are all ready. -/
structure EndpointSlice where
  metadata : Metadata
  addressType : Option AddressType
  addresses : List String
  ports : List Int
  deriving DecidableEq, Repr

/-- A port of a service or slice as a document. -/
def portDocument (port : Int) : Json :=
  .record [("name", .str Name.port), ("port", .int port), ("protocol", .str "TCP")]

/-- What a service exposes, as a document. -/
def ServiceObject.specDocument? (service : ServiceObject) : Option Json :=
  if service.ports.isEmpty then none
  else some (.record [
    ("clusterIP", .str "None"),
    ("ports", .array (service.ports.map portDocument)),
    ("type", .str "ClusterIP")])

/-- A service as a document. -/
def ServiceObject.document (service : ServiceObject) : Json :=
  .record ([
    ("apiVersion", .str "v1"),
    ("kind", .str "Service"),
    ("metadata", service.metadata.document)]
    ++ optionalField "spec" service.specDocument?)

/-- A ready endpoint as a document. -/
def endpointDocument (address : String) : Json :=
  .record [("addresses", .array [.str address]), ("conditions", .record [("ready", .bool true)])]

/-- A slice as a document. -/
def EndpointSlice.document (slice : EndpointSlice) : Json :=
  .record ([
    ("addressType", .str ((slice.addressType.map AddressType.name).getD "")),
    ("apiVersion", .str "discovery.k8s.io/v1"),
    ("endpoints", .array (slice.addresses.map endpointDocument)),
    ("kind", .str "EndpointSlice"),
    ("metadata", slice.metadata.document)]
    ++ optionalField "ports"
      (if slice.ports.isEmpty then none else some (.array (slice.ports.map portDocument))))

/-- The headless service of a name. -/
def ServiceObject.build (name namespaceName : String) (port : Int) : ServiceObject :=
  ⟨⟨some name, some namespaceName, Labels.managed name⟩, [port]⟩

end CatalogBridge
