import CatalogBridge.Consul.Index

/-!
# Catalog services

What the catalog tells about a service: the instances that pass their health checks, with their
address, port and tags. A `Snapshot` is the picture of one moment, a state for each listed name.
-/

namespace CatalogBridge

/-- The place of a tag in a list of tags in ascending order; a tag that is there already is not
put in again. -/
def insertTag (tag : String) : List String → List String
  | [] => [tag]
  | other :: rest =>
    if tag < other then tag :: other :: rest
    else if tag = other then other :: rest
    else other :: insertTag tag rest

/-- Tags in ascending order, each once. -/
def sortTags (tags : List String) : List String := tags.foldr insertTag []

/-- One instance of a service. -/
structure Instance where
  service : String
  address : String
  port : Int
  tags : List String
  deriving DecidableEq, Repr

/-- An instance with its tags in order. -/
def Instance.ofTags (service address : String) (port : Int) (tags : List String) : Instance :=
  ⟨service, address, port, sortTags tags⟩

/-- A service as the catalog lists it, with its healthy instances. -/
structure ServiceState where
  name : String
  instances : List Instance
  deriving DecidableEq, Repr

/-- The states of all listed services at one moment. -/
abbrev Snapshot := List ServiceState

namespace ServiceState

/-- A listed service about whose instances nothing is known. -/
def withoutInstances (name : String) : ServiceState := ⟨name, []⟩

/-- Whether some instance carries a tag. -/
def hasTag (state : ServiceState) (tag : String) : Bool :=
  state.instances.any fun member => member.tags.contains tag

end ServiceState

/-- The name under which the catalog lists itself. -/
def catalogServiceName : String := "consul"

/-- A page of the catalog: the listed names and the position of the answer. -/
structure CatalogPage where
  names : List String
  index : ChangeIndex

end CatalogBridge
