import CatalogBridge.Kubernetes.Route

/-!
# The cluster

What can be asked of the cluster, and a cluster that keeps objects in memory: per kind a table by
name, in ascending order of names. A listing shows the objects whose labels a selector accepts;
deleting what is not there succeeds.
-/

namespace CatalogBridge

/-- A managed slice as a listing shows it: its name, and the service it belongs to, if a label
names one. -/
structure ManagedSlice where
  name : String
  service : Option String
  deriving DecidableEq, Repr

/-- A request to the cluster. -/
inductive ClusterCall where
  | applyService (service : ServiceObject)
  | applySlice (slice : EndpointSlice)
  | applyRoute (route : HttpRoute)
  | listServices
  | listSlices
  | listRoutes
  | delete (kind : Kind) (name : String)
  deriving DecidableEq, Repr

namespace ClusterCall

/-- What a successful request gives back. -/
abbrev Answer : ClusterCall → Type
  | .listServices => List String
  | .listSlices => List ManagedSlice
  | .listRoutes => List String
  | _ => Unit

/-- The kind of object that a request is about. -/
def kind : ClusterCall → Kind
  | .applyService _ | .listServices => .service
  | .applySlice _ | .listSlices => .endpointSlice
  | .applyRoute _ | .listRoutes => .httpRoute
  | .delete kind _ => kind

/-- A request in a few words: what is done to what. -/
def text : ClusterCall → String
  | .applyService service => "apply Service/" ++ service.metadata.name.getD ""
  | .applySlice slice => "apply EndpointSlice/" ++ slice.metadata.name.getD ""
  | .applyRoute route => "apply HTTPRoute/" ++ route.metadata.name
  | .listServices => "list Service"
  | .listSlices => "list EndpointSlice"
  | .listRoutes => "list HTTPRoute"
  | .delete kind name => "delete " ++ kind.name ++ "/" ++ name

end ClusterCall

/-- A table of objects by name, in ascending order of names. -/
abbrev Table (α : Type) := List (String × α)

namespace Table

variable {α : Type}

/-- The table with an object put in; an object of the same name is replaced. -/
def put (name : String) (object : α) : Table α → Table α
  | [] => [(name, object)]
  | (other, kept) :: rest =>
    if name < other then (name, object) :: (other, kept) :: rest
    else if name = other then (name, object) :: rest
    else (other, kept) :: put name object rest

/-- The table without the object of a name. -/
def erase (name : String) (table : Table α) : Table α := table.filter fun entry => entry.1 ≠ name

/-- The object of a name. -/
def get? (name : String) (table : Table α) : Option α :=
  (table.find? fun entry => entry.1 = name).map (·.2)

/-- The names in a table. -/
def names (table : Table α) : List String := table.map (·.1)

@[simp] theorem mem_names_put {name other : String} {object : α} {table : Table α} :
    other ∈ names (put name object table) ↔ other = name ∨ other ∈ names table := by
  induction table with
  | nil => simp [put, names]
  | cons entry rest ih =>
    unfold put
    split
    · simp [names]
    · split
      · simp_all [names]
      · simp only [names, List.map_cons, List.mem_cons] at ih ⊢
        rw [ih]
        constructor <;> rintro (h | h | h) <;> simp_all

end Table

/-- The objects of a cluster, by kind and name. -/
structure Cluster where
  services : Table ServiceObject
  slices : Table EndpointSlice
  routes : Table HttpRoute
  deriving DecidableEq, Repr

namespace Cluster

/-- Without objects. -/
def empty : Cluster := ⟨[], [], []⟩

/-- The cluster without an object. -/
def delete (cluster : Cluster) : Kind → String → Cluster
  | .service, name => { cluster with services := Table.erase name cluster.services }
  | .endpointSlice, name => { cluster with slices := Table.erase name cluster.slices }
  | .httpRoute, name => { cluster with routes := Table.erase name cluster.routes }

/-- Which objects a listing shows, by their labels. -/
abbrev Selector := Labels → Bool

/-- The objects that carry the marker. -/
def Selector.managed : Selector := fun labels => labels.get? Name.managedByLabel = some Name.manager

/-- All objects. -/
def Selector.everything : Selector := fun _ => true

/-- The services that a listing shows. -/
def listServices (selector : Selector) (cluster : Cluster) : List String :=
  Table.names (cluster.services.filter fun entry => selector entry.2.metadata.labels)

/-- The slices that a listing shows, with the service that a label names. -/
def listSlices (selector : Selector) (cluster : Cluster) : List ManagedSlice :=
  (cluster.slices.filter fun entry => selector entry.2.metadata.labels).map fun entry =>
    ⟨entry.1, entry.2.metadata.labels.get? Name.serviceNameLabel⟩

/-- The routes that a listing shows. -/
def listRoutes (selector : Selector) (cluster : Cluster) : List String :=
  Table.names (cluster.routes.filter fun entry => selector entry.2.metadata.labels)

/-- What a request that does not fail does, and its answer. -/
def perform (selector : Selector) (cluster : Cluster) : (call : ClusterCall) → Cluster × call.Answer
  | .applyService service =>
    ({ cluster with
      services := Table.put (service.metadata.name.getD "") service cluster.services }, ())
  | .applySlice slice =>
    ({ cluster with slices := Table.put (slice.metadata.name.getD "") slice cluster.slices }, ())
  | .applyRoute route =>
    ({ cluster with routes := Table.put route.metadata.name route cluster.routes }, ())
  | .listServices => (cluster, listServices selector cluster)
  | .listSlices => (cluster, listSlices selector cluster)
  | .listRoutes => (cluster, listRoutes selector cluster)
  | .delete kind name => (cluster.delete kind name, ())

end Cluster

end CatalogBridge
