import CatalogBridge.Rehearsal.Faults

/-!
# Edits

What can be done to a cluster in memory between two cycles, from outside: plan or call off faults,
take objects away, and put bare objects in, which carry a name and nothing else that they could go
without.
-/

namespace CatalogBridge.Rehearsal

/-- Something done to a cluster from outside. -/
inductive Edit where
  | fail (text : String) (fault : Fault)
  | delay (text : String) (millis : Nat)
  | heal
  | remove (kind : Kind) (name : String)
  | seedService (name : String)
  | seedSlice (name : String) (service : Option String)
  | seedRoute (name : String)

/-- A service with nothing but its name. -/
def bareService (name : String) : ServiceObject := ⟨⟨some name, none, []⟩, []⟩

/-- A slice with nothing but its name, and the label that names its service if there is one. -/
def bareSlice (name : String) (service : Option String) : EndpointSlice where
  metadata := ⟨some name, none, service.toList.map fun service => (Name.serviceNameLabel, service)⟩
  addressType := none
  addresses := []
  ports := []

/-- A route with nothing but its name. -/
def bareRoute (name : String) : HttpRoute where
  apiVersion := HttpRoute.standardApiVersion
  kind := HttpRoute.standardKind
  metadata := ⟨name, "", []⟩
  spec := ⟨[], [], []⟩

namespace Plant

/-- The plant with another cluster in it. -/
def withCluster (plant : Plant) (change : Cluster → Cluster) : Plant :=
  { plant with cluster := change plant.cluster }

/-- The plant after an edit. -/
def edit (plant : Plant) : Edit → Plant
  | .fail text fault => plant.fail text fault
  | .delay text millis => plant.delay text millis
  | .heal => plant.heal
  | .remove kind name => plant.withCluster fun cluster => cluster.delete kind name
  | .seedService name =>
    plant.withCluster fun cluster =>
      { cluster with services := Table.put name (bareService name) cluster.services }
  | .seedSlice name service =>
    plant.withCluster fun cluster =>
      { cluster with slices := Table.put name (bareSlice name service) cluster.slices }
  | .seedRoute name =>
    plant.withCluster fun cluster =>
      { cluster with routes := Table.put name (bareRoute name) cluster.routes }

/-- The plant after several edits. -/
def editAll (plant : Plant) (edits : List Edit) : Plant := edits.foldl edit plant

end Plant

end CatalogBridge.Rehearsal
