import CatalogBridge.Proofs.Cluster.Table

/-!
# Objects of any kind

A cluster keeps three tables of three types. The statements about syncing treat
the kinds alike, so this module gives them one view: `Object` is an object of
some kind, and `Cluster.get?` reads a cluster by kind and name.

* A request applies an object, lists a kind, or deletes an object
  (`ClusterCall.eq_apply_or_list_or_delete`). `get?_perform_apply`,
  `get?_delete` and `perform_list_fst` say what each of the three does to the
  view.
* `Cluster.Ordered` says that the tables ascend. Every request keeps it
  (`ordered_perform`), and `eq_of_get?_eq` says that the view of an ordered
  cluster determines it.
-/

namespace CatalogBridge

/-- An object of any kind. -/
inductive Object where
  | service (service : ServiceObject)
  | slice (slice : EndpointSlice)
  | route (route : HttpRoute)
  deriving DecidableEq

namespace Object

/-- The kind of an object. -/
def kind : Object → Kind
  | .service _ => .service
  | .slice _ => .endpointSlice
  | .route _ => .httpRoute

/-- The name under which an object is stored. -/
def name : Object → String
  | .service object => object.metadata.name.getD ""
  | .slice object => object.metadata.name.getD ""
  | .route object => object.metadata.name

/-- The labels of an object. -/
def labels : Object → Labels
  | .service object => object.metadata.labels
  | .slice object => object.metadata.labels
  | .route object => object.metadata.labels

/-- The request that applies an object. -/
def apply : Object → ClusterCall
  | .service object => .applyService object
  | .slice object => .applySlice object
  | .route object => .applyRoute object

theorem apply_injective {first second : Object} (h : first.apply = second.apply) :
    first = second := by
  cases first <;> cases second <;> simp_all [apply]

@[simp] theorem apply_ne_delete (object : Object) (kind : Kind) (name : String) :
    object.apply ≠ .delete kind name := by
  cases object <;> simp [apply]

end Object

namespace ClusterCall

/-- The request that lists a kind. -/
def list : Kind → ClusterCall
  | .service => .listServices
  | .endpointSlice => .listSlices
  | .httpRoute => .listRoutes

/-- Every request is of one of three sorts. -/
theorem eq_apply_or_list_or_delete (call : ClusterCall) :
    (∃ object : Object, call = object.apply) ∨ (∃ kind, call = list kind) ∨
      ∃ kind name, call = .delete kind name := by
  cases call with
  | applyService service => exact Or.inl ⟨.service service, rfl⟩
  | applySlice slice => exact Or.inl ⟨.slice slice, rfl⟩
  | applyRoute route => exact Or.inl ⟨.route route, rfl⟩
  | listServices => exact Or.inr (Or.inl ⟨.service, rfl⟩)
  | listSlices => exact Or.inr (Or.inl ⟨.endpointSlice, rfl⟩)
  | listRoutes => exact Or.inr (Or.inl ⟨.httpRoute, rfl⟩)
  | delete kind name => exact Or.inr (Or.inr ⟨kind, name, rfl⟩)

@[simp] theorem kind_list (kind : Kind) : (list kind).kind = kind := by
  cases kind <;> rfl

@[simp] theorem kind_apply (object : Object) : object.apply.kind = object.kind := by
  cases object <;> rfl

@[simp] theorem list_ne_apply (kind : Kind) (object : Object) : list kind ≠ object.apply := by
  cases kind <;> cases object <;> simp [list, Object.apply]

@[simp] theorem list_ne_delete (kind other : Kind) (name : String) :
    list kind ≠ .delete other name := by
  cases kind <;> simp [list]

end ClusterCall

namespace Cluster

/-- The object of a kind and name. -/
def get? (cluster : Cluster) : Kind → String → Option Object
  | .service, name => (Table.get? name cluster.services).map .service
  | .endpointSlice, name => (Table.get? name cluster.slices).map .slice
  | .httpRoute, name => (Table.get? name cluster.routes).map .route

@[simp] theorem get?_empty (kind : Kind) (name : String) : empty.get? kind name = none := by
  cases kind <;> rfl

/-- What is stored under a kind is of that kind. -/
theorem kind_of_get? {cluster : Cluster} {kind : Kind} {name : String} {object : Object}
    (h : cluster.get? kind name = some object) : object.kind = kind := by
  cases kind <;>
    · obtain ⟨stored, _, rfl⟩ := Option.map_eq_some_iff.1 h
      rfl

/-! ## What a request does to the view -/

/-- Applying an object stores it under its kind and name and changes nothing else. -/
theorem get?_perform_apply (selector : Selector) (cluster : Cluster) (object : Object)
    (kind : Kind) (name : String) :
    (cluster.perform selector object.apply).1.get? kind name
      = if object.kind = kind ∧ object.name = name then some object
        else cluster.get? kind name := by
  cases object <;> cases kind <;>
    simp only [Object.apply, Object.kind, Object.name, perform, get?, Table.get?_put,
      reduceCtorEq, false_and, if_false, true_and]
  all_goals split_ifs <;> rfl

/-- Deleting removes what is stored under the kind and name and changes nothing else. -/
theorem get?_delete (cluster : Cluster) (kind other : Kind) (name query : String) :
    (cluster.delete kind name).get? other query
      = if kind = other ∧ name = query then none else cluster.get? other query := by
  cases kind <;> cases other <;>
    simp only [delete, get?, Table.get?_erase, reduceCtorEq, false_and, if_false, true_and]
  all_goals split_ifs <;> rfl

/-- Listing changes nothing. -/
@[simp] theorem perform_list_fst (selector : Selector) (cluster : Cluster) (kind : Kind) :
    (cluster.perform selector (ClusterCall.list kind)).1 = cluster := by
  cases kind <;> rfl

/-! ## Ordered clusters -/

/-- The names ascend in every table. -/
structure Ordered (cluster : Cluster) : Prop where
  services : Table.Ascending cluster.services
  slices : Table.Ascending cluster.slices
  routes : Table.Ascending cluster.routes

theorem ordered_empty : Ordered empty :=
  ⟨Table.ascending_nil, Table.ascending_nil, Table.ascending_nil⟩

theorem ordered_delete {cluster : Cluster} (h : cluster.Ordered) (kind : Kind) (name : String) :
    (cluster.delete kind name).Ordered := by
  cases kind with
  | service => exact { h with services := Table.ascending_erase h.services name }
  | endpointSlice => exact { h with slices := Table.ascending_erase h.slices name }
  | httpRoute => exact { h with routes := Table.ascending_erase h.routes name }

theorem ordered_perform {cluster : Cluster} (h : cluster.Ordered) (selector : Selector)
    (call : ClusterCall) : (cluster.perform selector call).1.Ordered := by
  cases call with
  | applyService service => exact { h with services := Table.ascending_put h.services _ _ }
  | applySlice slice => exact { h with slices := Table.ascending_put h.slices _ _ }
  | applyRoute route => exact { h with routes := Table.ascending_put h.routes _ _ }
  | listServices | listSlices | listRoutes => exact h
  | delete kind name => exact ordered_delete h kind name

theorem Ordered.get?_slice {cluster : Cluster} (h : cluster.Ordered) {name : String}
    {object : EndpointSlice} (hentry : (name, object) ∈ cluster.slices) :
    cluster.get? .endpointSlice name = some (.slice object) := by
  rw [get?, (Table.mem_iff_get? h.slices).1 hentry, Option.map_some]

/-- Two ordered clusters with the same services by name have one table of services, and so for the
other two kinds. -/
theorem services_eq {first second : Cluster} (hfirst : first.Ordered) (hsecond : second.Ordered)
    (h : ∀ name, first.get? .service name = second.get? .service name) :
    first.services = second.services :=
  Table.eq_of_get?_eq hfirst.services hsecond.services fun name =>
    Option.map_injective (fun _ _ hsame => Object.service.inj hsame) (h name)

theorem slices_eq {first second : Cluster} (hfirst : first.Ordered) (hsecond : second.Ordered)
    (h : ∀ name, first.get? .endpointSlice name = second.get? .endpointSlice name) :
    first.slices = second.slices :=
  Table.eq_of_get?_eq hfirst.slices hsecond.slices fun name =>
    Option.map_injective (fun _ _ hsame => Object.slice.inj hsame) (h name)

theorem routes_eq {first second : Cluster} (hfirst : first.Ordered) (hsecond : second.Ordered)
    (h : ∀ name, first.get? .httpRoute name = second.get? .httpRoute name) :
    first.routes = second.routes :=
  Table.eq_of_get?_eq hfirst.routes hsecond.routes fun name =>
    Option.map_injective (fun _ _ hsame => Object.route.inj hsame) (h name)

/-- Two ordered clusters that read alike are one cluster. -/
theorem eq_of_get?_eq {first second : Cluster} (hfirst : first.Ordered)
    (hsecond : second.Ordered) (h : ∀ kind name, first.get? kind name = second.get? kind name) :
    first = second := by
  have hservices := services_eq hfirst hsecond (h .service)
  have hslices := slices_eq hfirst hsecond (h .endpointSlice)
  have hroutes := routes_eq hfirst hsecond (h .httpRoute)
  cases first
  cases second
  simp_all

end Cluster

end CatalogBridge
