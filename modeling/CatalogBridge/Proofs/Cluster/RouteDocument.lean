import CatalogBridge.Json.Writer
import CatalogBridge.Kubernetes.Route
import CatalogBridge.Proofs.Json.Shape

/-!
# Documents of routes

A route is read from its own document, although a document leaves out what is empty or
absent, and every route that is read from a document, however it was written, is such a
route.

* `WellFormed` is what is true of the parts of every route: labels have the order of a
  table, and ports fit 32 bits with sign.
* `ofDocument?_document`, part by part, says that a part is read from its own document;
  a field that was left out is read as what made it be left out.
* `wellFormed_of_ofDocument?`, part by part, says that only well-formed parts are read.
* `plain_document`, part by part, says that a document can be written and read as text.
* `roundTrip_document` puts these together for routes as text.
-/

namespace CatalogBridge

open Json

/-! ## Well-formed routes -/

/-- The port fits 32 bits with sign. -/
def BackendRef.WellFormed (backend : BackendRef) : Prop :=
  -2147483648 ≤ backend.port ∧ backend.port ≤ 2147483647

/-- The backends of a rule are well-formed. -/
def RouteRule.WellFormed (rule : RouteRule) : Prop :=
  ∀ backend ∈ rule.backendRefs, backend.WellFormed

/-- The rules are well-formed. -/
def RouteSpec.WellFormed (spec : RouteSpec) : Prop := ∀ rule ∈ spec.rules, rule.WellFormed

/-- Each label occurs once, in the order of their keys. -/
def RouteMetadata.WellFormed (metadata : RouteMetadata) : Prop := Table.Ascending metadata.labels

/-- What is true of every route. -/
def HttpRoute.WellFormed (route : HttpRoute) : Prop :=
  route.metadata.WellFormed ∧ route.spec.WellFormed

/-! ## Reading what was written -/

theorem Labels.asTable_document {labels : Labels} (h : Table.Ascending labels) :
    asTable asText labels.document = some labels :=
  asTable_record h fun label _ => asText_str label.2

theorem RouteMetadata.ofDocument?_document {metadata : RouteMetadata} (h : metadata.WellFormed) :
    ofDocument? metadata.document = some metadata := by
  obtain ⟨name, namespaceName, labels⟩ := metadata
  have hlabels : asTable asText labels.document = some labels := Labels.asTable_document h
  cases labels with
  | nil =>
    -- The field is left out, and without it no labels are read.
    rw [ofDocument?, document, asCells_record _ (by simp [optionalField, Labels.document?])]
    simp [optionalField, Labels.document?, Cells.get, Table.get?_cons, asText_str]
  | cons label rest =>
    rw [ofDocument?, document, asCells_record _ (by simp [optionalField, Labels.document?])]
    simp [optionalField, Labels.document?, Cells.get, Table.get?_cons, asText_str, hlabels]

theorem ParentRef.ofDocument?_document (parent : ParentRef) :
    ofDocument? parent.document = some parent := by
  obtain ⟨name, namespaceName, sectionName⟩ := parent
  rw [ofDocument?, document,
    asCells_record _ (by cases namespaceName <;> cases sectionName <;> simp [optionalField])]
  cases namespaceName <;> cases sectionName <;>
    simp [optionalField, Cells.get, Table.get?_cons, asText_str, asOption_str]

theorem BackendRef.ofDocument?_document {backend : BackendRef} (h : backend.WellFormed) :
    ofDocument? backend.document = some backend := by
  rw [ofDocument?, document, asCells_record _ (by simp)]
  simp [Cells.get, Table.get?_cons, asText_str, asInt32_int h]

theorem RouteRule.ofDocument?_document {rule : RouteRule} (h : rule.WellFormed) :
    ofDocument? rule.document = some rule := by
  have hbackends := asList_map fun backend hbackend =>
    BackendRef.ofDocument?_document (h backend hbackend)
  rw [ofDocument?, document, asCells_record _ (by simp)]
  simp [Cells.get, Table.get?_cons, hbackends]

theorem RouteSpec.ofDocument?_document {spec : RouteSpec} (h : spec.WellFormed) :
    ofDocument? spec.document = some spec := by
  obtain ⟨parentRefs, hostnames, rules⟩ := spec
  have hparents := asList_map fun parent (_ : parent ∈ parentRefs) =>
    ParentRef.ofDocument?_document parent
  have hrules := asList_map fun rule hrule => RouteRule.ofDocument?_document (h rule hrule)
  have hhostnames : asList asText (.array (hostnames.map .str)) = some hostnames :=
    asList_map fun hostname _ => asText_str hostname
  cases hostnames with
  | nil =>
    rw [ofDocument?, document, asCells_record _ (by simp [optionalField])]
    simp [optionalField, Cells.get, Table.get?_cons, hparents, hrules]
  | cons hostname rest =>
    rw [ofDocument?, document, asCells_record _ (by simp [optionalField])]
    rw [List.map_cons] at hhostnames
    simp [optionalField, Cells.get, Table.get?_cons, hparents, hrules, hhostnames]

/-- A route is read from its own document. -/
theorem HttpRoute.ofDocument?_document {route : HttpRoute} (h : route.WellFormed) :
    ofDocument? route.document = some route := by
  rw [ofDocument?, document, asCells_record _ (by simp)]
  simp [Cells.get, Table.get?_cons, asText_str, RouteMetadata.ofDocument?_document h.1,
    RouteSpec.ofDocument?_document h.2]

/-! ## What can be read -/

theorem BackendRef.wellFormed_of_ofDocument? {document : Json} {backend : BackendRef}
    (h : ofDocument? document = some backend) : backend.WellFormed := by
  simp only [ofDocument?, Option.bind_eq_bind, Option.bind_eq_some_iff] at h
  obtain ⟨record, -, name, -, port, hport, hbackend⟩ := h
  obtain rfl := Option.some.inj hbackend
  obtain ⟨document, hport⟩ := exists_of_get_required hport
  exact bounds_of_asInt32 hport

theorem RouteRule.wellFormed_of_ofDocument? {document : Json} {rule : RouteRule}
    (h : ofDocument? document = some rule) : rule.WellFormed := by
  simp only [ofDocument?, Option.bind_eq_bind, Option.bind_eq_some_iff] at h
  obtain ⟨record, -, backends, hbackends, hrule⟩ := h
  obtain rfl := Option.some.inj hrule
  obtain ⟨document, hbackends⟩ := exists_of_get_required hbackends
  exact forall_of_asList (fun _ _ => BackendRef.wellFormed_of_ofDocument?) hbackends

theorem RouteSpec.wellFormed_of_ofDocument? {document : Json} {spec : RouteSpec}
    (h : ofDocument? document = some spec) : spec.WellFormed := by
  simp only [ofDocument?, Option.bind_eq_bind, Option.bind_eq_some_iff] at h
  obtain ⟨record, -, parents, -, hostnames, -, rules, hrules, hspec⟩ := h
  obtain rfl := Option.some.inj hspec
  obtain ⟨document, hrules⟩ := exists_of_get_required hrules
  exact forall_of_asList (fun _ _ => RouteRule.wellFormed_of_ofDocument?) hrules

theorem RouteMetadata.wellFormed_of_ofDocument? {document : Json} {metadata : RouteMetadata}
    (h : ofDocument? document = some metadata) : metadata.WellFormed := by
  simp only [ofDocument?, Option.bind_eq_bind, Option.bind_eq_some_iff] at h
  obtain ⟨record, -, name, -, namespaceName, -, labels, hlabels, hmetadata⟩ := h
  obtain rfl := Option.some.inj hmetadata
  rcases get_orElse_cases hlabels with ⟨document, hlabels⟩ | rfl
  · exact ascending_of_asTable hlabels
  · exact Table.ascending_nil

/-- Only well-formed routes are read. -/
theorem HttpRoute.wellFormed_of_ofDocument? {document : Json} {route : HttpRoute}
    (h : ofDocument? document = some route) : route.WellFormed := by
  simp only [ofDocument?, Option.bind_eq_bind, Option.bind_eq_some_iff] at h
  obtain ⟨record, -, apiVersion, -, kind, -, metadata, hmetadata, spec, hspec, hroute⟩ := h
  obtain rfl := Option.some.inj hroute
  constructor
  · obtain ⟨document, hmetadata⟩ := exists_of_get_required hmetadata
    exact RouteMetadata.wellFormed_of_ofDocument? hmetadata
  · obtain ⟨document, hspec⟩ := exists_of_get_required hspec
    exact RouteSpec.wellFormed_of_ofDocument? hspec

/-! ## Routes as text -/

@[simp] theorem plainFields_optionalField {name : String} {value : Option Json} :
    PlainFields (optionalField name value) ↔
      ∀ document, value = some document → Plain document := by
  cases value <;> simp [optionalField]

theorem Labels.plain_document (labels : Labels) : labels.document.Plain :=
  .record (List.forall_mem_map.2 fun label _ => .str label.2)

theorem RouteMetadata.plain_document (metadata : RouteMetadata) : metadata.document.Plain := by
  simp [document, Labels.document?, Labels.plain_document]

theorem ParentRef.plain_document (parent : ParentRef) : parent.document.Plain := by
  simp [document]

theorem BackendRef.plain_document (backend : BackendRef) : backend.document.Plain := by
  simp [document]

theorem RouteRule.plain_document (rule : RouteRule) : rule.document.Plain := by
  simp [document, BackendRef.plain_document]

theorem RouteSpec.plain_document (spec : RouteSpec) : spec.document.Plain := by
  simp [document, ParentRef.plain_document, RouteRule.plain_document]

theorem HttpRoute.plain_document (route : HttpRoute) : route.document.Plain := by
  simp [document, RouteMetadata.plain_document, RouteSpec.plain_document]

namespace HttpRoute

/-- A well-formed route is read from its own text. -/
theorem parse?_render {route : HttpRoute} (h : route.WellFormed) :
    parse? route.document.render = some route := by
  rw [parse?, Json.parse?_render route.plain_document, Option.bind_some, ofDocument?_document h]

theorem wellFormed_of_parse? {text : String} {route : HttpRoute} (h : parse? text = some route) :
    route.WellFormed := by
  obtain ⟨document, -, hroute⟩ := Option.bind_eq_some_iff.1 h
  exact wellFormed_of_ofDocument? hroute

/-- The text of a route as this library writes it. -/
def rewrite? (text : String) : Option String := (parse? text).map fun route => route.document.render

/-- Documents of routes, as text.

Every well-formed route is read from its own document. Every route that is read from a text is
well-formed, so it is read again from its own document, and rewriting what was rewritten changes
nothing. -/
theorem roundTrip_document :
    (∀ route : HttpRoute, route.WellFormed → parse? route.document.render = some route) ∧
      (∀ text route, parse? text = some route →
        parse? route.document.render = some route) ∧
      ∀ text rewritten, rewrite? text = some rewritten → rewrite? rewritten = some rewritten := by
  have hagain : ∀ text route, parse? text = some route →
      parse? route.document.render = some route :=
    fun text route hroute => parse?_render (wellFormed_of_parse? hroute)
  refine ⟨fun route => parse?_render, hagain, fun text rewritten hrewritten => ?_⟩
  obtain ⟨route, hroute, rfl⟩ := Option.map_eq_some_iff.1 hrewritten
  rw [rewrite?, hagain text route hroute, Option.map_some]

/-- A route with the least port and nothing that can be left out. -/
def sparseRoute : HttpRoute where
  apiVersion := ""
  kind := "\"\\\t é"
  metadata := ⟨"web", "", []⟩
  spec := ⟨[⟨"gateway", none, none⟩], [], [⟨[]⟩, ⟨[⟨"web", -2147483648⟩]⟩]⟩

/-- A document that leaves out fields and their names, and repeats a label out of order. -/
def looseDocument : Json := .record [
  ("spec", .array [.array [], .array [], .array []]),
  ("metadata", .array [.str "web", .str "network",
    Labels.document [("b", "1"), ("a", "2"), ("b", "3")]])]

/-- The route that this document denotes. -/
def looseRoute : HttpRoute :=
  ⟨standardApiVersion, standardKind, ⟨"web", "network", [("a", "2"), ("b", "3")]⟩, ⟨[], [], []⟩⟩

theorem plain_looseDocument : looseDocument.Plain := by
  simp [looseDocument, Labels.plain_document]

theorem parse?_looseDocument : parse? looseDocument.render = some looseRoute := by
  rw [parse?, Json.parse?_render plain_looseDocument, Option.bind_some]
  decide +kernel

/-- A route with almost nothing in it, and one that was written loosely. -/
theorem roundTrip_document_loose :
    sparseRoute.WellFormed ∧ parse? sparseRoute.document.render = some sparseRoute ∧
      parse? looseDocument.render = some looseRoute ∧
      parse? looseRoute.document.render = some looseRoute ∧
      rewrite? looseRoute.document.render = some looseRoute.document.render := by
  have hports : ∀ rule ∈ sparseRoute.spec.rules, ∀ backend ∈ rule.backendRefs,
      -2147483648 ≤ backend.port ∧ backend.port ≤ 2147483647 := by decide
  have hsparse : sparseRoute.WellFormed := ⟨Table.ascending_nil, hports⟩
  have hloose := parse?_looseDocument
  have hrewritten : rewrite? looseDocument.render = some looseRoute.document.render := by
    rw [rewrite?, hloose, Option.map_some]
  exact ⟨hsparse, roundTrip_document.1 _ hsparse, hloose,
    roundTrip_document.2.1 _ _ hloose, roundTrip_document.2.2 _ _ hrewritten⟩

end HttpRoute

end CatalogBridge
