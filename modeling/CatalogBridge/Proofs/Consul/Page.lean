import CatalogBridge.Proofs.Consul.Request
import CatalogBridge.Proofs.Json.RoundTrip
import CatalogBridge.Proofs.Json.Shape
import CatalogBridge.Proofs.Text.Order

/-!
# Pages of the catalog

An answer of the catalog lists services if it succeeds and its body is an object that
gives every name a list of tags or nothing (`CatalogAnswer.Lists`).  From such an answer
a canonical page is read, whatever the order of the names and however often they are
repeated, and from everything else none.

* `namesOfDocument?_eq_some_iff` says which documents are read and as which names, and
  `CatalogPage.Canonical` what is true of these names.
* `read_eq_ok_iff` and `registry_of_read` say what can come of a query: a value that was
  read from an answer that succeeded, or a failure of the registry.
* `page_of_delivery` puts these together for every delivery.
-/

namespace CatalogBridge

/-- An answer that lists services: it succeeds, and its body is an object that gives every name a
list of tags or nothing. -/
structure CatalogAnswer.Lists (answer : CatalogAnswer) (fields : List (Option String × Json)) :
    Prop where
  succeeds : 200 ≤ answer.status ∧ answer.status < 300
  document : answer.document? = some (.object fields)
  named : ∀ field ∈ fields, ∃ name, field.1 = some name
  tagged : ∀ field ∈ fields,
    field.2 = .null ∨ ∃ tags : List String, field.2 = .array (tags.map .str)

theorem Chunks.octets?_whole (octets : List UInt8) : (whole octets).octets? = some octets :=
  congrArg some (List.append_nil octets)

/-- The document that was written into a body is read from it. -/
theorem CatalogAnswer.document?_of_render {answer : CatalogAnswer} {document : Json}
    (hbody : answer.body.octets? = some (Utf8.encode document.render.toList))
    (hplain : document.Plain) : answer.document? = some document := by
  rw [CatalogAnswer.document?, hbody]
  show (Utf8.decode? (Utf8.encode document.render.toList)).bind
    (fun text => Json.parse? (String.ofList text)) = some document
  rw [Utf8.decode?_encode, Option.bind_some, String.ofList_toList, Json.parse?_render hplain]

namespace CatalogPage

/-- A page in canonical form: the octets of its names ascend, the names are those of the fields
without the catalog's own, and the next query with its index waits. -/
structure Canonical (page : CatalogPage) (fields : List (Option String × Json)) : Prop where
  ascending : page.names.Pairwise fun first second =>
    Utf8.encode first.toList < Utf8.encode second.toList
  mem_names_iff : ∀ name, name ∈ page.names ↔
    name ≠ "consul" ∧ ∃ tags, (some name, tags) ∈ fields
  one_le_index : 1 ≤ page.index.value

/-! ## Documents -/

/-- How the tags of a service are read. -/
abbrev tagShape : Json.Shape (Option (List String)) := Json.asOption (Json.asList Json.asText)

theorem exists_tags_iff {document : Json} : (∃ tags, tagShape document = some tags) ↔
    document = .null ∨ ∃ tags : List String, document = .array (tags.map .str) := by
  simp only [tagShape, Json.asOption_eq_some_iff, Json.asList_asText_eq_some_iff]
  constructor
  · rintro ⟨tags, ⟨hnull, -⟩ | ⟨-, inner, harray, -⟩⟩
    · exact .inl hnull
    · exact .inr ⟨inner, harray⟩
  · rintro (hnull | ⟨tags, harray⟩)
    · exact ⟨none, .inl ⟨hnull, rfl⟩⟩
    · exact ⟨some tags, .inr ⟨by rw [harray]; exact Json.noConfusion, tags, harray, rfl⟩⟩

/-- The entries of a catalog document, as its fields are read. -/
abbrev Entries := List (String × Option (List String))

theorem namesOfDocument?_eq_some_iff {document : Json} {names : List String} :
    namesOfDocument? document = some names ↔ ∃ fields, ∃ entries : Entries,
      document = .object fields ∧ List.Forall₂ (Json.IsEntry tagShape) fields entries ∧
        names = (Table.names (Table.ofEntries entries)).filter (· ≠ catalogServiceName) := by
  simp only [namesOfDocument?, Option.bind_eq_bind, Option.bind_eq_some_iff,
    Json.asTable_eq_some_iff]
  constructor
  · rintro ⟨table, ⟨fields, entries, hdocument, hentries, rfl⟩, hnames⟩
    exact ⟨fields, entries, hdocument, hentries, (Option.some.inj hnames).symm⟩
  · rintro ⟨fields, entries, hdocument, hentries, rfl⟩
    exact ⟨_, ⟨fields, entries, hdocument, hentries, rfl⟩, rfl⟩

/-- The names of a table ascend octet by octet, also without the catalog's own. -/
theorem pairwise_encode_of_ascending {α : Type} {table : Table α} (h : Table.Ascending table)
    (keeps : String → Bool) : ((Table.names table).filter keeps).Pairwise fun first second =>
      Utf8.encode first.toList < Utf8.encode second.toList := by
  have hnames : (Table.names table).Pairwise (· < ·) := List.pairwise_map.2 h
  exact (hnames.sublist List.filter_sublist).imp fun hlt => Utf8.encode_lt (String.lt_iff.1 hlt)

theorem canonical_of_entries {answer : CatalogAnswer} {fields : List (Option String × Json)}
    {entries : Entries} (h : List.Forall₂ (Json.IsEntry tagShape) fields entries) :
    Canonical ⟨(Table.names (Table.ofEntries entries)).filter (· ≠ catalogServiceName),
      answer.index⟩ fields where
  ascending := pairwise_encode_of_ascending (Table.ascending_ofEntries entries) _
  mem_names_iff name := by
    rw [List.mem_filter, Table.mem_names_ofEntries, Json.mem_names_of_entries h, and_comm,
      decide_eq_true_iff]
    rfl
  one_le_index := ChangeIndex.ofHeader_pos _

/-! ## Answers -/

theorem ofAnswer?_eq_some_iff {answer : CatalogAnswer} {page : CatalogPage} :
    ofAnswer? answer = some page ↔ ∃ document, answer.document? = some document ∧
      ∃ names, namesOfDocument? document = some names ∧ page = ⟨names, answer.index⟩ := by
  simp only [ofAnswer?, Option.bind_eq_bind, Option.bind_eq_some_iff, Option.pure_def,
    Option.some_inj, @eq_comm _ page]

theorem index_of_ofAnswer? {answer : CatalogAnswer} {page : CatalogPage}
    (h : ofAnswer? answer = some page) : page.index = answer.index := by
  obtain ⟨_, _, names, _, rfl⟩ := ofAnswer?_eq_some_iff.1 h
  rfl

/-- The page of an answer that lists services. -/
theorem exists_page_of_lists {answer : CatalogAnswer} {fields : List (Option String × Json)}
    (h : answer.Lists fields) :
    ∃ page, ofAnswer? answer = some page ∧ Canonical page fields := by
  have hentry : ∀ field ∈ fields, ∃ entry, Json.IsEntry tagShape field entry := by
    intro field hfield
    obtain ⟨name, hname⟩ := h.named field hfield
    obtain ⟨tags, htags⟩ := exists_tags_iff.2 (h.tagged field hfield)
    exact ⟨(name, tags), hname, htags⟩
  obtain ⟨entries, hentries⟩ := Json.exists_forall₂_iff.2 hentry
  have hnames := namesOfDocument?_eq_some_iff.2 ⟨fields, entries, rfl, hentries, rfl⟩
  exact ⟨_, ofAnswer?_eq_some_iff.2 ⟨_, h.document, _, hnames, rfl⟩, canonical_of_entries hentries⟩

/-- Only an answer that lists services has a page. -/
theorem lists_of_ofAnswer? {answer : CatalogAnswer} {page : CatalogPage}
    (hsuccess : answer.isSuccess = true) (h : ofAnswer? answer = some page) :
    ∃ fields, answer.Lists fields := by
  obtain ⟨document, hdocument, names, hnames, -⟩ := ofAnswer?_eq_some_iff.1 h
  obtain ⟨fields, entries, rfl, hentries, -⟩ := namesOfDocument?_eq_some_iff.1 hnames
  have hentry := Json.exists_forall₂_iff.1 ⟨entries, hentries⟩
  have hstatus : 200 ≤ answer.status ∧ answer.status < 300 := by
    simpa [CatalogAnswer.isSuccess] using hsuccess
  refine ⟨fields, hstatus, hdocument, ?_, ?_⟩
  · intro field hfield
    obtain ⟨entry, hname, -⟩ := hentry field hfield
    exact ⟨entry.1, hname⟩
  · intro field hfield
    obtain ⟨entry, -, htags⟩ := hentry field hfield
    exact exists_tags_iff.1 ⟨entry.2, htags⟩

end CatalogPage

namespace CatalogClient

/-! ## Deliveries -/

section

variable {α : Type} {request : CatalogRequest} {service : Option String} {what : String}
  {ofAnswer? : CatalogAnswer → Option α} {delivery : CatalogDelivery}

theorem read_of_answered {answer : CatalogAnswer} {value : α}
    (hsendable : request.isSendable = true) (hsuccess : answer.isSuccess = true)
    (h : ofAnswer? answer = some value) :
    read request service what ofAnswer? (.answered answer) = .ok value := by
  simp [read, hsendable, hsuccess, h]

theorem isSendable_of_read {value : α}
    (h : read request service what ofAnswer? delivery = .ok value) : request.isSendable = true := by
  unfold read at h
  split at h
  · cases h
  · rename_i hsendable
    simpa using hsendable

/-- Whatever goes wrong with a query is a failure of the registry that names the service that the
query was about. -/
theorem registry_of_read {failure : Error}
    (h : read request service what ofAnswer? delivery = .error failure) :
    ∃ message, failure = .registry message service := by
  unfold read at h
  split at h
  · exact ⟨_, (Except.error.inj h).symm⟩
  · split at h
    · exact ⟨_, (Except.error.inj h).symm⟩
    · split at h
      · exact ⟨_, (Except.error.inj h).symm⟩
      · split at h
        · cases h
        · exact ⟨_, (Except.error.inj h).symm⟩

end

/-- What comes of a query for a page, whatever is delivered.

An answer that lists services gives a canonical page, and no other answer with the same first
index, to whatever query, gives a page with another index. If the query is not sent, or no answer
comes, or one that does not list services, the registry has failed, about no single service. -/
theorem page_of_delivery (client : CatalogClient) (index : ChangeIndex)
    (delivery : CatalogDelivery) :
    (∀ answer fields, (client.listRequest index).isSendable = true →
        delivery = .answered answer → answer.Lists fields →
      ∃ page, client.readPage index delivery = .ok page ∧ page.Canonical fields ∧
        ∀ (other : CatalogClient) (otherIndex : ChangeIndex) (otherAnswer : CatalogAnswer)
          (otherPage : CatalogPage),
          other.readPage otherIndex (.answered otherAnswer) = .ok otherPage →
          otherAnswer.indexFields.head? = answer.indexFields.head? →
          otherPage.index = page.index) ∧
    ((∀ answer fields, (client.listRequest index).isSendable = true →
        delivery = .answered answer → ¬ answer.Lists fields) →
      ∃ message, client.readPage index delivery = .error (.registry message none)) := by
  constructor
  · rintro answer fields hsendable rfl hlists
    obtain ⟨page, hpage, hcanonical⟩ := CatalogPage.exists_page_of_lists hlists
    have hsuccess : answer.isSuccess = true := by
      simpa [CatalogAnswer.isSuccess] using hlists.succeeds
    refine ⟨page, read_of_answered hsendable hsuccess hpage, hcanonical, ?_⟩
    intro other otherIndex otherAnswer otherPage hother hhead
    obtain ⟨_, hanswered, -, hotherPage⟩ := read_eq_ok hother
    cases hanswered
    rw [CatalogPage.index_of_ofAnswer? hpage, CatalogPage.index_of_ofAnswer? hotherPage,
      CatalogAnswer.index, CatalogAnswer.index, hhead]
  · intro hnone
    -- A page can only come from an answer that lists services, which none is.
    cases hread : client.readPage index delivery with
    | error failure =>
      obtain ⟨message, rfl⟩ := registry_of_read hread
      exact ⟨message, rfl⟩
    | ok page =>
      obtain ⟨answer, hanswered, hsuccess, hpage⟩ := read_eq_ok hread
      obtain ⟨fields, hlists⟩ := CatalogPage.lists_of_ofAnswer? hsuccess hpage
      exact absurd hlists (hnone answer fields (isSendable_of_read hread) hanswered)

/-- A listing with a name that is repeated and one without tags. -/
def repeatingListing : List (String × Json) :=
  [("web", .null), ("consul", .array []), ("é", .array [.str "a"]), ("web", .array [])]

/-- The answer with this listing and two indexes. -/
def repeatingAnswer : CatalogAnswer :=
  ⟨200, [[52, 50], [55]], .whole (Utf8.encode (Json.record repeatingListing).render.toList)⟩

theorem lists_repeatingAnswer : repeatingAnswer.Lists (Json.named repeatingListing) where
  succeeds := by decide
  document := by
    have hplain : (Json.record repeatingListing).Plain := by simp [repeatingListing]
    exact CatalogAnswer.document?_of_render (Chunks.octets?_whole _) hplain
  named := by simp [Json.named, repeatingListing]
  tagged := by
    simp only [Json.named, repeatingListing, List.map_cons, List.map_nil, List.forall_mem_cons,
      List.not_mem_nil, false_implies, implies_true, and_true]
    exact ⟨.inl trivial, .inr ⟨[], rfl⟩, .inr ⟨["a"], rfl⟩, .inr ⟨[], rfl⟩⟩

/-- A page is read from the answer that repeats a name, and a lost query fails. -/
theorem page_of_delivery_repeating :
    (proxyClient.listRequest .none).isSendable = true ∧
      repeatingAnswer.Lists (Json.named repeatingListing) ∧
      (∃ page, proxyClient.readPage .none (.answered repeatingAnswer) = .ok page ∧
        page.Canonical (Json.named repeatingListing)) ∧
      ∃ message, proxyClient.readPage .none .lost = .error (.registry message none) := by
  have hsendable : (proxyClient.listRequest .none).isSendable = true := rfl
  refine ⟨hsendable, lists_repeatingAnswer, ?_, ?_⟩
  · obtain ⟨page, hpage, hcanonical, -⟩ :=
      (page_of_delivery proxyClient .none (.answered repeatingAnswer)).1
        _ _ hsendable rfl lists_repeatingAnswer
    exact ⟨page, hpage, hcanonical⟩
  · exact (page_of_delivery proxyClient .none .lost).2 (fun _ _ _ hlost => nomatch hlost)

end CatalogClient

end CatalogBridge
