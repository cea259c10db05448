import CatalogBridge.Consul.Answer
import CatalogBridge.Error
import CatalogBridge.Net.Url
import CatalogBridge.Settings.Basic

/-!
# The catalog client

The queries that are put to the catalog, and what their answers mean. A query names the service
that it asks for in the last segment of its path and everything else in its query; a token travels
in a header field. A query that fails says which service it was about, unless it was about the
whole catalog.
-/

namespace CatalogBridge

/-- A client of one catalog. -/
structure CatalogClient where
  base : Url
  token : Option String
  tag : String
  wait : Duration

/-- A query on its way to the catalog. -/
structure CatalogRequest where
  url : Url
  token : Option String

/-- What comes of sending a query. -/
inductive CatalogDelivery where
  | answered (answer : CatalogAnswer)
  | lost

namespace CatalogRequest

/-- Whether a query can be sent at all: its token must be able to travel in a header field. -/
def isSendable (request : CatalogRequest) : Bool :=
  request.token.all fun token => (Utf8.encode token.toList).all HeaderField.carries

end CatalogRequest

namespace CatalogClient

/-- A client for settings, if their address is one. -/
def ofSettings (settings : CatalogSettings) : Except Error CatalogClient :=
  match Url.parse settings.address with
  | .error cause =>
    .error (.config
      ("invalid consul address " ++ Quoted.quote settings.address ++ ": " ++ cause.message))
  | .ok base =>
    if base.hasPath then .ok ⟨base, Settings.nonEmpty settings.token, settings.tag, settings.wait⟩
    else
      .error (.config
        ("consul address " ++ Quoted.quote settings.address ++ " cannot be used as a base URL"))

/-- How long a query may wait, in whole seconds, but at least one. -/
def waitText (client : CatalogClient) : String := toString (max client.wait.seconds 1) ++ "s"

/-- The pairs in the query for a page. -/
def listPairs (client : CatalogClient) (index : ChangeIndex) : List (String × String) :=
  [("index", index.render), ("wait", client.waitText)]
    ++ (if client.tag = "" then [] else [("tag", client.tag)])

/-- The query for a page of the catalog. -/
def listRequest (client : CatalogClient) (index : ChangeIndex) : CatalogRequest :=
  ⟨(client.base.push ["v1", "catalog", "services"]).addPairs (client.listPairs index), client.token⟩

/-- The query for the instances of a service that pass all health checks. -/
def instancesRequest (client : CatalogClient) (service : String) : CatalogRequest :=
  ⟨(client.base.push ["v1", "health", "service", service]).addPairs [("passing", "true")],
    client.token⟩

/-- What is read from a delivery, or why nothing is. -/
def read {α : Type} (request : CatalogRequest) (service : Option String) (what : String)
    (ofAnswer? : CatalogAnswer → Option α) (delivery : CatalogDelivery) : Except Error α :=
  if !request.isSendable then .error (.registry "querying consul: builder error" service)
  else
    match delivery with
    | .lost =>
      .error (.registry
        ("querying consul: error sending request for url (" ++ request.url.render ++ ")") service)
    | .answered answer =>
      if !answer.isSuccess then
        .error (.registry
          ("consul returned " ++ toString answer.status ++ ": " ++ answer.body.errorText) service)
      else
        match ofAnswer? answer with
        | some value => .ok value
        | none =>
          .error (.registry
            ("decoding " ++ what ++ " response: error decoding response body") service)

/-- The page of the catalog that a delivery brings. -/
def readPage (client : CatalogClient) (index : ChangeIndex) (delivery : CatalogDelivery) :
    Except Error CatalogPage :=
  read (client.listRequest index) none "catalog" CatalogPage.ofAnswer? delivery

/-- The instances of a service that a delivery brings. -/
def readInstances (client : CatalogClient) (service : String) (delivery : CatalogDelivery) :
    Except Error (List Instance) :=
  read (client.instancesRequest service) (some service) "health" Instance.listOfAnswer? delivery

/-- A page of the catalog comes only from an answer that succeeded. -/
theorem read_eq_ok {α : Type} {request : CatalogRequest} {service : Option String} {what : String}
    {ofAnswer? : CatalogAnswer → Option α} {delivery : CatalogDelivery} {value : α}
    (h : read request service what ofAnswer? delivery = .ok value) :
    ∃ answer, delivery = .answered answer ∧ answer.isSuccess = true ∧
      ofAnswer? answer = some value := by
  unfold read at h
  split at h
  · simp at h
  · split at h
    · simp at h
    · rename_i answer
      split at h
      · simp at h
      · rename_i hsuccess
        split at h
        · rename_i found hfound
          exact ⟨answer, rfl, by simpa using hsuccess, by simpa [Except.ok.inj h] using hfound⟩
        · simp at h

end CatalogClient

end CatalogBridge
