import CatalogBridge.Consul.Index
import CatalogBridge.Consul.Service
import CatalogBridge.Json.Reader
import CatalogBridge.Json.Shape
import CatalogBridge.Net.HeaderField

/-!
# Answers of the catalog

What the catalog sends back, and what is read from it: a page of names with the index for the next
query, or the instances of one service. The body comes in chunks of any size. Of the body of a
refusal no more is read than a message needs; `errorOctets_eq` says which octets those are,
however they were cut.
-/

namespace CatalogBridge

/-- A body on its way: octets in chunks, up to its end or to where the connection broke. -/
inductive Chunks where
  | finished
  | broken
  | chunk (octets : List UInt8) (rest : Chunks)
  deriving Repr

namespace Chunks

/-- A body that comes in one chunk. -/
def whole (octets : List UInt8) : Chunks := .chunk octets .finished

/-- The octets that arrive, up to the end or the break. -/
def delivered : Chunks → List UInt8
  | .finished | .broken => []
  | .chunk octets rest => octets ++ rest.delivered

/-- All octets, if the connection does not break. -/
def octets? : Chunks → Option (List UInt8)
  | .finished => some []
  | .broken => none
  | .chunk octets rest => rest.octets?.map (octets ++ ·)

/-- The most octets that are read of the body of a refusal. -/
def errorLimit : Nat := 1024

/-- Read the body of a refusal: the octets held at the end, and the chunks that
were not asked for. -/
def readError (held : List UInt8) : Chunks → List UInt8 × Chunks
  | .finished => (held, .finished)
  | .broken => (held, .broken)
  | .chunk octets rest =>
    if held.length < errorLimit then readError (held ++ octets.take (errorLimit - held.length)) rest
    else (held, .chunk octets rest)

/-- The octets read of the body of a refusal. -/
def errorOctets (body : Chunks) : List UInt8 := (readError [] body).1

/-- The text read of the body of a refusal. -/
def errorText (body : Chunks) : String := String.ofList (Utf8.decode body.errorOctets)

theorem readError_fst (held : List UInt8) (hheld : held.length ≤ errorLimit) (body : Chunks) :
    (readError held body).1 = held ++ body.delivered.take (errorLimit - held.length) := by
  induction body generalizing held with
  | finished => simp [readError, delivered]
  | broken => simp [readError, delivered]
  | chunk octets rest ih =>
    unfold readError
    split
    case isTrue hroom =>
      rw [ih _ (by rw [List.length_append, List.length_take]; omega), delivered, List.take_append,
        List.append_assoc]
      congr 2
      rw [List.length_append, List.length_take]
      congr 1
      omega
    case isFalse hfull =>
      rw [show errorLimit - held.length = 0 by omega, List.take_zero, List.append_nil]

/-- What is read of the body of a refusal is the beginning of what arrives. -/
theorem errorOctets_eq (body : Chunks) : body.errorOctets = body.delivered.take errorLimit := by
  rw [errorOctets, readError_fst [] (Nat.zero_le _), List.nil_append, List.length_nil, Nat.sub_zero]

end Chunks

/-- An answer of the catalog. -/
structure CatalogAnswer where
  status : Nat
  /-- The values of the header fields that carry an index, in order. -/
  indexFields : List (List UInt8)
  body : Chunks
  deriving Repr

namespace CatalogAnswer

/-- Whether the query succeeded. -/
def isSuccess (answer : CatalogAnswer) : Bool := 200 ≤ answer.status && answer.status < 300

/-- The index for the next query: only the first field counts. -/
def index (answer : CatalogAnswer) : ChangeIndex :=
  .ofHeader (answer.indexFields.head?.bind HeaderField.plainText?)

/-- Whether answers of a status have a body. -/
def hasBody (status : Nat) : Bool := 200 ≤ status && status ≠ 204 && status ≠ 304

/-- The document in the body. -/
def document? (answer : CatalogAnswer) : Option Json := do
  Json.parse? (String.ofList (← Utf8.decode? (← answer.body.octets?)))

end CatalogAnswer

open Json in
/-- The names of the services that a catalog document lists, in ascending order, without the
catalog's own. -/
def CatalogPage.namesOfDocument? (document : Json) : Option (List String) := do
  let table ← asTable (asOption (asList asText)) document
  return (table.map (·.1)).filter (· ≠ catalogServiceName)

/-- The page that an answer holds. -/
def CatalogPage.ofAnswer? (answer : CatalogAnswer) : Option CatalogPage := do
  return ⟨← namesOfDocument? (← answer.document?), answer.index⟩

/-- A health document's account of one instance: the address of its node and its own. -/
structure HealthEntry where
  nodeAddress : String
  service : String
  address : String
  port : Int
  tags : List String
  deriving DecidableEq, Repr

namespace HealthEntry

open Json in
/-- The address of a node. -/
def nodeOfDocument? : Shape String := fun document => do
  let record ← asCells ["Address"] document
  record.get 0 asText (.orElse "")

open Json in
/-- The service part of an entry, with the address of the node. -/
def serviceOfDocument? (nodeAddress : String) : Shape HealthEntry := fun document => do
  let record ← asCells ["Service", "Address", "Port", "Tags"] document
  return {
    nodeAddress := nodeAddress
    service := ← record.get 0 asText .required
    address := ← record.get 1 asText (.orElse "")
    port := ← record.get 2 asInt64 (.orElse 0)
    tags := (← record.get 3 (asOption (asList asText)) (.orElse none)).getD [] }

open Json in
/-- The entry that a document denotes. -/
def ofDocument? : Shape HealthEntry := fun document => do
  let record ← asCells ["Node", "Service"] document
  let nodeAddress ← record.get 0 nodeOfDocument? (.orElse "")
  record.get 1 (serviceOfDocument? nodeAddress) .required

/-- The instance that an entry tells of; without an address of its own it has that of its node. -/
def toInstance (entry : HealthEntry) : Instance :=
  Instance.ofTags entry.service
    (if entry.address = "" then entry.nodeAddress else entry.address) entry.port entry.tags

end HealthEntry

/-- The instances that an answer lists. -/
def Instance.listOfAnswer? (answer : CatalogAnswer) : Option (List Instance) := do
  return (← Json.asList HealthEntry.ofDocument? (← answer.document?)).map HealthEntry.toInstance

end CatalogBridge
