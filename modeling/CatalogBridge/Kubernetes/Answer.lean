import CatalogBridge.Error
import CatalogBridge.Json.Reader
import CatalogBridge.Json.Shape
import CatalogBridge.Kubernetes.Cluster

/-!
# Answers of the cluster

What the API server sends back. An answer of code 400 or more is a refusal, told by a status
document, or by the code and the body if the body is none. Any other answer must hold the document
that was asked for: an object of its kind, a list of them, or, for a deletion, an object or a
status.
-/

namespace CatalogBridge

/-- An answer of the API server. -/
structure ClusterAnswer where
  code : Nat
  body : String
  deriving DecidableEq, Repr

namespace ApiStatus

/-- What the codes of refusals mean. -/
def reasons : List (Nat × String) :=
  [(400, "Bad Request"), (401, "Unauthorized"), (402, "Payment Required"), (403, "Forbidden"),
   (404, "Not Found"), (405, "Method Not Allowed"), (406, "Not Acceptable"),
   (407, "Proxy Authentication Required"), (408, "Request Timeout"), (409, "Conflict"),
   (410, "Gone"), (411, "Length Required"), (412, "Precondition Failed"),
   (413, "Payload Too Large"), (414, "URI Too Long"), (415, "Unsupported Media Type"),
   (416, "Range Not Satisfiable"), (417, "Expectation Failed"), (418, "I'm a teapot"),
   (421, "Misdirected Request"), (422, "Unprocessable Entity"), (423, "Locked"),
   (424, "Failed Dependency"), (425, "Too Early"), (426, "Upgrade Required"),
   (428, "Precondition Required"), (429, "Too Many Requests"),
   (431, "Request Header Fields Too Large"), (451, "Unavailable For Legal Reasons"),
   (500, "Internal Server Error"), (501, "Not Implemented"), (502, "Bad Gateway"),
   (503, "Service Unavailable"), (504, "Gateway Timeout"), (505, "HTTP Version Not Supported"),
   (506, "Variant Also Negotiates"), (507, "Insufficient Storage"), (508, "Loop Detected"),
   (510, "Not Extended"), (511, "Network Authentication Required")]

/-- A code with what it means. -/
def codeText (code : Nat) : String :=
  toString code ++ " " ++ ((reasons.lookup code).getD "<unknown status code>")

open Json in
/-- The status that a document denotes. -/
def ofDocument? : Shape ApiStatus := fun document => do
  let record ← asCells ["status", "message", "reason", "code"] document
  return {
    status := ← record.get 0 asText .required
    message := ← record.get 1 asText (.orElse "")
    reason := ← record.get 2 asText (.orElse "")
    code := (← record.get 3 (asWhole 0 65535) .required).toNat }

/-- The status for an answer whose body is none. -/
def ofCode (answer : ClusterAnswer) : ApiStatus :=
  ⟨codeText answer.code, Quoted.quote answer.body, "Failed to parse error data", answer.code⟩

/-- The status that a refusal tells. -/
def ofAnswer (answer : ClusterAnswer) : ApiStatus :=
  ((Json.parse? answer.body).bind ofDocument?).getD (ofCode answer)

end ApiStatus

/-- An object as far as a listing needs it. -/
structure ListedObject where
  name : String
  labels : Labels
  deriving DecidableEq, Repr

namespace ListedObject

/-- A field that may be missing or `null`; `none` if it has another shape. -/
def optional {α : Type} (name : String) (shape : Json.Shape α) (document : Json) :
    Option (Option α) :=
  match document.field? name with
  | none => some none
  | some value => Json.asOption shape value

/-- Any object. -/
def asObject : Json.Shape Json
  | .object fields => if fields.all (·.1.isSome) then some (.object fields) else none
  | _ => none

open Json in
/-- The name and labels in the metadata of an object; an object without a name goes by the
stem of its name. -/
def ofMetadata? : Shape ListedObject := fun document => do
  let _ ← asObject document
  let name ← optional "name" asText document
  let stem ← optional "generateName" asText document
  let labels ← optional "labels" (asTable asText) document
  let _ ← optional "annotations" (asTable asText) document
  let _ ← optional "namespace" asText document
  let _ ← optional "uid" asText document
  let _ ← optional "resourceVersion" asText document
  let _ ← optional "finalizers" (asList asText) document
  let _ ← optional "generation" asInt64 document
  return ⟨(name <|> stem).getD "", labels.getD []⟩

/-- Whether a document does not claim to be of another version or kind. -/
def isOf (version kind : String) (document : Json) : Bool :=
  let agrees (name text : String) := ((document.field? name).map Json.asText).all (· = some text)
  agrees "apiVersion" version && agrees "kind" kind

open Json in
/-- An object of a kind that has a fixed version. -/
def ofTyped? (version kind : String) : Shape ListedObject := fun document => do
  let _ ← asObject document
  if !isOf version kind document then none
  return (← optional "metadata" ofMetadata? document).getD ⟨"", []⟩

open Json in
/-- An object of any kind. -/
def ofUntyped? : Shape ListedObject := fun document => do
  let _ ← asObject document
  match document.field? "metadata" with
  | some metadata => ofMetadata? metadata
  | none => return ⟨"", []⟩

/-- The object of a kind that a document denotes. -/
def ofDocument? : Kind → Json.Shape ListedObject
  | .service => ofTyped? "v1" Kind.service.name
  | .endpointSlice => ofTyped? "discovery.k8s.io/v1" Kind.endpointSlice.name
  | .httpRoute => ofUntyped?

open Json in
/-- The objects of a list document; `null` stands for none. -/
def listOfDocument? (kind : Kind) : Shape (List ListedObject) := fun document => do
  let _ ← asObject document
  let _ ← ((document.field? "metadata").map asObject).getD (some .null)
  return (← asOption (asList (ofDocument? kind)) (← document.field? "items")).getD []

end ListedObject

open Json in
/-- Whether a document is a status that reports on a deletion. -/
def isDeletionStatus (document : Json) : Bool :=
  Option.isSome do
    let _ ← ListedObject.optional "status"
      (fun value => (asText value).filter ["Success", "Failure"].contains) document
    let _ ← ((document.field? "code").map (asWhole 0 65535)).getD (some 0)
    let _ ← ((document.field? "message").map asText).getD (some "")
    let _ ← ((document.field? "reason").map asText).getD (some "")
    ListedObject.optional "details" ListedObject.asObject document

namespace ClusterCall

/-- What the document of an answer gives for a request. -/
def ofDocument? : (call : ClusterCall) → Json → Option call.Answer
  | .applyService _, document => (ListedObject.ofDocument? .service document).map fun _ => ()
  | .applySlice _, document => (ListedObject.ofDocument? .endpointSlice document).map fun _ => ()
  | .applyRoute _, document => (ListedObject.ofDocument? .httpRoute document).map fun _ => ()
  | .listServices, document =>
    (ListedObject.listOfDocument? .service document).map fun objects =>
      objects.map ListedObject.name
  | .listSlices, document =>
    (ListedObject.listOfDocument? .endpointSlice document).map fun objects =>
      objects.map fun object => ⟨object.name, object.labels.get? Name.serviceNameLabel⟩
  | .listRoutes, document =>
    (ListedObject.listOfDocument? .httpRoute document).map fun objects =>
      objects.map ListedObject.name
  | .delete kind _, document =>
    if document.field? "kind" |>.bind Json.asText |>.any (· = "Status") then
      if isDeletionStatus document then some () else none
    else (ListedObject.ofDocument? kind document).map fun _ => ()

/-- What an answer gives for a request. -/
def read (call : ClusterCall) (answer : ClusterAnswer) : Except ApiFailure call.Answer :=
  if 400 ≤ answer.code then .error (.refused (.ofAnswer answer))
  else
    match (Json.parse? answer.body).bind call.ofDocument? with
    | some value => .ok value
    | none => .error .undecodable

end ClusterCall

end CatalogBridge
