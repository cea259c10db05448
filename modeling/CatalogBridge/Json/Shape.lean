import CatalogBridge.Json.Basic

/-!
# The shape of documents

What a document must look like to denote a value of a given type. A record is written as an object
or as the array of its fields in order; in an object unknown fields are passed over and a known
one may stand only once; what happens when a field is missing is its `Presence`. A whole number
must be written as one: neither `80.0` nor `-0` is.
-/

namespace CatalogBridge.Json

/-- A reading of documents as values of a type; `none` where the document has another shape. -/
abbrev Shape (α : Type) := Json → Option α

/-- A text. -/
def asText : Shape String
  | .text value => value
  | _ => none

/-- A whole number within the bounds. -/
def asWhole (low high : Int) : Shape Int
  | .number (.whole negative magnitude) =>
    if negative && magnitude == 0 then none
    else
      let value : Int := if negative then -magnitude else magnitude
      if low ≤ value && value ≤ high then some value else none
  | _ => none

/-- A whole number of 32 bits with sign. -/
def asInt32 : Shape Int := asWhole (-2147483648) 2147483647

/-- A whole number of 64 bits with sign. -/
def asInt64 : Shape Int := asWhole (-9223372036854775808) 9223372036854775807

/-- A truth value. -/
def asBool : Shape Bool
  | .bool value => some value
  | _ => none

/-- A list of values of one shape. -/
def asList {α : Type} (shape : Shape α) : Shape (List α)
  | .array items => items.mapM shape
  | _ => none

/-- A value, or `null` for none. -/
def asOption {α : Type} (shape : Shape α) : Shape (Option α)
  | .null => some none
  | document => (shape document).map some

/-- The place of a key in a table sorted by key; a value already there is replaced. -/
def insertSorted {α : Type} (name : String) (value : α) : List (String × α) → List (String × α)
  | [] => [(name, value)]
  | (other, kept) :: rest =>
    if name < other then (name, value) :: (other, kept) :: rest
    else if name = other then (name, value) :: rest
    else (other, kept) :: insertSorted name value rest

/-- A table: an object with values of one shape, sorted by key; of fields with one key
the last counts. -/
def asTable {α : Type} (shape : Shape α) : Shape (List (String × α))
  | .object fields => fields.foldlM (fun table field => do
      return insertSorted (← field.1) (← shape field.2) table) []
  | _ => none

/-- What a record is read from: its cells in the order of its fields, and whether they were
written in order and without names. -/
structure Cells where
  ordered : Bool
  cells : List (Option Json)

/-- The cells of a record with the given fields. -/
def asCells (names : List String) : Shape Cells
  | .array items =>
    if items.length ≤ names.length then
      some ⟨true, items.map some ++ List.replicate (names.length - items.length) none⟩
    else none
  | .object fields =>
    if fields.all (·.1.isSome)
        && names.all (fun name => (fields.filter (·.1 = some name)).length ≤ 1) then
      some ⟨false, names.map fun name => (fields.find? (·.1 = some name)).map (·.2)⟩
    else none
  | _ => none

/-- What a missing field means. -/
inductive Presence (α : Type) where
  /-- The record has no value without the field. -/
  | required
  /-- The field has a value of its own when it is missing. -/
  | orElse (value : α)
  /-- The field has that value when it is missing from an object, and is required in an array. -/
  | orElseNamed (value : α)

/-- One cell of a record, read with the shape of its field. -/
def Cells.get {α : Type} (record : Cells) (position : Nat) (shape : Shape α)
    (presence : Presence α) : Option α :=
  match record.cells[position]?.join, presence with
  | some document, _ => shape document
  | none, .orElse value => some value
  | none, .orElseNamed value => if record.ordered then none else some value
  | none, .required => none

end CatalogBridge.Json
