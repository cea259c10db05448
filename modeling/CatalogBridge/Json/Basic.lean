/-!
# Documents

The value that a document denotes. A document is kept as far as a reader can tell two documents
apart: the fields of an object stand in the order in which they were written and may repeat, a
number is whole or broken, and a text that holds half of a surrogate pair denotes no text
(`none`), which is only an error where the text is wanted.
-/

namespace CatalogBridge

/-- A number as written: a whole one by its sign and magnitude, any other one, with a fraction or
an exponent, by its characters. -/
inductive JsonNumber where
  | whole (negative : Bool) (magnitude : Nat)
  | broken (literal : List Char)
  deriving DecidableEq, Repr

/-- A document. -/
inductive Json where
  | null
  | bool (value : Bool)
  | number (value : JsonNumber)
  | text (value : Option String)
  | array (items : List Json)
  | object (fields : List (Option String × Json))
  deriving Repr

namespace Json

/-- A text. -/
def str (value : String) : Json := .text (some value)

/-- A whole number. -/
def int (value : Int) : Json := .number (.whole (value < 0) value.natAbs)

/-- An object with the given fields. -/
def record (fields : List (String × Json)) : Json :=
  .object (fields.map fun field => (some field.1, field.2))

/-- The value of the last field of that name, as a reader that keeps one value a name sees it. -/
def field? (name : String) : Json → Option Json
  | .object fields => (fields.reverse.find? fun field => field.1 = some name).map (·.2)
  | _ => none

end Json

end CatalogBridge
