import CatalogBridge.Net.Address
import CatalogBridge.Net.HeaderField

/-!
# Messages

Requests and answers as they go over a connection that is closed after one exchange: a first line,
header fields, an empty line, and a body. The end of a body is told by a field with its length, by
a last chunk of length zero, or by the end of the connection.
-/

namespace CatalogBridge

/-- A header field: its name in lower case and its value. -/
abbrev MessageField := String × List UInt8

/-- A message: the words of its first line, its fields, and what follows them. -/
structure Message where
  first : List String
  fields : List MessageField
  rest : List UInt8

namespace Message

/-- The octets of a text. -/
def octets (text : String) : List UInt8 := Utf8.encode text.toList

/-- The end of a line. -/
def lineEnd : List UInt8 := [13, 10]

/-- One header field. -/
def writeField (field : String × List UInt8) : List UInt8 :=
  octets field.1 ++ octets ": " ++ field.2 ++ lineEnd

/-- A message with a body of known length, after which the connection is closed. -/
def write (first : String) (fields : List MessageField) (body : List UInt8) : List UInt8 :=
  octets first ++ lineEnd
    ++ (fields
      ++ [("Content-Length", octets (toString body.length)),
          ("Connection", octets "close")]).flatMap writeField
    ++ lineEnd ++ body

/-- A line and what follows its end; `none` if it does not end. -/
def line? : List UInt8 → Option (List UInt8 × List UInt8)
  | [] => none
  | 13 :: 10 :: rest => some ([], rest)
  | octet :: rest => (line? rest).map fun found => (octet :: found.1, found.2)

/-- A text with its capital letters made small. -/
def lowerText (octets : List UInt8) : String :=
  String.ofList ((Utf8.decode octets).map Char.toLower)

/-- The field that a line denotes. -/
def field? (line : List UInt8) : Option MessageField :=
  match line.dropWhile (· ≠ 58) with
  | [] => none
  | _ :: value =>
    (HeaderField.arriving? value).map fun value => (lowerText (line.takeWhile (· ≠ 58)), value)

/-- The fields up to the empty line, and what follows it, for so many lines at most. -/
def readFields : Nat → List UInt8 → Option (List MessageField × List UInt8)
  | 0, _ => none
  | fuel + 1, text => do
    let (line, rest) ← line? text
    if line.isEmpty then return ([], rest)
    let field ← field? line
    let (fields, rest) ← readFields fuel rest
    return (field :: fields, rest)

/-- The message at the front of what came over a connection; `none` as long as its fields
are not complete. -/
def parse? (text : List UInt8) : Option Message := do
  let (line, rest) ← line? text
  let (fields, rest) ← readFields text.length rest
  return ⟨(String.ofList (Utf8.decode line)).splitOn " ", fields, rest⟩

/-- The values of the fields of a name, in order. -/
def values (message : Message) (name : String) : List (List UInt8) :=
  (message.fields.filter (·.1 = name)).map (·.2)

/-- The number in a text of octets. -/
def number? (base : Nat) (text : List UInt8) : Option Nat :=
  match Numeral.spanDigits base (Utf8.decode text) with
  | ([], _) => none
  | (digits, _) => some (Numeral.valueIn base digits)

/-- The chunks of a body joined, for so many at most; `none` as long as the last one is missing. -/
def joinChunks : Nat → List UInt8 → Option (List UInt8)
  | 0, _ => none
  | fuel + 1, text => do
    let (line, rest) ← line? text
    let size ← number? 16 line
    if size = 0 then return []
    if rest.length < size + 2 then none
    return rest.take size ++ (← joinChunks fuel (rest.drop (size + 2)))

/-- The body of a message, if all of it has come; without a length it ends with the connection. -/
def body? (message : Message) (closed : Bool) : Option (List UInt8) :=
  if ((message.values "transfer-encoding").head?.map lowerText) = some "chunked" then
    joinChunks message.rest.length message.rest
  else
    match (message.values "content-length").head?.bind (number? 10) with
    | some size => if size ≤ message.rest.length then some (message.rest.take size) else none
    | none => if closed then some message.rest else none

/-- The status in the first line of an answer. -/
def status? (message : Message) : Option Nat :=
  match message.first with
  | _ :: code :: _ => number? 10 (octets code)
  | _ => none

end Message

end CatalogBridge
