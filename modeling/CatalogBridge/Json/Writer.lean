import CatalogBridge.Json.Basic

/-!
# Writing documents

The compact form of a document: no blanks, fields in their order, and in a text only the quote,
the backslash and the controls escaped.
-/

namespace CatalogBridge.Json

/-- The controls with a short escape, the quote and the backslash, and the letter that
stands for each. -/
def escapeLetter? : Char → Option Char
  | '"' => some '"'
  | '\\' => some '\\'
  | '\x08' => some 'b'
  | '\x0c' => some 'f'
  | '\n' => some 'n'
  | '\r' => some 'r'
  | '\t' => some 't'
  | _ => none

/-- A digit in base sixteen, lower case. -/
def hexDigit (n : Nat) : Char := if n < 10 then Char.ofNat (48 + n) else Char.ofNat (87 + n)

/-- One character of a text. -/
def escapeChar (c : Char) : List Char :=
  match escapeLetter? c with
  | some letter => ['\\', letter]
  | none =>
    if c.toNat < 32 then ['\\', 'u', '0', '0', hexDigit (c.toNat / 16), hexDigit (c.toNat % 16)]
    else [c]

/-- A text between quotes. -/
def writeText (text : List Char) : List Char := '"' :: text.flatMap escapeChar ++ ['"']

/-- A number. -/
def writeNumber : JsonNumber → List Char
  | .whole negative magnitude => (if negative then ['-'] else []) ++ (toString magnitude).toList
  | .broken literal => literal

mutual

/-- A document in compact form. A text that denotes nothing is written as `null`. -/
def write : Json → List Char
  | .null => ['n', 'u', 'l', 'l']
  | .bool true => ['t', 'r', 'u', 'e']
  | .bool false => ['f', 'a', 'l', 's', 'e']
  | .number value => writeNumber value
  | .text none => ['n', 'u', 'l', 'l']
  | .text (some value) => writeText value.toList
  | .array [] => ['[', ']']
  | .array (item :: rest) => '[' :: write item ++ writeItems rest
  | .object [] => ['\x7b', '\x7d']
  | .object ((name, value) :: rest) =>
    '\x7b' :: writeText (name.getD "").toList ++ ':' :: write value ++ writeFields rest

/-- The items after the first, each behind a comma, and the closing bracket. -/
def writeItems : List Json → List Char
  | [] => [']']
  | item :: rest => ',' :: write item ++ writeItems rest

/-- The fields after the first, each behind a comma, and the closing brace. -/
def writeFields : List (Option String × Json) → List Char
  | [] => ['\x7d']
  | (name, value) :: rest =>
    ',' :: writeText (name.getD "").toList ++ ':' :: write value ++ writeFields rest

end

/-- A document in compact form, as text. -/
def render (document : Json) : String := String.ofList document.write

end CatalogBridge.Json
