import CatalogBridge.Json.Basic
import CatalogBridge.Number.Numeral

/-!
# Reading documents

The grammar of JSON without extensions: no comments, no leading zeros, no byte order mark, nothing
but blanks after the document. Each function reads one thing from the front of the input and
returns it with what follows. Nesting is bounded by a measure that the length of the input
supplies, so every document that fits the input is read.
-/

namespace CatalogBridge.Json

/-- The four blanks of the grammar. -/
def isSpace (c : Char) : Bool := c == ' ' || c == '\n' || c == '\r' || c == '\t'

/-- The input without the blanks in front. -/
def skip (input : List Char) : List Char := input.dropWhile isSpace

/-- The value of a digit in base sixteen. -/
def hexValue? (c : Char) : Option Nat :=
  if Numeral.isDigit c then some (c.toNat - 48)
  else if 'a' ≤ c && c ≤ 'f' then some (c.toNat - 87)
  else if 'A' ≤ c && c ≤ 'F' then some (c.toNat - 55)
  else none

/-- A unit of a text: a character, or half of a surrogate pair. -/
inductive TextUnit where
  | char (c : Char)
  | half (point : Nat)

/-- The unit that four digits in base sixteen denote. -/
def hexUnit? (a b c d : Char) : Option TextUnit := do
  let point :=
    (((← hexValue? a) * 16 + (← hexValue? b)) * 16 + (← hexValue? c)) * 16 + (← hexValue? d)
  return if 0xD800 ≤ point && point < 0xE000 then .half point else .char (Char.ofNat point)

/-- The character that an escape letter stands for. -/
def unescape? : Char → Option Char
  | '"' => some '"'
  | '\\' => some '\\'
  | '/' => some '/'
  | 'b' => some '\x08'
  | 'f' => some '\x0c'
  | 'n' => some '\n'
  | 'r' => some '\r'
  | 't' => some '\t'
  | _ => none

/-- The units up to the closing quote, and what follows it. -/
def readUnits : List Char → Option (List TextUnit × List Char)
  | [] => none
  | '"' :: rest => some ([], rest)
  | '\\' :: 'u' :: a :: b :: c :: d :: rest =>
    match hexUnit? a b c d, readUnits rest with
    | some unit, some (units, after) => some (unit :: units, after)
    | _, _ => none
  | '\\' :: letter :: rest =>
    match unescape? letter, readUnits rest with
    | some c, some (units, after) => some (.char c :: units, after)
    | _, _ => none
  | c :: rest =>
    if c.toNat < 32 || c == '\\' then none
    else match readUnits rest with
      | some (units, after) => some (.char c :: units, after)
      | none => none

/-- The text that units denote: a high half must be followed by a low one, and no low
half stands alone. -/
def joinUnits : List TextUnit → Option (List Char)
  | [] => some []
  | .char c :: rest => (joinUnits rest).map (c :: ·)
  | .half high :: .half low :: rest =>
    if high < 0xDC00 && 0xDC00 ≤ low then
      (joinUnits rest).map (Char.ofNat (0x10000 + (high - 0xD800) * 0x400 + (low - 0xDC00)) :: ·)
    else none
  | .half _ :: _ => none

/-- A text, from behind its opening quote. -/
def readText (input : List Char) : Option (Option String × List Char) :=
  (readUnits input).map fun (units, rest) => ((joinUnits units).map String.ofList, rest)

/-- The digits of a fraction or an exponent: one or more. -/
def readDigits? (input : List Char) : Option (List Char × List Char) :=
  let digits := input.takeWhile Numeral.isDigit
  if digits.isEmpty then none else some (digits, input.dropWhile Numeral.isDigit)

/-- The whole part of a number: a zero alone, or digits that begin with none. -/
def readWhole? : List Char → Option (List Char × List Char)
  | '0' :: rest =>
    match rest with
    | c :: _ => if Numeral.isDigit c then none else some (['0'], rest)
    | [] => some (['0'], rest)
  | input => readDigits? input

/-- The fraction behind a whole part, if there is one. -/
def readFraction? : List Char → Option (List Char × List Char)
  | '.' :: rest => (readDigits? rest).map fun (digits, after) => ('.' :: digits, after)
  | input => some ([], input)

/-- The exponent at the end of a number, if there is one. -/
def readExponent? : List Char → Option (List Char × List Char)
  | c :: rest =>
    if c == 'e' || c == 'E' then
      match rest with
      | '+' :: rest => (readDigits? rest).map fun (digits, after) => (c :: '+' :: digits, after)
      | '-' :: rest => (readDigits? rest).map fun (digits, after) => (c :: '-' :: digits, after)
      | rest => (readDigits? rest).map fun (digits, after) => (c :: digits, after)
    else some ([], c :: rest)
  | [] => some ([], [])

/-- A number without its sign. -/
def readMagnitude? (negative : Bool) (input : List Char) : Option (Json × List Char) := do
  let (whole, rest) ← readWhole? input
  let (fraction, rest) ← readFraction? rest
  let (exponent, rest) ← readExponent? rest
  if fraction.isEmpty && exponent.isEmpty then
    return (.number (.whole negative (Numeral.value 0 whole)), rest)
  else
    return (.number
      (.broken ((if negative then ['-'] else []) ++ whole ++ fraction ++ exponent)), rest)

/-- The rest of the input behind a given word. -/
def expect? (word input : List Char) : Option (List Char) :=
  if word.isPrefixOf input then some (input.drop word.length) else none

mutual

/-- A document from the front of the input. -/
def readValue : Nat → List Char → Option (Json × List Char)
  | 0, _ => none
  | depth + 1, input =>
    match skip input with
    | '"' :: rest => (readText rest).map fun (units, after) => (.text units, after)
    | '[' :: rest =>
      match skip rest with
      | ']' :: after => some (.array [], after)
      | inside => (readItems depth inside).map fun (items, after) => (.array items, after)
    | '\x7b' :: rest =>
      match skip rest with
      | '\x7d' :: after => some (.object [], after)
      | inside => (readFields depth inside).map fun (fields, after) => (.object fields, after)
    | 'n' :: rest => (expect? ['u', 'l', 'l'] rest).map fun after => (.null, after)
    | 't' :: rest => (expect? ['r', 'u', 'e'] rest).map fun after => (.bool true, after)
    | 'f' :: rest => (expect? ['a', 'l', 's', 'e'] rest).map fun after => (.bool false, after)
    | '-' :: rest => readMagnitude? true rest
    | c :: rest => if Numeral.isDigit c then readMagnitude? false (c :: rest) else none
    | [] => none

/-- The items of an array from the first one on, and what follows the closing bracket. -/
def readItems : Nat → List Char → Option (List Json × List Char)
  | 0, _ => none
  | depth + 1, input =>
    match readValue depth input with
    | none => none
    | some (item, rest) =>
      match skip rest with
      | ']' :: after => some ([item], after)
      | ',' :: rest => (readItems depth rest).map fun (items, after) => (item :: items, after)
      | _ => none

/-- The fields of an object from the first one on, and what follows the closing brace. -/
def readFields : Nat → List Char → Option (List (Option String × Json) × List Char)
  | 0, _ => none
  | depth + 1, input =>
    match skip input with
    | '"' :: rest =>
      match readText rest with
      | none => none
      | some (name, rest) =>
        match skip rest with
        | ':' :: rest =>
          match readValue depth rest with
          | none => none
          | some (value, rest) =>
            match skip rest with
            | '\x7d' :: after => some ([(name, value)], after)
            | ',' :: rest =>
              (readFields depth rest).map fun (fields, after) => ((name, value) :: fields, after)
            | _ => none
        | _ => none
    | _ => none

end

/-- The document that a text denotes. -/
def parse? (input : String) : Option Json :=
  match readValue (2 * input.length + 2) input.toList with
  | some (document, rest) => if (skip rest).isEmpty then some document else none
  | none => none

end CatalogBridge.Json
