import CatalogBridge.Duration.Basic
import CatalogBridge.Number.Binary
import CatalogBridge.Text.Blank
import CatalogBridge.Number.Numeral
import CatalogBridge.Text.Quoted

/-!
# Durations as text

A duration is written as parts, each a number directly followed by its unit: `1h30m`, `90s`,
`250ms`, `1.5h`. A number is digits with at most one point. The parts are added up; no part, an
overflowing sum and a sum of zero are refused.

`Part.next?` takes one part from the front and returns a shorter rest, so the reading of a text
ends.
-/

namespace CatalogBridge.Duration

/-- Why a text is no duration. The text without its outer blanks is part of every
cause but the first. -/
inductive ParseError where
  | empty
  | expectedNumber (input : String)
  | badNumber (input number : String)
  | missingUnit (input : String)
  | unknownUnit (input unit : String)
  | tooLong (input : String)
  | zero (input : String)
  /-- Each part is a duration and their sum is not. -/
  | overflow
  deriving DecidableEq, Repr

/-- The text of a refusal. -/
def ParseError.message : ParseError → String
  | .empty => "empty duration"
  | .expectedNumber input => "invalid duration " ++ Quoted.quote input ++ ": expected a number"
  | .badNumber input number =>
    "invalid duration " ++ Quoted.quote input ++ ": bad number " ++ Quoted.quote number
  | .missingUnit input => "invalid duration " ++ Quoted.quote input ++ ": missing unit"
  | .unknownUnit input unit =>
    "invalid duration " ++ Quoted.quote input ++ ": unknown unit " ++ Quoted.quote unit
  | .tooLong input =>
    "invalid duration " ++ Quoted.quote input
      ++ ": cannot convert float seconds to Duration: value is either too big or NaN"
  | .zero input => "invalid duration " ++ Quoted.quote input ++ ": must be greater than zero"
  | .overflow => "overflow when adding durations"

/-- A unit of time. -/
inductive TimeUnit where
  | millisecond
  | second
  | minute
  | hour
  deriving DecidableEq, Repr

/-- The unit that a text names. -/
def TimeUnit.ofText? (text : List Char) : Option TimeUnit :=
  if text = ['m', 's'] then some .millisecond
  else if text = ['s'] then some .second
  else if text = ['m'] then some .minute
  else if text = ['h'] then some .hour
  else none

/-- The length of a unit in seconds, as a quotient. -/
def TimeUnit.quotient : TimeUnit → Nat × Nat
  | .millisecond => (1, 1000)
  | .second => (1, 1)
  | .minute => (60, 1)
  | .hour => (3600, 1)

/-- Whether a character belongs to a number. -/
def isNumberChar (c : Char) : Bool := Numeral.isDigit c || c == '.'

/-- The decimal number that a text denotes: its digits, and how many of them stand behind the
point. A text of digits with at most one point and at least one digit denotes a number. -/
def decimal? (text : List Char) : Option (Nat × Nat) :=
  let whole := text.takeWhile Numeral.isDigit
  match text.dropWhile Numeral.isDigit with
  | [] => if whole.isEmpty then none else some (Numeral.value 0 whole, 0)
  | _ :: fraction =>
    if fraction.all Numeral.isDigit && !(whole.isEmpty && fraction.isEmpty) then
      some (Numeral.value 0 (whole ++ fraction), fraction.length)
    else none

/-- The duration of a number of units, if it is not too long. The number and the unit are
taken as the nearest binary fractions, so is their product, and the nearest nanosecond to that
is the duration. -/
def ofDecimal? (digits places : Nat) (unit : TimeUnit) : Option Duration := do
  let amount ← Binary.ofDecimal? digits places
  let scale ← Binary.nearest? unit.quotient.1 unit.quotient.2
  let product ← amount.mul? scale
  let nanos := product.inUnits nanosPerSecond
  if nanos ≤ longest.nanos then some ⟨nanos⟩ else none

/-- One part of a duration as it is written: a run of number characters, and the run of others
behind it. -/
structure Part where
  number : List Char
  unit : List Char
  deriving DecidableEq, Repr

/-- The first part of a text and what follows it. -/
def Part.split (text : List Char) : Part × List Char :=
  let tail := text.dropWhile isNumberChar
  (⟨text.takeWhile isNumberChar, tail.takeWhile fun c => !isNumberChar c⟩,
    tail.dropWhile fun c => !isNumberChar c)

/-- The duration of one part; `input` is the text that it is part of. -/
def Part.duration (input : String) (part : Part) : Except ParseError Duration :=
  if part.number.isEmpty then .error (.expectedNumber input)
  else
    match decimal? part.number with
    | none => .error (.badNumber input (String.ofList part.number))
    | some (digits, places) =>
      match TimeUnit.ofText? part.unit with
      | none =>
        if part.unit.isEmpty then .error (.missingUnit input)
        else .error (.unknownUnit input (String.ofList part.unit))
      | some unit =>
        match ofDecimal? digits places unit with
        | none => .error (.tooLong input)
        | some d => .ok d

/-- What follows the first part is shorter than the text, unless the part is empty. -/
theorem Part.length_split_lt {text : List Char} (hnumber : (Part.split text).1.number ≠ []) :
    (Part.split text).2.length < text.length := by
  have hfront : (text.takeWhile isNumberChar).length + (text.dropWhile isNumberChar).length
      = text.length := by
    rw [← List.length_append, List.takeWhile_append_dropWhile]
  have hpos : 0 < (text.takeWhile isNumberChar).length := List.length_pos_iff.2 hnumber
  have hback : ((text.dropWhile isNumberChar).dropWhile fun c => !isNumberChar c).length
      ≤ (text.dropWhile isNumberChar).length := (List.dropWhile_sublist _).length_le
  simp only [Part.split]
  omega

/-- The sum of a duration and the parts of a text. -/
def sumParts (input : String) (total : Duration) (text : List Char) : Except ParseError Duration :=
  if text.isEmpty then .ok total
  else
    if _hnumber : (Part.split text).1.number = [] then .error (.expectedNumber input)
    else
      match (Part.split text).1.duration input with
      | .error cause => .error cause
      | .ok d =>
        match total.add? d with
        | none => .error .overflow
        | some sum => sumParts input sum (Part.split text).2
termination_by text.length
decreasing_by exact Part.length_split_lt ‹_›

/-- The duration that a text denotes. -/
def parse (text : String) : Except ParseError Duration :=
  let input := trim text.toList
  if input.isEmpty then .error .empty
  else
    match sumParts (String.ofList input) zero input with
    | .error cause => .error cause
    | .ok total => if total.nanos = 0 then .error (.zero (String.ofList input)) else .ok total

end CatalogBridge.Duration
