/-!
# Numerals

Unsigned whole numbers in base ten, as headers, settings and addresses write them. `ofDigits?`
reads a run of digits of any length; `parse?` adds the optional plus sign and the bound.
`spanDigits` reads digits in any base up to sixteen.
-/

namespace CatalogBridge.Numeral

/-- The value of an ASCII digit. -/
def digitValue (c : Char) : Nat := c.toNat - 48

/-- Whether a character is one of the ten ASCII digits. -/
def isDigit (c : Char) : Bool := 48 ≤ c.toNat && c.toNat ≤ 57

/-- The number that a run of digits denotes, going on from the digits already read. -/
def value (sofar : Nat) : List Char → Nat
  | [] => sofar
  | c :: rest => value (sofar * 10 + digitValue c) rest

/-- The number that a text denotes if it is one digit or more and nothing else. -/
def ofDigits? (text : List Char) : Option Nat :=
  if text.isEmpty then none
  else if text.all isDigit then some (value 0 text)
  else none

/-- A text without the plus sign that it may begin with. -/
def dropPlus (text : List Char) : List Char :=
  if text.head? = some '+' then text.tail else text

/-- A number below the bound, with or without a plus sign in front. -/
def parse? (bound : Nat) (text : List Char) : Option Nat :=
  (ofDigits? (dropPlus text)).filter (· < bound)

/-- The bound of the numbers that fit sixty-four bits. -/
def bound64 : Nat := Nat.pow 2 64

/-! ## Other bases -/

/-- The value of a digit in a base of at most sixteen. -/
def digit? (base : Nat) (c : Char) : Option Nat :=
  let value :=
    if isDigit c then c.toNat - 48
    else if 'a' ≤ c && c ≤ 'f' then c.toNat - 87
    else if 'A' ≤ c && c ≤ 'F' then c.toNat - 55
    else base
  if value < base then some value else none

/-- The number that digits denote in a base. -/
def valueIn (base : Nat) (digits : List Nat) : Nat :=
  digits.foldl (fun sofar digit => sofar * base + digit) 0

/-- The digits at the front of a text. -/
def spanDigits (base : Nat) : List Char → List Nat × List Char
  | [] => ([], [])
  | c :: rest =>
    match digit? base c with
    | some value =>
      let (values, after) := spanDigits base rest
      (value :: values, after)
    | none => ([], c :: rest)

theorem value_append (sofar : Nat) (front back : List Char) :
    value sofar (front ++ back) = value (value sofar front) back := by
  induction front generalizing sofar with
  | nil => rfl
  | cons c rest ih => exact ih _

theorem parse?_lt {bound n : Nat} {text : List Char} (hparse : parse? bound text = some n) :
    n < bound := by
  simpa using (Option.filter_eq_some_iff.1 hparse).2

end CatalogBridge.Numeral
