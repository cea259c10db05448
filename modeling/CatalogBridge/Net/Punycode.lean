/-!
# Encoded labels

The encoding of any text by ASCII letters, digits and hyphens that domain names use. The ASCII
characters of a text come first, with a hyphen behind them. Then follows for each other character,
from low code points to high ones, how many steps it is away from the one before it, where a step
goes to the next place in the text, and behind the last place to the first one and the next code
point. A step count is a number with digits in base thirty-six whose places weigh what the counts
before it let expect (`adapt`).
-/

namespace CatalogBridge.Punycode

/-- The first code point that is not ASCII. -/
def firstCode : Nat := 128

/-- Where the bias begins. -/
def firstBias : Nat := 72

/-- No count and no weight of a place is this large. -/
def bound : Nat := Nat.pow 2 32

/-- The value of a digit: letters of either case, then the digits of base ten. -/
def digitValue? (c : Char) : Option Nat :=
  if 'a' ≤ c && c ≤ 'z' then some (c.toNat - 97)
  else if 'A' ≤ c && c ≤ 'Z' then some (c.toNat - 65)
  else if '0' ≤ c && c ≤ '9' then some (c.toNat - 22)
  else none

/-- The digit of a value. -/
def digit (value : Nat) : Char :=
  if value < 26 then Char.ofNat (97 + value) else Char.ofNat (22 + value)

/-- The value from which on a digit is not the last one of its number, at a place counted in steps
of thirty-six. -/
def threshold (place bias : Nat) : Nat :=
  if place ≤ bias then 1 else if bias + 26 ≤ place then 26 else place - bias

theorem one_le_threshold (place bias : Nat) : 1 ≤ threshold place bias := by
  unfold threshold
  split
  · exact Nat.le_refl 1
  · split <;> omega

/-- How many times thirty-five is taken out of a count, thirty-six for each time,
and what is left. -/
def reduce (count steps : Nat) : Nat × Nat :=
  if 455 < count then reduce (count / 35) (steps + 36) else (count, steps)
termination_by count

/-- The bias behind a count, when the text has so many characters with the one just placed. -/
def adapt (count length : Nat) (isFirst : Bool) : Nat :=
  let damped := if isFirst then count / 700 else count / 2
  let (left, steps) := reduce (damped + damped / length) 0
  steps + 36 * left / (left + 38)

/-! ## Decoding -/

/-- The number at the front of a text, and what follows it. -/
def number? (bias : Nat) : Nat → Nat → List Char → Option (Nat × List Char)
  | _, _, [] => none
  | place, weight, c :: rest =>
    match digitValue? c with
    | none => none
    | some value =>
      let limit := threshold place bias
      if value < limit then some (value * weight, rest)
      else if bound ≤ weight * (36 - limit) then none
      else
        (number? bias (place + 36) (weight * (36 - limit)) rest).map fun (more, rest) =>
          (value * weight + more, rest)

theorem length_of_number? {bias place weight n : Nat} {text rest : List Char}
    (hnumber : number? bias place weight text = some (n, rest)) : rest.length < text.length := by
  fun_induction number? bias place weight text generalizing n rest with
  | case1 => cases hnumber
  | case2 => cases hnumber
  | case3 =>
    cases hnumber
    exact Nat.lt_succ_self _
  | case4 => cases hnumber
  | case5 =>
    rename_i ih
    obtain ⟨⟨more, after⟩, hafter, heq⟩ := Option.map_eq_some_iff.1 hnumber
    cases heq
    exact Nat.lt_succ_of_lt (ih hafter)

/-- Places the characters that the counts in a text stand for, from a place and a code point on. -/
def place? (text : List Char) (place code bias : Nat) (counts : List Char) : Option (List Char) :=
  if counts.isEmpty then some text
  else
    match hnumber : number? bias 36 1 counts with
    | none => none
    | some (count, rest) =>
      let length := text.length + 1
      let code := code + (place + count) / length
      let slot := (place + count) % length
      if bound ≤ place + count || !code.isValidChar then none
      else
        let text := text.take slot ++ Char.ofNat code :: text.drop slot
        place? text (slot + 1) code (adapt count length (place = 0)) rest
termination_by counts.length
decreasing_by exact length_of_number? hnumber

/-- The ASCII characters in front of the last hyphen, and the counts behind it; a hyphen at the
front is none. -/
def split (label : List Char) : List Char × List Char :=
  let counts := (label.reverse.takeWhile (· ≠ '-')).reverse
  let front := label.take (label.length - counts.length)
  if front.length < 2 then ([], label) else (front.dropLast, counts)

/-- The text that a label stands for. -/
def decode? (label : List Char) : Option (List Char) :=
  let (front, counts) := split label
  place? front 0 firstCode firstBias counts

/-! ## Encoding -/

/-- A count as a number. -/
def number (bias place count : Nat) : List Char :=
  let limit := threshold place bias
  if count < limit then [digit count]
  else
    digit (limit + (count - limit) % (36 - limit))
      :: number bias (place + 36) ((count - limit) / (36 - limit))
termination_by count
decreasing_by
  have hone := one_le_threshold place bias
  exact Nat.lt_of_le_of_lt (Nat.div_le_self _ _) (by omega)

/-- How far a text is encoded. -/
structure Encoding where
  label : List Char
  /-- The steps since the last character. -/
  count : Nat
  bias : Nat
  /-- How many characters are encoded. -/
  done : Nat

/-- Goes past one character while those with one code point are encoded. -/
def encodeChar (ascii code : Nat) (state : Encoding) (c : Char) : Encoding :=
  if c.toNat < code then { state with count := state.count + 1 }
  else if c.toNat = code then
    ⟨state.label ++ number state.bias 36 state.count, 0,
      adapt state.count (state.done + 1) (state.done = ascii), state.done + 1⟩
  else state

/-- Encodes the characters with one of the code points after another. -/
def encodeCodes (text : List Char) (ascii code : Nat) (state : Encoding) : List Nat → Encoding
  | [] => state
  | next :: rest =>
    let state := { state with count := state.count + (next - code) * (state.done + 1) }
    let state := text.foldl (encodeChar ascii next) state
    encodeCodes text ascii (next + 1) { state with count := state.count + 1 } rest

/-- The label that stands for a text. -/
def encode (text : List Char) : List Char :=
  let ascii := text.filter (·.toNat < firstCode)
  let codes := ((text.map Char.toNat).filter (firstCode ≤ ·)).mergeSort.eraseDups
  let start := if ascii.isEmpty then [] else ascii ++ ['-']
  (encodeCodes text ascii.length firstCode ⟨start, 0, firstBias, ascii.length⟩ codes).label

end CatalogBridge.Punycode
