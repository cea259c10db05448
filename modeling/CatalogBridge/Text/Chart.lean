import CatalogBridge.Number.Numeral

/-!
# Charts

What a standard says about code points, as a chart: entries in ascending order, each of them about
a closed range. A chart is written as lines of words. A word begins with the range, one code point
or two with a hyphen between them, in base sixteen and upper case; what follows is up to the
chart.
-/

namespace CatalogBridge

/-- What a chart says about the code points from `first` to `last`. -/
structure ChartEntry (α : Type) where
  first : Nat
  last : Nat
  value : α

/-- Entries in ascending order that do not overlap. -/
abbrev Chart (α : Type) := Array (ChartEntry α)

namespace Chart

variable {α : Type}

/-! ## Reading -/

/-- The words of a line: what stands between its blanks. -/
def words : List Char → List (List Char)
  | [] => [[]]
  | c :: rest =>
    if c = ' ' then [] :: words rest
    else
      match words rest with
      | word :: others => (c :: word) :: others
      | [] => [[c]]

/-- The code point at the front of a word, and what follows it. -/
def point (word : List Char) : Nat × List Char :=
  let (digits, rest) := Numeral.spanDigits 16 word
  (Numeral.valueIn 16 digits, rest)

/-- The entry that a word stands for. -/
def item? (value : List Char → Option α) (word : List Char) : Option (ChartEntry α) := do
  let (first, rest) := point word
  let (last, rest) :=
    match rest with
    | '-' :: rest => point rest
    | _ => (first, rest)
  return ⟨first, last, ← value rest⟩

/-- The chart that lines stand for, where `value` reads what follows the range of an entry. -/
def read (value : List Char → Option α) (lines : List String) : Chart α :=
  ((lines.flatMap (words ·.toList)).filterMap (item? value)).toArray

/-! ## Looking up -/

/-- The entry about a code point among those from place `low` up to place `high`. -/
def seek (chart : Chart α) (code low high : Nat) : Option (ChartEntry α) :=
  if low < high then
    let middle := (low + high) / 2
    match chart[middle]? with
    | some entry =>
      if code < entry.first then seek chart code low middle
      else if entry.last < code then seek chart code (middle + 1) high
      else some entry
    | none => none
  else none
termination_by high - low

/-- The entry about a character. -/
def entryOf? (chart : Chart α) (c : Char) : Option (ChartEntry α) := seek chart c.toNat 0 chart.size

/-- What a chart says about a character. -/
def lookup? (chart : Chart α) (c : Char) : Option α := (chart.entryOf? c).map (·.value)

end Chart

end CatalogBridge
