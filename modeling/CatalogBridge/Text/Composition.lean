import CatalogBridge.Text.Decomposition
import CatalogBridge.Text.Mark

/-!
# Composed text

The composed normal form of text: characters are taken apart into a base and marks (`decompose`),
the marks are put in order (`arrange`), and what has a composed character is put together again
(`compose`).
-/

namespace CatalogBridge

/-! ## Hangul

A syllable is made of a leading consonant, a vowel and perhaps a trailing consonant, and its place
among the syllables tells which. -/

namespace Hangul

/-- The first leading consonant. -/
def firstLead : Nat := 0x1100

/-- The first vowel. -/
def firstVowel : Nat := 0x1161

/-- The place before the first trailing consonant: it stands for none. -/
def noTrail : Nat := 0x11A7

/-- The first syllable. -/
def firstSyllable : Nat := 0xAC00

/-- How many leading consonants there are. -/
def leads : Nat := 19

/-- How many vowels there are. -/
def vowels : Nat := 21

/-- How many trailing consonants there are, none among them. -/
def trails : Nat := 28

/-- The parts of a syllable. -/
def parts? (c : Char) : Option (List Char) :=
  let place := c.toNat - firstSyllable
  if c.toNat < firstSyllable || leads * vowels * trails ≤ place then none
  else
    let lead := Char.ofNat (firstLead + place / (vowels * trails))
    let vowel := Char.ofNat (firstVowel + place / trails % vowels)
    some (if place % trails = 0 then [lead, vowel]
      else [lead, vowel, Char.ofNat (noTrail + place % trails)])

/-- The syllable that two parts make: two letters, or a syllable without a trailing
consonant and one. -/
def join? (first second : Char) : Option Char :=
  let lead := first.toNat - firstLead
  let vowel := second.toNat - firstVowel
  let bare := first.toNat - firstSyllable
  let trail := second.toNat - noTrail
  if firstLead ≤ first.toNat && lead < leads && firstVowel ≤ second.toNat && vowel < vowels then
    some (Char.ofNat (firstSyllable + (lead * vowels + vowel) * trails))
  else if firstSyllable ≤ first.toNat && bare < leads * vowels * trails && bare % trails = 0
      && noTrail < second.toNat && trail < trails then
    some (Char.ofNat (first.toNat + trail))
  else none

end Hangul

/-! ## The composed form -/

namespace Composition

/-- The characters that a character is made of, which is itself alone if it cannot
be taken apart. -/
def decompose (c : Char) : List Char :=
  if c.toNat < 128 then [c]
  else (Hangul.parts? c).getD (((Decomposition.chart.lookup? c).map (·.parts)).getD [c])

/-- The one character that two characters make. -/
def join? (first second : Char) : Option Char :=
  match Hangul.join? first second with
  | some syllable => some syllable
  | none =>
    let parts := decompose first ++ [second]
    (Decomposition.chart.find? fun entry => entry.value.returns && entry.value.parts = parts).map
      (Char.ofNat ·.first)

/-- Puts a character in front of text whose marks are in order, behind the marks
of lower classes. -/
def insertMark (c : Char) : List Char → List Char
  | [] => [c]
  | mark :: rest =>
    if combiningClass mark ≠ 0 && combiningClass mark < combiningClass c then
      mark :: insertMark c rest
    else c :: mark :: rest

/-- Text with the marks of each character in order. -/
def arrange (text : List Char) : List Char := text.foldr insertMark []

/-- Puts what follows a base together with it. A mark is `held` that does not make one character
with the base; one of the same class or a lower one cannot pass it. -/
def composeOnto (base : Char) (held : List Char) : List Char → List Char
  | [] => base :: held
  | c :: rest =>
    let passes := held.getLast?.all fun last => combiningClass last < combiningClass c
    match if passes then join? base c else none with
    | some joined => composeOnto joined held rest
    | none =>
      if combiningClass c = 0 then base :: held ++ composeOnto c [] rest
      else composeOnto base (held ++ [c]) rest

/-- Puts the characters of a text in order together. -/
def compose : List Char → List Char
  | [] => []
  | c :: rest => if combiningClass c = 0 then composeOnto c [] rest else c :: compose rest

/-- The composed normal form of a text. -/
def normalize (text : List Char) : List Char :=
  if text.all (·.toNat < 128) then text else compose (arrange (text.flatMap decompose))

end Composition

end CatalogBridge
