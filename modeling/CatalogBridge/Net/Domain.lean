import CatalogBridge.Net.Domain.Mapping
import CatalogBridge.Net.Punycode
import CatalogBridge.Text.Direction
import CatalogBridge.Text.Joining

/-!
# Domain names

Names of hosts in any script, and their ASCII form, in which a label beyond ASCII is encoded
behind the mark `xn--`. A name is brought to its one spelling and cut at its dots; every label
must be well formed by itself, and a name that is written from right to left in some label must
keep a clear direction in all of them.
-/

namespace CatalogBridge.Domain

/-- The labels of a name: what stands between its dots. -/
def labels : List Char → List (List Char)
  | [] => [[]]
  | c :: rest =>
    if c = '.' then [] :: labels rest
    else
      match labels rest with
      | label :: others => (c :: label) :: others
      | [] => [[c]]

/-- Characters of ASCII that no name holds. -/
def isDenied (c : Char) : Bool :=
  c.toNat ≤ 32 || c.toNat = 127
    || ['#', '%', '/', ':', '<', '>', '?', '@', '[', '\\', ']', '^', '|'].contains c

/-- A label beyond ASCII has at most this many characters. -/
def longestLabel : Nat := 1000

/-- What is decoded has at most this many characters. -/
def longestCode : Nat := 2000

/-! ## Well-formed labels -/

/-- Whether the nearest letter that is not joined through is joined in one of two ways. -/
def isReached (one other : Joining) (text : List Char) : Bool :=
  match text.dropWhile (Joining.ofChar? · = some .transparent) with
  | c :: _ => Joining.ofChar? c = some one || Joining.ofChar? c = some other
  | [] => false

/-- Whether a character may stand behind some and in front of others; those behind it come nearest
first. A joiner stands only behind a mark that takes the vowel from a letter, and a non-joiner
also between letters that would be joined. -/
def mayStand (c : Char) (before after : List Char) : Bool :=
  if c ≠ '\u200c' && c ≠ '\u200d' then true
  else if before.head?.any (combiningClass · = viramaClass) then true
  else c = '\u200c' && isReached .left .both before && isReached .right .both after

/-- Whether all characters may stand where they do. -/
def allMayStand (before : List Char) : List Char → Bool
  | [] => true
  | c :: rest => mayStand c before rest && allMayStand (c :: before) rest

/-- Whether a label is ASCII. -/
def isAscii (label : List Char) : Bool := label.all (·.toNat < 128)

/-- Whether a label is well formed: it does not begin with a mark, and its joiners
join something. -/
def isWellFormed (label : List Char) : Bool :=
  isAscii label || (!label.head?.any isMark && allMayStand [] label && label.length ≤ longestLabel)

/-- What a label stands for that is encoded behind the mark: text in its one spelling. -/
def decoded? (code : List Char) : Option (List Char) :=
  if !isAscii code || code.getLast?.all (· = '-') || longestCode < code.length then none
  else (Punycode.decode? code).filter fun label => spell? label = some label && !label.any isDenied

/-- What a label stands for, if it is well formed. -/
def read? (label : List Char) : Option (List Char) :=
  (match label with
    | 'x' :: 'n' :: '-' :: '-' :: code => decoded? code
    | _ => some label).filter isWellFormed

/-! ## Direction -/

/-- Whether a label has characters that are written from right to left. -/
def hasRightToLeft (label : List Char) : Bool :=
  !isAscii label
    && label.any fun c => [.rightToLeft, .arabicLetter, .arabicNumber].contains (Direction.ofChar c)

/-- What may stand inside labels of either direction. -/
def isNeutral : Direction → Bool
  | .europeanNumber | .europeanSeparator | .commonSeparator | .europeanTerminator
  | .otherNeutral | .boundaryNeutral | .nonspacingMark => true
  | _ => false

/-- Whether a label keeps one direction: that of its first character. It ends, but for marks, in a
letter of this direction or a number, and numbers of two kinds do not mix. -/
def keepsDirection (label : List Char) : Bool :=
  match label.map Direction.ofChar with
  | [] => true
  | first :: rest =>
    let rest := rest.reverse.dropWhile (· = .nonspacingMark)
    match first with
    | .leftToRight =>
      rest.head?.all (fun last => last = .leftToRight || last = .europeanNumber)
        && rest.tail.all (fun inner => inner = .leftToRight || isNeutral inner)
    | .rightToLeft | .arabicLetter =>
      rest.head?.all [.rightToLeft, .arabicLetter, .arabicNumber, .europeanNumber].contains
        && rest.tail.all (fun inner =>
          [.rightToLeft, .arabicLetter, .arabicNumber].contains inner || isNeutral inner)
        && !(rest.contains .europeanNumber && rest.contains .arabicNumber)
    | _ => false

/-! ## Names -/

/-- What the labels of a name stand for. -/
def read (name : List Char) : Option (List (List Char)) := do
  let spelt ← spell? name
  guard (!spelt.any isDenied)
  let labels ← (labels spelt).mapM read?
  guard (!labels.any hasRightToLeft || labels.all keepsDirection)
  return labels

/-- A label in ASCII. -/
def write (label : List Char) : List Char :=
  if isAscii label then label else ['x', 'n', '-', '-'] ++ Punycode.encode label

/-- The ASCII form of a name; `none` if it is no name. -/
def ascii? (name : List Char) : Option (List Char) :=
  (read name).map fun labels => ((labels.map write).intersperse ['.']).flatten

end CatalogBridge.Domain
