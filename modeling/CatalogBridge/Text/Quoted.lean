import CatalogBridge.Text.Printable

/-!
# Quoted text

How a value that came from outside stands in a message: between double quotes, with the quote, the
backslash and four controls written as a backslash and a letter, and every other character that is
not printable written as its code point in braces.
-/

namespace CatalogBridge.Quoted

/-- The characters with a short escape, and the letter that stands for each. -/
def letter? : Char → Option Char
  | '"' => some '"'
  | '\\' => some '\\'
  | '\n' => some 'n'
  | '\r' => some 'r'
  | '\t' => some 't'
  | '\x00' => some '0'
  | _ => none

/-- The digits of a code point in base sixteen, lower case, without leading zeros. -/
def hexDigits (point : Nat) : List Char := Nat.toDigits 16 point

/-- One character between quotes. -/
def encodeChar (c : Char) : List Char :=
  match letter? c with
  | some letter => ['\\', letter]
  | none => if isPrintable c then [c] else '\\' :: 'u' :: '\x7b' :: hexDigits c.toNat ++ ['\x7d']

/-- What stands between the quotes. -/
def encode (text : List Char) : List Char := text.flatMap encodeChar

/-- A text in double quotes. -/
def quote (text : String) : String :=
  String.ofList ('"' :: encode text.toList ++ ['"'])

/-- A list of texts, each quoted, between brackets. -/
def quoteAll (texts : List String) : String :=
  "[" ++ ", ".intercalate (texts.map quote) ++ "]"

end CatalogBridge.Quoted
