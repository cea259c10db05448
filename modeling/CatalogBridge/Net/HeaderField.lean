import CatalogBridge.Text.Utf8

/-!
# Header fields

Which octets the value of a header field can carry, and what of it arrives: blanks around a value
are lost on the way.
-/

namespace CatalogBridge.HeaderField

/-- Whether an octet may stand in a value. -/
def carries (octet : UInt8) : Bool := octet = 9 || (32 ≤ octet && octet ≠ 127)

/-- Whether an octet is a blank. -/
def isBlank (octet : UInt8) : Bool := octet = 32 || octet = 9

/-- What arrives of a value; nothing can be read if it holds a control. -/
def arriving? (value : List UInt8) : Option (List UInt8) :=
  if value.all carries then some (((value.dropWhile isBlank).reverse.dropWhile isBlank).reverse)
  else none

/-- The text of a value, if it is plain ASCII. -/
def plainText? (value : List UInt8) : Option (List Char) :=
  if value.all fun octet => octet = 9 || (32 ≤ octet && octet < 127) then
    some (value.map fun octet => Char.ofNat octet.toNat)
  else none

end CatalogBridge.HeaderField
