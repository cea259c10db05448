/-!
# Binary fractions

Non-negative numbers with fifty-three binary places, as measuring devices and configuration
readers keep them: a decimal text denotes the nearest of these, the product of two is the nearest
to their exact product, and of two neighbours as near the one with the even last place is taken.
All of it is exact arithmetic on whole numbers.
-/

namespace CatalogBridge

/-- The whole number nearest to a quotient; of two as near, the even one. -/
def roundQuotient (numerator denominator : Nat) : Nat :=
  let quotient := numerator / denominator
  let rest := numerator % denominator
  if 2 * rest < denominator then quotient
  else if denominator < 2 * rest then quotient + 1
  else if quotient % 2 = 0 then quotient
  else quotient + 1

/-- The number `mantissa * 2 ^ (shift - 1074)`, with a mantissa below `2 ^ 53`. -/
structure Binary where
  mantissa : Nat
  shift : Nat
  deriving DecidableEq, Repr

namespace Binary

/-- The places of a mantissa. -/
def precision : Nat := 53

/-- How many binary places the finest numbers have behind the point. -/
def finest : Nat := 1074

/-- The greatest shift of a number. -/
def maxShift : Nat := 2045

/-- The number of binary digits of a whole number. -/
def bitLength (n : Nat) : Nat := if n = 0 then 0 else n.log2 + 1

/-- The nearest number to a quotient, `none` if it lies beyond the greatest one. -/
def nearest? (numerator denominator : Nat) : Option Binary :=
  let scaled := numerator * Nat.pow 2 finest
  let shift := bitLength (scaled / denominator) - precision
  let mantissa := roundQuotient scaled (denominator * Nat.pow 2 shift)
  let number : Binary :=
    if mantissa = Nat.pow 2 precision then ⟨Nat.pow 2 (precision - 1), shift + 1⟩
    else ⟨mantissa, shift⟩
  if number.shift ≤ maxShift then some number else none

/-- The nearest number to the decimal number `digits / 10 ^ places`. -/
def ofDecimal? (digits places : Nat) : Option Binary := nearest? digits (Nat.pow 10 places)

/-- The nearest number to the product of two. -/
def mul? (a b : Binary) : Option Binary :=
  nearest? (a.mantissa * b.mantissa * Nat.pow 2 (a.shift + b.shift)) (Nat.pow 2 (2 * finest))

/-- The whole number nearest to a number in units of `1 / parts`. -/
def inUnits (a : Binary) (parts : Nat) : Nat :=
  roundQuotient (a.mantissa * Nat.pow 2 a.shift * parts) (Nat.pow 2 finest)

end Binary

end CatalogBridge
