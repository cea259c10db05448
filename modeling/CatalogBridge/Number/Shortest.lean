import CatalogBridge.Number.Binary

/-!
# Short spellings of whole numbers

A gauge keeps whole numbers as binary fractions, so above `2 ^ 53` many whole numbers denote one
value. A value is written with the fewest digits that still denote it, and zeros behind them; of
two such spellings the nearer one counts.
-/

namespace CatalogBridge.Binary

/-- The whole part of a number. -/
def whole (number : Binary) : Nat := number.mantissa * Nat.pow 2 number.shift / Nat.pow 2 finest

/-- Whether a whole number denotes a number. -/
def isDenotedBy (number : Binary) (candidate : Nat) : Bool := nearest? candidate 1 == some number

/-- The multiples of a step on both sides of a whole number, the nearer one first. -/
def neighbours (value step : Nat) : List Nat :=
  let below := value / step * step
  if value - below < below + step - value then [below, below + step] else [below + step, below]

/-- The nearest multiple of a step that denotes a number, if one of the two beside it does. -/
def onGrid? (number : Binary) (step : Nat) : Option Nat :=
  (neighbours number.whole step).find? number.isDenotedBy

/-- Powers of ten, coarsest first, down to one. -/
def grids : Nat → List Nat
  | 0 => [1]
  | places + 1 => Nat.pow 10 (places + 1) :: grids places

/-- The whole number with the fewest digits before its zeros that denotes a number; its whole part
if none does. -/
def shortest (number : Binary) : Nat :=
  ((grids (toString number.whole).length).findSome? number.onGrid?).getD number.whole

end CatalogBridge.Binary

namespace CatalogBridge

/-- The spelling of the value that a gauge keeps for a whole number. -/
def gaugeText (value : Nat) : String :=
  match Binary.nearest? value 1 with
  | some number => toString number.shortest
  | none => toString value

end CatalogBridge
