import CatalogBridge.Text.Blank
import CatalogBridge.Number.Numeral

/-!
# Change indexes

The position in the catalog's history that an answer belongs to. A query that waits for changes
names the index of the last answer; `none`, written as zero, asks for the current state at once.
An answer's own index is at least one.
-/

namespace CatalogBridge

/-- A position in the catalog's history; zero stands for no position. -/
structure ChangeIndex where
  value : Nat
  deriving DecidableEq, Repr

namespace ChangeIndex

/-- No position: the query does not wait. -/
def none : ChangeIndex := ⟨0⟩

/-- The least position of an answer. -/
def floor : ChangeIndex := ⟨1⟩

/-- The position of an answer, from the number it carries. -/
def ofAnswer (number : Nat) : ChangeIndex := ⟨max number 1⟩

/-- Whether there is no position. -/
def isNone (index : ChangeIndex) : Bool := index.value == 0

/-- The position of an answer, from the header it carries: a whole number of sixty-four bits
between blanks, and the least position if there is no such number. -/
def ofHeader (header : Option (List Char)) : ChangeIndex :=
  match header.bind fun text => Numeral.parse? Numeral.bound64 (trim text) with
  | some number => ofAnswer number
  | Option.none => floor

/-- The position as text. -/
def render (index : ChangeIndex) : String := toString index.value

theorem ofAnswer_pos (number : Nat) : 0 < (ofAnswer number).value := by
  simp only [ofAnswer]
  omega

theorem ofHeader_pos (header : Option (List Char)) : 0 < (ofHeader header).value := by
  unfold ofHeader
  split
  · exact ofAnswer_pos _
  · exact Nat.one_pos

end ChangeIndex

end CatalogBridge
