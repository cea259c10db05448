/-!
# Blank characters

The white space of the Unicode property `White_Space`, and the text that is left of a setting, a
header or a number once the blanks at its two ends are gone.

`trim` is described by two facts: it takes nothing but blanks off the two ends
(`exists_append_trim`), and of blanks around a text that has none at its ends it leaves nothing
(`trim_append`).
-/

namespace CatalogBridge

/-- Whether a code point lies in one of the closed ranges of a table. -/
def inRanges (ranges : List (Nat × Nat)) (point : Nat) : Bool :=
  ranges.any fun range => range.1 ≤ point && point ≤ range.2

/-- The code points with the property `White_Space`, as closed ranges in ascending order. -/
def blankRanges : List (Nat × Nat) :=
  [(0x09, 0x0D), (0x20, 0x20), (0x85, 0x85), (0xA0, 0xA0), (0x1680, 0x1680), (0x2000, 0x200A),
   (0x2028, 0x2029), (0x202F, 0x202F), (0x205F, 0x205F), (0x3000, 0x3000)]

/-- A character is blank when it has the property `White_Space`. -/
def isBlank (c : Char) : Bool := inRanges blankRanges c.toNat

/-- A text without the blanks at its end. -/
def trimEnd (text : List Char) : List Char := (text.reverse.dropWhile isBlank).reverse

/-- A text without the blanks at its two ends. -/
def trim (text : List Char) : List Char := trimEnd (text.dropWhile isBlank)

/-- Whether a text holds nothing but blanks. -/
def blankText (text : String) : Bool := text.toList.all isBlank

/-! ## What trimming leaves -/

/-- A text that does not end in a blank keeps its end. -/
theorem trimEnd_eq_self {text : List Char}
    (hlast : ∀ c, text.getLast? = some c → isBlank c = false) : trimEnd text = text := by
  unfold trimEnd
  cases hrev : text.reverse with
  | nil => simpa using hrev
  | cons c rest =>
    have hc : isBlank c = false := by
      apply hlast
      rw [← List.head?_reverse, hrev]
      rfl
    rw [List.dropWhile_cons, if_neg (by simp [hc]), ← hrev, List.reverse_reverse]

/-- Blanks at the end do not count. -/
theorem trimEnd_append {text after : List Char} (hafter : ∀ c ∈ after, isBlank c = true) :
    trimEnd (text ++ after) = trimEnd text := by
  rw [trimEnd, List.reverse_append,
    List.dropWhile_append_of_pos fun c hc => hafter c (List.mem_reverse.1 hc), trimEnd]

/-- Blanks around a text that has none at either end are taken off, and no more. -/
theorem trim_append {before text after : List Char} (hbefore : ∀ c ∈ before, isBlank c = true)
    (hafter : ∀ c ∈ after, isBlank c = true) (hhead : ∀ c, text.head? = some c → isBlank c = false)
    (hlast : ∀ c, text.getLast? = some c → isBlank c = false) :
    trim (before ++ text ++ after) = text := by
  rw [trim, List.append_assoc, List.dropWhile_append_of_pos hbefore]
  cases text with
  | nil =>
    rw [List.nil_append, ← List.append_nil after, List.dropWhile_append_of_pos hafter]
    rfl
  | cons c rest =>
    have hstart : isBlank c = false := hhead c rfl
    rw [List.cons_append, List.dropWhile_cons_of_neg (by simp [hstart]), ← List.cons_append,
      trimEnd_append hafter, trimEnd_eq_self hlast]

/-- A text with no blank at either end is returned unchanged. -/
theorem trim_eq_self {text : List Char} (hhead : ∀ c, text.head? = some c → isBlank c = false)
    (hlast : ∀ c, text.getLast? = some c → isBlank c = false) : trim text = text := by
  have htrim := @trim_append [] text [] (by simp) (by simp) hhead hlast
  rwa [List.nil_append, List.append_nil] at htrim

/-- Only blanks are taken off. -/
theorem exists_append_trim (text : List Char) :
    ∃ before after, text = before ++ trim text ++ after ∧ (∀ c ∈ before, isBlank c = true) ∧
      ∀ c ∈ after, isBlank c = true := by
  have hblank : ∀ other : List Char, ∀ c ∈ other.takeWhile isBlank, isBlank c = true :=
    fun other => List.all_eq_true.1 List.all_takeWhile
  refine ⟨text.takeWhile isBlank, ((text.dropWhile isBlank).reverse.takeWhile isBlank).reverse, ?_,
    hblank text, fun c hc => hblank _ c (List.mem_reverse.1 hc)⟩
  rw [trim, trimEnd, List.append_assoc, ← List.reverse_append, List.takeWhile_append_dropWhile,
    List.reverse_reverse, List.takeWhile_append_dropWhile]

end CatalogBridge
