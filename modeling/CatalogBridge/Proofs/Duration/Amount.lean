import CatalogBridge.Duration.Grammar
import Mathlib.Data.List.TakeWhile

/-!
# Amounts of time as text

A duration is written as amounts, one after the other: a number and, directly behind it,
a unit.  The reader does not look for amounts.  It cuts the text wherever number
characters begin or end, and looks at the pieces afterwards.  This module says that the
two views agree.

* `IsNumber` is a number as text, and `decimal?_isSome_iff` says that these are the texts
  that denote one.
* An `Amount` is a number and a unit. `Apart` is what may follow one, and
  `split_eq_iff` says that a text is cut behind its first amount.
* `eq_of_written_eq` says that a text is written with one list of amounts at most.
* `duration_eq_ok_iff` says that the pieces with a duration are those of amounts.
-/

namespace CatalogBridge.Duration

/-! ## Numbers -/

/-- A number as text: digits with at most one point among them. -/
structure IsNumber (text : List Char) : Prop where
  chars : ∀ c ∈ text, Numeral.isDigit c = true ∨ c = '.'
  points : text.count '.' ≤ 1
  digit : ∃ c ∈ text, Numeral.isDigit c = true

theorem isNumber_iff {text : List Char} : IsNumber text ↔
    (∀ c ∈ text, Numeral.isDigit c = true ∨ c = '.') ∧ text.count '.' ≤ 1 ∧
      ∃ c ∈ text, Numeral.isDigit c = true :=
  ⟨fun h => ⟨h.chars, h.points, h.digit⟩, fun h => ⟨h.1, h.2.1, h.2.2⟩⟩

-- Not through an instance for characters, which might look at all of them.
instance (text : List Char) : Decidable (IsNumber text) :=
  decidable_of_iff ((text.all fun c => Numeral.isDigit c || c = '.') = true ∧
    text.count '.' ≤ 1 ∧ text.any Numeral.isDigit = true) (by simp [isNumber_iff])

theorem isNumberChar_iff {c : Char} :
    isNumberChar c = true ↔ Numeral.isDigit c = true ∨ c = '.' := by
  simp [isNumberChar]

theorem ne_point_of_isDigit {c : Char} (h : Numeral.isDigit c = true) : c ≠ '.' := by
  rintro rfl
  exact absurd h (by decide)

/-- Digits hold no point. -/
theorem count_point_of_digits {text : List Char} (h : ∀ c ∈ text, Numeral.isDigit c = true) :
    text.count '.' = 0 :=
  List.count_eq_zero.2 fun hmem => ne_point_of_isDigit (h _ hmem) rfl

/-- Number characters without a point are digits. -/
theorem digits_iff_count_point {text : List Char}
    (hchars : ∀ c ∈ text, Numeral.isDigit c = true ∨ c = '.') :
    (∀ c ∈ text, Numeral.isDigit c = true) ↔ text.count '.' = 0 := by
  refine ⟨count_point_of_digits, fun hcount c hc => (hchars c hc).resolve_right ?_⟩
  rintro rfl
  exact List.count_eq_zero.1 hcount hc

theorem exists_digit_iff {text : List Char} (h : ∀ c ∈ text, Numeral.isDigit c = true) :
    (∃ c ∈ text, Numeral.isDigit c = true) ↔ text ≠ [] := by
  refine ⟨fun hdigit hnil => ?_, fun hne => ?_⟩
  · obtain ⟨c, hc, _⟩ := hdigit
    exact List.ne_nil_of_mem hc hnil
  · obtain ⟨c, hc⟩ := List.exists_mem_of_ne_nil _ hne
    exact ⟨c, hc, h c hc⟩

/-- Of the texts of number characters those denote a number that are one. -/
theorem decimal?_isSome_iff {text : List Char}
    (hchars : ∀ c ∈ text, Numeral.isDigit c = true ∨ c = '.') :
    (decimal? text).isSome = true ↔ IsNumber text := by
  have hwhole : ∀ c ∈ text.takeWhile Numeral.isDigit, Numeral.isDigit c = true :=
    fun c hc => List.mem_takeWhile_imp hc
  have hcut := List.takeWhile_append_dropWhile (p := Numeral.isDigit) (l := text)
  have hhead := List.head?_dropWhile_not Numeral.isDigit text
  rw [isNumber_iff, and_iff_right hchars, decimal?]
  generalize text.takeWhile Numeral.isDigit = whole at hwhole hcut ⊢
  generalize text.dropWhile Numeral.isDigit = tail at hcut hhead ⊢
  subst hcut
  cases tail with
  | nil =>
    rw [List.append_nil, count_point_of_digits hwhole, exists_digit_iff hwhole]
    cases whole <;> simp
  | cons c fraction =>
    -- The first character that is no digit is the point.
    obtain rfl : c = '.' := by
      refine (hchars c (by simp)).resolve_left ?_
      simpa using hhead
    have hfraction : ∀ d ∈ fraction, Numeral.isDigit d = true ∨ d = '.' :=
      fun d hd => hchars d (by simp [hd])
    have hdigits := digits_iff_count_point hfraction
    have hcount : (whole ++ '.' :: fraction).count '.' = fraction.count '.' + 1 := by
      rw [List.count_append, count_point_of_digits hwhole, List.count_cons_self, Nat.zero_add]
    have hpoints : fraction.count '.' + 1 ≤ 1 ↔ fraction.count '.' = 0 := by omega
    have hpoint : Numeral.isDigit '.' = false := by decide
    have hdigit : (∃ d ∈ whole ++ '.' :: fraction, Numeral.isDigit d = true) ↔
        ∃ d ∈ whole ++ fraction, Numeral.isDigit d = true := by
      simp [or_and_right, exists_or, hpoint]
    show (if _ then _ else _ : Option (Nat × Nat)).isSome = true ↔ _
    rw [Option.isSome_ite, hcount, hpoints, hdigit, ← hdigits, Bool.and_eq_true, List.all_eq_true]
    refine and_congr_right fun hall => ?_
    rw [exists_digit_iff fun d hd => (List.mem_append.1 hd).elim (hwhole d) (hall d)]
    simp [imp_iff_not_or]

/-! ## Units -/

namespace TimeUnit

/-- The text of a unit. -/
def text : TimeUnit → List Char
  | .millisecond => ['m', 's']
  | .second => ['s']
  | .minute => ['m']
  | .hour => ['h']

theorem ofText?_eq_some_iff {text : List Char} {unit : TimeUnit} :
    ofText? text = some unit ↔ text = unit.text := by
  constructor
  · intro h
    unfold ofText? at h
    split_ifs at h <;> cases h <;> assumption
  · rintro rfl
    cases unit <;> rfl

theorem text_injective {unit other : TimeUnit} (h : unit.text = other.text) : unit = other :=
  Option.some.inj ((ofText?_eq_some_iff.2 rfl).symm.trans (ofText?_eq_some_iff.2 h))

theorem text_ne_nil (unit : TimeUnit) : unit.text ≠ [] := by
  cases unit <;> simp [text]

/-- No unit holds a character that numbers hold. -/
theorem not_isNumberChar (unit : TimeUnit) : ∀ c ∈ unit.text, isNumberChar c = false := by
  have hall : (unit.text.all fun c => !isNumberChar c) = true := by cases unit <;> decide
  simpa using hall

end TimeUnit

/-! ## Amounts -/

/-- An amount of time as it is written: so many of a unit. -/
@[ext] structure Amount where
  number : List Char
  unit : TimeUnit
  isNumber : IsNumber number

namespace Amount

/-- The amount as a piece of a text. -/
def part (amount : Amount) : Part := ⟨amount.number, amount.unit.text⟩

/-- The amount as text. -/
def text (amount : Amount) : List Char := amount.number ++ amount.unit.text

/-- How long the amount is, if it is not too long. -/
def duration? (amount : Amount) : Option Duration :=
  (decimal? amount.number).bind fun decimal => ofDecimal? decimal.1 decimal.2 amount.unit

theorem part_injective {first second : Amount} (h : first.part = second.part) :
    first = second := by
  obtain ⟨hnumber, hunit⟩ := Part.mk.inj h
  exact Amount.ext hnumber (TimeUnit.text_injective hunit)

theorem isNumberChar_of_mem (amount : Amount) : ∀ c ∈ amount.number, isNumberChar c = true :=
  fun c hc => isNumberChar_iff.2 (amount.isNumber.chars c hc)

theorem number_ne_nil (amount : Amount) : amount.number ≠ [] := by
  obtain ⟨c, hc, _⟩ := amount.isNumber.digit
  exact List.ne_nil_of_mem hc

end Amount

/-- Amounts as text, one directly behind the other. -/
def written (amounts : List Amount) : List Char := amounts.flatMap Amount.text

@[simp] theorem written_nil : written [] = [] := rfl

@[simp] theorem written_cons (amount : Amount) (rest : List Amount) :
    written (amount :: rest) = amount.text ++ written rest := rfl

@[simp] theorem written_append (front back : List Amount) :
    written (front ++ back) = written front ++ written back :=
  List.flatMap_append

/-- What may follow an amount: nothing, or something that begins as a number does. -/
def Apart (rest : List Char) : Prop := ∀ c, rest.head? = some c → isNumberChar c = true

theorem apart_nil : Apart [] := by
  intro c hc
  cases hc

/-- An amount may follow an amount. -/
theorem apart_text_append (amount : Amount) (rest : List Char) : Apart (amount.text ++ rest) := by
  intro c hc
  cases hnumber : amount.number with
  | nil => exact absurd hnumber amount.number_ne_nil
  | cons first others =>
    rw [Amount.text, hnumber] at hc
    obtain rfl : first = c := by simpa using hc
    exact amount.isNumberChar_of_mem first (hnumber ▸ List.mem_cons_self)

theorem apart_written_append (amounts : List Amount) {rest : List Char} (h : Apart rest) :
    Apart (written amounts ++ rest) := by
  cases amounts with
  | nil => exact h
  | cons amount others =>
    rw [written_cons, List.append_assoc]
    exact apart_text_append amount _

/-! ## Pieces and amounts -/

/-- The pieces of a text are the text. -/
theorem append_split (text : List Char) :
    (Part.split text).1.number ++ (Part.split text).1.unit ++ (Part.split text).2 = text := by
  simp only [Part.split]
  rw [List.append_assoc, List.takeWhile_append_dropWhile, List.takeWhile_append_dropWhile]

/-- A text is cut where number characters begin again. -/
theorem apart_split (text : List Char) : Apart (Part.split text).2 := by
  intro c hc
  have hrest : (Part.split text).2 =
      (text.dropWhile isNumberChar).dropWhile fun d => !isNumberChar d := rfl
  have hhead := List.head?_dropWhile_not (fun d => !isNumberChar d) (text.dropWhile isNumberChar)
  rw [← hrest, hc] at hhead
  simpa using hhead

/-- A text is cut behind its first amount. -/
theorem split_eq_iff {text rest : List Char} {amount : Amount} :
    Part.split text = (amount.part, rest) ↔ text = amount.text ++ rest ∧ Apart rest := by
  constructor
  · intro h
    have hpieces := append_split text
    have hrest := apart_split text
    rw [h] at hpieces hrest
    exact ⟨hpieces.symm, hrest⟩
  · rintro ⟨rfl, hrest⟩
    have hnumber := amount.isNumberChar_of_mem
    have hunit : ∀ c ∈ amount.unit.text, (!isNumberChar c) = true := by
      intro c hc
      rw [amount.unit.not_isNumberChar c hc]
      rfl
    -- The number ends where the unit begins, and the unit where the rest begins.
    have hbehind : (amount.unit.text ++ rest).takeWhile isNumberChar = [] ∧
        (amount.unit.text ++ rest).dropWhile isNumberChar = amount.unit.text ++ rest := by
      cases hletters : amount.unit.text with
      | nil => exact absurd hletters amount.unit.text_ne_nil
      | cons c others =>
        have hc := amount.unit.not_isNumberChar c (hletters ▸ List.mem_cons_self)
        rw [List.cons_append, List.takeWhile_cons, List.dropWhile_cons, hc]
        exact ⟨rfl, rfl⟩
    have hend : rest.takeWhile (fun c => !isNumberChar c) = [] ∧
        rest.dropWhile (fun c => !isNumberChar c) = rest := by
      cases rest with
      | nil => exact ⟨rfl, rfl⟩
      | cons c others =>
        rw [List.takeWhile_cons, List.dropWhile_cons, hrest c rfl]
        exact ⟨rfl, rfl⟩
    simp only [Part.split, Amount.text, Amount.part]
    rw [List.append_assoc, List.takeWhile_append_of_pos hnumber,
      List.dropWhile_append_of_pos hnumber, hbehind.1, hbehind.2, List.append_nil,
      List.takeWhile_append_of_pos hunit, List.dropWhile_append_of_pos hunit, hend.1, hend.2,
      List.append_nil]

/-- A text is written with one list of amounts at most. -/
theorem eq_of_written_eq {amounts others : List Amount} (h : written amounts = written others) :
    amounts = others := by
  have hne : ∀ (amount : Amount) (rest : List Char), amount.text ++ rest ≠ [] := by
    intro amount rest hnil
    exact amount.number_ne_nil (by simp_all [Amount.text])
  induction amounts generalizing others with
  | nil =>
    cases others with
    | nil => rfl
    | cons other rest => exact absurd h.symm (hne other _)
  | cons amount rest ih =>
    cases others with
    | nil => exact absurd h (hne amount _)
    | cons other more =>
      have hapart : ∀ amounts, Apart (written amounts) := fun amounts =>
        List.append_nil (written amounts) ▸ apart_written_append amounts apart_nil
      have hfirst := split_eq_iff.2 ⟨written_cons amount rest, hapart rest⟩
      have hsecond := split_eq_iff.2 ⟨h.trans (written_cons other more), hapart more⟩
      obtain ⟨hpart, hrest⟩ := Prod.mk.inj (hfirst.symm.trans hsecond)
      rw [Amount.part_injective hpart, ih hrest]

/-- The pieces with a duration are those of amounts, and the duration is that of the amount. -/
theorem duration_eq_ok_iff {input : String} {part : Part} {d : Duration}
    (hchars : ∀ c ∈ part.number, isNumberChar c = true) :
    part.duration input = .ok d ↔ ∃ amount : Amount, amount.part = part ∧
      amount.duration? = some d := by
  have hnumber := decimal?_isSome_iff fun c hc => isNumberChar_iff.1 (hchars c hc)
  unfold Part.duration Amount.duration?
  -- How a number becomes a duration plays no part, and its constants are too large to unfold.
  obtain ⟨convert, hconvert⟩ : ∃ convert, ofDecimal? = convert := ⟨_, rfl⟩
  rw [hconvert]
  constructor
  · intro h
    split at h
    · cases h
    · split at h
      · cases h
      · rename_i digits places hdecimal
        split at h
        · split at h <;> cases h
        · rename_i unit hunit
          split at h
          · cases h
          · rename_i found hduration
            obtain rfl := Except.ok.inj h
            have hone : IsNumber part.number := hnumber.1 (by rw [hdecimal]; rfl)
            refine ⟨⟨part.number, unit, hone⟩, ?_, ?_⟩
            · rw [Amount.part, ← TimeUnit.ofText?_eq_some_iff.1 hunit]
            · exact Option.bind_eq_some_iff.2 ⟨(digits, places), hdecimal, hduration⟩
  · rintro ⟨amount, rfl, hduration⟩
    obtain ⟨⟨digits, places⟩, hdecimal, hfound⟩ := Option.bind_eq_some_iff.1 hduration
    have hsome : amount.part.number.isEmpty = false :=
      List.isEmpty_eq_false_iff.2 amount.number_ne_nil
    have hread : decimal? amount.part.number = some (digits, places) := hdecimal
    have hunit : TimeUnit.ofText? amount.part.unit = some amount.unit :=
      TimeUnit.ofText?_eq_some_iff.2 rfl
    simp [hsome, hread, hunit, hfound]

end CatalogBridge.Duration
