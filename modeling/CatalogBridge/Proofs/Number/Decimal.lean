import CatalogBridge.Number.Numeral
import CatalogBridge.Text.Blank
import Mathlib.Data.List.Basic
import Mathlib.Data.List.Induction
import Mathlib.Data.Nat.Digits.Defs

/-!
# Numbers in base ten

Which texts write which number, how a number is written, and that it is read back.

* `Writes` says that a sign and digits write a number, leading zeros or not, and
  `parse?_eq_some_iff` that these are the texts that are parsed, below the bound.
* The text of a number is digits only, begins with a zero only if the number is zero
  (`head?_toString`), denotes the number (`value_toString`), and is parsed as the number
  below every bound that the number is below (`parse?_toString`).
-/

namespace CatalogBridge.Numeral

/-! ## Reading -/

/-- Digits denote the number that has them in base ten. -/
theorem value_eq_ofDigits (text : List Char) :
    value 0 text = Nat.ofDigits 10 (text.reverse.map fun c => c.toNat - '0'.toNat) := by
  induction text using List.reverseRecOn with
  | nil => rfl
  | append_singleton front last ih =>
    have hlast : value 0 (front ++ [last]) = value 0 front * 10 + (last.toNat - '0'.toNat) :=
      value_append 0 front [last]
    rw [hlast, ih, List.reverse_append, List.reverse_singleton, List.singleton_append,
      List.map_cons, Nat.ofDigits_cons, Nat.mul_comm, Nat.add_comm]

/-- A sign and digits that write a number: a plus sign or none, and one digit or more that denote
the number in base ten. -/
structure Writes (sign digits : List Char) (number : Nat) : Prop where
  sign_eq : sign = [] ∨ sign = ['+']
  digits_ne : digits ≠ []
  isDigit : ∀ c ∈ digits, c.isDigit = true
  number_eq : number = Nat.ofDigits 10 (digits.reverse.map fun c => c.toNat - '0'.toNat)

theorem isBlank_of_isDigit {c : Char} (h : isDigit c = true) : isBlank c = false := by
  have hrange : 48 ≤ c.toNat ∧ c.toNat ≤ 57 := by simpa [isDigit] using h
  have hnone : ∀ n < 58, 48 ≤ n → inRanges blankRanges n = false := by decide
  exact hnone c.toNat (by omega) hrange.1

/-- What writes a number holds no blank. -/
theorem Writes.isBlank_of_mem {sign digits : List Char} {number : Nat}
    (h : Writes sign digits number) {c : Char} (hc : c ∈ sign ++ digits) : isBlank c = false := by
  rcases List.mem_append.1 hc with hsign | hdigit
  · rcases h.sign_eq with rfl | rfl
    · cases hsign
    · rw [List.mem_singleton.1 hsign]
      decide
  · exact isBlank_of_isDigit (h.isDigit c hdigit)

/-- Digits have no sign to drop. -/
theorem dropPlus_of_digits {text : List Char} (h : ∀ c ∈ text, c.isDigit = true) :
    dropPlus text = text := by
  refine if_neg fun hplus => ?_
  exact absurd (h '+' (List.mem_of_head? hplus)) (by decide)

theorem exists_append_dropPlus (text : List Char) :
    ∃ sign, text = sign ++ dropPlus text ∧ (sign = [] ∨ sign = ['+']) := by
  rw [dropPlus]
  split_ifs with hplus
  · refine ⟨['+'], ?_, Or.inr rfl⟩
    rw [List.singleton_append, List.cons_head?_tail hplus]
  · exact ⟨[], rfl, Or.inl rfl⟩

theorem ofDigits?_eq_some_iff {text : List Char} {number : Nat} :
    ofDigits? text = some number ↔ Writes [] text number := by
  have hdigits : text.all isDigit = true ↔ ∀ c ∈ text, c.isDigit = true := List.all_eq_true
  rw [ofDigits?, value_eq_ofDigits]
  split_ifs with hempty hall
  · refine iff_of_false (by simp) fun hwrites => hwrites.digits_ne (List.isEmpty_iff.1 hempty)
  · rw [Option.some_inj]
    refine ⟨fun hnumber => ⟨Or.inl rfl, ?_, hdigits.1 hall, hnumber.symm⟩,
      fun hwrites => hwrites.number_eq.symm⟩
    exact fun hnil => hempty (List.isEmpty_iff.2 hnil)
  · exact iff_of_false (by simp) fun hwrites => hall (hdigits.2 hwrites.isDigit)

/-- Parsed are the texts that write a number below the bound, and as this number. -/
theorem parse?_eq_some_iff {bound number : Nat} {text : List Char} :
    parse? bound text = some number ↔
      number < bound ∧ ∃ sign digits, text = sign ++ digits ∧ Writes sign digits number := by
  rw [parse?, Option.filter_eq_some_iff, ofDigits?_eq_some_iff, decide_eq_true_iff, and_comm]
  refine and_congr_right fun _ => ⟨fun hwrites => ?_, fun hwrites => ?_⟩
  · obtain ⟨sign, htext, hsign⟩ := exists_append_dropPlus text
    exact ⟨sign, dropPlus text, htext, hsign, hwrites.digits_ne, hwrites.isDigit, hwrites.number_eq⟩
  · obtain ⟨sign, digits, rfl, hwrites⟩ := hwrites
    have hdrop : dropPlus (sign ++ digits) = digits := by
      rcases hwrites.sign_eq with rfl | rfl
      · exact dropPlus_of_digits hwrites.isDigit
      · rfl
    rw [hdrop]
    exact ⟨Or.inl rfl, hwrites.digits_ne, hwrites.isDigit, hwrites.number_eq⟩

/-! ## Writing -/

theorem value_cons (sofar : Nat) (c : Char) (rest : List Char) :
    value sofar (c :: rest) = value (sofar * 10 + digitValue c) rest :=
  value_append sofar [c] rest

theorem value_eq_ofDigitChars (sofar : Nat) (text : List Char) :
    value sofar text = Nat.ofDigitChars 10 text sofar := by
  induction text generalizing sofar with
  | nil => exact Nat.ofDigitChars_nil.symm
  | cons c rest ih =>
    have hzero : '0'.toNat = 48 := rfl
    rw [value_cons, ih, Nat.ofDigitChars_cons, digitValue, Nat.mul_comm sofar 10, hzero]

theorem toList_toString (n : Nat) : (toString n).toList = Nat.toDigits 10 n := by
  rw [Nat.toString_eq_ofList_toDigits, String.toList_ofList]

theorem toString_ne_nil (n : Nat) : (toString n).toList ≠ [] := by
  rw [toList_toString]
  exact Nat.toDigits_ne_nil

theorem isDigit_of_mem_toString {n : Nat} {c : Char} (h : c ∈ (toString n).toList) :
    isDigit c = true := by
  rw [toList_toString] at h
  have hdigit : c.isDigit = true := Nat.isDigit_of_mem_toDigits (by decide) (by decide) h
  exact hdigit

theorem value_toString (n : Nat) : value 0 (toString n).toList = n := by
  rw [value_eq_ofDigitChars, toList_toString, Nat.ofDigitChars_ten_toDigits]

/-- No number but zero begins with a zero. -/
theorem head?_toString {n : Nat} (hn : n ≠ 0) : (toString n).toList.head? ≠ some '0' := by
  rw [toList_toString]
  -- Digits are written from the last one, so the first is that of the number without its last.
  induction n using Nat.strongRecOn with
  | ind n ih =>
    by_cases hsmall : n < 10
    · rw [Nat.toDigits_of_lt_base hsmall]
      have hdigit : ∀ d < 10, d ≠ 0 → [d.digitChar].head? ≠ some '0' := by decide
      exact hdigit n hsmall hn
    · have hfront : (Nat.toDigits 10 (n / 10)).head? ≠ some '0' := ih _ (by omega) (by omega)
      rwa [Nat.toDigits_of_base_le (by decide) (by omega), List.head?_append,
        List.head?_eq_some_head Nat.toDigits_ne_nil, Option.some_or,
        ← List.head?_eq_some_head Nat.toDigits_ne_nil]

theorem writes_toString (n : Nat) : Writes [] (toString n).toList n where
  sign_eq := Or.inl rfl
  digits_ne := toString_ne_nil n
  isDigit _ hc := isDigit_of_mem_toString hc
  number_eq := by rw [← value_eq_ofDigits, value_toString]

/-- A number is read back from its own text. -/
theorem parse?_toString {bound n : Nat} (h : n < bound) :
    parse? bound (toString n).toList = some n :=
  parse?_eq_some_iff.2 ⟨h, [], _, rfl, writes_toString n⟩

end CatalogBridge.Numeral
