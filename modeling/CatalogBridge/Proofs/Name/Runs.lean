import CatalogBridge.Kubernetes.Name
import Mathlib

/-!
# The runs of a name

Sanitizing goes over a text once and remembers only whether it has left something
out. This module says what comes of it in terms of the whole text: its maximal
runs of ASCII letters and digits.

* `runs` are the maximal runs of a text in lower case, `joined` puts one hyphen
  between neighbours, and `fit` shortens what is too long for a name.
* `squeeze_dropWhile` says that the pass over the text gives the joined runs.
* `Tidy` is what hyphens look like in joined runs and in every beginning of them;
  so a shortened text has at most one hyphen to take off (`trimHyphens_eq`).
* `sanitize_eq_fit` puts them together: the name is the joined runs, shortened.
-/

namespace CatalogBridge.Name

variable {c : Char} {text : List Char}

/-! ## Characters -/

/-- An ASCII letter in lower case, or a digit. -/
def isPlain (c : Char) : Bool := c.isLower || c.isDigit

/-- A character that belongs to no run. -/
def separates (c : Char) : Bool := !c.isAlphanum

theorem isUpper_of_isPlain (h : isPlain c = true) : c.isUpper = false := by
  rcases Bool.or_eq_true_iff.1 h with hlower | hdigit
  · exact Bool.eq_false_iff.2 (Char.not_isUpper_of_isLower hlower)
  · have hle : c.toNat ≤ 57 := (Char.isDigit_iff_toNat.1 hdigit).2
    simp only [Char.isUpper, decide_eq_false_iff_not, ge_iff_le, UInt32.le_iff_toNat_le, not_and]
    change 65 ≤ c.toNat → ¬ c.toNat ≤ 90
    omega

theorem separates_of_isPlain (h : isPlain c = true) : separates c = false := by
  rcases Bool.or_eq_true_iff.1 h with hlower | hdigit
  · simp [separates, Char.isAlphanum, Char.isAlpha, hlower]
  · simp [separates, Char.isAlphanum, hdigit]

theorem toLower_of_isPlain (h : isPlain c = true) : c.toLower = c :=
  Char.toLower_eq_of_not_isUpper (Bool.eq_false_iff.1 (isUpper_of_isPlain h))

theorem isPlain_toLower (h : separates c = false) : isPlain c.toLower = true := by
  simp only [separates, Char.isAlphanum, Bool.not_eq_false', Bool.or_eq_true] at h
  rcases h with halpha | hdigit
  · rw [isPlain, Char.isLower_toLower_eq_isAlpha, halpha, Bool.true_or]
  · have hplain : isPlain c = true := Bool.or_eq_true_iff.2 (Or.inr hdigit)
    rw [toLower_of_isPlain hplain, hplain]

/-- What does not separate is kept in lower case. -/
theorem keep?_eq (c : Char) : keep? c = if separates c then none else some c.toLower := by
  have hplain : ('a' ≤ c && c ≤ 'z' || '0' ≤ c && c ≤ '9') = isPlain c := rfl
  have hupper : ('A' ≤ c && c ≤ 'Z') = c.isUpper := by
    rw [Char.isUpper, Bool.decide_and]
    rfl
  rw [keep?, hplain, hupper]
  by_cases h : isPlain c = true
  · rw [if_pos h, separates_of_isPlain h, toLower_of_isPlain h, if_neg Bool.false_ne_true]
  · have hseparates : separates c = !c.isUpper := by
      simp only [isPlain, Bool.or_eq_true, not_or, Bool.not_eq_true] at h
      simp [separates, Char.isAlphanum, Char.isAlpha, h]
    rw [if_neg h, hseparates]
    by_cases hcase : c.isUpper = true
    · simp [hcase, Char.toLower_eq_of_isUpper hcase]
    · simp [hcase]

theorem isNone_keep? (c : Char) : (keep? c).isNone = separates c := by
  rw [keep?_eq]
  cases separates c <;> rfl

/-! ## Runs -/

/-- The pieces of a text that are not empty, in lower case. -/
def lowered (pieces : List (List Char)) : List (List Char) :=
  (pieces.filter (· ≠ [])).map (·.map Char.toLower)

/-- The maximal runs of ASCII letters and digits in a text, in lower case. -/
def runs (text : List Char) : List (List Char) := lowered (text.splitOnP separates)

/-- Runs with one hyphen between neighbours. -/
def joined (pieces : List (List Char)) : List Char := ['-'].intercalate pieces

/-- Runs with one hyphen in front of each. -/
def trailing (pieces : List (List Char)) : List Char := pieces.flatMap fun piece => '-' :: piece

/-- A run is not empty and holds lower-case letters and digits only. -/
def IsRun (piece : List Char) : Prop := piece ≠ [] ∧ ∀ c ∈ piece, isPlain c = true

@[simp] theorem lowered_nil_cons (pieces : List (List Char)) :
    lowered ([] :: pieces) = lowered pieces := rfl

@[simp] theorem lowered_cons_cons (c : Char) (piece : List Char) (pieces : List (List Char)) :
    lowered ((c :: piece) :: pieces) = (c :: piece).map Char.toLower :: lowered pieces := rfl

theorem joined_cons (piece : List Char) (pieces : List (List Char)) :
    joined (piece :: pieces) = piece ++ trailing pieces := by
  induction pieces generalizing piece with
  | nil => simp [joined, trailing]
  | cons next rest ih =>
    rw [joined, List.intercalate_cons_cons, ← joined, ih next]
    simp [trailing]

/-- A separator belongs to no run, and no run goes on across it. -/
theorem runs_append_cons (before after : List Char) (h : separates c = true) :
    runs (before ++ c :: after) = runs before ++ runs after := by
  simp only [runs, lowered, List.splitOnP_append_cons before after h, List.filter_append,
    List.map_append]

theorem splitOnP_of_separates (h : separates c = true) (text : List Char) :
    (c :: text).splitOnP separates = [] :: text.splitOnP separates := by
  rw [List.splitOnP_cons_eq_if_modifyHead, if_pos h]

theorem splitOnP_of_not_separates (h : separates c = false) {piece : List Char}
    {pieces : List (List Char)} (htext : text.splitOnP separates = piece :: pieces) :
    (c :: text).splitOnP separates = (c :: piece) :: pieces := by
  rw [List.splitOnP_cons_eq_if_modifyHead, h, if_neg Bool.false_ne_true, htext]
  rfl

theorem exists_splitOnP (text : List Char) :
    ∃ piece pieces, text.splitOnP separates = piece :: pieces :=
  List.exists_cons_of_ne_nil (List.splitOnP_ne_nil separates text)

theorem not_separates_of_mem_splitOnP {piece : List Char}
    (h : piece ∈ text.splitOnP separates) (hc : c ∈ piece) : separates c = false := by
  induction text generalizing piece with
  | nil =>
    rw [List.splitOnP_nil, List.mem_singleton] at h
    subst h
    cases hc
  | cons first rest ih =>
    obtain ⟨head, others, hrest⟩ := exists_splitOnP rest
    by_cases hfirst : separates first = true
    · rw [splitOnP_of_separates hfirst] at h
      rcases List.mem_cons.1 h with rfl | h
      · cases hc
      · exact ih h hc
    · rw [Bool.not_eq_true] at hfirst
      rw [splitOnP_of_not_separates hfirst hrest] at h
      rcases List.mem_cons.1 h with rfl | h
      · rcases List.mem_cons.1 hc with rfl | hc
        · exact hfirst
        · exact ih (hrest ▸ List.mem_cons_self) hc
      · exact ih (hrest ▸ List.mem_cons_of_mem _ h) hc

theorem isRun_of_mem_runs {piece : List Char} (h : piece ∈ runs text) : IsRun piece := by
  obtain ⟨raw, hraw, rfl⟩ := List.mem_map.1 h
  obtain ⟨hmem, hsome⟩ := List.mem_filter.1 hraw
  refine ⟨by simpa using hsome, ?_⟩
  intro c hc
  obtain ⟨other, hother, rfl⟩ := List.mem_map.1 hc
  exact isPlain_toLower (not_separates_of_mem_splitOnP hmem hother)

/-- The pass over a text, from inside a run and from behind a gap. -/
theorem squeeze_eq {piece : List Char} {pieces : List (List Char)}
    (h : text.splitOnP separates = piece :: pieces) :
    squeeze false text = piece.map Char.toLower ++ trailing (lowered pieces) ∧
      squeeze true text = trailing (lowered (piece :: pieces)) := by
  induction text generalizing piece pieces with
  | nil =>
    rw [List.splitOnP_nil] at h
    cases h
    exact ⟨rfl, rfl⟩
  | cons c rest ih =>
    obtain ⟨head, others, hrest⟩ := exists_splitOnP rest
    obtain ⟨hinside, hbehind⟩ := ih hrest
    by_cases hc : separates c = true
    · rw [splitOnP_of_separates hc, hrest] at h
      cases h
      simp [squeeze, keep?_eq, hc, hbehind]
    · rw [Bool.not_eq_true] at hc
      rw [splitOnP_of_not_separates hc hrest] at h
      cases h
      simp [squeeze, keep?_eq, hc, hinside, trailing]

/-- The pass over a text, from its first letter or digit on, joins its runs. -/
theorem squeeze_dropWhile (text : List Char) :
    squeeze false (text.dropWhile fun c => (keep? c).isNone) = joined (runs text) := by
  simp only [isNone_keep?]
  induction text with
  | nil => rfl
  | cons c rest ih =>
    by_cases hc : separates c = true
    · rw [List.dropWhile_cons_of_pos hc, ih]
      exact congrArg joined (runs_append_cons [] rest hc).symm
    · rw [List.dropWhile_cons_of_neg hc]
      rw [Bool.not_eq_true] at hc
      obtain ⟨head, others, hrest⟩ := exists_splitOnP rest
      have hsplit := splitOnP_of_not_separates hc hrest
      rw [(squeeze_eq hsplit).1, runs, hsplit, lowered_cons_cons, joined_cons]

/-! ## Hyphens -/

/-- Hyphens stand between lower-case letters and digits: none is in front of all, and no two are
neighbours. -/
structure Tidy (text : List Char) : Prop where
  chars : ∀ c ∈ text, isPlain c = true ∨ c = '-'
  first : text.head? ≠ some '-'
  apart : text.IsChain fun c d => c ≠ '-' ∨ d ≠ '-'

theorem ne_hyphen_of_isPlain (h : isPlain c = true) : c ≠ '-' := by
  rintro rfl
  exact absurd h (by decide)

theorem tidy_of_isRun (h : IsRun text) : Tidy text ∧ text.getLast? ≠ some '-' := by
  have hne : ∀ c ∈ text, c ≠ '-' := fun c hc => ne_hyphen_of_isPlain (h.2 c hc)
  refine ⟨⟨fun c hc => Or.inl (h.2 c hc), fun hfirst => hne _ (List.mem_of_head? hfirst) rfl, ?_⟩,
    fun hlast => hne _ (List.mem_of_getLast? hlast) rfl⟩
  have hpairs : text.Pairwise fun c d => c ≠ '-' ∨ d ≠ '-' :=
    List.pairwise_of_forall_mem_list fun c hc d _ => Or.inl (hne c hc)
  exact hpairs.isChain

/-- A hyphen between two tidy texts leaves them tidy, if the one in front does not
end in another. -/
theorem Tidy.append_hyphen {front behind : List Char} (hfront : Tidy front) (hsome : front ≠ [])
    (hend : front.getLast? ≠ some '-') (hbehind : Tidy behind) : Tidy (front ++ '-' :: behind) := by
  refine ⟨?_, ?_, ?_⟩
  · intro c hc
    rcases List.mem_append.1 hc with hc | hc
    · exact hfront.chars c hc
    · rcases List.mem_cons.1 hc with rfl | hc
      · exact Or.inr rfl
      · exact hbehind.chars c hc
  · rw [List.head?_append_of_ne_nil _ hsome]
    exact hfront.first
  · refine List.isChain_append.2 ⟨hfront.apart, List.isChain_cons.2 ⟨?_, hbehind.apart⟩, ?_⟩
    · intro d hd
      exact Or.inr fun hhyphen => hbehind.first (hhyphen ▸ hd)
    · intro c hc d _
      exact Or.inl fun hhyphen => hend (hhyphen ▸ hc)

/-- What stands behind a hyphen of a tidy text is tidy. -/
theorem Tidy.behind_hyphen {front rest : List Char} (h : Tidy (front ++ '-' :: rest)) :
    Tidy rest := by
  have hchain := List.isChain_cons.1 (List.isChain_append.1 h.apart).2.1
  refine ⟨fun c hc => h.chars c (by simp [hc]), fun hfirst => ?_, hchain.2⟩
  have hne := hchain.1 '-' hfirst
  simp at hne

/-- Joined runs are tidy, and no hyphen is behind all of them. -/
theorem tidy_joined {pieces : List (List Char)} (h : ∀ piece ∈ pieces, IsRun piece) :
    Tidy (joined pieces) ∧ (joined pieces).getLast? ≠ some '-' := by
  induction pieces with
  | nil => exact ⟨⟨by simp [joined], by simp [joined], by simp [joined]⟩, by simp [joined]⟩
  | cons piece rest ih =>
    obtain ⟨hpiece, hend⟩ := tidy_of_isRun (h piece List.mem_cons_self)
    cases rest with
    | nil => simpa [joined] using And.intro hpiece hend
    | cons next others =>
      obtain ⟨hrest, hlast⟩ := ih fun other hother => h other (List.mem_cons_of_mem _ hother)
      have hsome : piece ≠ [] := (h piece List.mem_cons_self).1
      have hbehind : joined (next :: others) ≠ [] := by
        rw [joined_cons]
        exact List.append_ne_nil_of_left_ne_nil
          (h next (List.mem_cons_of_mem _ List.mem_cons_self)).1 _
      have hjoined :
          joined (piece :: next :: others) = piece ++ '-' :: joined (next :: others) := by
        rw [joined_cons, joined_cons]
        rfl
      rw [hjoined]
      refine ⟨hpiece.append_hyphen hsome hend hrest, ?_⟩
      rw [List.getLast?_append_of_ne_nil _ (List.cons_ne_nil _ _),
        List.getLast?_cons_of_ne_nil hbehind]
      exact hlast

theorem tidy_runs (text : List Char) :
    Tidy (joined (runs text)) ∧ (joined (runs text)).getLast? ≠ some '-' :=
  tidy_joined fun _ hpiece => isRun_of_mem_runs hpiece

/-- A beginning of a tidy text is tidy. -/
theorem Tidy.take (h : Tidy text) (count : Nat) : Tidy (text.take count) := by
  refine ⟨fun c hc => h.chars c (List.mem_of_mem_take hc), ?_, h.apart.take count⟩
  rw [List.head?_take]
  split_ifs
  · simp
  · exact h.first

theorem trimHyphens_eq_self (h : text.getLast? ≠ some '-') : trimHyphens text = text := by
  rcases List.eq_nil_or_concat text with rfl | ⟨init, last, rfl⟩
  · rfl
  · have hlast : last ≠ '-' := by simpa using h
    simp [trimHyphens, hlast]

/-- A text without the hyphen at its end. -/
def withoutLastHyphen (text : List Char) : List Char :=
  if text.getLast? = some '-' then text.dropLast else text

/-- No hyphen stands in front of the last one. -/
theorem Tidy.getLast?_dropLast (h : Tidy text) (hlast : text.getLast? = some '-') :
    text.dropLast.getLast? ≠ some '-' := by
  have hsplit : text.dropLast ++ ['-'] = text := List.dropLast_append_getLast? _ hlast
  have hapart := h.apart
  rw [← hsplit, List.isChain_append] at hapart
  intro hbefore
  rcases hapart.2.2 '-' hbefore '-' rfl with hne | hne <;> exact hne rfl

/-- Without it no hyphen is left at the end. -/
theorem tidy_withoutLastHyphen (h : Tidy text) :
    Tidy (withoutLastHyphen text) ∧ (withoutLastHyphen text).getLast? ≠ some '-' := by
  rw [withoutLastHyphen]
  split_ifs with hlast
  · rw [List.dropLast_eq_take]
    exact ⟨h.take _, List.dropLast_eq_take ▸ h.getLast?_dropLast hlast⟩
  · exact ⟨h, hlast⟩

/-- A tidy text has at most one hyphen at its end. -/
theorem Tidy.trimHyphens_eq (h : Tidy text) :
    trimHyphens text = withoutLastHyphen text := by
  rw [withoutLastHyphen]
  split_ifs with hlast
  · have hsplit : text.dropLast ++ ['-'] = text := List.dropLast_append_getLast? _ hlast
    have htrim : trimHyphens (text.dropLast ++ ['-']) = trimHyphens text.dropLast := by
      simp [trimHyphens]
    rw [hsplit] at htrim
    rw [htrim, trimHyphens_eq_self (h.getLast?_dropLast hlast)]
  · exact trimHyphens_eq_self hlast

/-! ## Names -/

/-- A text as long as a name may be: the beginning of a longer one, without the hyphen at its
end. -/
def fit (text : List Char) : List Char :=
  if text.length ≤ maxLength then text else withoutLastHyphen (text.take maxLength)

theorem sanitizeChars_eq_fit (text : List Char) :
    sanitizeChars text = fit (joined (runs text)) := by
  obtain ⟨htidy, hlast⟩ := tidy_runs text
  rw [sanitizeChars, squeeze_dropWhile, (htidy.take maxLength).trimHyphens_eq, fit]
  split_ifs with hlength
  · rw [List.take_of_length_le hlength, withoutLastHyphen, if_neg hlast]
  · rfl

/-- Taking the hyphen off the end keeps the first character. -/
theorem Tidy.head?_withoutLastHyphen (h : Tidy text) :
    (withoutLastHyphen text).head? = text.head? := by
  rw [withoutLastHyphen]
  split_ifs with hlast
  · have hsplit : text.dropLast ++ ['-'] = text := List.dropLast_append_getLast? _ hlast
    cases hfront : text.dropLast with
    | nil =>
      rw [hfront] at hsplit
      exact absurd (hsplit ▸ rfl) h.first
    | cons c rest =>
      rw [hfront] at hsplit
      rw [← hsplit]
      rfl
  · rfl

/-- Shortening keeps the first character. -/
theorem Tidy.head?_fit (h : Tidy text) : (fit text).head? = text.head? := by
  rw [fit]
  split_ifs
  · rfl
  · rw [(h.take maxLength).head?_withoutLastHyphen, List.head?_take, if_neg (by decide)]

/-- A name begins with the first letter or digit of the text, in lower case. -/
theorem head?_sanitizeChars (text : List Char) :
    (sanitizeChars text).head? = (text.find? Char.isAlphanum).map Char.toLower := by
  rw [sanitizeChars_eq_fit, (tidy_runs text).1.head?_fit, ← squeeze_dropWhile,
    List.find?_eq_head?_dropWhile_not]
  simp only [isNone_keep?]
  change _ = ((text.dropWhile separates).head?).map Char.toLower
  cases hdrop : text.dropWhile separates with
  | nil => rfl
  | cons c rest =>
    have hc : separates c = false := by
      have hhead := List.head?_dropWhile_not separates text
      rw [hdrop] at hhead
      simpa using hhead
    simp [squeeze, keep?_eq, hc]

/-- The name of a text is its runs with one hyphen between neighbours, shortened to what a name
may be. It is empty if there is no letter or digit, and any other character only separates what is
in front of it from what is behind it. -/
theorem sanitize_eq_fit (name : String) :
    (sanitize name).toList = fit (joined (runs name.toList)) ∧
      (sanitize name = "" ↔ ∀ c ∈ name.toList, c.isAlphanum = false) ∧
      ∀ before c after, name.toList = before ++ c :: after → c.isAlphanum = false →
        (sanitize name).toList = fit (joined (runs before ++ runs after)) := by
  have hchars : (sanitize name).toList = fit (joined (runs name.toList)) := by
    rw [sanitize, String.toList_ofList, sanitizeChars_eq_fit]
  refine ⟨hchars, ?_, ?_⟩
  · rw [← String.toList_eq_nil_iff, ← List.head?_eq_none_iff, sanitize, String.toList_ofList,
      head?_sanitizeChars, Option.map_eq_none_iff, List.find?_eq_none]
    simp only [Bool.not_eq_true]
  · intro before c after hname hc
    have hseparates : separates c = true := by rw [separates, hc, Bool.not_false]
    rw [hchars, hname, runs_append_cons before after hseparates]

example : runs "Web.API, café".toList = ["web".toList, "api".toList, "caf".toList] := by decide

end CatalogBridge.Name
