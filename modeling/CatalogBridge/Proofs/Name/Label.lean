import CatalogBridge.Proofs.Name.Runs
import CatalogBridge.Proofs.Sync.Projection

/-!
# Names as labels

What sanitizing gives, said of the name alone: which names it leaves as they are,
and which of them a cluster takes.

* `Tidy.joined_runs` says that a tidy text is its own runs again, so sanitizing
  changes nothing about it that is not too long.
* `fixed_sanitize` says that sanitizing twice is sanitizing once, and that the names
  that it gives are the groups of letters and digits with single hyphens between them.
* `ObjectLabel` is what every object's name must be, and `ServiceLabel` what the name
  of a service must be on top of it. `serviceLabel_iff_of_sanitize` says when a name is
  the latter: when no digit stands in front of the letters.
-/

namespace CatalogBridge

namespace Name

variable {text : List Char}

/-! ## Fixed points -/

/-- Groups of lower-case letters and digits with single hyphens between them. -/
def Grouped (text : List Char) : Prop :=
  ∃ groups, groups ≠ [] ∧ (∀ group ∈ groups, IsRun group) ∧ text = joined groups

theorem squeeze_cons_of_isPlain {c : Char} (h : isPlain c = true) (rest : List Char) :
    squeeze false (c :: rest) = c :: squeeze false rest ∧
      squeeze true (c :: rest) = '-' :: squeeze false (c :: rest) := by
  have hkeep : keep? c = some c := by
    rw [keep?_eq, separates_of_isPlain h, toLower_of_isPlain h, if_neg Bool.false_ne_true]
  simp [squeeze, hkeep]

/-- The pass over a text changes nothing where hyphens stand apart and none is at the end. -/
theorem squeeze_eq_self (hchars : ∀ c ∈ text, isPlain c = true ∨ c = '-')
    (hapart : text.IsChain fun c d => c ≠ '-' ∨ d ≠ '-') (hlast : text.getLast? ≠ some '-') :
    squeeze false text = text := by
  induction text with
  | nil => rfl
  | cons c rest ih =>
    cases rest with
    | nil =>
      rcases hchars c List.mem_cons_self with hplain | rfl
      · exact (squeeze_cons_of_isPlain hplain []).1
      · exact absurd rfl hlast
    | cons d others =>
      have hrest : squeeze false (d :: others) = d :: others :=
        ih (fun e he => hchars e (List.mem_cons_of_mem _ he)) hapart.of_cons
          (List.getLast?_cons_cons ▸ hlast)
      rcases hchars c List.mem_cons_self with hplain | rfl
      · rw [(squeeze_cons_of_isPlain hplain _).1, hrest]
      · -- What follows a hyphen is no hyphen, so the pass puts the hyphen back in front of it.
        have hplain : isPlain d = true := by
          rcases hchars d (List.mem_cons_of_mem _ List.mem_cons_self) with hplain | rfl
          · exact hplain
          · exact absurd (List.isChain_cons_cons.1 hapart).1 (by simp)
        have hhyphen : squeeze false ('-' :: d :: others) = squeeze true (d :: others) := rfl
        rw [hhyphen, (squeeze_cons_of_isPlain hplain others).2, hrest]

/-- A tidy text that does not end in a hyphen is its own runs, joined. -/
theorem Tidy.joined_runs (h : Tidy text) (hlast : text.getLast? ≠ some '-') :
    joined (runs text) = text := by
  have hstart : text.dropWhile (fun c => (keep? c).isNone) = text := by
    cases text with
    | nil => rfl
    | cons c rest =>
      have hplain : isPlain c = true := by
        rcases h.chars c List.mem_cons_self with hplain | rfl
        · exact hplain
        · exact absurd rfl h.first
      rw [List.dropWhile_cons_of_neg]
      rw [isNone_keep?, separates_of_isPlain hplain]
      exact Bool.false_ne_true
  rw [← squeeze_dropWhile, hstart, squeeze_eq_self h.chars h.apart hlast]

theorem grouped_iff (hsome : text ≠ []) :
    Grouped text ↔ Tidy text ∧ text.getLast? ≠ some '-' := by
  constructor
  · intro hgrouped
    obtain ⟨groups, _, hruns, rfl⟩ := hgrouped
    exact tidy_joined hruns
  · intro htidy
    obtain ⟨htidy, hlast⟩ := htidy
    refine ⟨runs text, ?_, fun group hgroup => isRun_of_mem_runs hgroup,
      (htidy.joined_runs hlast).symm⟩
    intro hnone
    have hjoined := htidy.joined_runs hlast
    rw [hnone] at hjoined
    exact hsome hjoined.symm

theorem sanitizeChars_eq_self (h : Tidy text) (hlast : text.getLast? ≠ some '-')
    (hlength : text.length ≤ maxLength) : sanitizeChars text = text := by
  rw [sanitizeChars_eq_fit, h.joined_runs hlast, fit, if_pos hlength]

/-- Sanitized text is tidy and does not end in a hyphen. -/
theorem tidy_sanitizeChars (text : List Char) :
    Tidy (sanitizeChars text) ∧ (sanitizeChars text).getLast? ≠ some '-' := by
  rw [sanitizeChars_eq_fit, fit]
  split_ifs
  · exact tidy_runs text
  · exact tidy_withoutLastHyphen ((tidy_runs text).1.take maxLength)

theorem sanitizeChars_eq_self_iff : sanitizeChars text = text ↔
    Tidy text ∧ text.getLast? ≠ some '-' ∧ text.length ≤ maxLength := by
  constructor
  · intro h
    have htidy := tidy_sanitizeChars text
    have hlength := length_sanitizeChars_le text
    rw [h] at htidy hlength
    exact ⟨htidy.1, htidy.2, hlength⟩
  · intro h
    exact sanitizeChars_eq_self h.1 h.2.1 h.2.2

theorem sanitizeChars_idempotent (text : List Char) :
    sanitizeChars (sanitizeChars text) = sanitizeChars text := by
  obtain ⟨htidy, hlast⟩ := tidy_sanitizeChars text
  exact sanitizeChars_eq_self htidy hlast (length_sanitizeChars_le text)

theorem sanitize_eq_self_iff (name : String) :
    sanitize name = name ↔ sanitizeChars name.toList = name.toList := by
  rw [sanitize, ← String.toList_inj, String.toList_ofList]

theorem sanitize_idempotent (name : String) : sanitize (sanitize name) = sanitize name := by
  rw [sanitize_eq_self_iff, sanitize, String.toList_ofList, sanitizeChars_idempotent]

/-- Sanitizing twice is sanitizing once, and what comes out are the names that it leaves alone:
the empty one, and those of at most the greatest length that are groups of lower-case letters and
digits with single hyphens between them. -/
theorem fixed_sanitize (name : String) :
    sanitize (sanitize name) = sanitize name ∧
      ((∃ raw, sanitize raw = name) ↔ sanitize name = name) ∧
      (sanitize name = name ↔
        name = "" ∨ name.length ≤ maxLength ∧ Grouped name.toList) := by
  refine ⟨sanitize_idempotent name, ?_, ?_⟩
  · constructor
    · rintro ⟨raw, rfl⟩
      exact sanitize_idempotent raw
    · exact fun hfixed => ⟨name, hfixed⟩
  · by_cases hempty : name = ""
    · subst hempty
      exact iff_of_true rfl (Or.inl rfl)
    · have hsome : name.toList ≠ [] := fun hnil => hempty (String.toList_eq_nil_iff.1 hnil)
      rw [sanitize_eq_self_iff, grouped_iff hsome, ← String.length_toList]
      constructor
      · intro hfixed
        rw [← hfixed]
        exact Or.inr ⟨length_sanitizeChars_le _, tidy_sanitizeChars _⟩
      · rintro (hnone | ⟨hlength, htidy, hlast⟩)
        · exact absurd hnone hempty
        · exact sanitizeChars_eq_self htidy hlast hlength

/-! ## Labels -/

/-- A label, which the name of any object may be: lower-case letters, digits and hyphens, no hyphen
first or last. -/
structure ObjectLabel (text : List Char) : Prop where
  length : text.length ≤ maxLength
  chars : ∀ c ∈ text, isPlain c = true ∨ c = '-'
  first : ∃ c, text.head? = some c ∧ isPlain c = true
  last : ∃ c, text.getLast? = some c ∧ isPlain c = true

/-- A label that begins with a letter, which the name of a service must be. -/
structure ServiceLabel (text : List Char) : Prop extends ObjectLabel text where
  letter : ∃ c, text.head? = some c ∧ c.isLower = true

/-- No digit comes before the first letter of the text. -/
def LetterFirst (text : List Char) : Prop :=
  ∀ c, text.find? Char.isAlphanum = some c → c.isAlpha = true

theorem Tidy.objectLabel (h : Tidy text) (hlast : text.getLast? ≠ some '-')
    (hlength : text.length ≤ maxLength) (hsome : text ≠ []) : ObjectLabel text := by
  have hplain : ∀ c ∈ text, c ≠ '-' → isPlain c = true := fun c hc hne =>
    (h.chars c hc).resolve_right hne
  refine ⟨hlength, h.chars, ⟨text.head hsome, List.head?_eq_some_head hsome, ?_⟩,
    ⟨text.getLast hsome, List.getLast?_eq_some_getLast hsome, ?_⟩⟩
  · refine hplain _ (List.head_mem hsome) fun hhyphen => h.first ?_
    rw [List.head?_eq_some_head hsome, hhyphen]
  · refine hplain _ (List.getLast_mem hsome) fun hhyphen => hlast ?_
    rw [List.getLast?_eq_some_getLast hsome, hhyphen]

/-- What sanitizing gives is a label, unless it is empty. -/
theorem objectLabel_sanitizeChars (hsome : sanitizeChars text ≠ []) :
    ObjectLabel (sanitizeChars text) := by
  obtain ⟨htidy, hlast⟩ := tidy_sanitizeChars text
  exact htidy.objectLabel hlast (length_sanitizeChars_le text) hsome

/-- The label is one of a service if the text has its first letter in front of all digits. -/
theorem serviceLabel_sanitizeChars_iff (hsome : sanitizeChars text ≠ []) :
    ServiceLabel (sanitizeChars text) ↔ LetterFirst text := by
  have hhead := head?_sanitizeChars text
  have hlabel := objectLabel_sanitizeChars hsome
  cases hfound : text.find? Char.isAlphanum with
  | none =>
    rw [hfound, Option.map_none, List.head?_eq_none_iff] at hhead
    exact absurd hhead hsome
  | some c =>
    rw [hfound, Option.map_some] at hhead
    constructor
    · intro hservice d hd
      obtain ⟨e, he, hletter⟩ := hservice.letter
      obtain rfl := Option.some.inj (hfound.symm.trans hd)
      obtain rfl := Option.some.inj (hhead.symm.trans he)
      rw [Char.isLower_toLower_eq_isAlpha] at hletter
      exact hletter
    · intro hfirst
      refine ⟨hlabel, _, hhead, ?_⟩
      rw [Char.isLower_toLower_eq_isAlpha]
      exact hfirst c hfound

/-- A sanitized name is empty or a label, and it is one that a service may have exactly if no digit
comes before the first letter of the catalog's name. The service of a projection has this name. -/
theorem serviceLabel_iff_of_sanitize (name : String) :
    (sanitize name ≠ "" → ObjectLabel (sanitize name).toList) ∧
      (sanitize name = "" ∨ ServiceLabel (sanitize name).toList ↔ LetterFirst name.toList) ∧
      ∀ instances namespaceName projection notices,
        Projection.build ⟨name, instances⟩ namespaceName = .ok (projection, notices) →
          projection.service.metadata.name = some (sanitize name) ∧
            ObjectLabel (sanitize name).toList ∧
            (ServiceLabel (sanitize name).toList ↔ LetterFirst name.toList) := by
  have hchars : (sanitize name).toList = sanitizeChars name.toList := by
    rw [sanitize, String.toList_ofList]
  have hempty : sanitize name = "" ↔ sanitizeChars name.toList = [] := by
    rw [← hchars, String.toList_eq_nil_iff]
  rw [hchars, ne_eq, hempty]
  refine ⟨objectLabel_sanitizeChars, ?_, ?_⟩
  · by_cases hnone : sanitizeChars name.toList = []
    · refine iff_of_true (Or.inl hnone) fun c hc => ?_
      have hhead := head?_sanitizeChars name.toList
      rw [hnone, hc] at hhead
      cases hhead
    · rw [or_iff_right hnone, serviceLabel_sanitizeChars_iff hnone]
  · intro instances namespaceName projection notices hbuild
    have hdescribes := Projection.describes_of_build hbuild
    have hsome := mt hempty.2 (Projection.projectable_of_build hbuild).named
    refine ⟨?_, objectLabel_sanitizeChars hsome, serviceLabel_sanitizeChars_iff hsome⟩
    rw [hdescribes.service, hdescribes.name]
    rfl

/-- A catalog name without letters is sanitized to digits, and the service made for it has a name
that no service may have. -/
theorem not_serviceLabel_of_digits :
    let state : ServiceState := ⟨"123", [⟨"123", "10.0.0.1", 80, []⟩]⟩
    sanitize state.name = "123" ∧ ¬ ServiceLabel (sanitize state.name).toList ∧
      ∃ projection notices, Projection.build state "network" = .ok (projection, notices) ∧
        projection.service.metadata.name = some "123" := by
  intro state
  have hname : sanitize state.name = "123" := by decide +kernel
  have hprojectable : state.Projectable :=
    ⟨by rw [hname]; simp, ⟨_, [], rfl, by simp⟩, ⟨_, List.mem_cons_self, by simp⟩⟩
  obtain ⟨projection, notices, hbuild, hdescribes⟩ :=
    Projection.build_of_projectable hprojectable "network"
  refine ⟨hname, ?_, projection, notices, hbuild, ?_⟩
  · intro hlabel
    obtain ⟨c, hc, hletter⟩ := hlabel.letter
    rw [hname] at hc
    obtain rfl := Option.some.inj hc
    exact absurd hletter (by decide)
  · rw [hdescribes.service, hdescribes.name, hname]
    rfl

end Name

end CatalogBridge
