import CatalogBridge.Consul.Index
import CatalogBridge.Proofs.Number.Decimal

/-!
# The index of a header

What a query that waits for changes is told by the header of the last answer. An index
of zero would be answered at once, and the next query would follow at once, so no header
is read as zero.

* `Carries` says that a header carries a number: digits, a plus sign in front of them or
  none, and blanks around. `parse?_trim_eq_some_iff` says that these are the headers of
  which a number is read.
* `index_of_header` says what is read of every header: the number that it carries, but
  at least one, and one if it carries none or the number is too great. The text of an
  index is read as the index, with blanks around it or without.
-/

namespace CatalogBridge.ChangeIndex

/-- A header carries a number: between blanks, a plus sign or none and one digit or more, which
denote the number. -/
def Carries (header : List Char) (number : Nat) : Prop :=
  ∃ before sign digits after, header = before ++ (sign ++ digits) ++ after ∧
    (∀ c ∈ before, isBlank c = true) ∧ (∀ c ∈ after, isBlank c = true) ∧
    Numeral.Writes sign digits number

/-- A number is parsed of a header exactly if the header carries it. -/
theorem parse?_trim_eq_some_iff {bound number : Nat} {header : List Char} :
    Numeral.parse? bound (trim header) = some number ↔ number < bound ∧ Carries header number := by
  rw [Numeral.parse?_eq_some_iff]
  refine and_congr_right fun _ => ⟨fun hwritten => ?_, fun hcarries => ?_⟩
  · obtain ⟨sign, digits, htrim, hwrites⟩ := hwritten
    obtain ⟨before, after, hheader, hbefore, hafter⟩ := exists_append_trim header
    rw [htrim] at hheader
    exact ⟨before, sign, digits, after, hheader, hbefore, hafter, hwrites⟩
  · obtain ⟨before, sign, digits, after, rfl, hbefore, hafter, hwrites⟩ := hcarries
    refine ⟨sign, digits, trim_append hbefore hafter ?_ ?_, hwrites⟩
    · exact fun c hc => hwrites.isBlank_of_mem (List.mem_of_head? hc)
    · exact fun c hc => hwrites.isBlank_of_mem (List.mem_of_getLast? hc)

theorem carries_render (index : ChangeIndex) {before after : List Char}
    (hbefore : ∀ c ∈ before, isBlank c = true) (hafter : ∀ c ∈ after, isBlank c = true) :
    Carries (before ++ index.render.toList ++ after) index.value :=
  ⟨before, [], _, after, rfl, hbefore, hafter, Numeral.writes_toString index.value⟩

theorem ofHeader_of_carries {header : List Char} {number : Nat} (h : Carries header number)
    (hbound : number < 2 ^ 64) : ofHeader (some header) = ⟨max 1 number⟩ := by
  have hparse : Numeral.parse? Numeral.bound64 (trim header) = some number :=
    parse?_trim_eq_some_iff.2 ⟨hbound, h⟩
  rw [ofHeader, Option.bind_some, hparse, Nat.max_comm]
  rfl

theorem ofHeader_of_not_carries {header : Option (List Char)}
    (h : ∀ text number, header = some text → Carries text number → 2 ^ 64 ≤ number) :
    ofHeader header = ⟨1⟩ := by
  have hnone : (header.bind fun text => Numeral.parse? Numeral.bound64 (trim text)) =
      Option.none := by
    refine Option.eq_none_iff_forall_ne_some.2 fun number hsome => ?_
    obtain ⟨text, hheader, hparse⟩ := Option.bind_eq_some_iff.1 hsome
    obtain ⟨hbound, hcarries⟩ := parse?_trim_eq_some_iff.1 hparse
    exact Nat.not_le.2 hbound (h text number hheader hcarries)
  rw [ofHeader, hnone]
  rfl

theorem ofHeader_lt (header : Option (List Char)) : (ofHeader header).value < 2 ^ 64 := by
  unfold ofHeader
  split
  · rename_i number hread
    obtain ⟨text, _, hparse⟩ := Option.bind_eq_some_iff.1 hread
    exact Nat.max_lt.2 ⟨Numeral.parse?_lt hparse, by decide⟩
  · decide

/-- What is read of a header, whatever it holds.

If it carries a number of sixty-four bits it is this number, but at least one. In every other case
it is one: if the header is missing or empty, if nothing stands behind the sign, if a minus sign or
anything else stands where digits should, and if the number is too great. So it is never zero, and
the text of every index that is not zero is read as the index, whatever blanks are around it. -/
theorem index_of_header :
    (∀ header number, Carries header number → number < 2 ^ 64 →
      ofHeader (some header) = ⟨max 1 number⟩) ∧
    (∀ header : Option (List Char),
      (∀ text number, header = some text → Carries text number → 2 ^ 64 ≤ number) →
      ofHeader header = ⟨1⟩) ∧
    (∀ header, 1 ≤ (ofHeader header).value ∧ (ofHeader header).value < 2 ^ 64) ∧
    ∀ index : ChangeIndex, 1 ≤ index.value → index.value < 2 ^ 64 → ∀ before after,
      (∀ c ∈ before, isBlank c = true) → (∀ c ∈ after, isBlank c = true) →
      ofHeader (some (before ++ index.render.toList ++ after)) = index := by
  refine ⟨fun _ _ => ofHeader_of_carries, fun _ => ofHeader_of_not_carries,
    fun header => ⟨ofHeader_pos header, ofHeader_lt header⟩, ?_⟩
  intro index hpos hbound before after hbefore hafter
  rw [ofHeader_of_carries (carries_render index hbefore hafter) hbound, Nat.max_eq_right hpos]

/-- The greatest index is read behind zeros and a sign, and from its own text between blanks. The
number after it is too great. -/
theorem index_of_header_greatest :
    let header := "\t +0018446744073709551615 ".toList
    Carries header 18446744073709551615 ∧ 18446744073709551615 < 2 ^ 64 ∧
      ofHeader (some header) = ⟨18446744073709551615⟩ ∧
      (∀ number, Carries "18446744073709551616".toList number → 2 ^ 64 ≤ number) ∧
      ofHeader (some "18446744073709551616".toList) = ⟨1⟩ ∧
      ofHeader (some ([' '] ++ (render ⟨18446744073709551615⟩).toList ++ ['\u3000']))
        = ⟨18446744073709551615⟩ := by
  intro header
  obtain ⟨hcarried, hother, _, hround⟩ := index_of_header
  have hcarries : Carries header 18446744073709551615 :=
    (@parse?_trim_eq_some_iff (2 ^ 64) _ header).1 (by decide +kernel) |>.2
  have hgreat : ∀ number, Carries "18446744073709551616".toList number → 2 ^ 64 ≤ number := by
    intro number hnumber
    by_contra hsmall
    have hnone : Numeral.parse? (2 ^ 64) (trim "18446744073709551616".toList) = Option.none := by
      decide +kernel
    rw [parse?_trim_eq_some_iff.2 ⟨Nat.not_le.1 hsmall, hnumber⟩] at hnone
    cases hnone
  refine ⟨hcarries, by decide, hcarried _ _ hcarries (by decide), hgreat, hother _ ?_,
    hround ⟨18446744073709551615⟩ (by decide) (by decide) _ _
      (List.forall_mem_singleton.2 (by decide)) (List.forall_mem_singleton.2 (by decide))⟩
  intro text number htext hnumber
  obtain rfl := Option.some.inj htext
  exact hgreat number hnumber

-- No digit, no digit behind the sign, a minus sign, a blank among the digits, a digit that is not
-- ASCII.
example : ["", "+", "-5", "1 2", "٣"].map (fun text => ofHeader (some text.toList))
    = List.replicate 5 floor := by
  decide +kernel

end CatalogBridge.ChangeIndex
