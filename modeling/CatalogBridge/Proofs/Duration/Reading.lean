import CatalogBridge.Proofs.Duration.Amount
import CatalogBridge.Proofs.Number.Decimal
import Mathlib.Algebra.GroupWithZero.Nat
import Mathlib.Logic.Relation

/-!
# What a duration is read as

Reading a duration is a loop: while something is left, the first part of it is added to
the sum so far.  A sum beyond the longest duration ends the loop, and so does a part that
is no amount.  This module relates the loop to the amounts of a text.

* `total` adds durations up without a bound. `foldlM_add?_eq_some_iff` says when bounded
  additions reach the total, and `exists_add?_eq_none` where they break off otherwise.
* `Turn` is one turn of the loop, and `turns_iff` says which amounts some turns read.
* `sumParts_eq_ok_iff` and `sumParts_eq_overflow_iff` say where the turns of a reading
  lead to, and `wellFounded_turn` that they end.
* `denotes_of_parse` puts these together: which texts are read, as what, and that texts
  written one behind the other add up.
-/

namespace CatalogBridge.Duration

/-! ## Sums -/

/-- What durations add up to in nanoseconds. -/
def total (durations : List Duration) : Nat := (durations.map (·.nanos)).sum

@[simp] theorem total_nil : total [] = 0 := rfl

@[simp] theorem total_cons (d : Duration) (rest : List Duration) :
    total (d :: rest) = d.nanos + total rest := rfl

@[simp] theorem total_append (front back : List Duration) :
    total (front ++ back) = total front + total back := by
  simp [total]

theorem total_take_le (durations : List Duration) (count : Nat) :
    total (durations.take count) ≤ total durations := by
  have hcut : total (durations.take count) + total (durations.drop count) = total durations := by
    rw [← total_append, List.take_append_drop]
  omega

theorem add?_eq_some_iff {a b sum : Duration} : a.add? b = some sum ↔
    a.nanos + b.nanos ≤ longest.nanos ∧ sum.nanos = a.nanos + b.nanos := by
  unfold add?
  constructor
  · intro h
    split at h
    · obtain rfl := Option.some.inj h
      exact ⟨‹_›, rfl⟩
    · cases h
  · rintro ⟨hle, hsum⟩
    rw [if_pos hle, ← hsum]

theorem add?_eq_none_iff {a b : Duration} :
    a.add? b = none ↔ longest.nanos < a.nanos + b.nanos := by
  rw [add?, ite_eq_right_iff]
  simp

/-- Durations are added up one by one exactly if no sum on the way is beyond the longest. -/
theorem foldlM_add?_eq_some_iff {start sum : Duration} {durations : List Duration}
    (hstart : start.nanos ≤ longest.nanos) : durations.foldlM add? start = some sum ↔
      (∀ count, start.nanos + total (durations.take count) ≤ longest.nanos) ∧
        sum.nanos = start.nanos + total durations := by
  induction durations generalizing start with
  | nil =>
    simp only [List.foldlM_nil, List.take_nil, total_nil, Nat.add_zero]
    constructor
    · intro h
      obtain rfl := Option.some.inj h
      exact ⟨fun _ => hstart, rfl⟩
    · rintro ⟨_, hsum⟩
      exact congrArg some (congrArg Duration.mk hsum.symm)
  | cons d rest ih =>
    rw [List.foldlM_cons, Option.bind_eq_bind, Option.bind_eq_some_iff]
    constructor
    · rintro ⟨next, hnext, hrest⟩
      obtain ⟨hle, hnanos⟩ := add?_eq_some_iff.1 hnext
      obtain ⟨hsums, hsum⟩ := (ih (by omega)).1 hrest
      refine ⟨fun count => ?_, by rw [hsum, total_cons]; omega⟩
      cases count with
      | zero => simpa using hstart
      | succ count =>
        have hlater := hsums count
        rw [List.take_succ_cons, total_cons]
        omega
    · rintro ⟨hsums, hsum⟩
      have hle : start.nanos + d.nanos ≤ longest.nanos := by simpa using hsums 1
      refine ⟨⟨start.nanos + d.nanos⟩, add?_eq_some_iff.2 ⟨hle, rfl⟩, (ih hle).2 ⟨?_, ?_⟩⟩
      · intro count
        have hlater := hsums (count + 1)
        rw [List.take_succ_cons, total_cons] at hlater
        dsimp only
        omega
      · rw [hsum, total_cons, Nat.add_assoc]

/-- Durations whose total is beyond the longest are added up to one that cannot be added. -/
theorem exists_add?_eq_none {start : Duration} {durations : List Duration}
    (hstart : start.nanos ≤ longest.nanos)
    (hover : longest.nanos < start.nanos + total durations) :
    ∃ front d back sum, durations = front ++ d :: back ∧
      front.foldlM add? start = some sum ∧ sum.add? d = none := by
  induction durations generalizing start with
  | nil => exact absurd hover (by simpa using hstart)
  | cons d rest ih =>
    cases hnext : start.add? d with
    | none => exact ⟨[], d, rest, start, rfl, rfl, hnext⟩
    | some next =>
      obtain ⟨hle, hnanos⟩ := add?_eq_some_iff.1 hnext
      rw [total_cons] at hover
      have hbeyond : longest.nanos < next.nanos + total rest := by omega
      obtain ⟨front, last, back, sum, rfl, hsum, hlast⟩ := ih (by omega) hbeyond
      refine ⟨d :: front, last, back, sum, rfl, ?_, hlast⟩
      rw [List.foldlM_cons, hnext]
      exact hsum

/-! ## Turns -/

/-- Where a reading stands: the sum so far, and what is left of the text. -/
structure Place where
  sum : Duration
  rest : List Char

/-- One turn of a reading: the first part of what is left is added to the sum so far. -/
inductive Turn (input : String) : Place → Place → Prop
  | add {sum d next : Duration} {rest : List Char}
      (hduration : (Part.split rest).1.duration input = .ok d) (hnext : sum.add? d = some next) :
      Turn input ⟨sum, rest⟩ ⟨next, (Part.split rest).2⟩

/-- Any number of turns. -/
abbrev Turns (input : String) : Place → Place → Prop := Relation.ReflTransGen (Turn input)

variable {input : String}

theorem isNumberChar_of_mem_split {rest : List Char} :
    ∀ c ∈ (Part.split rest).1.number, isNumberChar c = true :=
  fun _ hc => List.mem_takeWhile_imp hc

/-- A turn takes one amount off the text and adds it. -/
theorem turn_iff {sum next : Duration} {text rest : List Char} :
    Turn input ⟨sum, text⟩ ⟨next, rest⟩ ↔ ∃ (amount : Amount) (d : Duration),
      text = amount.text ++ rest ∧ Apart rest ∧ amount.duration? = some d ∧
        sum.add? d = some next := by
  constructor
  · rintro ⟨hduration, hnext⟩
    obtain ⟨amount, hpart, hd⟩ := (duration_eq_ok_iff isNumberChar_of_mem_split).1 hduration
    obtain ⟨htext, hapart⟩ := split_eq_iff.1 (Prod.ext hpart.symm rfl)
    exact ⟨amount, _, htext, hapart, hd, hnext⟩
  · rintro ⟨amount, d, htext, hapart, hd, hnext⟩
    have hsplit := split_eq_iff.2 ⟨htext, hapart⟩
    have hduration : (Part.split text).1.duration input = .ok d :=
      (duration_eq_ok_iff isNumberChar_of_mem_split).2 ⟨amount, by rw [hsplit], hd⟩
    have hrest : (Part.split text).2 = rest := by rw [hsplit]
    exact hrest ▸ .add hduration hnext

/-- Turns take amounts off the text and add them up. -/
theorem turns_iff {sum last : Duration} {text rest : List Char} :
    Turns input ⟨sum, text⟩ ⟨last, rest⟩ ↔ ∃ (amounts : List Amount) (durations : List Duration),
      text = written amounts ++ rest ∧ (amounts = [] ∨ Apart rest) ∧
        amounts.map Amount.duration? = durations.map some ∧
          durations.foldlM add? sum = some last := by
  constructor
  · intro h
    generalize hstart : Place.mk sum text = start at h
    generalize hstop : Place.mk last rest = stop at h
    induction h using Relation.ReflTransGen.head_induction_on generalizing sum text with
    | refl =>
      obtain ⟨rfl, rfl⟩ := Place.mk.inj (hstart.trans hstop.symm)
      exact ⟨[], [], rfl, .inl rfl, rfl, rfl⟩
    | head hturn _ ih =>
      subst hstart
      rename_i next _
      obtain ⟨amount, d, rfl, hapart, hd, hnext⟩ := turn_iff.1 hturn
      obtain ⟨amounts, durations, hrest, hlast, hfit, hsum⟩ := ih rfl
      refine ⟨amount :: amounts, d :: durations, ?_, .inr ?_, ?_, ?_⟩
      · rw [hrest, written_cons, List.append_assoc]
      · rcases hlast with rfl | hlast
        · rwa [hrest] at hapart
        · exact hlast
      · rw [List.map_cons, List.map_cons, hfit, hd]
      · rw [List.foldlM_cons, hnext]
        exact hsum
  · rintro ⟨amounts, durations, rfl, hapart, hfit, hsum⟩
    induction amounts generalizing sum durations with
    | nil =>
      obtain rfl : durations = [] := by simpa using hfit.symm
      obtain rfl := Option.some.inj hsum
      exact .refl
    | cons amount others ih =>
      obtain ⟨d, more, rfl⟩ : ∃ d more, durations = d :: more := by
        cases durations with
        | nil => simp at hfit
        | cons d more => exact ⟨d, more, rfl⟩
      obtain ⟨hd, hmore⟩ := List.cons.inj hfit
      rw [List.foldlM_cons, Option.bind_eq_bind, Option.bind_eq_some_iff] at hsum
      obtain ⟨next, hnext, hlater⟩ := hsum
      have hrest : Apart rest := hapart.resolve_left (by simp)
      have hturn : Turn input ⟨sum, written (amount :: others) ++ rest⟩
          ⟨next, written others ++ rest⟩ :=
        turn_iff.2 ⟨amount, d, by simp, apart_written_append others hrest, hd, hnext⟩
      exact .head hturn (ih more (.inr hrest) hmore hlater)

/-! ## The loop -/

/-- A part without a number has no duration. -/
theorem number_ne_nil_of_duration {part : Part} {d : Duration}
    (h : part.duration input = .ok d) : part.number ≠ [] := by
  intro hnil
  rw [Part.duration, if_pos (by rw [hnil]; rfl)] at h
  cases h

/-- Every turn shortens what is left, so that no reading goes on for ever. -/
theorem wellFounded_turn (input : String) :
    WellFounded fun later earlier => Turn input earlier later := by
  refine Subrelation.wf ?_ (measure fun place : Place => place.rest.length).wf
  rintro _ _ ⟨hduration, _⟩
  exact Part.length_split_lt (number_ne_nil_of_duration hduration)

/-- A reading whose first part has a duration goes on behind it, if the sum allows. -/
theorem sumParts_of_duration {sum d : Duration} {rest : List Char}
    (hduration : (Part.split rest).1.duration input = .ok d) : sumParts input sum rest
      = match sum.add? d with
        | none => .error .overflow
        | some next => sumParts input next (Part.split rest).2 := by
  have hnumber := number_ne_nil_of_duration hduration
  have hrest : rest.isEmpty = false := by
    cases rest with
    | nil => exact absurd rfl hnumber
    | cons => rfl
  rewrite [sumParts, hrest, if_neg (by decide), dif_neg hnumber, hduration]
  rfl

/-- A turn changes nothing about what a text is read as. -/
theorem sumParts_of_turn {place next : Place} (h : Turn input place next) :
    sumParts input place.sum place.rest = sumParts input next.sum next.rest := by
  obtain ⟨hduration, hnext⟩ := h
  rw [sumParts_of_duration hduration, hnext]

theorem sumParts_of_turns {place stop : Place} (h : Turns input place stop) :
    sumParts input place.sum place.rest = sumParts input stop.sum stop.rest := by
  induction h with
  | refl => rfl
  | tail _ hturn ih => rw [ih, sumParts_of_turn hturn]

/-- No part overflows by itself. -/
theorem duration_ne_overflow {part : Part} : part.duration input ≠ .error .overflow := by
  unfold Part.duration
  obtain ⟨convert, hconvert⟩ : ∃ convert, ofDecimal? = convert := ⟨_, rfl⟩
  rw [hconvert]
  split
  · simp
  · split
    · simp
    · split
      · split <;> simp
      · split <;> simp

/-- A text is read exactly if turns take all of it away. -/
theorem sumParts_eq_ok_iff {sum d : Duration} {text : List Char} :
    sumParts input sum text = .ok d ↔ Turns input ⟨sum, text⟩ ⟨d, []⟩ := by
  constructor
  · intro h
    fun_induction sumParts input sum text with
    | case1 sum rest hempty =>
      obtain rfl := Except.ok.inj h
      obtain rfl := List.isEmpty_iff.1 hempty
      exact .refl
    | case2 | case3 | case4 => cases h
    | case5 sum rest _ hnumber found hduration next hnext ih =>
      exact .head (.add hduration hnext) (ih h)
  · intro h
    rw [sumParts_of_turns h, sumParts]
    rfl

/-- The sum overflows exactly if turns lead to a part that fits by itself and cannot be added. -/
theorem sumParts_eq_overflow_iff {sum : Duration} {text : List Char} :
    sumParts input sum text = .error .overflow ↔ ∃ (last d : Duration) (rest : List Char),
      Turns input ⟨sum, text⟩ ⟨last, rest⟩ ∧ (Part.split rest).1.duration input = .ok d ∧
        last.add? d = none := by
  constructor
  · intro h
    fun_induction sumParts input sum text with
    | case1 | case2 => cases h
    | case3 sum rest _ _ cause hduration =>
      obtain rfl := Except.error.inj h
      exact absurd hduration duration_ne_overflow
    | case4 sum rest _ _ d hduration hnext => exact ⟨sum, d, rest, .refl, hduration, hnext⟩
    | case5 sum rest _ _ found hduration next hnext ih =>
      obtain ⟨last, d, behind, hturns, hrest⟩ := ih h
      exact ⟨last, d, behind, .head (.add hduration hnext) hturns, hrest⟩
  · rintro ⟨last, d, rest, hturns, hduration, hnext⟩
    rw [sumParts_of_turns hturns, sumParts_of_duration hduration, hnext]

/-! ## Whole texts -/

/-- The text is written as these amounts, which are as long as these durations, and the durations
can be added up to one that is not zero. -/
structure Denotes (text : List Char) (amounts : List Amount) (durations : List Duration) :
    Prop where
  amounts_ne : amounts ≠ []
  text_eq : text = written amounts
  fit : amounts.map Amount.duration? = durations.map some
  sums : ∀ count, total (durations.take count) ≤ longest.nanos
  positive : 0 < total durations

/-- The text begins with amounts that fit one by one and together are beyond the longest
duration. -/
def Overflows (text : List Char) : Prop :=
  ∃ (amounts : List Amount) (durations : List Duration) (rest : List Char),
    text = written amounts ++ rest ∧ Apart rest ∧
      amounts.map Amount.duration? = durations.map some ∧ longest.nanos < total durations

theorem zero_le_longest : zero.nanos ≤ longest.nanos := Nat.zero_le _

/-- A text of parts is read as their sum, if one after the other can be added. -/
theorem sumParts_zero_eq_ok_iff (input : String) {text : List Char} {d : Duration} :
    sumParts input zero text = .ok d ↔ ∃ amounts durations, text = written amounts ∧
      amounts.map Amount.duration? = durations.map some ∧
        (∀ count, total (durations.take count) ≤ longest.nanos) ∧ d.nanos = total durations := by
  have hzero : zero.nanos = 0 := rfl
  rw [sumParts_eq_ok_iff, turns_iff]
  simp only [foldlM_add?_eq_some_iff zero_le_longest, hzero, Nat.zero_add, List.append_nil,
    apart_nil, or_true, true_and]

theorem sumParts_zero_eq_overflow_iff (input : String) {text : List Char} :
    sumParts input zero text = .error .overflow ↔ Overflows text := by
  rw [sumParts_eq_overflow_iff]
  constructor
  · rintro ⟨last, d, rest, hturns, hduration, hnext⟩
    obtain ⟨amounts, durations, rfl, _, hfit, hsum⟩ := turns_iff.1 hturns
    obtain ⟨amount, hpart, hd⟩ := (duration_eq_ok_iff isNumberChar_of_mem_split).1 hduration
    obtain ⟨hrest, hapart⟩ := split_eq_iff.1 (Prod.ext hpart.symm rfl)
    obtain ⟨_, hlast⟩ := (foldlM_add?_eq_some_iff zero_le_longest).1 hsum
    have hover := add?_eq_none_iff.1 hnext
    have hzero : zero.nanos = 0 := rfl
    refine ⟨amounts ++ [amount], durations ++ [d], (Part.split rest).2, ?_, hapart, ?_, ?_⟩
    · rw [written_append, List.append_assoc, written_cons, written_nil, List.append_nil, ← hrest]
    · simp [hfit, hd]
    · rw [total_append, total_cons, total_nil]
      omega
  · rintro ⟨amounts, durations, rest, rfl, hapart, hfit, hover⟩
    obtain ⟨before, d, behind, last, rfl, hsum, hnext⟩ :=
      exists_add?_eq_none zero_le_longest (by rwa [show zero.nanos = 0 from rfl, Nat.zero_add])
    -- The amount that cannot be added is the one whose duration is `d`.
    rw [List.map_append, List.map_cons] at hfit
    obtain ⟨front, back, rfl, hfront, hback⟩ := List.map_eq_append_iff.1 hfit
    obtain ⟨amount, others, rfl, hd, _⟩ := List.map_eq_cons_iff.1 hback
    have hsplit : Part.split (written (amount :: others) ++ rest)
        = (amount.part, written others ++ rest) :=
      split_eq_iff.2 ⟨by simp, apart_written_append others hapart⟩
    refine ⟨last, d, written (amount :: others) ++ rest, turns_iff.2 ⟨front, before, ?_, .inr ?_,
      hfront, hsum⟩, ?_, hnext⟩
    · rw [written_append, List.append_assoc]
    · exact apart_written_append _ hapart
    · exact (duration_eq_ok_iff isNumberChar_of_mem_split).2 ⟨amount, by rw [hsplit], hd⟩

/-- Which texts are read as which durations. -/
theorem parse_eq_ok_iff {text : String} {d : Duration} : parse text = .ok d ↔
    ∃ amounts durations, Denotes (trim text.toList) amounts durations ∧
      d.nanos = total durations := by
  unfold parse
  generalize trim text.toList = input
  constructor
  · intro h
    dsimp only at h
    split at h
    · cases h
    · rename_i hinput
      split at h
      · cases h
      · rename_i sum hsum
        split at h
        · cases h
        · rename_i hpositive
          obtain rfl := Except.ok.inj h
          obtain ⟨amounts, durations, rfl, hfit, hsums, hd⟩ :=
            (sumParts_zero_eq_ok_iff _).1 hsum
          refine ⟨amounts, durations, ⟨?_, rfl, hfit, hsums, by omega⟩, hd⟩
          rintro rfl
          exact hinput rfl
  · rintro ⟨amounts, durations, ⟨hne, rfl, hfit, hsums, hpositive⟩, hd⟩
    have hinput : (written amounts).isEmpty = false := by
      cases amounts with
      | nil => exact absurd rfl hne
      | cons amount others =>
        rw [List.isEmpty_eq_false_iff, written_cons]
        exact List.append_ne_nil_of_left_ne_nil
          (List.append_ne_nil_of_left_ne_nil amount.number_ne_nil _) _
    have hsum := (sumParts_zero_eq_ok_iff (String.ofList (written amounts))).2
      ⟨amounts, durations, rfl, hfit, hsums, hd⟩
    dsimp only
    rw [hinput, if_neg (by decide), hsum]
    exact if_neg (by omega)

/-- Which texts overflow. -/
theorem parse_eq_overflow_iff {text : String} :
    parse text = .error .overflow ↔ Overflows (trim text.toList) := by
  unfold parse
  generalize trim text.toList = input
  rw [← sumParts_zero_eq_overflow_iff (String.ofList input)]
  dsimp only
  split
  · rename_i hinput
    rw [List.isEmpty_iff.1 hinput, sumParts]
    simp
  · split
    · rename_i cause hcause
      rw [hcause]
    · rename_i sum hsum
      rw [hsum]
      split <;> simp

/-! ## Texts one behind the other -/

theorem TimeUnit.isBlank_of_mem (unit : TimeUnit) : ∀ c ∈ unit.text, isBlank c = false := by
  have hall : (unit.text.all fun c => !isBlank c) = true := by cases unit <;> decide
  simpa using hall

/-- No amount holds a blank. -/
theorem isBlank_of_mem_text {amount : Amount} {c : Char} (h : c ∈ amount.text) :
    isBlank c = false := by
  rcases List.mem_append.1 h with hnumber | hunit
  · rcases amount.isNumber.chars c hnumber with hdigit | rfl
    · exact Numeral.isBlank_of_isDigit hdigit
    · decide
  · exact amount.unit.isBlank_of_mem c hunit

/-- Amounts have nothing to trim. -/
theorem trim_written (amounts : List Amount) : trim (written amounts) = written amounts := by
  have hblank : ∀ c ∈ written amounts, isBlank c = false := by
    intro c hc
    obtain ⟨amount, _, htext⟩ := List.mem_flatMap.1 hc
    exact isBlank_of_mem_text htext
  exact trim_eq_self (fun c hc => hblank c (List.mem_of_head? hc))
    fun c hc => hblank c (List.mem_of_getLast? hc)

/-- Texts one behind the other denote the sum of what they denote, if there is one. -/
theorem Denotes.append {text other : List Char} {amounts others : List Amount}
    {durations more : List Duration} (h : Denotes text amounts durations)
    (hother : Denotes other others more)
    (hle : total durations + total more ≤ longest.nanos) :
    Denotes (text ++ other) (amounts ++ others) (durations ++ more) where
  amounts_ne := List.append_ne_nil_of_left_ne_nil h.amounts_ne _
  text_eq := by rw [h.text_eq, hother.text_eq, written_append]
  fit := by rw [List.map_append, List.map_append, h.fit, hother.fit]
  sums count := by
    have htake := total_take_le (durations ++ more) count
    rw [total_append] at htake
    omega
  positive := by
    have hpositive := h.positive
    rw [total_append]
    omega

/-- What a text is read as.

A text is read as a duration exactly if, without the blanks around it, it is written as amounts
that fit one by one and can be added up one after the other to a sum that is not zero, and the
duration is this sum. No text is written as amounts in two ways, and no reading goes on for ever.
So two texts without blanks around them, one directly behind the other, are read as the sum of
what they are read as, if there is such a sum. -/
theorem denotes_of_parse :
    (∀ (text : String) (d : Duration), parse text = .ok d ↔
      ∃ amounts durations, Denotes (trim text.toList) amounts durations ∧
        d.nanos = total durations) ∧
    (∀ amounts others : List Amount, written amounts = written others → amounts = others) ∧
    (∀ input : String, WellFounded fun later earlier => Turn input earlier later) ∧
    ∀ (text other : String) (d e sum : Duration), parse text = .ok d → parse other = .ok e →
      trim text.toList = text.toList → trim other.toList = other.toList →
      d.add? e = some sum → parse (text ++ other) = .ok sum := by
  refine ⟨fun _ _ => parse_eq_ok_iff, fun _ _ => eq_of_written_eq, wellFounded_turn, ?_⟩
  intro text other d e sum htext hother htrim hotherTrim hsum
  obtain ⟨amounts, durations, hamounts, hd⟩ := parse_eq_ok_iff.1 htext
  obtain ⟨others, more, hothers, he⟩ := parse_eq_ok_iff.1 hother
  obtain ⟨hle, hnanos⟩ := add?_eq_some_iff.1 hsum
  rw [htrim] at hamounts
  rw [hotherTrim] at hothers
  have happend := hamounts.append hothers (by omega)
  refine parse_eq_ok_iff.2 ⟨amounts ++ others, durations ++ more, ?_, by rw [total_append]; omega⟩
  rw [String.toList_append, happend.text_eq, trim_written, ← happend.text_eq]
  exact happend

/-- The second text begins with a point, and the first one ends with a unit that goes on where the
text does not. -/
theorem denotes_of_parse_fractions :
    parse "1h2.m" = .ok (.ofSeconds 3720) ∧ parse ".5s7ms" = .ok (.ofMillis 507) ∧
      parse "1h2.m.5s7ms" = .ok (.ofMillis 3720507) := by
  obtain ⟨hread, _, _, hadds⟩ := denotes_of_parse
  have hfirst : parse "1h2.m" = .ok (.ofSeconds 3720) := by
    refine (hread _ _).2 ⟨[⟨['1'], .hour, by decide⟩,
      ⟨['2', '.'], .minute, by decide⟩], [.ofSeconds 3600, .ofSeconds 120],
      ⟨by simp, by decide +kernel, by decide +kernel, ?_, by decide⟩, by decide⟩
    intro count
    exact Nat.le_trans (total_take_le _ _) (by decide +kernel)
  have hsecond : parse ".5s7ms" = .ok (.ofMillis 507) := by
    refine (hread _ _).2 ⟨[⟨['.', '5'], .second, by decide⟩,
      ⟨['7'], .millisecond, by decide⟩], [.ofMillis 500, .ofMillis 7],
      ⟨by simp, by decide +kernel, by decide +kernel, ?_, by decide⟩, by decide⟩
    intro count
    exact Nat.le_trans (total_take_le _ _) (by decide +kernel)
  exact ⟨hfirst, hsecond, hadds "1h2.m" ".5s7ms" _ _ _ hfirst hsecond (by decide +kernel)
    (by decide +kernel) (by decide +kernel)⟩

end CatalogBridge.Duration
