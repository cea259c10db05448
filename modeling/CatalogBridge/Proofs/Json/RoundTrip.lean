import CatalogBridge.Json.Reader
import CatalogBridge.Json.Writer
import CatalogBridge.Proofs.Number.Decimal

/-!
# Documents read from their own text

A document that is written is read as what it was.  This holds of documents without
broken parts (`Plain`): their texts denote texts, and their numbers are whole.

* `readText_text` reads a text up to its closing quote, character by character
  (`readUnits_escapeChar`).
* `readMagnitude?_toString` reads a number up to what does not carry it on (`Ends`).
* `readItems_write` and `readFields_write` read what stands between brackets and braces
  if its parts are read; each is an induction on the parts behind the first one.
* `Plain.reads` puts these together by induction on the document, and `parse?_render`
  says it of whole texts.
-/

namespace CatalogBridge.Json

/-! ## Texts -/

theorem hexValue?_hexDigit : ∀ n < 16, hexValue? (hexDigit n) = some n := by decide

theorem unescape?_of_escapeLetter? {c letter : Char} (h : escapeLetter? c = some letter) :
    unescape? letter = some c ∧ letter ≠ 'u' := by
  unfold escapeLetter? at h
  split at h <;> cases h <;> decide

theorem ne_of_escapeLetter?_eq_none {c : Char} (h : escapeLetter? c = none) :
    c ≠ '"' ∧ c ≠ '\\' := by
  constructor <;> rintro rfl <;> cases h

theorem hexUnit?_eq_char {point : Nat} (h : point < 32) :
    hexUnit? '0' '0' (hexDigit (point / 16)) (hexDigit (point % 16))
      = some (.char (Char.ofNat point)) := by
  have hzero : hexValue? '0' = some 0 := by decide
  simp only [hexUnit?, hzero, hexValue?_hexDigit (point / 16) (by omega),
    hexValue?_hexDigit (point % 16) (by omega), Option.bind_eq_bind, Option.bind_some]
  rw [show ((0 * 16 + 0) * 16 + point / 16) * 16 + point % 16 = point by omega,
    if_neg (by simp; omega)]
  rfl

/-- A character is read from its escaped form. -/
theorem readUnits_escapeChar (c : Char) {rest after : List Char} {units : List TextUnit}
    (h : readUnits rest = some (units, after)) :
    readUnits (escapeChar c ++ rest) = some (.char c :: units, after) := by
  unfold escapeChar
  cases hletter : escapeLetter? c with
  | some letter =>
    obtain ⟨hunescape, hne⟩ := unescape?_of_escapeLetter? hletter
    -- No letter of an escape is the one that announces a unit in base sixteen.
    show readUnits ('\\' :: letter :: rest) = _
    rw [readUnits.eq_4 letter rest fun _ _ _ _ _ hu _ => hne hu, hunescape, h]
  | none =>
    obtain ⟨hquote, hslash⟩ := ne_of_escapeLetter?_eq_none hletter
    dsimp only
    split
    case isTrue hcontrol =>
      show readUnits ('\\' :: 'u' :: '0' :: '0' :: _ :: _ :: rest) = _
      rw [readUnits.eq_3, hexUnit?_eq_char hcontrol, h, Char.ofNat_toNat]
    case isFalse hplain =>
      have hkept : (decide (c.toNat < 32) || c == '\\') = false := by
        simp [hslash, Nat.not_lt.1 hplain]
      show readUnits (c :: rest) = _
      rw [readUnits.eq_5 c rest hquote (fun _ _ _ _ _ hc _ => hslash hc)
        (fun _ _ hc _ => hslash hc), hkept, h]
      rfl

theorem readUnits_text (text rest : List Char) :
    readUnits (text.flatMap escapeChar ++ '"' :: rest) = some (text.map .char, rest) := by
  induction text with
  | nil => exact readUnits.eq_2 rest
  | cons c others ih =>
    rw [List.flatMap_cons, List.append_assoc]
    exact readUnits_escapeChar c ih

theorem joinUnits_map_char (text : List Char) : joinUnits (text.map .char) = some text := by
  induction text with
  | nil => rfl
  | cons c rest ih => rw [List.map_cons, joinUnits, ih, Option.map_some]

/-- A text is read up to its closing quote. -/
theorem readText_text (text : String) (rest : List Char) :
    readText (text.toList.flatMap escapeChar ++ '"' :: rest) = some (some text, rest) := by
  rw [readText, readUnits_text]
  show some ((joinUnits (text.toList.map .char)).map String.ofList, rest) = _
  rw [joinUnits_map_char, Option.map_some, String.ofList_toList]

/-! ## Numbers -/

/-- What follows a number does not carry it on. -/
def Ends (rest : List Char) : Prop :=
  ∀ c, rest.head? = some c → Numeral.isDigit c = false ∧ c ≠ '.' ∧ c ≠ 'e' ∧ c ≠ 'E'

theorem ends_nil : Ends [] := by
  intro c hc
  cases hc

theorem readDigits?_toString (n : Nat) {rest : List Char} (h : Ends rest) :
    readDigits? ((toString n).toList ++ rest) = some ((toString n).toList, rest) := by
  have hdigits : ∀ c ∈ (toString n).toList, Numeral.isDigit c = true :=
    fun _ hc => Numeral.isDigit_of_mem_toString hc
  have hrest : rest.takeWhile Numeral.isDigit = [] ∧ rest.dropWhile Numeral.isDigit = rest := by
    cases rest with
    | nil => exact ⟨rfl, rfl⟩
    | cons c others =>
      have hc := (h c rfl).1
      exact ⟨by rw [List.takeWhile_cons, hc]; rfl, by rw [List.dropWhile_cons, hc]; rfl⟩
  have hsome : (toString n).toList.isEmpty = false :=
    List.isEmpty_eq_false_iff.2 (Numeral.toString_ne_nil n)
  rw [readDigits?, List.takeWhile_append_of_pos hdigits, List.dropWhile_append_of_pos hdigits,
    hrest.1, hrest.2, List.append_nil, hsome]
  rfl

theorem readWhole?_toString (n : Nat) {rest : List Char} (h : Ends rest) :
    readWhole? ((toString n).toList ++ rest) = some ((toString n).toList, rest) := by
  by_cases hn : n = 0
  · subst hn
    show readWhole? ('0' :: rest) = some (['0'], rest)
    cases rest with
    | nil => rfl
    | cons c others => rw [readWhole?.eq_1, (h c rfl).1]; rfl
  · rw [readWhole?.eq_3, readDigits?_toString n h]
    -- The reader stops behind a zero in front, and a positive number has none.
    intro others hothers
    obtain ⟨c, digits, hdigits⟩ := List.exists_cons_of_ne_nil (Numeral.toString_ne_nil n)
    rw [hdigits] at hothers
    obtain ⟨rfl, -⟩ := List.cons.inj hothers
    exact Numeral.head?_toString hn (by rw [hdigits]; rfl)

theorem readFraction?_of_ends {rest : List Char} (h : Ends rest) :
    readFraction? rest = some ([], rest) := by
  refine readFraction?.eq_2 rest fun others hothers => ?_
  exact (h '.' (by rw [hothers]; rfl)).2.1 rfl

theorem readExponent?_of_ends {rest : List Char} (h : Ends rest) :
    readExponent? rest = some ([], rest) := by
  cases rest with
  | nil => rfl
  | cons c others =>
    obtain ⟨-, -, hlower, hupper⟩ := h c rfl
    rw [readExponent?.eq_def]
    simp [hlower, hupper]

/-- A whole number is read from its digits, up to what does not carry it on. -/
theorem readMagnitude?_toString (negative : Bool) (n : Nat) {rest : List Char} (h : Ends rest) :
    readMagnitude? negative ((toString n).toList ++ rest)
      = some (.number (.whole negative n), rest) := by
  simp only [readMagnitude?, readWhole?_toString n h, readFraction?_of_ends h,
    readExponent?_of_ends h, Option.bind_eq_bind, Option.bind_some]
  rw [Numeral.value_toString]
  rfl

/-! ## Documents -/

/-- A document whose texts are texts and whose numbers are whole. -/
inductive Plain : Json → Prop where
  | null : Plain .null
  | bool (value : Bool) : Plain (.bool value)
  | whole (negative : Bool) (magnitude : Nat) : Plain (.number (.whole negative magnitude))
  | str (value : String) : Plain (.str value)
  | array {items : List Json} (plain : ∀ item ∈ items, Plain item) : Plain (.array items)
  | record {fields : List (String × Json)} (plain : ∀ field ∈ fields, Plain field.2) :
      Plain (.record fields)

/-- A document is read from its own text, up to what does not carry it on. The depth of the reader
is bounded by a measure that takes two steps for each character. -/
def Reads (document : Json) : Prop :=
  ∀ depth rest, 2 * document.write.length ≤ depth → Ends rest →
    readValue depth (document.write ++ rest) = some (document, rest)

theorem skip_cons {c : Char} (h : isSpace c = false) (rest : List Char) :
    skip (c :: rest) = c :: rest := by
  rw [skip, List.dropWhile_cons, h]
  rfl

theorem ends_cons {c : Char} (h : Numeral.isDigit c = false ∧ c ≠ '.' ∧ c ≠ 'e' ∧ c ≠ 'E')
    (rest : List Char) : Ends (c :: rest) := by
  intro d hd
  obtain rfl := Option.some.inj hd
  exact h

theorem isSpace_of_isDigit {c : Char} (h : Numeral.isDigit c = true) : isSpace c = false := by
  refine Bool.eq_false_iff.2 fun hspace => ?_
  simp only [isSpace, Bool.or_eq_true, beq_iff_eq] at hspace
  rcases hspace with ((rfl | rfl) | rfl) | rfl <;> exact absurd h (by decide)

/-- The fields of a record, as those of an object. -/
def named (fields : List (String × Json)) : List (Option String × Json) :=
  fields.map fun field => (some field.1, field.2)

theorem named_nil : named [] = [] := rfl

theorem named_cons (field : String × Json) (others : List (String × Json)) :
    named (field :: others) = (some field.1, field.2) :: named others := rfl

theorem record_eq (fields : List (String × Json)) : record fields = .object (named fields) := rfl

theorem record_injective {fields others : List (String × Json)}
    (h : record fields = record others) : fields = others := by
  refine (List.map_inj_right ?_).1 (Json.object.inj h)
  rintro ⟨name, value⟩ ⟨other, kept⟩ hsame
  obtain ⟨hname, hvalue⟩ := Prod.mk.inj hsame
  exact Prod.ext (Option.some.inj hname) hvalue

/-! What is plain, in the form in which documents are built. -/

@[simp] theorem plain_null : Plain .null := .null

@[simp] theorem plain_str (value : String) : Plain (.str value) := .str value

@[simp] theorem plain_int (value : Int) : Plain (.int value) := .whole _ _

@[simp] theorem plain_array_iff {items : List Json} :
    Plain (.array items) ↔ ∀ item ∈ items, Plain item := by
  refine ⟨fun h => ?_, .array⟩
  generalize hdocument : Json.array items = document at h
  cases h with
  | array plain => exact Json.array.inj hdocument ▸ plain
  | _ => cases hdocument

/-- The values of fields are plain. -/
def PlainFields (fields : List (String × Json)) : Prop := ∀ field ∈ fields, Plain field.2

@[simp] theorem plainFields_nil : PlainFields [] := fun _ hfield => nomatch hfield

@[simp] theorem plainFields_cons {name : String} {value : Json} {rest : List (String × Json)} :
    PlainFields ((name, value) :: rest) ↔ Plain value ∧ PlainFields rest :=
  List.forall_mem_cons

@[simp] theorem plainFields_append {front back : List (String × Json)} :
    PlainFields (front ++ back) ↔ PlainFields front ∧ PlainFields back :=
  List.forall_mem_append

@[simp] theorem plain_record_iff {fields : List (String × Json)} :
    Plain (.record fields) ↔ PlainFields fields := by
  refine ⟨fun h => ?_, .record⟩
  -- `record` is no constructor, so the fields are found behind an equation of documents.
  generalize hdocument : record fields = document at h
  cases h with
  | record plain => exact record_injective hdocument ▸ plain
  | _ => cases hdocument

/-- A document begins with a character that is no blank and closes no array. -/
theorem exists_head_write {document : Json} (h : Plain document) :
    ∃ c rest, document.write = c :: rest ∧ isSpace c = false ∧ c ≠ ']' := by
  cases h with
  | null => exact ⟨'n', _, by rw [write], by decide, by decide⟩
  | bool value =>
    cases value with
    | true => exact ⟨'t', _, by rw [write], by decide, by decide⟩
    | false => exact ⟨'f', _, by rw [write], by decide, by decide⟩
  | whole negative magnitude =>
    rw [write, writeNumber]
    cases negative with
    | true => exact ⟨'-', _, rfl, by decide, by decide⟩
    | false =>
      obtain ⟨c, digits, hdigits⟩ := List.exists_cons_of_ne_nil (Numeral.toString_ne_nil magnitude)
      have hc : Numeral.isDigit c = true :=
        Numeral.isDigit_of_mem_toString (hdigits ▸ List.mem_cons_self)
      refine ⟨c, digits, hdigits, ?_, ?_⟩
      · exact isSpace_of_isDigit hc
      · rintro rfl
        exact absurd hc (by decide)
  | str value => exact ⟨'"', _, by rw [str, write, writeText]; rfl, by decide, by decide⟩
  | @array items _ =>
    cases items with
    | nil => exact ⟨'[', _, by rw [write], by decide, by decide⟩
    | cons item others => exact ⟨'[', _, by rw [write]; rfl, by decide, by decide⟩
  | @record fields _ =>
    cases fields with
    | nil => exact ⟨'\x7b', _, by rw [record_eq, named_nil, write], by decide, by decide⟩
    | cons field others =>
      exact ⟨'\x7b', _, by rw [record_eq, named_cons, write]; rfl, by decide, by decide⟩

theorem readItems_last {depth : Nat} {input after : List Char} {item : Json}
    (hitem : readValue depth input = some (item, ']' :: after)) :
    readItems (depth + 1) input = some ([item], after) := by
  have hspace : isSpace ']' = false := by decide
  simp only [readItems.eq_2, hitem, skip_cons hspace]

theorem readItems_more {depth : Nat} {input rest after : List Char} {item : Json}
    {items : List Json} (hitem : readValue depth input = some (item, ',' :: rest))
    (hrest : readItems depth rest = some (items, after)) :
    readItems (depth + 1) input = some (item :: items, after) := by
  have hspace : isSpace ',' = false := by decide
  simp only [readItems.eq_2, hitem, skip_cons hspace, hrest, Option.map_some]

/-- Items are read from their own text. -/
theorem readItems_write {item : Json} {others : List Json} (hitem : Reads item)
    (hothers : ∀ other ∈ others, Reads other) {depth : Nat} {rest : List Char}
    (hdepth : 2 * (item.write ++ writeItems others).length ≤ depth) :
    readItems depth (item.write ++ writeItems others ++ rest) = some (item :: others, rest) := by
  induction others generalizing item depth with
  | nil =>
    rw [writeItems, List.length_append, List.length_singleton] at hdepth
    cases depth with
    | zero => omega
    | succ depth =>
      rw [writeItems, List.append_assoc]
      exact readItems_last (hitem depth _ (by omega) (ends_cons (by decide) rest))
  | cons next others ih =>
    rw [writeItems, List.cons_append, List.length_append, List.length_cons] at hdepth
    cases depth with
    | zero => omega
    | succ depth =>
      rw [writeItems, List.append_assoc]
      refine readItems_more (hitem depth _ (by omega) (ends_cons (by decide) _)) ?_
      exact ih (hothers next List.mem_cons_self)
        (fun other hother => hothers other (List.mem_cons_of_mem next hother)) (by omega)

theorem readValue_items {depth : Nat} {c : Char} {inside after : List Char} {items : List Json}
    (hspace : isSpace c = false) (hclose : c ≠ ']')
    (hitems : readItems depth (c :: inside) = some (items, after)) :
    readValue (depth + 1) ('[' :: c :: inside) = some (.array items, after) := by
  have hopen : isSpace '[' = false := by decide
  simp only [readValue.eq_2, skip_cons hopen, skip_cons hspace]
  split
  case h_1 hsame => exact absurd (List.cons.inj hsame).1 hclose
  case h_2 => rw [hitems, Option.map_some]

theorem readValue_fields {depth : Nat} {inside after : List Char}
    {fields : List (Option String × Json)}
    (hfields : readFields depth ('"' :: inside) = some (fields, after)) :
    readValue (depth + 1) ('\x7b' :: '"' :: inside) = some (.object fields, after) := by
  have hopen : isSpace '\x7b' = false := by decide
  have hquote : isSpace '"' = false := by decide
  simp only [readValue.eq_2, skip_cons hopen, skip_cons hquote]
  exact congrArg (Option.map _) hfields

theorem readFields_last {depth : Nat} {input middle after : List Char} {name : Option String}
    {value : Json} (hname : readText input = some (name, ':' :: middle))
    (hvalue : readValue depth middle = some (value, '\x7d' :: after)) :
    readFields (depth + 1) ('"' :: input) = some ([(name, value)], after) := by
  have hquote : isSpace '"' = false := by decide
  have hcolon : isSpace ':' = false := by decide
  have hclose : isSpace '\x7d' = false := by decide
  simp only [readFields.eq_2, skip_cons hquote, hname, skip_cons hcolon, hvalue, skip_cons hclose]

theorem readFields_more {depth : Nat} {input middle rest after : List Char} {name : Option String}
    {value : Json} {fields : List (Option String × Json)}
    (hname : readText input = some (name, ':' :: middle))
    (hvalue : readValue depth middle = some (value, ',' :: rest))
    (hrest : readFields depth rest = some (fields, after)) :
    readFields (depth + 1) ('"' :: input) = some ((name, value) :: fields, after) := by
  have hquote : isSpace '"' = false := by decide
  have hcolon : isSpace ':' = false := by decide
  have hcomma : isSpace ',' = false := by decide
  simp only [readFields.eq_2, skip_cons hquote, hname, skip_cons hcolon, hvalue, skip_cons hcomma,
    hrest, Option.map_some]

theorem writeText_append (text back : List Char) :
    writeText text ++ back = '"' :: (text.flatMap escapeChar ++ '"' :: back) := by
  rw [writeText, List.append_assoc, List.cons_append]
  rfl

/-- Fields are read from their own text. -/
theorem readFields_write {name : String} {value : Json} {others : List (String × Json)}
    (hvalue : Reads value) (hothers : ∀ other ∈ others, Reads other.2) {depth : Nat}
    {rest : List Char}
    (hdepth : 2 * (value.write ++ writeFields (named others)).length ≤ depth) :
    readFields depth
        (writeText name.toList ++ (':' :: (value.write ++ (writeFields (named others) ++ rest))))
      = some (named ((name, value) :: others), rest) := by
  induction others generalizing name value depth with
  | nil =>
    rw [named_nil, writeFields, List.length_append, List.length_singleton] at hdepth
    cases depth with
    | zero => omega
    | succ depth =>
      rw [named_nil, writeFields, writeText_append]
      exact readFields_last (readText_text name _)
        (hvalue depth _ (by omega) (ends_cons (by decide) rest))
  | cons next others ih =>
    rw [named_cons next, writeFields] at hdepth ⊢
    simp only [List.length_append, List.length_cons, List.cons_append] at hdepth
    cases depth with
    | zero => omega
    | succ depth =>
      simp only [List.cons_append, List.append_assoc, Option.getD_some]
      rw [writeText_append]
      refine readFields_more (readText_text name _)
        (hvalue depth _ (by omega) (ends_cons (by decide) _)) (ih (hothers next List.mem_cons_self)
        (fun other hother => hothers other (List.mem_cons_of_mem next hother)) ?_)
      rw [List.length_append]
      omega

theorem readValue_digit {c : Char} (h : Numeral.isDigit c = true) (depth : Nat)
    (rest : List Char) : readValue (depth + 1) (c :: rest) = readMagnitude? false (c :: rest) := by
  simp only [readValue.eq_2, skip_cons (isSpace_of_isDigit h)]
  split
  case h_8 hsame =>
    obtain ⟨rfl, rfl⟩ := List.cons.inj hsame
    rw [if_pos h]
  case h_9 hsame => cases hsame
  all_goals
    rename_i hsame
    obtain ⟨rfl, -⟩ := List.cons.inj hsame
    exact absurd h (by decide)

theorem reads_of_succ {document : Json} (hplain : Plain document)
    (h : ∀ depth rest, 2 * document.write.length ≤ depth + 1 → Ends rest →
      readValue (depth + 1) (document.write ++ rest) = some (document, rest)) :
    Reads document := by
  intro depth rest hdepth hrest
  obtain ⟨c, others, hwrite, -⟩ := exists_head_write hplain
  cases depth with
  | zero =>
    rw [hwrite, List.length_cons] at hdepth
    omega
  | succ depth => exact h depth rest hdepth hrest

theorem reads_whole (negative : Bool) (magnitude : Nat) :
    Reads (.number (.whole negative magnitude)) := by
  refine reads_of_succ (.whole negative magnitude) fun depth rest _ hrest => ?_
  cases negative with
  | true =>
    rw [write, writeNumber, if_pos rfl, List.append_assoc, List.singleton_append]
    have hspace : isSpace '-' = false := by decide
    simp only [readValue.eq_2, skip_cons hspace]
    exact readMagnitude?_toString true magnitude hrest
  | false =>
    obtain ⟨c, digits, hdigits⟩ := List.exists_cons_of_ne_nil (Numeral.toString_ne_nil magnitude)
    have hc : Numeral.isDigit c = true :=
      Numeral.isDigit_of_mem_toString (hdigits ▸ List.mem_cons_self)
    rw [write, writeNumber, if_neg Bool.false_ne_true, List.nil_append, hdigits, List.cons_append,
      readValue_digit hc, ← List.cons_append, ← hdigits]
    exact readMagnitude?_toString false magnitude hrest

theorem reads_str (value : String) : Reads (.str value) := by
  refine reads_of_succ (.str value) fun depth rest _ _ => ?_
  have hspace : isSpace '"' = false := by decide
  rw [str, write, writeText_append]
  simp only [readValue.eq_2, skip_cons hspace, readText_text, Option.map_some]

theorem reads_array {items : List Json} (hplain : ∀ item ∈ items, Plain item)
    (h : ∀ item ∈ items, Reads item) : Reads (.array items) := by
  refine reads_of_succ (.array hplain) fun depth rest hdepth _ => ?_
  cases items with
  | nil =>
    rw [write]
    rfl
  | cons item others =>
    rw [write, List.cons_append] at hdepth ⊢
    rw [List.length_cons] at hdepth
    have hitems : readItems depth (item.write ++ writeItems others ++ rest)
        = some (item :: others, rest) :=
      readItems_write (h item List.mem_cons_self)
        (fun other hother => h other (List.mem_cons_of_mem item hother)) (by omega)
    -- The bracket is followed by an item, which the reader tells by its first character.
    obtain ⟨c, inside, hwrite, hspace, hclose⟩ :=
      exists_head_write (hplain item List.mem_cons_self)
    rw [hwrite] at hitems ⊢
    exact readValue_items hspace hclose hitems

theorem reads_record {fields : List (String × Json)} (hplain : ∀ field ∈ fields, Plain field.2)
    (h : ∀ field ∈ fields, Reads field.2) : Reads (.record fields) := by
  refine reads_of_succ (.record hplain) fun depth rest hdepth _ => ?_
  cases fields with
  | nil =>
    rw [record_eq, named_nil, write]
    rfl
  | cons field others =>
    rw [record_eq, named_cons, write] at hdepth ⊢
    simp only [List.length_append, List.length_cons, List.cons_append, List.append_assoc,
      Option.getD_some] at hdepth ⊢
    have hfields : readFields depth (writeText field.1.toList
          ++ (':' :: (field.2.write ++ (writeFields (named others) ++ rest))))
        = some (named (field :: others), rest) :=
      readFields_write (h field List.mem_cons_self)
        (fun other hother => h other (List.mem_cons_of_mem field hother))
        (by rw [List.length_append]; omega)
    rw [writeText_append] at hfields ⊢
    exact readValue_fields hfields

/-- Every document without broken parts is read from its own text. -/
theorem Plain.reads {document : Json} (h : Plain document) : Reads document := by
  induction h with
  | null =>
    refine reads_of_succ .null fun depth rest _ _ => ?_
    rw [write]
    rfl
  | bool value =>
    refine reads_of_succ (.bool value) fun depth rest _ _ => ?_
    cases value <;> rw [write] <;> rfl
  | whole negative magnitude => exact reads_whole negative magnitude
  | str value => exact reads_str value
  | array plain ih => exact reads_array plain ih
  | record plain ih => exact reads_record plain ih

/-- What is written is parsed as what it was. -/
theorem parse?_render {document : Json} (h : Plain document) :
    parse? document.render = some document := by
  have hread := h.reads (2 * document.render.length + 2) [] (by
    rw [render, String.length_ofList]; omega) ends_nil
  rw [List.append_nil] at hread
  rw [parse?, render, String.toList_ofList]
  rw [render] at hread
  rw [hread]
  rfl

end CatalogBridge.Json
