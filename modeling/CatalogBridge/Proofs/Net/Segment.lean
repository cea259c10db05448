import CatalogBridge.Net.Url

/-!
# Segments of a path

What becomes of a text that is added to a path as one segment.

* `Percent.mem_of_mem_encode` says that encoding brings no slash into a text, and
  `Url.slashFree_of_parse` that therefore no segment of an address that was read
  holds one. So the text of a path shows where its segments end.
* `Url.decodeDots_encode` says that an encoded segment has no encoded dots, so it
  stands for a place in the path only if the text itself does.
* `Url.spells_pushSegment_iff` puts this together: adding a text to a path adds
  exactly one segment that spells the text, unless the text is `.` or `..` or
  holds a tab or the end of a line.
* `Url.renderPath_basePath` says that texts are added behind the path without the
  slash at its end, unless that path is two slashes.
-/

namespace CatalogBridge

namespace Utf8

/-- Characters beyond ASCII have no octets of ASCII. -/
theorem le_of_mem_encodeChar {c : Char} (hc : 128 ≤ c.toNat) :
    ∀ octet ∈ encodeChar c, 128 ≤ octet.toNat := by
  have hbound : c.toNat < 0x110000 := by
    rcases c.valid with hlow | ⟨_, hhigh⟩
    · exact Nat.lt_trans hlow (by decide)
    · exact hhigh
  have hoctet : ∀ n, 128 ≤ n → n < 256 → 128 ≤ (UInt8.ofNat n).toNat := by
    intro n hlow hhigh
    rw [toNat_ofNat hhigh]
    exact hlow
  unfold encodeChar
  generalize c.toNat = point at hc hbound
  dsimp only
  rw [if_neg (by omega)]
  split
  case isTrue =>
    simp only [List.forall_mem_cons, List.not_mem_nil, false_implies, implies_true, and_true]
    exact ⟨hoctet _ (by omega) (by omega), hoctet _ (by omega) (by omega)⟩
  case isFalse =>
    split
    case isTrue =>
      simp only [List.forall_mem_cons, List.not_mem_nil, false_implies, implies_true, and_true]
      exact ⟨hoctet _ (by omega) (by omega), hoctet _ (by omega) (by omega),
        hoctet _ (by omega) (by omega)⟩
    case isFalse =>
      simp only [List.forall_mem_cons, List.not_mem_nil, false_implies, implies_true, and_true]
      exact ⟨hoctet _ (by omega) (by omega), hoctet _ (by omega) (by omega),
        hoctet _ (by omega) (by omega), hoctet _ (by omega) (by omega)⟩

/-- An octet of ASCII belongs to the character that it stands for and to no other. -/
theorem toNat_of_mem_encodeChar {c : Char} {octet : UInt8} (hascii : octet.toNat < 128)
    (h : octet ∈ encodeChar c) : c.toNat = octet.toNat := by
  have hc : c.toNat < 128 := by
    refine Nat.lt_of_not_le fun hc => ?_
    have hoctet := le_of_mem_encodeChar hc octet h
    omega
  have hencode : encodeChar c = [UInt8.ofNat c.toNat] := if_pos hc
  rw [hencode, List.mem_singleton] at h
  rw [h, toNat_ofNat (by omega)]

end Utf8

namespace Percent

theorem hexDigit_ne_slash : ∀ n < 16, hexDigit n ≠ '/' := by decide

/-- A slash in an encoded text is one of the text that is kept. -/
theorem slash_of_mem_encode {keeps : Keeps} {text : List Char} (h : '/' ∈ encode keeps text) :
    keeps '/' = true ∧ '/' ∈ text := by
  obtain ⟨octet, hoctet, hmem⟩ := List.mem_flatMap.1 h
  have hlt : octet.toNat < 256 := octet.toNat_lt
  unfold encodeOctet at hmem
  split at hmem
  case isTrue hkept =>
    simp only [Bool.and_eq_true, decide_eq_true_eq] at hkept
    obtain ⟨hascii, hkept⟩ := hkept
    obtain hslash : '/' = Char.ofNat octet.toNat := List.mem_singleton.1 hmem
    obtain ⟨c, hc, hof⟩ := List.mem_flatMap.1 hoctet
    have hsame : c = '/' := by
      rw [hslash, ← Utf8.toNat_of_mem_encodeChar hascii hof, Char.ofNat_toNat]
    rw [← hslash] at hkept
    exact ⟨hkept, hsame ▸ hc⟩
  case isFalse =>
    simp only [escape, List.mem_cons, List.not_mem_nil, or_false] at hmem
    rcases hmem with hpercent | hhigh | hlow
    · exact absurd hpercent (by decide)
    · exact absurd hhigh.symm (hexDigit_ne_slash _ (by omega))
    · exact absurd hlow.symm (hexDigit_ne_slash _ (by omega))

end Percent

namespace Url

/-! ## Segments without slashes -/

/-- No segment of the path holds a slash. -/
def SlashFree (path : List String) : Prop := ∀ segment ∈ path, '/' ∉ segment.toList

instance (path : List String) : Decidable (SlashFree path) :=
  inferInstanceAs (Decidable (∀ segment ∈ path, '/' ∉ segment.toList))

theorem slashFree_nil : SlashFree [] := by
  intro segment hsegment
  cases hsegment

theorem SlashFree.concat {path : List String} (h : SlashFree path) {segment : String}
    (hsegment : '/' ∉ segment.toList) : SlashFree (path ++ [segment]) := by
  intro other hother
  rcases List.mem_append.1 hother with hpath | hlast
  · exact h other hpath
  · rw [List.mem_singleton.1 hlast]
    exact hsegment

theorem SlashFree.dropLast {path : List String} (h : SlashFree path) : SlashFree path.dropLast :=
  fun segment hsegment => h segment (List.dropLast_subset path hsegment)

theorem SlashFree.addLast {path : List String} (h : SlashFree path) {segment : List Char}
    (hsegment : '/' ∉ segment) : SlashFree (addLast path segment) := by
  unfold Url.addLast
  split
  · exact h.dropLast.concat (by simp)
  · split
    · exact h.concat (by simp)
    · exact h.concat (by simpa using hsegment)

theorem SlashFree.addAll {path : List String} (h : SlashFree path) {segments : List (List Char)}
    (hsegments : ∀ segment ∈ segments, '/' ∉ segment) : SlashFree (addAll path segments) := by
  induction segments generalizing path with
  | nil => exact h
  | cons segment rest ih =>
    obtain ⟨hfirst, hrest⟩ := List.forall_mem_cons.1 hsegments
    cases rest with
    | nil => exact h.addLast hfirst
    | cons next others =>
      unfold Url.addAll
      split
      · exact ih h.dropLast hrest
      · split
        · exact ih h hrest
        · exact ih (h.concat (by simpa using hfirst)) hrest

/-- The pieces of a text between slashes hold none. -/
theorem not_slash_of_mem_split (special : Bool) (text : List Char) :
    ∀ piece ∈ split special text, '/' ∉ piece := by
  induction text with
  | nil => simp [split]
  | cons c rest ih =>
    unfold split
    split
    case isTrue => exact List.forall_mem_cons.2 ⟨List.not_mem_nil, ih⟩
    case isFalse hslash =>
      have hc : c ≠ '/' := by
        rintro rfl
        exact hslash rfl
      split
      case h_1 piece others hsplit =>
        rw [hsplit] at ih
        obtain ⟨hpiece, hothers⟩ := List.forall_mem_cons.1 ih
        refine List.forall_mem_cons.2 ⟨?_, hothers⟩
        intro hmem
        rcases List.mem_cons.1 hmem with hsame | hlater
        · exact hc hsame.symm
        · exact hpiece hlater
      case h_2 => simpa using hc.symm

theorem slashFree_parsePath (special : Bool) (text : List Char) :
    SlashFree (parsePath special text) := by
  have hsegments : ∀ text, ∀ segment ∈ parsePath.segmentsOf special text, '/' ∉ segment := by
    intro text segment hsegment hslash
    obtain ⟨piece, hpiece, rfl⟩ := List.mem_map.1 hsegment
    exact not_slash_of_mem_split special text piece hpiece (Percent.slash_of_mem_encode hslash).2
  unfold parsePath
  split
  · split
    · exact slashFree_nil.addAll (hsegments _)
    · exact slashFree_nil.addAll (hsegments _)
  · split
    · simp [SlashFree]
    · exact slashFree_nil

/-- The path of the address is a text, or none of its segments holds a slash. -/
def PathSlashFree (url : Url) : Prop := ∀ path, url.path = .segments path → SlashFree path

theorem pathSlashFree_parsePath {url : Url} {special : Bool} {text : List Char}
    (h : url.path = .segments (parsePath special text)) : url.PathSlashFree := by
  intro path hpath
  obtain rfl : parsePath special text = path := UrlPath.segments.inj (h.symm.trans hpath)
  exact slashFree_parsePath special text

theorem pathSlashFree_withAuthority {scheme : String} {text : List Char} {url : Url}
    (h : withAuthority scheme text = .ok url) : url.PathSlashFree := by
  unfold withAuthority at h
  cases hauthority : authority scheme
      (upTo (fun c => isSlash (isSpecial scheme) c || c = '?' || c = '#') text).1
      (upTo (fun c => isSlash (isSpecial scheme) c || c = '?' || c = '#') text).2 with
  | error error => simp [hauthority, bind, Except.bind] at h
  | ok found =>
    simp only [hauthority, bind, Except.bind, pure, Except.pure, Except.ok.injEq] at h
    subst h
    exact pathSlashFree_parsePath rfl

theorem pathSlashFree_ofFile {text : List Char} {url : Url} (h : ofFile text = .ok url) :
    url.PathSlashFree := by
  unfold ofFile at h
  simp only [bind, Except.bind, pure, Except.pure] at h
  split at h
  · cases h
  · rw [Except.ok.injEq] at h
    subst h
    exact pathSlashFree_parsePath rfl

theorem pathSlashFree_ofPlain {scheme : String} {text : List Char} {url : Url}
    (h : ofPlain scheme text = .ok url) : url.PathSlashFree := by
  unfold ofPlain at h
  dsimp only at h
  split at h
  · exact pathSlashFree_withAuthority h
  · rw [Except.ok.injEq] at h
    subst h
    exact pathSlashFree_parsePath rfl
  · rw [Except.ok.injEq] at h
    subst h
    intro path hpath
    cases hpath

/-- No segment of an address that was read holds a slash. -/
theorem slashFree_of_parse {text : String} {url : Url} (h : parse text = .ok url) :
    url.PathSlashFree := by
  unfold parse at h
  split at h
  · cases h
  · split at h
    · exact pathSlashFree_ofFile h
    · split at h
      · exact pathSlashFree_withAuthority h
      · exact pathSlashFree_ofPlain h

/-! ## Dots -/

theorem decodeDots_cons_of_ne {c : Char} (h : c ≠ '%') (rest : List Char) :
    decodeDots (c :: rest) = c :: decodeDots rest := by
  rw [decodeDots.eq_def]
  split <;> simp_all

/-- A percent sign in front of other digits than those of a dot stays. -/
theorem decodeDots_percent {first second : Char}
    (h : ¬ (first = '2' ∧ (second = 'e' ∨ second = 'E'))) (rest : List Char) :
    decodeDots ('%' :: first :: second :: rest) = '%' :: decodeDots (first :: second :: rest) := by
  rw [decodeDots.eq_def]
  split
  case h_3 heq =>
    obtain ⟨rfl, rfl⟩ := List.cons.inj heq
    rfl
  all_goals simp_all

theorem hexDigit_ne_percent : ∀ n < 16, Percent.hexDigit n ≠ '%' := by decide

/-- The digits of a dot are those of no other octet. -/
theorem hexDigits_ne_dot : ∀ n < 256, n ≠ 46 → ¬ (Percent.hexDigit (n / 16) = '2' ∧
    (Percent.hexDigit (n % 16) = 'e' ∨ Percent.hexDigit (n % 16) = 'E')) := by
  decide +kernel

/-- An escape of anything but a dot is no encoded dot. -/
theorem decodeDots_escape {octet : UInt8} (h : octet.toNat ≠ 46) (rest : List Char) :
    decodeDots (Percent.escape octet ++ rest) = Percent.escape octet ++ decodeDots rest := by
  have hlt : octet.toNat < 256 := octet.toNat_lt
  have hfirst := hexDigit_ne_percent (octet.toNat / 16) (by omega)
  have hsecond := hexDigit_ne_percent (octet.toNat % 16) (by omega)
  show decodeDots ('%' :: Percent.hexDigit (octet.toNat / 16) ::
    Percent.hexDigit (octet.toNat % 16) :: rest) = _
  rw [decodeDots_percent (hexDigits_ne_dot octet.toNat hlt h), decodeDots_cons_of_ne hfirst,
    decodeDots_cons_of_ne hsecond]
  rfl

/-- An encoded text has no encoded dots, if dots are kept. -/
theorem decodeDots_encodeOctets {keeps : Percent.Keeps} (hdot : keeps '.' = true)
    (hpercent : keeps '%' = false) (octets : List UInt8) :
    decodeDots (Percent.encodeOctets keeps octets) = Percent.encodeOctets keeps octets := by
  induction octets with
  | nil => rfl
  | cons octet rest ih =>
    have hcons : Percent.encodeOctets keeps (octet :: rest)
        = Percent.encodeOctet keeps octet ++ Percent.encodeOctets keeps rest := List.flatMap_cons
    rw [hcons]
    unfold Percent.encodeOctet
    split
    case isTrue hkept =>
      simp only [Bool.and_eq_true, decide_eq_true_eq] at hkept
      have hne : Char.ofNat octet.toNat ≠ '%' := by
        intro heq
        rw [heq, hpercent] at hkept
        exact Bool.false_ne_true hkept.2
      rw [List.cons_append, List.nil_append, decodeDots_cons_of_ne hne, ih]
    case isFalse hescaped =>
      have hother : octet.toNat ≠ 46 := by
        intro heq
        exact hescaped (by simp [heq, show Char.ofNat 46 = '.' from rfl, hdot])
      rw [decodeDots_escape hother, ih]

variable (special : Bool)

theorem decodeDots_encode (text : List Char) :
    decodeDots (Percent.encode (Percent.segment special) text)
      = Percent.encode (Percent.segment special) text :=
  decodeDots_encodeOctets (by cases special <;> rfl) (by cases special <;> rfl) _

/-- Decoding a segment gives the text back that was encoded. -/
theorem decode_encode_segment (text : List Char) :
    Percent.decode (Percent.encode (Percent.segment special) text) = text :=
  Percent.decode_encode (by cases special <;> rfl) text

/-- An encoded text stands for a place in the path only if it is the dots of that place. -/
theorem decodeDots_encode_iff {dots : List Char} (hdots : dots = ['.'] ∨ dots = ['.', '.'])
    (text : List Char) :
    decodeDots (Percent.encode (Percent.segment special) text) = dots ↔ text = dots := by
  rw [decodeDots_encode]
  have hdecode : Percent.decode dots = dots := by
    rcases hdots with rfl | rfl <;> rfl
  have hencode : Percent.encode (Percent.segment special) dots = dots := by
    rcases hdots with rfl | rfl <;> cases special <;> rfl
  constructor
  · intro hsame
    rw [← decode_encode_segment special text, hsame, hdecode]
  · rintro rfl
    exact hencode

theorem isHere_encode (text : List Char) :
    isHere (Percent.encode (Percent.segment special) text) = true ↔ text = ['.'] := by
  rw [isHere, decide_eq_true_iff, decodeDots_encode_iff special (Or.inl rfl)]

theorem isAbove_encode (text : List Char) :
    isAbove (Percent.encode (Percent.segment special) text) = true ↔ text = ['.', '.'] := by
  rw [isAbove, decide_eq_true_iff, decodeDots_encode_iff special (Or.inr rfl)]

/-! ## Added segments -/

theorem toList_renderPath (path : List String) :
    (renderPath path).toList = path.flatMap fun segment => '/' :: segment.toList := by
  rw [renderPath, String.toList_join, List.flatMap_map]
  refine congrArg (List.flatMap · path) (funext fun segment => ?_)
  rw [String.toList_append]
  rfl

/-- A segment stands behind the rest of a path and a slash. -/
theorem toList_renderPath_concat (path : List String) (segment : String) :
    (renderPath (path ++ [segment])).toList
      = (renderPath path).toList ++ '/' :: segment.toList := by
  rw [toList_renderPath, toList_renderPath, List.flatMap_append, List.flatMap_singleton]

theorem length_renderPath_dropLast_le (path : List String) :
    (renderPath path.dropLast).toList.length ≤ (renderPath path).toList.length := by
  rcases List.eq_nil_or_concat path with rfl | ⟨front, last, rfl⟩
  · exact Nat.le_refl _
  · rw [List.concat_eq_append, List.dropLast_concat, toList_renderPath_concat, List.length_append]
    omega

/-- The text can be a segment of a path: it is not `.` or `..` and holds nothing that addresses
pass over. -/
def Plain (text : String) : Prop :=
  text ≠ "." ∧ text ≠ ".." ∧ ∀ c ∈ text.toList, isLayout c = false

instance (text : String) : Decidable (Plain text) :=
  have : Decidable (∀ c ∈ text.toList, isLayout c = false) := List.decidableBAll _ _
  inferInstanceAs (Decidable (_ ∧ _ ∧ _))

/-- The path with the text added is the path with one segment more, which spells the text. -/
def Spells (before after : List String) (text : String) : Prop :=
  ∃ segment : List Char, '/' ∉ segment ∧ Percent.decode segment = text.toList ∧
    (renderPath after).toList = (renderPath before).toList ++ '/' :: segment

variable {path : List String} {text : String}

theorem pushSegment_eq (hpath : path ≠ [""]) (hhere : text ≠ ".") (habove : text ≠ "..") :
    pushSegment special path text = addLast path
      (Percent.encode (Percent.segment special) (text.toList.filter (!isLayout ·))) := by
  rw [pushSegment, if_neg (by simp [hhere, habove]), if_neg hpath]

theorem pushSegment_of_plain (hpath : path ≠ [""]) (h : Plain text) :
    pushSegment special path text
      = path ++ [String.ofList (Percent.encode (Percent.segment special) text.toList)] := by
  obtain ⟨hhere, habove, hlayout⟩ := h
  have hfilter : text.toList.filter (!isLayout ·) = text.toList :=
    List.filter_eq_self.2 fun c hc => by simp [hlayout c hc]
  have hnotHere : text.toList ≠ ['.'] := fun heq => hhere (String.toList_inj.1 heq)
  have hnotAbove : text.toList ≠ ['.', '.'] := fun heq => habove (String.toList_inj.1 heq)
  rw [pushSegment_eq special hpath hhere habove, hfilter, addLast,
    if_neg (mt (isAbove_encode special _).1 hnotAbove),
    if_neg (mt (isHere_encode special _).1 hnotHere)]

theorem spells_pushSegment (hpath : path ≠ [""]) (h : Plain text) :
    Spells path (pushSegment special path text) text := by
  refine ⟨Percent.encode (Percent.segment special) text.toList, ?_,
    decode_encode_segment special _, ?_⟩
  · intro hslash
    have hkept := (Percent.slash_of_mem_encode hslash).1
    cases special <;> exact absurd hkept (by decide)
  · rw [pushSegment_of_plain special hpath h, toList_renderPath_concat, String.toList_ofList]

theorem pushSegment_dots {text : String} (h : text = "." ∨ text = "..") :
    pushSegment special path text = path := by
  rw [pushSegment, if_pos (by simpa using h)]

/-- What a text adds to a path that stands for a place spells nothing but the empty text. -/
theorem segment_eq_nil_of_place {plain segment : List Char}
    (hplace : plain = ['.'] ∨ plain = ['.', '.'])
    (htext : (renderPath (addLast path (Percent.encode (Percent.segment special) plain))).toList
      = (renderPath path).toList ++ '/' :: segment) : segment = [] := by
  have hlength := congrArg List.length htext
  have hshorter := length_renderPath_dropLast_le path
  rw [addLast, List.length_append, List.length_cons] at hlength
  refine List.eq_nil_of_length_eq_zero ?_
  rcases hplace with rfl | rfl
  · rw [if_neg (mt (isAbove_encode special _).1 (by decide)),
      if_pos ((isHere_encode special _).2 rfl), toList_renderPath_concat] at hlength
    simp only [String.toList_empty, List.length_append, List.length_singleton] at hlength
    omega
  · rw [if_pos ((isAbove_encode special _).2 rfl), toList_renderPath_concat] at hlength
    simp only [String.toList_empty, List.length_append, List.length_singleton] at hlength
    omega

/-- A text that is spelled by what it adds to a path is plain. -/
theorem plain_of_spells (hpath : path ≠ [""])
    (h : Spells path (pushSegment special path text) text) : Plain text := by
  obtain ⟨segment, -, hdecode, htext⟩ := h
  have hdots : ¬ (text = "." ∨ text = "..") := by
    intro hdots
    have hlength := congrArg List.length htext
    rw [pushSegment_dots special hdots, List.length_append, List.length_cons] at hlength
    omega
  obtain ⟨hhere, habove⟩ := not_or.1 hdots
  rw [pushSegment_eq special hpath hhere habove] at htext
  refine ⟨hhere, habove, ?_⟩
  -- What is spelled is the text without what addresses pass over, so that is the text itself.
  have hfiltered : text.toList.filter (!isLayout ·) = text.toList := by
    generalize hplain : text.toList.filter (!isLayout ·) = plain at htext
    by_cases hplace : plain = ['.'] ∨ plain = ['.', '.']
    · have hempty := segment_eq_nil_of_place special hplace htext
      have hnone : text.toList = [] := by
        rw [← hdecode, hempty]
        rfl
      rw [hnone] at hplain
      rcases hplace with rfl | rfl <;> cases hplain
    · obtain ⟨hnotHere, hnotAbove⟩ := not_or.1 hplace
      rw [addLast, if_neg (mt (isAbove_encode special _).1 hnotAbove),
        if_neg (mt (isHere_encode special _).1 hnotHere)] at htext
      have hsegment : Percent.encode (Percent.segment special) plain = segment := by
        rw [toList_renderPath_concat, String.toList_ofList] at htext
        exact (List.cons.inj (List.append_cancel_left htext)).2
      rw [← hdecode, ← hsegment, decode_encode_segment]
  intro c hc
  simpa using (List.filter_eq_self.1 hfiltered) c hc

/-- Adding a text to a path spells the text if and only if it is plain. -/
theorem spells_pushSegment_iff (hpath : path ≠ [""]) :
    Spells path (pushSegment special path text) text ↔ Plain text :=
  ⟨plain_of_spells special hpath, spells_pushSegment special hpath⟩

/-! ## Where segments are added -/

/-- The path that the segments added to a path stand behind. -/
def basePath (path : List String) : List String :=
  if popEmpty path = [""] then [] else popEmpty path

/-- A text without the slash that it may end with. -/
def withoutSlash (text : List Char) : List Char :=
  if text.getLast? = some '/' then text.dropLast else text

theorem concat_ne_root {front : List String} {last : String} (h : last ≠ "") :
    front ++ [last] ≠ [""] := by
  intro hroot
  have hlast := congrArg List.getLast? hroot
  rw [List.getLast?_concat] at hlast
  exact h (Option.some.inj hlast)

theorem popEmpty_concat_empty {front : List String} (h : front ≠ []) :
    popEmpty (front ++ [""]) = front := by
  have hlength : 0 < front.length := List.length_pos_iff.2 h
  rw [popEmpty, if_pos (by simpa using hlength), List.dropLast_concat]

theorem popEmpty_concat_of_ne {front : List String} {last : String} (h : last ≠ "") :
    popEmpty (front ++ [last]) = front ++ [last] := by
  rw [popEmpty, if_neg (by simp [h])]

/-- Segments are added behind the path without its last slash, but two slashes are taken for
one. -/
theorem renderPath_basePath (hfree : SlashFree path) (hpath : path ≠ ["", ""]) :
    (renderPath (basePath path)).toList = withoutSlash (renderPath path).toList := by
  rcases List.eq_nil_or_concat path with rfl | ⟨front, last, rfl⟩
  · rfl
  · rw [List.concat_eq_append] at hfree hpath ⊢
    rw [toList_renderPath_concat, withoutSlash]
    by_cases hlast : last = ""
    · subst hlast
      rw [if_pos (by simp), String.toList_empty, List.dropLast_concat, basePath]
      by_cases hfront : front = []
      · subst hfront
        rfl
      · rw [popEmpty_concat_empty hfront, if_neg]
        rintro rfl
        exact hpath rfl
    · have hnonempty : last.toList ≠ [] := by simpa using hlast
      have hslash : (last.toList.getLast hnonempty) ≠ '/' := by
        intro heq
        exact hfree last (by simp) (heq ▸ List.getLast_mem hnonempty)
      have hkept : basePath (front ++ [last]) = front ++ [last] := by
        rw [basePath, popEmpty_concat_of_ne hlast]
        exact if_neg (concat_ne_root hlast)
      have hend : ((renderPath front).toList ++ '/' :: last.toList).getLast? ≠ some '/' := by
        rw [List.getLast?_append, List.getLast?_cons, List.getLast?_eq_some_getLast hnonempty]
        simpa using hslash
      rw [hkept, toList_renderPath_concat, if_neg hend]

end Url

end CatalogBridge
