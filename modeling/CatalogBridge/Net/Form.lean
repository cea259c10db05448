import CatalogBridge.Net.Percent

/-!
# Form fields

Pairs of a name and a value as a query carries them: an equals sign inside a pair, an ampersand
between two, a plus sign for each blank. `decodeField_encodeField` says that no text is lost in
one field, and `encodeField_free` that an encoded field holds neither sign that separates fields.
-/

namespace CatalogBridge.Form

/-- One octet of a field. -/
def encodeOctet (octet : UInt8) : List Char :=
  if octet.toNat = 32 then ['+'] else Percent.encodeOctet Percent.formField octet

/-- Octets of a field. -/
def encodeOctets (octets : List UInt8) : List Char := octets.flatMap encodeOctet

/-- A field. -/
def encodeField (text : List Char) : List Char := encodeOctets (Utf8.encode text)

/-- A name and a value. -/
def encodePair (pair : String × String) : List Char :=
  encodeField pair.1.toList ++ '=' :: encodeField pair.2.toList

/-- Pairs, with ampersands between them. -/
def encodePairs : List (String × String) → List Char
  | [] => []
  | [pair] => encodePair pair
  | pair :: rest => encodePair pair ++ '&' :: encodePairs rest

/-- A field with its plus signs read as blanks. -/
def blanks (text : List Char) : List Char := text.map fun c => if c = '+' then ' ' else c

/-- The octets of a field. -/
def decodeOctets (text : List Char) : List UInt8 := Percent.decodeOctets (blanks text)

/-- The text of a field. -/
def decodeField (text : List Char) : String := String.ofList (Utf8.decode (decodeOctets text))

/-- The pieces of a text between separators; there is at least one. -/
def pieces (separator : Char) : List Char → List (List Char)
  | [] => [[]]
  | c :: rest =>
    if c = separator then [] :: pieces separator rest
    else
      match pieces separator rest with
      | piece :: others => (c :: piece) :: others
      | [] => [[c]]

/-- The pair that a piece of a query stands for; without an equals sign the value is empty. -/
def decodePair (piece : List Char) : String × String :=
  (decodeField (piece.takeWhile (· ≠ '=')), decodeField ((piece.dropWhile (· ≠ '=')).drop 1))

/-- The pairs that a query stands for; empty pieces stand for nothing. -/
def decodePairs (query : List Char) : List (String × String) :=
  ((pieces '&' query).filter (!·.isEmpty)).map decodePair

/-! ## Decoding what was encoded -/

theorem blanks_escape (octet : UInt8) : blanks (Percent.escape octet) = Percent.escape octet := by
  have hplus : ∀ n < 16, Percent.hexDigit n ≠ '+' := by decide
  have hlt : octet.toNat < 256 := octet.toNat_lt
  simp [blanks, Percent.escape, hplus (octet.toNat / 16) (by omega),
    hplus (octet.toNat % 16) (by omega)]

theorem blanks_append (front back : List Char) :
    blanks (front ++ back) = blanks front ++ blanks back := by
  simp [blanks]

theorem blanks_encodeOctet_formField (octet : UInt8) :
    blanks (Percent.encodeOctet Percent.formField octet)
      = Percent.encodeOctet Percent.formField octet := by
  unfold Percent.encodeOctet
  split
  case isTrue hkept =>
    have hne : Char.ofNat octet.toNat ≠ '+' := by
      intro heq
      rw [heq] at hkept
      simp only [Bool.and_eq_true] at hkept
      exact absurd hkept.2 (by decide)
    simp [blanks, hne]
  case isFalse => exact blanks_escape octet

theorem decodeOctets_encodeOctet (octet : UInt8) (rest : List Char) :
    decodeOctets (encodeOctet octet ++ rest) = octet :: decodeOctets rest := by
  unfold encodeOctet decodeOctets
  split
  case isTrue hblank =>
    have hoctet : octet = 32 := UInt8.toNat.inj hblank
    rw [blanks_append, hoctet]
    exact Percent.decodeOctets_cons_of_ne (by decide) _
  case isFalse =>
    rw [blanks_append, blanks_encodeOctet_formField]
    exact Percent.decodeOctets_encodeOctet (by decide) octet _

theorem decodeOctets_encodeOctets (octets : List UInt8) :
    decodeOctets (encodeOctets octets) = octets := by
  induction octets with
  | nil => rfl
  | cons octet rest ih =>
    rw [encodeOctets, List.flatMap_cons, decodeOctets_encodeOctet]
    exact congrArg _ ih

theorem decodeField_encodeField (text : List Char) :
    decodeField (encodeField text) = String.ofList text := by
  rw [decodeField, encodeField, decodeOctets_encodeOctets, Utf8.decode_encode]

theorem encodeOctet_free (octet : UInt8) : ∀ c ∈ encodeOctet octet, c ≠ '&' ∧ c ≠ '=' := by
  have hdigit : ∀ n < 16, Percent.hexDigit n ≠ '&' ∧ Percent.hexDigit n ≠ '=' := by decide
  have hlt : octet.toNat < 256 := octet.toNat_lt
  intro c hc
  unfold encodeOctet at hc
  split at hc
  · simp_all
  · unfold Percent.encodeOctet at hc
    split at hc
    case isTrue hkept =>
      simp only [List.mem_singleton] at hc
      subst hc
      simp only [Bool.and_eq_true] at hkept
      constructor
      · intro heq
        exact absurd (heq ▸ hkept.2) (by decide)
      · intro heq
        exact absurd (heq ▸ hkept.2) (by decide)
    case isFalse =>
      simp only [Percent.escape, List.mem_cons, List.not_mem_nil, or_false] at hc
      rcases hc with rfl | rfl | rfl
      · decide
      · exact hdigit _ (by omega)
      · exact hdigit _ (by omega)

theorem encodeField_free (text : List Char) : ∀ c ∈ encodeField text, c ≠ '&' ∧ c ≠ '=' := by
  intro c hc
  simp only [encodeField, encodeOctets, List.mem_flatMap] at hc
  obtain ⟨octet, _, hmem⟩ := hc
  exact encodeOctet_free octet c hmem

end CatalogBridge.Form
