import CatalogBridge.Text.Utf8

/-!
# Percent encoding

How text stands in the parts of a web address: a character that a part keeps stands for itself,
every octet of any other one as a percent sign and two digits. `decode_encode` says that decoding
gives the text back, whatever a part keeps, as long as it does not keep the percent sign.
-/

namespace CatalogBridge.Percent

/-- A digit in base sixteen, upper case. -/
def hexDigit (n : Nat) : Char := if n < 10 then Char.ofNat (48 + n) else Char.ofNat (55 + n)

/-- The value of a digit in base sixteen, of either case. -/
def hexValue? (c : Char) : Option Nat :=
  let point := c.toNat
  if 48 ≤ point && point ≤ 57 then some (point - 48)
  else if 65 ≤ point && point ≤ 70 then some (point - 55)
  else if 97 ≤ point && point ≤ 102 then some (point - 87)
  else none

/-- An octet as a percent sign and two digits. -/
def escape (octet : UInt8) : List Char :=
  ['%', hexDigit (octet.toNat / 16), hexDigit (octet.toNat % 16)]

/-- Which ASCII characters a part of an address keeps. -/
abbrev Keeps := Char → Bool

/-- An octet in a part of an address. -/
def encodeOctet (keeps : Keeps) (octet : UInt8) : List Char :=
  if octet.toNat < 128 && keeps (Char.ofNat octet.toNat) then [Char.ofNat octet.toNat]
  else escape octet

/-- Octets in a part of an address. -/
def encodeOctets (keeps : Keeps) (octets : List UInt8) : List Char :=
  octets.flatMap (encodeOctet keeps)

/-- A text in a part of an address. -/
def encode (keeps : Keeps) (text : List Char) : List Char := encodeOctets keeps (Utf8.encode text)

/-- The octets that a part of an address stands for; a percent sign without two digits
stands for itself. -/
def decodeOctets : List Char → List UInt8
  | [] => []
  | '%' :: high :: low :: rest =>
    match hexValue? high, hexValue? low with
    | some high, some low => UInt8.ofNat (high * 16 + low) :: decodeOctets rest
    | _, _ => UInt8.ofNat '%'.toNat :: decodeOctets (high :: low :: rest)
  | c :: rest => Utf8.encodeChar c ++ decodeOctets rest

/-- The text that a part of an address stands for. -/
def decode (text : List Char) : List Char := Utf8.decode (decodeOctets text)

/-! ## What the parts keep -/

/-- The controls of ASCII. -/
def isControl (c : Char) : Bool := c.toNat < 32 || c == '\x7f'

/-- What stands for itself behind the number sign. -/
def fragment : Keeps := fun c => !isControl c && !(['"', ' ', '<', '>', '\x60'].contains c)

/-- What stands for itself in a path. -/
def path : Keeps := fun c => fragment c && !(['#', '?', '\x7b', '\x7d'].contains c)

/-- What stands for itself in one segment that is added to a path; in the paths of special schemes
a backslash would separate segments too. -/
def segment (special : Bool) : Keeps :=
  fun c => path c && !(['/', '%'].contains c) && !(special && c == '\\')

/-- What stands for itself in a query. -/
def query (special : Bool) : Keeps := fun c =>
  !isControl c && !(['"', '#', ' ', '<', '>'].contains c) && !(special && c == '\x27')

/-- What stands for itself in the name or the value of a field of a form. -/
def formField : Keeps := fun c =>
  (48 ≤ c.toNat && c.toNat ≤ 57) || (65 ≤ c.toNat && c.toNat ≤ 90)
    || (97 ≤ c.toNat && c.toNat ≤ 122) || ['*', '-', '.', '_'].contains c

/-! ## Decoding what was encoded -/

theorem hexValue?_hexDigit : ∀ n < 16, hexValue? (hexDigit n) = some n := by decide

@[simp] theorem decodeOctets_escape (octet : UInt8) (rest : List Char) :
    decodeOctets (escape octet ++ rest) = octet :: decodeOctets rest := by
  have hlt : octet.toNat < 256 := octet.toNat_lt
  simp only [escape, List.cons_append, List.nil_append, decodeOctets,
    hexValue?_hexDigit (octet.toNat / 16) (by omega),
    hexValue?_hexDigit (octet.toNat % 16) (by omega)]
  rw [show octet.toNat / 16 * 16 + octet.toNat % 16 = octet.toNat by omega, UInt8.ofNat_toNat]

theorem decodeOctets_cons_of_ne {c : Char} (h : c ≠ '%') (rest : List Char) :
    decodeOctets (c :: rest) = Utf8.encodeChar c ++ decodeOctets rest := by
  rw [decodeOctets.eq_def]
  split <;> simp_all

theorem toNat_ofNat_of_lt : ∀ n < 128, (Char.ofNat n).toNat = n := by decide

theorem encodeChar_of_lt {n : Nat} (h : n < 128) :
    Utf8.encodeChar (Char.ofNat n) = [UInt8.ofNat n] := by
  simp [Utf8.encodeChar, toNat_ofNat_of_lt n h, h]

theorem decodeOctets_encodeOctet {keeps : Keeps} (h : keeps '%' = false) (octet : UInt8)
    (rest : List Char) :
    decodeOctets (encodeOctet keeps octet ++ rest) = octet :: decodeOctets rest := by
  unfold encodeOctet
  split
  case isTrue hkept =>
    simp only [Bool.and_eq_true, decide_eq_true_eq] at hkept
    have hne : Char.ofNat octet.toNat ≠ '%' := by
      intro heq
      rw [heq, h] at hkept
      exact Bool.false_ne_true hkept.2
    rw [List.cons_append, List.nil_append, decodeOctets_cons_of_ne hne, encodeChar_of_lt hkept.1]
    simp
  case isFalse => exact decodeOctets_escape octet rest

theorem decodeOctets_encodeOctets {keeps : Keeps} (h : keeps '%' = false) (octets : List UInt8) :
    decodeOctets (encodeOctets keeps octets) = octets := by
  induction octets with
  | nil => rfl
  | cons octet rest ih =>
    rw [encodeOctets, List.flatMap_cons, decodeOctets_encodeOctet h]
    exact congrArg _ ih

theorem decode_encode {keeps : Keeps} (h : keeps '%' = false) (text : List Char) :
    decode (encode keeps text) = text := by
  rw [decode, encode, decodeOctets_encodeOctets h, Utf8.decode_encode]

end CatalogBridge.Percent
