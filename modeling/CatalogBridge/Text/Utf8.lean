/-!
# Text as octets

Characters as one to four octets, and the reading of octets that came over a connection: what is
no character is read as U+FFFD, one for each longest run of octets that begins a character and
does not end it.

Reading is a step function on one octet, so it does not matter how the octets were cut into pieces
on their way: `decodeFrom_append` says so. `decode_encode` says that a text is read back from its
own octets.
-/

namespace CatalogBridge.Utf8

/-- The octets of one character. -/
def encodeChar (c : Char) : List UInt8 :=
  let point := c.toNat
  if point < 0x80 then [UInt8.ofNat point]
  else if point < 0x800 then [UInt8.ofNat (0xC0 + point / 64), UInt8.ofNat (0x80 + point % 64)]
  else if point < 0x10000 then
    [UInt8.ofNat (0xE0 + point / 4096), UInt8.ofNat (0x80 + point / 64 % 64),
      UInt8.ofNat (0x80 + point % 64)]
  else
    [UInt8.ofNat (0xF0 + point / 262144), UInt8.ofNat (0x80 + point / 4096 % 64),
     UInt8.ofNat (0x80 + point / 64 % 64), UInt8.ofNat (0x80 + point % 64)]

/-- The octets of a text. -/
def encode (text : List Char) : List UInt8 := text.flatMap encodeChar

/-- A character that has begun: the bits read so far, how many octets are missing, and the range
that the next one must lie in. -/
structure Begun where
  bits : Nat
  missing : Nat
  low : Nat
  high : Nat

/-- What stands for octets that are no character. -/
def replacement : Char := '\uFFFD'

/-- Read an octet where a character may begin. -/
def begin (octet : UInt8) : List Char × Option Begun :=
  let value := octet.toNat
  if value < 0x80 then ([Char.ofNat value], none)
  else if value < 0xC2 then ([replacement], none)
  else if value < 0xE0 then ([], some ⟨value - 0xC0, 1, 0x80, 0xBF⟩)
  else if value < 0xF0 then
    ([], some
      ⟨value - 0xE0, 2, if value == 0xE0 then 0xA0 else 0x80, if value == 0xED then 0x9F else 0xBF⟩)
  else if value < 0xF5 then
    ([], some
      ⟨value - 0xF0, 3, if value == 0xF0 then 0x90 else 0x80, if value == 0xF4 then 0x8F else 0xBF⟩)
  else ([replacement], none)

/-- Read one octet: the characters that it completes, and the character that has begun after it. -/
def step (begun : Option Begun) (octet : UInt8) : List Char × Option Begun :=
  match begun with
  | none => begin octet
  | some partway =>
    let value := octet.toNat
    if partway.low ≤ value && value ≤ partway.high then
      let bits := partway.bits * 64 + (value - 0x80)
      if partway.missing ≤ 1 then ([Char.ofNat bits], none)
      else ([], some ⟨bits, partway.missing - 1, 0x80, 0xBF⟩)
    else
      let (text, next) := begin octet
      (replacement :: text, next)

/-- Read octets on from a character that may have begun: the characters completed, and what has
begun at the end. -/
def decodeFrom : Option Begun → List UInt8 → List Char × Option Begun
  | begun, [] => ([], begun)
  | begun, octet :: rest =>
    let (front, next) := step begun octet
    let (back, last) := decodeFrom next rest
    (front ++ back, last)

/-- Read octets as text. -/
def decode (octets : List UInt8) : List Char :=
  match decodeFrom none octets with
  | (text, none) => text
  | (text, some _) => text ++ [replacement]

/-- The text whose octets these are, if they are the octets of a text. -/
def decode? (octets : List UInt8) : Option (List Char) :=
  if encode (decode octets) = octets then some (decode octets) else none

/-- Reading two pieces in turn is reading them joined. -/
theorem decodeFrom_append (begun : Option Begun) (front back : List UInt8) :
    decodeFrom begun (front ++ back) =
      ((decodeFrom begun front).1 ++ (decodeFrom (decodeFrom begun front).2 back).1,
        (decodeFrom (decodeFrom begun front).2 back).2) := by
  induction front generalizing begun with
  | nil => simp [decodeFrom]
  | cons octet rest ih => simp [decodeFrom, ih]

@[simp] theorem encode_nil : encode [] = [] := rfl

/-! ## Reading what was written -/

theorem toNat_ofNat {n : Nat} (h : n < 256) : (UInt8.ofNat n).toNat = n := by
  simp; omega

theorem begin_two {n : Nat} (hlow : 0xC2 ≤ n) (hhigh : n < 0xE0) :
    begin (UInt8.ofNat n) = ([], some ⟨n - 0xC0, 1, 0x80, 0xBF⟩) := by
  simp only [begin, toNat_ofNat (show n < 256 by omega)]
  rw [if_neg (by omega), if_neg (by omega), if_pos (by omega)]

theorem begin_three {n : Nat} (hlow : 0xE0 ≤ n) (hhigh : n < 0xF0) :
    begin (UInt8.ofNat n) =
      ([], some
        ⟨n - 0xE0, 2, if n == 0xE0 then 0xA0 else 0x80, if n == 0xED then 0x9F else 0xBF⟩) := by
  simp only [begin, toNat_ofNat (show n < 256 by omega)]
  rw [if_neg (by omega), if_neg (by omega), if_neg (by omega), if_pos (by omega)]

theorem begin_four {n : Nat} (hlow : 0xF0 ≤ n) (hhigh : n < 0xF5) :
    begin (UInt8.ofNat n) =
      ([], some
        ⟨n - 0xF0, 3, if n == 0xF0 then 0x90 else 0x80, if n == 0xF4 then 0x8F else 0xBF⟩) := by
  simp only [begin, toNat_ofNat (show n < 256 by omega)]
  rw [if_neg (by omega), if_neg (by omega), if_neg (by omega), if_neg (by omega), if_pos (by omega)]

theorem step_last {partway : Begun} {n : Nat} (hmissing : partway.missing = 1)
    (hlow : partway.low ≤ n) (hhigh : n ≤ partway.high) (hn : n < 256) :
    step (some partway) (UInt8.ofNat n)
      = ([Char.ofNat (partway.bits * 64 + (n - 0x80))], none) := by
  simp [step, toNat_ofNat hn, hmissing, hlow, hhigh]

theorem step_more {partway : Begun} {n : Nat} (hmissing : 1 < partway.missing)
    (hlow : partway.low ≤ n) (hhigh : n ≤ partway.high) (hn : n < 256) :
    step (some partway) (UInt8.ofNat n) =
      ([], some ⟨partway.bits * 64 + (n - 0x80), partway.missing - 1, 0x80, 0xBF⟩) := by
  simp [step, toNat_ofNat hn, hlow, hhigh, Nat.not_le.2 hmissing]

theorem decodeFrom_cons (begun : Option Begun) (octet : UInt8) (rest : List UInt8) :
    decodeFrom begun (octet :: rest) =
      ((step begun octet).1 ++ (decodeFrom (step begun octet).2 rest).1,
        (decodeFrom (step begun octet).2 rest).2) := rfl

theorem decodeFrom_two {n m : Nat} (hlow : 0xC2 ≤ n) (hhigh : n < 0xE0) (hm : 0x80 ≤ m ∧ m ≤ 0xBF) :
    decodeFrom none [UInt8.ofNat n, UInt8.ofNat m]
      = ([Char.ofNat ((n - 0xC0) * 64 + (m - 0x80))], none) := by
  have hbegin : step none (UInt8.ofNat n) = _ := begin_two hlow hhigh
  rw [decodeFrom_cons, hbegin, decodeFrom_cons, step_last rfl hm.1 hm.2 (by omega)]
  simp [decodeFrom]

theorem decodeFrom_three {n m k : Nat} (hlow : 0xE0 ≤ n) (hhigh : n < 0xF0)
    (hm : (if n == 0xE0 then 0xA0 else 0x80) ≤ m ∧ m ≤ (if n == 0xED then 0x9F else 0xBF))
    (hk : 0x80 ≤ k ∧ k ≤ 0xBF) :
    decodeFrom none [UInt8.ofNat n, UInt8.ofNat m, UInt8.ofNat k] =
      ([Char.ofNat (((n - 0xE0) * 64 + (m - 0x80)) * 64 + (k - 0x80))], none) := by
  have hbegin : step none (UInt8.ofNat n) = _ := begin_three hlow hhigh
  have hbound : m < 256 := by
    have := hm.2
    split at this <;> omega
  rw [decodeFrom_cons, hbegin, decodeFrom_cons, step_more (by simp) hm.1 hm.2 hbound,
    decodeFrom_cons, step_last rfl hk.1 hk.2 (by omega)]
  simp [decodeFrom]

theorem decodeFrom_four {n m k l : Nat} (hlow : 0xF0 ≤ n) (hhigh : n < 0xF5)
    (hm : (if n == 0xF0 then 0x90 else 0x80) ≤ m ∧ m ≤ (if n == 0xF4 then 0x8F else 0xBF))
    (hk : 0x80 ≤ k ∧ k ≤ 0xBF) (hl : 0x80 ≤ l ∧ l ≤ 0xBF) :
    decodeFrom none [UInt8.ofNat n, UInt8.ofNat m, UInt8.ofNat k, UInt8.ofNat l] =
      ([Char.ofNat ((((n - 0xF0) * 64 + (m - 0x80)) * 64 + (k - 0x80)) * 64 + (l - 0x80))],
        none) := by
  have hbegin : step none (UInt8.ofNat n) = _ := begin_four hlow hhigh
  have hbound : m < 256 := by
    have := hm.2
    split at this <;> omega
  rw [decodeFrom_cons, hbegin, decodeFrom_cons, step_more (by simp) hm.1 hm.2 hbound,
    decodeFrom_cons, step_more (by simp) hk.1 hk.2 (by omega), decodeFrom_cons,
    step_last rfl hl.1 hl.2 (by omega)]
  simp [decodeFrom]

/-- A character is read from its own octets. -/
theorem decodeFrom_encodeChar (c : Char) : decodeFrom none (encodeChar c) = ([c], none) := by
  have hc : Char.ofNat c.toNat = c := Char.ofNat_toNat c
  have hvalid : c.toNat < 0xD800 ∨ (0xDFFF < c.toNat ∧ c.toNat < 0x110000) := c.valid
  unfold encodeChar
  generalize c.toNat = p at hc hvalid
  dsimp only
  split
  case isTrue h1 =>
    simp only [decodeFrom, step, begin, toNat_ofNat (show p < 256 by omega), if_pos h1, hc,
      List.append_nil]
  case isFalse h1 =>
    split
    case isTrue h2 =>
      rw [decodeFrom_two (by omega) (by omega) (by omega)]
      rw [show (0xC0 + p / 64 - 0xC0) * 64 + (0x80 + p % 64 - 0x80) = p by omega, hc]
    case isFalse h2 =>
      split
      case isTrue h3 =>
        rw [decodeFrom_three (by omega) (by omega) ⟨by simp only [beq_iff_eq]; split <;> omega,
          by simp only [beq_iff_eq]; split <;> omega⟩ (by omega)]
        rw [show ((0xE0 + p / 4096 - 0xE0) * 64 + (0x80 + p / 64 % 64 - 0x80)) * 64
            + (0x80 + p % 64 - 0x80) = p by omega, hc]
      case isFalse h3 =>
        rw [decodeFrom_four (by omega) (by omega) ⟨by simp only [beq_iff_eq]; split <;> omega,
          by simp only [beq_iff_eq]; split <;> omega⟩ (by omega) (by omega)]
        rw [show (((0xF0 + p / 262144 - 0xF0) * 64 + (0x80 + p / 4096 % 64 - 0x80)) * 64
          + (0x80 + p / 64 % 64 - 0x80)) * 64 + (0x80 + p % 64 - 0x80) = p by omega, hc]

/-- A text is read from its own octets, and nothing has begun behind it. -/
theorem decodeFrom_encode (text : List Char) : decodeFrom none (encode text) = (text, none) := by
  induction text with
  | nil => rfl
  | cons c rest ih =>
    rw [encode, List.flatMap_cons, decodeFrom_append, decodeFrom_encodeChar]
    exact congrArg (fun found => (c :: found.1, found.2)) ih

theorem decode_encode (text : List Char) : decode (encode text) = text := by
  rw [decode, decodeFrom_encode]

@[simp] theorem decode?_encode (text : List Char) : decode? (encode text) = some text := by
  rw [decode?, decode_encode, if_pos rfl]

end CatalogBridge.Utf8
