import CatalogBridge.Number.Numeral

/-!
# Addresses

Internet addresses of both families and the endpoint of a listener, an address with a port, in
their text forms. Reading takes one thing from the front of a text and returns it with what
follows; a text is an address when nothing follows.
-/

namespace CatalogBridge

/-- An address: four octets, or eight groups of sixteen bits. -/
inductive IpAddress where
  | v4 (octets : List Nat)
  | v6 (groups : List Nat)
  deriving DecidableEq, Repr

namespace IpAddress

/-- A reader of one thing at the front of a text. -/
abbrev Front (α : Type) := List Char → Option (α × List Char)

/-- A number below a bound, of at most so many digits; a zero in front of other digits only where
that is allowed. -/
def number (base bound : Nat) (width : Option Nat) (leadingZero : Bool) : Front Nat := fun text =>
  let (digits, rest) := Numeral.spanDigits base text
  if digits.isEmpty then none
  else if width.any (digits.length > ·) then none
  else if bound ≤ Numeral.valueIn base digits then none
  else if !leadingZero && digits.head? = some 0 && 1 < digits.length then none
  else some (Numeral.valueIn base digits, rest)

/-- One given character. -/
def given (c : Char) : Front Unit
  | d :: rest => if d = c then some ((), rest) else none
  | [] => none

/-- A part that a separator introduces, unless it is the first one. -/
def separated {α : Type} (separator : Char) (position : Nat) (part : Front α) :
    Front α := fun text =>
  if position = 0 then part text
  else do
    let (_, rest) ← given separator text
    part rest

/-- Four octets with dots between them. -/
def octets : Front (List Nat) := fun text => do
  let octet := number 10 256 (some 3) false
  let (a, rest) ← octet text
  let (b, rest) ← separated '.' 1 octet rest
  let (c, rest) ← separated '.' 2 octet rest
  let (d, rest) ← separated '.' 3 octet rest
  return ([a, b, c, d], rest)

/-- The two groups that four octets make. -/
def pairUp : List Nat → List Nat
  | a :: b :: rest => (a * 256 + b) :: pairUp rest
  | _ => []

/-- Groups with colons between them, at most `limit`; the last two may be written as four octets.
The third part tells whether they were. -/
def groups (limit position : Nat) (text : List Char) : List Nat × List Char × Bool :=
  match limit with
  | 0 => ([], text, false)
  | limit + 1 =>
    match if limit = 0 then none else separated ':' position octets text with
    | some (four, rest) => (pairUp four, rest, true)
    | none =>
      match separated ':' position (number 16 65536 (some 4) true) text with
      | some (group, rest) =>
        let (more, after, dotted) := groups limit (position + 1) rest
        (group :: more, after, dotted)
      | none => ([], text, false)

/-- Eight groups, or fewer with two colons in place of one zero group or more. -/
def hextets : Front (List Nat) := fun text =>
  let (head, rest, dotted) := groups 8 0 text
  if head.length = 8 then some (head, rest)
  else if dotted then none
  else do
    let (_, rest) ← given ':' rest
    let (_, rest) ← given ':' rest
    let (tail, rest, _) := groups (7 - head.length) 0 rest
    return (head ++ List.replicate (8 - head.length - tail.length) 0 ++ tail, rest)

/-- The address that a text denotes. -/
def parse? (text : String) : Option IpAddress :=
  match octets text.toList with
  | some (four, []) => some (.v4 four)
  | _ =>
    match hextets text.toList with
    | some (eight, []) => some (.v6 eight)
    | _ => none

/-! ## Writing -/

/-- A number in base sixteen, lower case. -/
def hex (n : Nat) : String := String.ofList (Nat.toDigits 16 n)

/-- The longest run of zero groups: where it starts and how long it is; of two as
long, the first. -/
def longestZeros (position : Nat) (start length : Nat) (best : Nat × Nat) : List Nat → Nat × Nat
  | [] => best
  | group :: rest =>
    if group = 0 then
      let start := if length = 0 then position else start
      let length := length + 1
      longestZeros (position + 1) start length
        (if best.2 < length then (start, length) else best) rest
    else longestZeros (position + 1) 0 0 best rest

/-- Groups in base sixteen with colons between them. -/
def colons (groups : List Nat) : String := ":".intercalate (groups.map hex)

/-- Numbers in base ten with dots between them. -/
def dots (octets : List Nat) : String := ".".intercalate (octets.map toString)

/-- Eight groups, the longest run of two zero groups or more written as two colons. -/
def compressed (groups : List Nat) : String :=
  let (start, length) := longestZeros 0 0 0 (0, 0) groups
  if 1 < length then colons (groups.take start) ++ "::" ++ colons (groups.drop (start + length))
  else colons groups

/-- An address as text. An address that stands for one of the other family keeps that one's dots. -/
def render : IpAddress → String
  | .v4 four => dots four
  | .v6 eight =>
    match eight with
    | [0, 0, 0, 0, 0, 0xFFFF, high, low] =>
      "::ffff:" ++ dots [high / 256, high % 256, low / 256, low % 256]
    | _ => compressed eight

/-- Whether an address is of the longer family. -/
def isV6 : IpAddress → Bool
  | .v4 _ => false
  | .v6 _ => true

end IpAddress

/-- Where a listener waits: an address, the zone of an address of the longer family (zero for
none), and a port. -/
structure Endpoint where
  ip : IpAddress
  zone : Nat
  port : Nat
  deriving DecidableEq, Repr

namespace Endpoint

open IpAddress

/-- A port behind a colon. -/
def colonPort : Front Nat := fun text => do
  let (_, rest) ← given ':' text
  number 10 65536 none true rest

/-- The zone behind a percent sign, zero if there is none. -/
def zonePart (text : List Char) : Nat × List Char :=
  match given '%' text >>= fun (_, rest) => number 10 (Nat.pow 2 32) none true rest with
  | some (zone, rest) => (zone, rest)
  | none => (0, text)

/-- An endpoint whose address has dots. -/
def dotted : Front Endpoint := fun text => do
  let (four, rest) ← octets text
  let (port, rest) ← colonPort rest
  return (⟨.v4 four, 0, port⟩, rest)

/-- An endpoint whose address stands in brackets. -/
def bracketed : Front Endpoint := fun text => do
  let (_, rest) ← given '[' text
  let (eight, rest) ← hextets rest
  let (zone, rest) := zonePart rest
  let (_, rest) ← given ']' rest
  let (port, rest) ← colonPort rest
  return (⟨.v6 eight, zone, port⟩, rest)

/-- The endpoint that a text denotes. -/
def parse? (text : List Char) : Option Endpoint :=
  match dotted text with
  | some (endpoint, []) => some endpoint
  | _ =>
    match bracketed text with
    | some (endpoint, []) => some endpoint
    | _ => none

/-- An endpoint as text. -/
def render (endpoint : Endpoint) : String :=
  match endpoint.ip with
  | .v4 four => dots four ++ ":" ++ toString endpoint.port
  | .v6 _ =>
    let zone := if endpoint.zone = 0 then "" else "%" ++ toString endpoint.zone
    "[" ++ endpoint.ip.render ++ zone ++ "]:" ++ toString endpoint.port

end Endpoint

end CatalogBridge
