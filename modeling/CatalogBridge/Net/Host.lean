import CatalogBridge.Net.Address
import CatalogBridge.Net.Domain
import CatalogBridge.Net.Percent

/-!
# Hosts

The host in a web address: a name, or an address in numbers. In the special schemes a name is a
domain name in its ASCII form, and one whose last label is a number must be an address of four
octets; in all other schemes a name stays as it is written.
-/

namespace CatalogBridge

/-- A host. -/
inductive Host where
  | name (text : String)
  | address (ip : IpAddress)
  deriving DecidableEq, Repr

/-- What makes a web address unusable. -/
inductive UrlError where
  | noScheme
  | emptyHost
  | badDomain
  | badCharacter
  | badPort
  | badIpv4
  | badIpv6
  deriving DecidableEq, Repr

/-- The text of what makes an address unusable. -/
def UrlError.message : UrlError → String
  | .noScheme => "relative URL without a base"
  | .emptyHost => "empty host"
  | .badDomain => "invalid international domain name"
  | .badCharacter => "invalid domain character"
  | .badPort => "invalid port number"
  | .badIpv4 => "invalid IPv4 address"
  | .badIpv6 => "invalid IPv6 address"

namespace Host

/-- The number that a label denotes, in base ten, or in base eight or sixteen if it begins with
`0` or `0x`. -/
def number? : List Char → Option Nat
  | [] => none
  | '0' :: 'x' :: digits | '0' :: 'X' :: digits => inBase 16 digits
  | '0' :: second :: digits => inBase 8 (second :: digits)
  | digits => inBase 10 digits
where
  /-- The number that digits denote; no digits denote zero. -/
  inBase (base : Nat) (digits : List Char) : Option Nat :=
    (digits.mapM (Numeral.digit? base)).map (Numeral.valueIn base)

/-- The labels of a name without the empty one that a dot at the end leaves. -/
def withoutRoot (labels : List (List Char)) : List (List Char) :=
  if 1 < labels.length && labels.getLast? = some [] then labels.dropLast else labels

/-- Whether the last label of a name is a number, so that the name must be an address. -/
def endsInNumber (labels : List (List Char)) : Bool :=
  match labels.getLast? with
  | some last => (!last.isEmpty && last.all Numeral.isDigit) || (number? last).isSome
  | none => false

/-- The address that numbers denote: each of them an octet, but for the last, which
fills what is left. -/
def ofNumbers? (numbers : List Nat) : Option IpAddress :=
  match numbers.getLast? with
  | none => none
  | some last =>
    let front := numbers.dropLast
    let room := 4 - front.length
    if 4 < numbers.length || front.any (255 < ·) || Nat.pow 256 room ≤ last then none
    else
      some (.v4 (front
        ++ (List.range room).reverse.map fun place => last / Nat.pow 256 place % 256))

/-- Characters that no name in another scheme holds. -/
def isBarred (c : Char) : Bool :=
  ['\x00', '\t', '\n', '\r', ' ', '#', '/', ':', '<', '>', '?', '@', '[', '\\', ']', '^',
    '|'].contains c

/-- A name or an address of four octets. -/
def ofName (text : List Char) : Except UrlError Host :=
  match Domain.ascii? text with
  | none => .error .badDomain
  | some [] => .error .emptyHost
  | some text =>
    let labels := withoutRoot (Domain.labels text)
    if endsInNumber labels then
      match (labels.mapM number?).bind ofNumbers? with
      | some ip => .ok (.address ip)
      | none => .error .badIpv4
    else .ok (.name (String.ofList text))

/-- An address of eight groups between brackets. -/
def ofBracketed (inside : List Char) : Except UrlError Host :=
  match inside.reverse with
  | ']' :: groups =>
    match IpAddress.hextets groups.reverse with
    | some (groups, []) => .ok (.address (.v6 groups))
    | _ => .error .badIpv6
  | _ => .error .badIpv6

/-- The host that a text denotes. -/
def parse (special : Bool) (text : List Char) : Except UrlError Host :=
  match text with
  | '[' :: inside => ofBracketed inside
  | _ =>
    if special then ofName (Percent.decode text)
    else if text.any isBarred then .error .badCharacter
    else .ok (.name (String.ofList (Percent.encode (!Percent.isControl ·) text)))

/-- A host as addresses show it. -/
def render : Host → String
  | .name text => text
  | .address (.v4 octets) => (IpAddress.v4 octets).render
  | .address (.v6 groups) => "[" ++ (IpAddress.v6 groups).render ++ "]"

end Host

end CatalogBridge
