import CatalogBridge.Net.Form
import CatalogBridge.Net.Host

/-!
# Web addresses

A web address with its path as a list of segments, each of them encoded. Segments that are only a
dot or two move about in the path and are never part of it. To a path, segments can be added
(`Url.push`), and to the query, pairs (`Url.addPairs`).

Blanks and controls around an address and tabs and line ends inside it are passed over, and so is
what stands before an `@`.
-/

namespace CatalogBridge

/-- A path: segments, or one text that nothing can be added to. -/
inductive UrlPath where
  | segments (list : List String)
  | rootless (text : String)
  deriving DecidableEq, Repr

/-- A web address. -/
structure Url where
  scheme : String
  host : Option Host
  /-- The port, if it is not the usual one of the scheme. -/
  port : Option Nat
  path : UrlPath
  query : Option String
  fragment : Option String
  deriving DecidableEq, Repr

namespace Url

/-- The usual port of a scheme. -/
def usualPort? (scheme : String) : Option Nat :=
  if scheme = "http" || scheme = "ws" then some 80
  else if scheme = "https" || scheme = "wss" then some 443
  else if scheme = "ftp" then some 21
  else none

/-- Whether addresses of a scheme always have a host and a path. -/
def isSpecial (scheme : String) : Bool := (usualPort? scheme).isSome || scheme = "file"

/-- Whether a character separates segments. -/
def isSlash (special : Bool) (c : Char) : Bool := c = '/' || (special && c = '\\')

/-- Tabs and line ends, which addresses do not hold. -/
def isLayout (c : Char) : Bool := c = '\t' || c = '\n' || c = '\r'

/-- Controls and blanks, which addresses do not begin or end with. -/
def isMargin (c : Char) : Bool := c.toNat ≤ 32

/-- A text without what is passed over. -/
def clean (text : List Char) : List Char :=
  (((text.dropWhile isMargin).reverse.dropWhile isMargin).reverse).filter (!isLayout ·)

/-! ## Paths -/

/-- The segments of a text between slashes; there is at least one. -/
def split (special : Bool) : List Char → List (List Char)
  | [] => [[]]
  | c :: rest =>
    if isSlash special c then [] :: split special rest
    else
      match split special rest with
      | segment :: others => (c :: segment) :: others
      | [] => [[c]]

/-- A segment with its encoded dots decoded. -/
def decodeDots : List Char → List Char
  | '%' :: '2' :: 'e' :: rest | '%' :: '2' :: 'E' :: rest => '.' :: decodeDots rest
  | c :: rest => c :: decodeDots rest
  | [] => []

/-- Whether a segment stands for the place where it is. -/
def isHere (segment : List Char) : Bool := decodeDots segment = ['.']

/-- Whether a segment stands for the place above. -/
def isAbove (segment : List Char) : Bool := decodeDots segment = ['.', '.']

/-- A path with the last segment added to it: dots leave a path that ends with a slash. -/
def addLast (path : List String) (segment : List Char) : List String :=
  if isAbove segment then path.dropLast ++ [""]
  else if isHere segment then path ++ [""]
  else path ++ [String.ofList segment]

/-- A path with segments added to it. -/
def addAll (path : List String) : List (List Char) → List String
  | [] => path
  | [last] => addLast path last
  | segment :: rest =>
    if isAbove segment then addAll path.dropLast rest
    else if isHere segment then addAll path rest
    else addAll (path ++ [String.ofList segment]) rest

/-- The path that a text denotes. -/
def parsePath (special : Bool) (text : List Char) : List String :=
  match text with
  | c :: rest =>
    if isSlash special c then addAll [] (segmentsOf rest)
    else addAll [] (segmentsOf text)
  | [] => if special then [""] else []
where
  /-- The segments of a text, encoded. -/
  segmentsOf (text : List Char) : List (List Char) :=
    (split special text).map (Percent.encode Percent.path)

/-- A path as addresses show it. -/
def renderPath (path : List String) : String := String.join (path.map ("/" ++ ·))

/-- A path without the empty segment at its end, unless there is no other. -/
def popEmpty (path : List String) : List String :=
  if 1 < path.length && path.getLast? = some "" then path.dropLast else path

/-- A path with one segment added to it, whatever text it is. Dots add nothing; a path of one
empty segment is replaced. -/
def pushSegment (special : Bool) (path : List String) (text : String) : List String :=
  if text = "." || text = ".." then path
  else
    addLast (if path = [""] then [] else path)
      (Percent.encode (Percent.segment special) (text.toList.filter (!isLayout ·)))

/-- An address with segments added to its path, behind the slash that it may end with. -/
def push (url : Url) (segments : List String) : Url :=
  match url.path with
  | .segments path =>
    { url with
      path := .segments (segments.foldl (pushSegment (isSpecial url.scheme)) (popEmpty path)) }
  | .rootless _ => url

/-! ## Queries -/

/-- An address with pairs added to its query. A query that stays empty is taken away. -/
def addPairs (url : Url) (pairs : List (String × String)) : Url :=
  let own := (url.query.getD "").toList
  let added := Form.encodePairs pairs
  let query := if own.isEmpty then added else if added.isEmpty then own else own ++ '&' :: added
  { url with query := if query.isEmpty then none else some (String.ofList query) }

/-! ## Reading -/

/-- What stands before a character that fulfils a condition, and the rest from there on. -/
def upTo (stop : Char → Bool) (text : List Char) : List Char × List Char :=
  (text.takeWhile (!stop ·), text.dropWhile (!stop ·))

/-- The scheme at the front of an address, in lower case, and what follows its colon. -/
def scheme? (text : List Char) : Option (String × List Char) :=
  let (word, rest) := upTo (fun c => !(c.isAlphanum || c = '+' || c = '-' || c = '.')) text
  match word, rest with
  | first :: _, ':' :: rest =>
    if first.isAlpha then some (String.ofList (word.map Char.toLower), rest) else none
  | _, _ => none

/-- The query and the fragment at the end of an address. -/
def tail (special : Bool) (text : List Char) : Option String × Option String :=
  let (query, fragment) :=
    match text with
    | '?' :: rest =>
      let (query, rest) := upTo (· = '#') rest
      (some (String.ofList (Percent.encode (Percent.query special) query)), rest)
    | _ => (none, text)
  (query,
    match fragment with
    | '#' :: rest => some (String.ofList (Percent.encode Percent.fragment rest))
    | _ => none)

/-- The host part of an authority and its port part: a colon separates them that is not
inside brackets. -/
def splitPort (inside : Bool) : List Char → List Char × Option (List Char)
  | [] => ([], none)
  | c :: rest =>
    if c = ':' && !inside then ([], some rest)
    else
      let (host, port) := splitPort (c = '[' || (inside && c ≠ ']')) rest
      (c :: host, port)

/-- The port of an authority, `none` if it is the usual one or left open. -/
def readPort (scheme : String) (text : List Char) : Except UrlError (Option Nat) :=
  if !text.all Numeral.isDigit || 65535 < Numeral.value 0 text then .error .badPort
  else if text.isEmpty || usualPort? scheme = some (Numeral.value 0 text) then .ok none
  else .ok (some (Numeral.value 0 text))

/-- What stands in front of the last `@` of an authority, if there is one, and what
stands behind it. -/
def splitCredentials (authority : List Char) : Option (List Char) × List Char :=
  let host := (authority.reverse.takeWhile (· ≠ '@')).reverse
  (if authority.contains '@' then some (authority.take (authority.length - host.length - 1))
    else none, host)

/-- Whether credentials must have a host behind them: those that name someone, and empty ones with
a path behind them. -/
def needHost (credentials rest : List Char) : Bool :=
  match credentials with
  | [] => !rest.isEmpty
  | [':'] => false
  | _ => true

/-- The host and the port of an authority, and what follows the port: in a port, a backslash
begins the path. -/
def authority (scheme : String) (text rest : List Char) :
    Except UrlError (Option Host × Option Nat × List Char) := do
  let (credentials, text) := splitCredentials text
  let (hostText, portText) := splitPort false text
  if hostText.isEmpty
      && (isSpecial scheme || portText.isSome || credentials.any (needHost · rest)) then
    throw .emptyHost
  let host ←
    if hostText.isEmpty then pure (Host.name "") else Host.parse (isSpecial scheme) hostText
  let (portText, path) := upTo (· = '\\') (portText.getD [])
  let port ← readPort scheme portText
  return (some host, port, path)

/-- An address from what follows the slashes behind its scheme. -/
def withAuthority (scheme : String) (text : List Char) : Except UrlError Url := do
  let special := isSpecial scheme
  let (authorityText, rest) := upTo (fun c => isSlash special c || c = '?' || c = '#') text
  let (host, port, front) ← authority scheme authorityText rest
  let (path, rest) := upTo (fun c => c = '?' || c = '#') rest
  let (query, fragment) := tail special rest
  return ⟨scheme, host, port, .segments (parsePath special (front ++ path)), query, fragment⟩

/-- The host of a file address, which has no port; `localhost` and nothing are the same. -/
def fileHost (text : List Char) : Except UrlError (Option Host) :=
  if text.isEmpty then .ok none
  else do
    let host ← Host.parse true text
    return if host = .name "localhost" then none else some host

/-- Whether a text is the name of a drive: a letter with a colon or a bar. -/
def isDrive : List Char → Bool
  | [letter, mark] => letter.isAlpha && (mark = ':' || mark = '|')
  | _ => false

/-- A file address from what follows its scheme. The name of a drive is no host but the first
segment of the path. No request goes to a file address: it is only told apart from other addresses.
So its path is taken as it is written, where a drive may keep its bar and slashes at the start are
not made fewer. -/
def ofFile (text : List Char) : Except UrlError Url := do
  let (hostText, rest) :=
    match text with
    | a :: b :: rest =>
      if isSlash true a && isSlash true b then
        let (hostText, path) := upTo (fun c => isSlash true c || c = '?' || c = '#') rest
        if isDrive hostText then ([], rest) else (hostText, path)
      else ([], text)
    | _ => ([], text)
  let host ← fileHost hostText
  let (path, rest) := upTo (fun c => c = '?' || c = '#') rest
  let (query, fragment) := tail true rest
  return ⟨"file", host, none, .segments (parsePath true path), query, fragment⟩

/-- An address of a scheme that is not special from what follows its colon. -/
def ofPlain (scheme : String) (text : List Char) : Except UrlError Url :=
  let (path, rest) := upTo (fun c => c = '?' || c = '#') text
  let (query, fragment) := tail false rest
  match text with
  | '/' :: '/' :: rest => withAuthority scheme rest
  | '/' :: _ => .ok ⟨scheme, none, none, .segments (parsePath false path), query, fragment⟩
  | _ =>
    .ok ⟨scheme, none, none,
      .rootless (String.ofList (Percent.encode (!Percent.isControl ·) path)), query, fragment⟩

/-- The address that a text denotes. -/
def parse (text : String) : Except UrlError Url :=
  match scheme? (clean text.toList) with
  | none => .error .noScheme
  | some (scheme, rest) =>
    if scheme = "file" then ofFile rest
    else if isSpecial scheme then withAuthority scheme (rest.dropWhile (isSlash true))
    else ofPlain scheme rest

/-! ## Writing -/

/-- The path and the query, as a request line carries them. -/
def target (url : Url) : String :=
  (match url.path with
    | .segments path => renderPath path
    | .rootless text => text)
    ++ (match url.query with
      | some query => "?" ++ query
      | none => "")

/-- The host and the port. -/
def renderAuthority (url : Url) : String :=
  (match url.host with
    | some host => "//" ++ host.render
    | none => if url.scheme = "file" then "//" else "")
    ++ (match url.port with
      | some port => ":" ++ toString port
      | none => "")

/-- An address as messages show it. -/
def render (url : Url) : String :=
  url.scheme ++ ":" ++ url.renderAuthority ++ url.target
    ++ (match url.fragment with
      | some fragment => "#" ++ fragment
      | none => "")

/-- Whether segments can be added to the path. -/
def hasPath (url : Url) : Bool :=
  match url.path with
  | .segments _ => true
  | .rootless _ => false

end Url

end CatalogBridge
