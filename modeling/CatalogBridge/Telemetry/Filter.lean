import CatalogBridge.Number.Numeral
import CatalogBridge.Telemetry.Basic

/-!
# Filters

Which notices are written. A filter is a list of directives between commas: a level for
everything, or a source, with or without a level, for what comes from there. Of the directives
that concern a notice the one with the longest source decides, and of two with the same source the
later one; a notice that none concerns is not written. A text that is no filter counts as the
filter for all runs that ask for none.
-/

namespace CatalogBridge.Telemetry

/-- How detailed the notices are that a directive lets through: none, errors, warnings, notes, and
details of two degrees. -/
abbrev Detail := Nat

/-- How detailed a notice is. -/
def detailOf : Level → Detail
  | .error => 1
  | .warn => 2
  | .info => 3

/-- A directive: what comes from a source is written up to a degree of detail. -/
structure Directive where
  source : List Char
  detail : Detail
  deriving DecidableEq, Repr

namespace Directive

/-- The words for degrees of detail. -/
def words : List (String × Detail) :=
  [("off", 0), ("error", 1), ("warn", 2), ("info", 3), ("debug", 4), ("trace", 5),
   ("0", 0), ("1", 1), ("2", 2), ("3", 3), ("4", 4), ("5", 5)]

/-- The degree of detail that a word stands for, in letters of any case. -/
def detail? (word : List Char) : Option Detail :=
  words.lookup (String.ofList (word.map Char.toLower))

/-- What sources are made of. -/
def isSourceChar (c : Char) : Bool := c.isAlphanum || c = '_' || c = ':' || c = '-'

/-- The directive that a text denotes. A source without a level lets everything through. -/
def parse? (text : List Char) : Option Directive :=
  match detail? text with
  | some detail => some ⟨[], detail⟩
  | none =>
    let source := text.takeWhile (· ≠ '=')
    if source.isEmpty || !source.all isSourceChar then none
    else
      match text.dropWhile (· ≠ '=') with
      | [] | ['='] => some ⟨source, 5⟩
      | _ :: word => (detail? word).map fun detail => ⟨source, detail⟩

/-- Whether a directive concerns a source. -/
def concerns (directive : Directive) (source : List Char) : Bool :=
  directive.source.isPrefixOf source

end Directive

/-- Directives, in the order in which they were given. -/
abbrev Filter := List Directive

namespace Filter

/-- The pieces of a text between commas that are not empty. -/
def pieces : List Char → List (List Char)
  | [] => []
  | c :: rest =>
    if c = ',' then pieces rest
    else
      match rest, pieces rest with
      | next :: _, piece :: others =>
        if next = ',' then [c] :: piece :: others else (c :: piece) :: others
      | _, others => [c] :: others

/-- The filter that a text denotes. No directive at all lets errors through. -/
def parse? (text : String) : Option Filter := do
  let directives ← (pieces text.toList).mapM Directive.parse?
  return if directives.isEmpty then [⟨[], 1⟩] else directives

/-- The filter of runs that ask for none: all but the details, and of the network layers
only what is wrong. -/
def standardText : String := "info,consul_sync=info,kube=info,tower=warn,hyper=warn"

/-- The same filter as directives. -/
def standard : Filter := (parse? standardText).getD []

/-- The filter that an environment asks for. -/
def ofEnvironment (environment : String → Option String) : Filter :=
  ((environment "RUST_LOG").bind parse?).getD standard

/-- The directive that decides about a source: the longest one, and of two as long the later one. -/
def decisive? (filter : Filter) (source : List Char) : Option Directive :=
  (filter.filter (·.concerns source)).foldl (fun best directive =>
    match best with
    | some kept =>
      if directive.source.length < kept.source.length then some kept else some directive
    | none => some directive) none

/-- Whether a notice is written. -/
def allows (filter : Filter) (notice : Notice) : Bool :=
  match filter.decisive? (source notice.origin).toList with
  | some directive => detailOf notice.level ≤ directive.detail
  | none => false

end Filter

end CatalogBridge.Telemetry
