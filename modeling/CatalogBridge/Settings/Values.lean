import CatalogBridge.Net.Address
import CatalogBridge.Text.Blank
import CatalogBridge.Text.Quoted

/-!
# Values of settings

The texts that settings accept beside plain text and durations: listen addresses and truth values.
-/

namespace CatalogBridge.Settings

/-- The full form of a listen address: a port alone stands for all interfaces. -/
def fullAddress (text : List Char) : List Char :=
  if text.head? = some ':' then ['0', '.', '0', '.', '0', '.', '0'] ++ text else text

/-- The endpoint that a listen address denotes, or the text of the refusal. -/
def parseListenAddress (text : String) : Except String Endpoint :=
  let address := trim text.toList
  match Endpoint.parse? (fullAddress address) with
  | some endpoint => .ok endpoint
  | none =>
    .error ("invalid listen address " ++ Quoted.quote (String.ofList address)
      ++ ": invalid socket address syntax")

/-- The words for yes. -/
def affirmatives : List String := ["y", "yes", "t", "true", "on", "1"]

/-- The words for no. -/
def negatives : List String := ["n", "no", "f", "false", "off", "0"]

/-- The truth value that a word denotes, in letters of any case, or the text of the refusal. -/
def parseTruth (text : String) : Except String Bool :=
  let word := String.ofList (text.toList.map Char.toLower)
  if affirmatives.contains word then .ok true
  else if negatives.contains word then .ok false
  else .error "value was not a boolean"

end CatalogBridge.Settings
