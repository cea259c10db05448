import CatalogBridge.Net.Url
import CatalogBridge.Text.Quoted

/-!
# The way to the cluster

Where the API server listens, as the configuration file of a cluster's users says it. Connections
are plain, so only a server that is reached over plain connections, such as a local proxy, can be
used.
-/

namespace CatalogBridge.ClusterConfig

/-- The variable that names the configuration file. -/
def variableName : String := "KUBECONFIG"

/-- A text without blanks and quotes around it. -/
def strip (text : List Char) : List Char :=
  let isEdge (c : Char) : Bool := c = ' ' || c = '\t' || c = '\r' || c = '"' || c = '\x27'
  ((text.dropWhile isEdge).reverse.dropWhile isEdge).reverse

/-- The value in a line that sets a key. -/
def setting? (key : String) (line : String) : Option String :=
  let start := key.toList ++ [':']
  let line := strip line.toList
  let line := if line.take 2 = ['-', ' '] then strip (line.drop 2) else line
  if start.isPrefixOf line then some (String.ofList (strip (line.drop start.length))) else none

/-- The first server that a configuration names. -/
def server (text : String) : Except String Url :=
  match (text.splitOn "\n").findSome? (setting? "server") with
  | none => .error "no server in the configuration"
  | some address =>
    match Url.parse address with
    | .error cause =>
      .error ("invalid server address " ++ Quoted.quote address ++ ": " ++ cause.message)
    | .ok url =>
      if url.scheme = "http" then .ok url
      else .error ("server " ++ Quoted.quote address ++ " is not reached over a plain connection")

end CatalogBridge.ClusterConfig
