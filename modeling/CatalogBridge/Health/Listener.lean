import CatalogBridge.Error
import CatalogBridge.Net.Address

/-!
# The health listener

Where the health server waits for requests. Any address can be listened on, but the low ports are
kept for privileged programs, and this one is none.
-/

namespace CatalogBridge.Health

/-- The first port that any program may listen on. -/
def firstFreePort : Nat := 1024

/-- Why an endpoint cannot be listened on, if it cannot. Port zero stands for any free port. -/
def refusal? (endpoint : Endpoint) : Option String :=
  if endpoint.port = 0 ∨ firstFreePort ≤ endpoint.port then none
  else some "Permission denied (os error 13)"

/-- The failure to listen on an endpoint. -/
def bindFailure (endpoint : Endpoint) (reason : String) : Error :=
  .internal "health" ("failed to bind " ++ endpoint.render ++ ": " ++ reason)

/-- Listen on an endpoint. -/
def listen (endpoint : Endpoint) : Except Error Unit :=
  match refusal? endpoint with
  | some reason => .error (bindFailure endpoint reason)
  | none => .ok ()

end CatalogBridge.Health
