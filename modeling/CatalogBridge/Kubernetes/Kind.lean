/-!
# Kinds of objects

The three kinds of objects that one catalog service turns into.
-/

namespace CatalogBridge

/-- A kind of object that is applied, listed and deleted. -/
inductive Kind where
  | service
  | endpointSlice
  | httpRoute
  deriving DecidableEq, Repr

/-- The kind as documents and messages name it. -/
def Kind.name : Kind → String
  | .service => "Service"
  | .endpointSlice => "EndpointSlice"
  | .httpRoute => "HTTPRoute"

end CatalogBridge
