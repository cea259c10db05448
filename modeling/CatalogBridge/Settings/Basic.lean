import CatalogBridge.Error
import CatalogBridge.Duration.Basic
import CatalogBridge.Kubernetes.Route
import CatalogBridge.Net.Address
import CatalogBridge.Text.Blank

/-!
# Settings

Everything that a run of the program is set up with, what makes settings unusable, and the parts
of them that the catalog client and the routes take.
-/

namespace CatalogBridge

/-- The settings of a run. -/
structure Settings where
  catalogAddress : String
  token : Option String
  tag : String
  targetNamespace : String
  healthEndpoint : Endpoint
  resyncInterval : Duration
  routesEnabled : Bool
  domainSuffix : String
  internalGateway : String
  externalGateway : String
  gatewayNamespace : Option String
  gatewayListener : String
  internalTag : String
  externalTag : String

/-- What the catalog client is set up with. -/
structure CatalogSettings where
  address : String
  token : Option String
  /-- Only services with this tag are listed; all of them if it is empty. -/
  tag : String
  /-- How long a query waits for a change. -/
  wait : Duration
  /-- How long a request may take. -/
  requestTimeout : Duration

namespace CatalogSettings

/-- Queries wait five minutes, and requests may take six, so that it is the catalog that ends an
idle query. -/
def standard (address tag : String) : CatalogSettings :=
  ⟨address, none, tag, .ofSeconds 300, .ofSeconds 360⟩

end CatalogSettings

namespace Settings

/-- The first thing that makes the settings unusable. -/
def validate (settings : Settings) : Except Error Unit :=
  if blankText settings.catalogAddress then .error (.config "consul address is required")
  else if blankText settings.targetNamespace then
    .error (.config "target namespace must not be empty")
  else if settings.routesEnabled && blankText settings.domainSuffix then
    .error (.config "domain suffix must not be empty when httproutes are enabled")
  else .ok ()

/-- A text that is not empty. -/
def nonEmpty (text : Option String) : Option String := text.filter (· ≠ "")

/-- The catalog client's part. -/
def catalog (settings : Settings) : CatalogSettings :=
  { CatalogSettings.standard settings.catalogAddress settings.tag with
    token := nonEmpty settings.token }

/-- The routes' part. The gateways are in the target namespace unless another one is named. -/
def routes (settings : Settings) : RouteSettings where
  enabled := settings.routesEnabled
  domainSuffix := settings.domainSuffix
  gatewayNamespace := (nonEmpty settings.gatewayNamespace).getD settings.targetNamespace
  listener := settings.gatewayListener
  bindings :=
    [⟨settings.internalTag, settings.internalGateway⟩,
     ⟨settings.externalTag, settings.externalGateway⟩]

end Settings

end CatalogBridge
