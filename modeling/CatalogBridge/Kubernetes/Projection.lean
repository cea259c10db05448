import CatalogBridge.Kubernetes.Route
import CatalogBridge.Net.Address
import CatalogBridge.Notice

/-!
# Projection

What one catalog service turns into: a headless service and one slice. The port is the first
instance's; the slice has the address family of the first instance that has an address, and lists
the instances with an address of that family.
-/

namespace CatalogBridge

/-- The family of an instance's address: of either kind of number, or a name. -/
def AddressType.ofAddress (address : String) : AddressType :=
  match IpAddress.parse? address with
  | some (.v4 _) => .ipv4
  | some (.v6 _) => .ipv6
  | none => .fqdn

/-- The port of a service, if it is one. -/
def validatePort (service : String) (port : Int) : Except Error Int :=
  if 1 ≤ port ∧ port ≤ 65535 then .ok port
  else .error (.invalidService service ("port " ++ toString port ++ " is outside 1-65535"))

namespace EndpointSlice

/-- The address of the first instance that has one. -/
def firstAddress? (instances : List Instance) : Option String :=
  (instances.map (·.address)).find? (· ≠ "")

/-- Whether an instance is listed in a slice of a family. -/
def lists (family : AddressType) (member : Instance) : Bool :=
  member.address ≠ "" && AddressType.ofAddress member.address = family

/-- What there is to tell about an instance that a slice leaves out. -/
def omission? (service : String) (family : AddressType) (member : Instance) : Option Notice :=
  if member.address = "" then some (.withoutAddress service)
  else if AddressType.ofAddress member.address = family then none
  else some (.otherFamily service member.address (AddressType.ofAddress member.address) family)

/-- The slice of a service, with a notice for every instance left out. -/
def build (name namespaceName : String) (port : Int) (instances : List Instance) :
    Except Error (EndpointSlice × List Notice) :=
  match firstAddress? instances with
  | none => .error (.invalidService name "no instance has an address")
  | some first =>
    let family := AddressType.ofAddress first
    .ok (
      { metadata := ⟨some (Name.slice name), some namespaceName, Labels.managedSlice name⟩
        addressType := some family
        addresses := (instances.filter (lists family)).map (·.address)
        ports := [port] },
      instances.filterMap (omission? name family))

end EndpointSlice

/-- What one catalog service turns into, under one name and one port. -/
structure Projection where
  name : String
  port : Int
  service : ServiceObject
  slice : EndpointSlice
  deriving DecidableEq, Repr

namespace Projection

/-- The number of endpoints. -/
def endpoints (projection : Projection) : Nat := projection.slice.addresses.length

/-- The projection of a service, with the notices about its instances. -/
def build (state : ServiceState) (namespaceName : String) :
    Except Error (Projection × List Notice) :=
  let name := Name.sanitize state.name
  if name = "" then
    .error (.invalidService state.name "name has no characters valid in a Kubernetes name")
  else
    match state.instances with
    | [] => .error (.invalidService state.name "no healthy instances")
    | first :: _ => do
      let port ← validatePort state.name first.port
      let (slice, notices) ← EndpointSlice.build name namespaceName port state.instances
      return (⟨name, port, ServiceObject.build name namespaceName port, slice⟩, notices)

end Projection

end CatalogBridge
