/-!
# Names of objects

How the name of a catalog service becomes the name of the objects made for it, and the fixed names
and labels that these objects carry.

`sanitize` keeps ASCII letters and digits, in lower case, and puts one hyphen between the runs
that it kept. What is left is at most 63 characters long and does not end in a hyphen.
-/

namespace CatalogBridge.Name

/-- The longest name of an object. -/
def maxLength : Nat := 63

/-- The character that stands for an ASCII letter or digit in a name, if the character is one. -/
def keep? (c : Char) : Option Char :=
  if 'a' ≤ c && c ≤ 'z' || '0' ≤ c && c ≤ '9' then some c
  else if 'A' ≤ c && c ≤ 'Z' then some (Char.ofNat (c.toNat + 32))
  else none

/-- The kept characters, with one hyphen in front of each that does not directly follow the one
kept before it; `gap` tells whether something was left out since then. -/
def squeeze : Bool → List Char → List Char
  | _, [] => []
  | gap, c :: rest =>
    match keep? c with
    | some kept => if gap then '-' :: kept :: squeeze false rest else kept :: squeeze false rest
    | none => squeeze true rest

/-- A text without the hyphens at its end. -/
def trimHyphens (text : List Char) : List Char := (text.reverse.dropWhile (· == '-')).reverse

/-- The characters of a sanitized name. -/
def sanitizeChars (text : List Char) : List Char :=
  trimHyphens ((squeeze false (text.dropWhile fun c => (keep? c).isNone)).take maxLength)

/-- The name of the objects made for a catalog service; empty if the service's name has no ASCII
letter or digit. -/
def sanitize (name : String) : String := String.ofList (sanitizeChars name.toList)

/-- What follows a service's name in the name of its endpoint slice. -/
def sliceSuffix : String := "-consul"

/-- The name of the endpoint slice of a service. -/
def slice (service : String) : String := service ++ sliceSuffix

/-- The name of the route of a service on a gateway. -/
def route (service gateway : String) : String := service ++ "-" ++ gateway

/-- The name of the one port of services and slices. -/
def port : String := "http"

/-- Who applies the objects, and the value of the marker that they carry. -/
def manager : String := "consul-sync"

/-- The label with the marker. -/
def managedByLabel : String := "app.kubernetes.io/managed-by"

/-- The label with the service's name. -/
def nameLabel : String := "app.kubernetes.io/name"

/-- The label that ties a slice to its service. -/
def serviceNameLabel : String := "kubernetes.io/service-name"

/-- The label that tells the cluster's own slice controller to leave a slice alone. -/
def sliceManagedByLabel : String := "endpointslice.kubernetes.io/managed-by"

/-- What selects the managed objects in a listing. -/
def managedSelector : String := managedByLabel ++ "=" ++ manager

theorem length_trimHyphens_le (text : List Char) : (trimHyphens text).length ≤ text.length := by
  have hdrop : (text.reverse.dropWhile (· == '-')).length ≤ text.reverse.length :=
    (List.dropWhile_sublist _).length_le
  simpa [trimHyphens] using hdrop

theorem length_sanitizeChars_le (text : List Char) : (sanitizeChars text).length ≤ maxLength :=
  Nat.le_trans (length_trimHyphens_le _) (List.length_take_le ..)

end CatalogBridge.Name
