import CatalogBridge.Kubernetes.Kind
import CatalogBridge.Text.Quoted

/-!
# Failures

What can go wrong, by cause, and the one text that each cause is reported with. A failure to apply
or delete an object carries the failure below it, and the failures of one cycle are kept together
in the order in which they happened, so a report reads as a list of things to mend.
-/

namespace CatalogBridge

/-- The status document with which the cluster refuses a request. -/
structure ApiStatus where
  status : String
  message : String
  reason : String
  code : Nat
  deriving DecidableEq, Repr

/-- Why a request to the cluster gave no answer that could be used. -/
inductive ApiFailure where
  /-- The cluster answered with a status document. -/
  | refused (status : ApiStatus)
  /-- The answer could not be read. -/
  | undecodable
  /-- There was no answer. -/
  | unreachable
  /-- The request could not be sent at all. -/
  | unsendable
  deriving DecidableEq, Repr

/-- The text of a failed request. -/
def ApiFailure.message : ApiFailure → String
  | .refused status =>
    "ApiError: " ++ status.message ++ ": " ++ status.reason ++ " (ErrorResponse \x7b status: "
      ++ Quoted.quote status.status ++ ", message: " ++ Quoted.quote status.message ++ ", reason: "
      ++ Quoted.quote status.reason ++ ", code: " ++ toString status.code ++ " \x7d)"
  | .undecodable => "Error deserializing response"
  | .unreachable => "ServiceError: client error (Connect)"
  | .unsendable => "failed to build request"

/-- A failure, by its cause. -/
inductive Error where
  /-- The cluster did not do what it was asked. -/
  | kube (failure : ApiFailure)
  /-- The catalog did not answer, refused, or answered with something unreadable. -/
  | registry (message : String) (service : Option String)
  /-- A catalog service cannot be projected. -/
  | invalidService (service message : String)
  /-- One object could not be applied. -/
  | apply (kind : Kind) (name : String) (source : Error)
  /-- One object could not be deleted. -/
  | delete (kind : Kind) (name : String) (source : Error)
  /-- What failed in one cycle, in order. -/
  | sync (errors : List Error)
  /-- The settings make no sense. -/
  | config (message : String)
  /-- Something that should not happen. -/
  | internal (context message : String)
  deriving Repr

namespace Error

/-- The service that a registry failure concerns, in brackets. -/
def bracketed : Option String → String
  | some service => " [" ++ service ++ "]"
  | none => ""

mutual

/-- The text of a failure. -/
def message : Error → String
  | .kube failure => "kubernetes error: " ++ failure.message
  | .registry message service => "consul unavailable" ++ bracketed service ++ ": " ++ message
  | .invalidService service message => "invalid service data for " ++ service ++ ": " ++ message
  | .apply kind name source => "applying " ++ kind.name ++ " " ++ name ++ ": " ++ source.message
  | .delete kind name source => "deleting " ++ kind.name ++ " " ++ name ++ ": " ++ source.message
  | .sync errors =>
    "sync finished with " ++ toString errors.length ++ " error(s): " ++ messages errors
  | .config message => "configuration error: " ++ message
  | .internal context message => "internal error [" ++ context ++ "]: " ++ message

/-- The texts of several failures, with semicolons between them. -/
def messages : List Error → String
  | [] => ""
  | error :: rest => error.message ++ moreMessages rest

/-- The texts after the first. -/
def moreMessages : List Error → String
  | [] => ""
  | error :: rest => "; " ++ error.message ++ moreMessages rest

end

/-- The failures of a cycle as one, or none if nothing failed. -/
def join (errors : List Error) : Option Error :=
  if errors.isEmpty then none else some (.sync errors)

@[simp] theorem join_eq_none_iff {errors : List Error} : join errors = none ↔ errors = [] := by
  cases errors <;> simp [join]

/-- The context of an internal failure that names none. -/
def unknownContext : String := "unknown"

/-- Whether the cluster said that the object does not exist. -/
def isNotFound : Error → Bool
  | .kube (.refused status) => status.code == 404
  | _ => false

/-- The text of the failure below this one. -/
def sourceMessage : Error → Option String
  | .kube failure => some failure.message
  | .apply _ _ source => some source.message
  | .delete _ _ source => some source.message
  | _ => none

end Error

end CatalogBridge
