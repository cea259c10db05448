import CatalogBridge.Error
import Mathlib.Data.List.Infix

/-!
# What the text of a failure tells

A failure may hold others: the one below a failure to apply or delete an object, and all
those of a cycle.  The text of a failure is the one line that is reported of all of them.

* `Mentions` says that a text holds another, and `Error.Within` that a failure is held by
  another, at any depth. `mentions_message_of_within` says that the text of a failure
  holds the texts of all failures within it.
* `message_sync` is the text of several failures: their number, and their texts in order.
* `Error.Tells` is what a text has to say about a failure, and `tells_of_within` says that
  the text of a failure says it about every failure within it.
-/

namespace CatalogBridge

/-! ## Texts that hold others -/

/-- The text holds the other one. -/
def Mentions (text part : String) : Prop := part.toList <:+: text.toList

instance (text part : String) : Decidable (Mentions text part) :=
  inferInstanceAs (Decidable (part.toList <:+: text.toList))

namespace Mentions

variable {text part other front back : String}

theorem refl (text : String) : Mentions text text := List.infix_rfl

theorem trans (h : Mentions text part) (hpart : Mentions part other) : Mentions text other :=
  List.IsInfix.trans hpart h

theorem of_append_right (h : Mentions part other) : Mentions (front ++ part) other := by
  refine trans ?_ h
  rw [Mentions, String.toList_append]
  exact (List.suffix_append _ _).isInfix

theorem of_append_left (h : Mentions part other) : Mentions (part ++ back) other := by
  refine trans ?_ h
  rw [Mentions, String.toList_append]
  exact (List.prefix_append _ _).isInfix

/-- Texts with separators between them are all held. -/
theorem of_mem_intercalate {separator : String} {parts : List String} (h : part ∈ parts) :
    Mentions (separator.intercalate parts) part := by
  induction parts with
  | nil => cases h
  | cons first rest ih =>
    cases rest with
    | nil =>
      obtain rfl := List.mem_singleton.1 h
      rw [String.intercalate_singleton]
      exact refl part
    | cons second others =>
      rw [String.intercalate_cons_cons]
      rcases List.mem_cons.1 h with rfl | hrest
      · exact (refl part).of_append_left.of_append_left
      · exact (ih hrest).of_append_right

end Mentions

namespace Error

/-! ## Failures within failures -/

/-- A failure is held by another, at any depth. -/
inductive Within (inner : Error) : Error → Prop
  | here : Within inner inner
  | apply {kind : Kind} {name : String} {source : Error} (h : Within inner source) :
      Within inner (.apply kind name source)
  | delete {kind : Kind} {name : String} {source : Error} (h : Within inner source) :
      Within inner (.delete kind name source)
  | sync {errors : List Error} {entry : Error} (hentry : entry ∈ errors)
      (h : Within inner entry) : Within inner (.sync errors)

variable {inner outer : Error}

/-- The failure at the bottom of failures to apply or delete an object. -/
def innermost : Error → Error
  | .apply _ _ source => source.innermost
  | .delete _ _ source => source.innermost
  | error => error

theorem within_innermost : ∀ error : Error, Within error.innermost error
  | .apply _ _ source => .apply (within_innermost source)
  | .delete _ _ source => .delete (within_innermost source)
  | .kube _ | .registry _ _ | .invalidService _ _ | .sync _ | .config _ | .internal _ _ => .here

/-! ## Texts of failures -/

theorem message_kube (failure : ApiFailure) :
    (Error.kube failure).message = "kubernetes error: " ++ failure.message := rfl

theorem message_apply (kind : Kind) (name : String) (source : Error) :
    (Error.apply kind name source).message
      = "applying " ++ kind.name ++ " " ++ name ++ ": " ++ source.message := rfl

theorem message_delete (kind : Kind) (name : String) (source : Error) :
    (Error.delete kind name source).message
      = "deleting " ++ kind.name ++ " " ++ name ++ ": " ++ source.message := rfl

theorem messages_cons (error : Error) (rest : List Error) :
    messages (error :: rest) = error.message ++ moreMessages rest := rfl

theorem moreMessages_cons (error : Error) (rest : List Error) :
    moreMessages (error :: rest) = "; " ++ error.message ++ moreMessages rest := rfl

theorem messages_eq (errors : List Error) :
    messages errors = "; ".intercalate (errors.map message) := by
  cases errors with
  | nil => rfl
  | cons error rest =>
    induction rest generalizing error with
    | nil => exact String.append_empty
    | cons next others ih =>
      rw [messages_cons, moreMessages_cons, List.map_cons, List.map_cons,
        String.intercalate_cons_cons, ← List.map_cons, ← ih, messages_cons, String.append_assoc,
        String.append_assoc]

/-- The text of several failures is their number and their texts in order. -/
theorem message_sync (errors : List Error) : (Error.sync errors).message
    = "sync finished with " ++ toString errors.length ++ " error(s): "
      ++ "; ".intercalate (errors.map message) := by
  rw [← messages_eq]
  rfl

/-- The text of a failure holds the texts of all failures within it. -/
theorem mentions_message_of_within (h : Within inner outer) :
    Mentions outer.message inner.message := by
  induction h with
  | here => exact .refl _
  | apply _ ih =>
    rw [message_apply]
    exact ih.of_append_right
  | delete _ ih =>
    rw [message_delete]
    exact ih.of_append_right
  | sync hentry _ ih =>
    have hmem := List.mem_map_of_mem (f := message) hentry
    rw [message_sync]
    exact (Mentions.of_mem_intercalate hmem).of_append_right.trans ih

/-- What a text has to say about a failure. -/
structure Tells (text : String) (error : Error) : Prop where
  message : Mentions text error.message
  /-- Which object could not be applied. -/
  applied : ∀ kind name source, error = .apply kind name source →
    Mentions text ("applying " ++ kind.name ++ " " ++ name)
  /-- Which object could not be deleted. -/
  deleted : ∀ kind name source, error = .delete kind name source →
    Mentions text ("deleting " ++ kind.name ++ " " ++ name)
  /-- What is below the failure. -/
  source : ∀ cause, error.sourceMessage = some cause → Mentions text cause
  /-- What is at the bottom of it. -/
  innermost : Mentions text error.innermost.message

/-- A text that holds that of a failure says everything about the failure. -/
theorem tells_of_mentions {text : String} {error : Error} (h : Mentions text error.message) :
    Tells text error where
  message := h
  applied kind name source herror := by
    rw [herror, message_apply] at h
    exact h.trans (Mentions.refl _).of_append_left.of_append_left
  deleted kind name source herror := by
    rw [herror, message_delete] at h
    exact h.trans (Mentions.refl _).of_append_left.of_append_left
  source cause hcause := by
    have hsource : Mentions error.message cause := by
      cases error with
      | kube failure =>
        obtain rfl := Option.some.inj hcause
        rw [message_kube]
        exact (Mentions.refl _).of_append_right
      | apply kind name source =>
        obtain rfl := Option.some.inj hcause
        rw [message_apply]
        exact (Mentions.refl _).of_append_right
      | delete kind name source =>
        obtain rfl := Option.some.inj hcause
        rw [message_delete]
        exact (Mentions.refl _).of_append_right
      | _ => cases hcause
    exact h.trans hsource
  innermost := h.trans (mentions_message_of_within (within_innermost error))

/-- The text of a failure says everything about every failure within it. -/
theorem tells_of_within (h : Within inner outer) : Tells outer.message inner :=
  tells_of_mentions (mentions_message_of_within h)

end Error

end CatalogBridge
