import CatalogBridge.Watch.Survey

/-!
# Scripts

A catalog that answers from a script: first listings, listings that wait for a change, and the
instances of each name, each answer with the time that it takes. An exhausted list of pages never
answers; the last instances of a name are given again and again, and a name without any has none.
-/

namespace CatalogBridge.Rehearsal

/-- What comes of a query: an answer, a failure, or a breakdown of whoever asked. -/
inductive Outcome (α : Type) where
  | answer (value : α)
  | failure (error : Error)
  | breakdown

/-- An outcome and how many milliseconds it takes. -/
structure Scripted (α : Type) where
  delay : Nat
  outcome : Outcome α

/-- The answers that are left. -/
structure Script where
  initial : List (Scripted CatalogPage)
  blocking : List (Scripted CatalogPage)
  instances : List (String × List (Scripted (List Instance)))

namespace Script

/-- The answer to a listing, if there is one, and the answers left after it. -/
def list (script : Script) (index : ChangeIndex) : Option (Scripted CatalogPage) × Script :=
  if index.isNone then (script.initial.head?, { script with initial := script.initial.tail })
  else (script.blocking.head?, { script with blocking := script.blocking.tail })

/-- The answers left after one; the last one stays. -/
def tailUnlessLast {α : Type} : List α → List α
  | _ :: second :: rest => second :: rest
  | last => last

/-- The answer to a health query, and the answers left after it. -/
def health (script : Script) (name : String) : Scripted (List Instance) × Script :=
  match script.instances.find? (·.1 = name) with
  | some (_, first :: _) =>
    (first, { script with
      instances := script.instances.map fun entry =>
        if entry.1 = name then (entry.1, tailUnlessLast entry.2) else entry })
  | _ => (⟨0, .answer []⟩, script)

end Script

/-- A query as a line: when it was asked and what was asked. -/
structure Asked where
  moment : Nat
  text : String

/-- A listing in a few words. -/
def listText (index : ChangeIndex) : String := "list " ++ index.render

/-- A health query in a few words. -/
def healthText (name : String) : String := "instances " ++ name

end CatalogBridge.Rehearsal
