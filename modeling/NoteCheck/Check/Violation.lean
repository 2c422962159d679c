import NoteCheck.Typing.PropertyType
import NoteCheck.Value.Same

/-!
# Checking frontmatter against a schema

A schema is a value; if it is a map, it declares the types of properties by name. `violations` lists
the properties of a frontmatter whose value does not conform to what is declared for it, in the
order of the frontmatter. Three properties are managed elsewhere and never checked.
-/

namespace NoteCheck

/-- A property whose value does not conform to its declared type. -/
structure Violation where
  property : Value
  /-- The declared type. -/
  expected : String
  /-- What the value looks like. -/
  actual : Shape
deriving Repr

/-- The sentence that reports a violation. -/
def Violation.message (v : Violation) : String :=
  "expected " ++ v.expected ++ ", got " ++ v.actual.name

/-- The properties that are never checked. -/
def exemptProperties : List String := ["position", "aliases", "tags"]

/-- Whether a property is never checked. -/
def isExempt : Value → Bool
  | .text name => exemptProperties.contains name
  | _ => false

/-- The type name that a schema declares for a property, unless it is empty or no text. -/
def declared? (schema property : Value) : Option String :=
  match Value.lookup property (schema.entries?.getD []) with
  | some (.text name) => if name.isEmpty then none else some name
  | _ => none

/-- Checks one property. What the value looks like is found out for every declared type, known or
not, and that can fail. -/
def checkProperty (schema property v : Value) : Except Fault (Option Violation) :=
  if isExempt property then .ok none
  else match declared? schema property with
    | none => .ok none
    | some expected => do
        let actual ← v.shape
        let conforming ← conforms v (.text expected)
        return if conforming then none else some ⟨property, expected, actual⟩

/-- The violations among the entries of a frontmatter. -/
def entryViolations (schema : Value) : List (Value × Value) → Except Fault (List Violation)
  | [] => .ok []
  | (property, v) :: entries => do
      let first ← checkProperty schema property v
      let rest ← entryViolations schema entries
      return first.toList ++ rest

/-- The violations of a frontmatter; one that is no map has none. -/
def violations (schema frontmatter : Value) : Except Fault (List Violation) :=
  entryViolations schema (frontmatter.entries?.getD [])

end NoteCheck
