import NoteCheck.Typing.PropertyType

/-!
# Listing what a schema declares

Each entry of a schema becomes a `Declaration`, which tells whether the property is managed by the
host application and whether its declared type is one that is enforced.
-/

namespace NoteCheck

/-- One line of the listing of a schema. -/
structure Declaration where
  property : Value
  declared : Value
  /-- Whether the host application manages the property. -/
  builtin : Bool
  /-- Whether the declared type has a rule. -/
  known : Bool
deriving Repr

/-- Whether the host application manages a property. -/
def isBuiltin : Value → Bool
  | .text name => name == "aliases" || name == "tags"
  | _ => false

/-- The listing of a schema. -/
def declarations (entries : List (Value × Value)) : List Declaration :=
  entries.map fun (property, declared) =>
    ⟨property, declared, isBuiltin property, (PropertyType.ofValue? declared).isSome⟩

end NoteCheck
