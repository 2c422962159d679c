import NoteCheck.Json.File
import NoteCheck.Vault.Basic

/-!
# Loading the schema of a vault

The schema is the member `types` of a data file in the vault's configuration directory. Without that
file, or if the member is no map, nothing is declared; nor if the file cannot be read, which is
reported.
-/

namespace NoteCheck

/-- The entries of a schema. -/
abbrev SchemaEntries := List (Value × Value)

/-- The schema that a data file's value holds. -/
def schemaOf (data : Value) : SchemaEntries :=
  match (data.entries?.bind (Value.lookup (.text "types"))).bind Value.entries? with
  | some entries => entries
  | none => []

/-- A schema that has been loaded, and why it could not be read if so. -/
structure LoadedSchema where
  entries : SchemaEntries
  unread : Option DataFault := none

/-- Loads the schema of a vault. A numeral that is too long and a character zero in the path are not
absorbed. -/
def Disk.loadSchema (d : Disk) (vault : String) : Except Fault LoadedSchema :=
  match d.tree.readData (d.typesFile vault) with
  | .ok data => .ok ⟨schemaOf data, none⟩
  | .error .absent => .ok ⟨[], none⟩
  | .error .malformed => .ok ⟨[], some .malformed⟩
  | .error (.other (.access cause)) => .ok ⟨[], some (.other (.access cause))⟩
  | .error (.other .notUtf8) => .ok ⟨[], some (.other .notUtf8)⟩
  | .error (.other cause) => .error cause

end NoteCheck
