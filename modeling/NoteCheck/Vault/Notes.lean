import NoteCheck.Disk.TextFile
import NoteCheck.Note.Basic
import NoteCheck.Note.Frontmatter
import NoteCheck.Vault.Listing

/-!
# Reading the notes of a vault

A note can be read if its path is named like that of a note and leads to a file in the vault that is
UTF-8. Whatever else fails in reading it comes from its frontmatter.
-/

namespace NoteCheck

/-- The properties of a note as a map. -/
def Properties.toValue (properties : Properties) : Value :=
  .map (properties.map fun (name, v) => (.text name, v))

/-- Reads the note at a path below the vault; none if it cannot be read. -/
def Disk.readNote (d : Disk) (path vault : String) : Except Fault (Option Note) :=
  if Vault.isNoteName path then do
    let (real, within) ← d.safePath path vault
    if !within then return none
    match d.tree.openFile real.text with
    | .error _ => return none
    | .ok (octets, mtime) =>
        match Text.Utf8.decode? octets with
        | none => return none
        | some cs =>
            let f ← Frontmatter.read (Text.unifyLines cs)
            return some ⟨path, .int mtime, f.properties.toValue⟩
  else return none

/-- Reads the notes at these paths, leaving out those that cannot be read. -/
def Disk.readNotes (d : Disk) (vault : String) : List String → Except Fault (List Note)
  | [] => return []
  | path :: paths => do
      let first ← d.readNote path vault
      let rest ← d.readNotes vault paths
      return first.toList ++ rest

/-- All notes of a vault, in the order of the listing. -/
def Disk.notes (d : Disk) (vault : String) : Except Fault (List Note) := do
  d.readNotes vault (← d.notePaths vault)

end NoteCheck
