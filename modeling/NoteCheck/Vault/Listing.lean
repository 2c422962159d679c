import NoteCheck.Vault.Basic

/-!
# The notes of a vault

The listing of a vault holds the paths of all entries that are not directories and are named like
notes. It goes down into every directory that is no symbolic link and not hidden by a point at the
start of its name. A link to a directory is neither listed nor entered; any other link is listed.

In each directory the notes come first, then the directories, both in the order of their names.
-/

namespace NoteCheck.Vault

/-- Whether a name or path is that of a note. -/
def isNoteName (name : String) : Bool :=
  name.endsWith ".md"

/-- Whether a directory is hidden. -/
def isHidden (name : String) : Bool :=
  name.startsWith "."

/-- Whether a child of the directory at `here` is a directory, perhaps through a link. -/
def leadsToDir (t : Tree) (here : Place) (name : String) : Entry → Bool
  | .file _ _ => false
  | .dir _ => true
  | .link _ =>
      match t.locateFrom true Tree.maxLinks here [name] with
      | .ok place => (t.at? place).any Entry.isDir
      | .error _ => false

/-- The names of the notes that lie directly in a directory, in order. -/
def noteNames (t : Tree) (here : Place) (children : List (String × Entry)) : List String :=
  ((children.filter fun (name, e) => isNoteName name && !leadsToDir t here name e).map
    (·.1)).mergeSort fun a b => a ≤ b

mutual

/-- The paths of the notes in a directory and below. -/
def notesIn (t : Tree) (here : Place) : Entry → List String
  | .dir children =>
      let below := (notesBelow t here children).mergeSort fun a b => a.1 ≤ b.1
      noteNames t here children ++
        below.flatMap fun (name, paths) => paths.map fun path => name ++ "/" ++ path
  | .file _ _ => []
  | .link _ => []

/-- The directories among the children of a directory that are entered, each with the paths of the
notes in it. -/
def notesBelow (t : Tree) (here : Place) : List (String × Entry) → List (String × List String)
  | [] => []
  | (name, e) :: rest =>
      let others := notesBelow t here rest
      if e.isDir && !isHidden name then (name, notesIn t (here ++ [name]) e) :: others else others

end

end Vault

/-- The paths of the notes of a vault, in order; none if the vault is not there. -/
def Disk.notePaths (d : Disk) (vault : String) : Except Fault (List String) :=
  let dir := d.vaultDir vault
  if dir.toList.contains '\x00' then .error .zeroInPath
  else match d.tree.locate true dir with
    | .error _ => .ok []
    | .ok place =>
        match d.tree.at? place with
        | some e => .ok (Vault.notesIn d.tree place e)
        | none => .ok []

end NoteCheck
