import NoteCheck.Disk.Path
import NoteCheck.Disk.Tree
import NoteCheck.Fault

/-!
# Finding what a path names

`Tree.locate` looks a path up the way a file is opened: from left to right, following every symbolic
link on the way, and `..` leading to the directory above the one that was reached. It gives the
place of the entry. Too many links on the way are an error, so a loop of links ends in one.
-/

namespace NoteCheck

namespace Tree

/-- The directory that relative paths start from. -/
def workingPlace : Place := ["home"]

/-- The largest number of octets in a name. -/
def maxName : Nat := 255

/-- The largest number of octets in a path. -/
def maxPath : Nat := 4095

/-- The most links that are followed on the way. -/
def maxLinks : Nat := 40

/-- Looks up the pieces of a path from the directory at `here`. At a link the search goes on in
`follow`, from where the link's target starts. Unless `through` holds, a link at the very end is not
followed. -/
def locateVia (t : Tree) (through : Bool)
    (follow : Place → List String → Except AccessFault Place) :
    (here : Place) → List String → Except AccessFault Place
  | here, [] => .ok here
  | here, name :: rest =>
      if name = "" || name = "." then locateVia t through follow here rest
      else if name = ".." then locateVia t through follow here.dropLast rest
      else if maxName < name.utf8ByteSize then .error .tooLong
      else match t.at? (here ++ [name]) with
        | none => .error .missing
        | some (.dir _) => locateVia t through follow (here ++ [name]) rest
        | some (.file _ _) =>
            if rest.isEmpty then .ok (here ++ [name]) else .error .notDirectory
        | some (.link target) =>
            if rest.isEmpty && !through then .ok (here ++ [name])
            else follow (if Path.isAbsolute target then [] else here) (Path.pieces target ++ rest)

/-- Looks up the pieces of a path from a directory, following at most so many links. -/
def locateFrom (t : Tree) (through : Bool) : (links : Nat) → (here : Place) → List String →
    Except AccessFault Place
  | 0 => locateVia t through fun _ _ => .error .tooManyLinks
  | links + 1 => locateVia t through (locateFrom t through links)

/-- The place of what a path names. -/
def locate (t : Tree) (through : Bool) (path : String) : Except AccessFault Place :=
  if path.isEmpty then .error .missing
  else if maxPath < path.utf8ByteSize then .error .tooLong
  else locateFrom t through maxLinks (if Path.isAbsolute path then [] else workingPlace)
    (Path.pieces path)

/-- Whether a path names a directory. -/
def isDirectory (t : Tree) (path : String) : Bool :=
  match t.locate true path with
  | .ok place => (t.at? place).any Entry.isDir
  | .error _ => false

/-- The octets and the time of last change of the file that a path names. -/
def openFile (t : Tree) (path : String) : Except AccessFault (List UInt8 × Int) :=
  match t.locate true path with
  | .error cause => .error cause
  | .ok place =>
      match t.at? place with
      | some (.file octets mtime) => .ok (octets, mtime)
      | some (.dir _) => .error .isDirectory
      | _ => .error .missing

end Tree

end NoteCheck
