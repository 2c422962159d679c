import NoteCheck.Disk.Locate

/-!
# Changing a tree

Files are written, touched, removed and renamed, and directories and links are made, by path. An
operation that fails changes nothing.
-/

namespace NoteCheck.Tree

/-- Makes the directories that pieces of a path name, as far as they are not there, and gives the
place of the last one. -/
def makeDirsFrom : (t : Tree) → (here : Place) → List String → Except AccessFault (Tree × Place)
  | t, here, [] => .ok (t, here)
  | t, here, name :: rest =>
      if name = "" || name = "." then makeDirsFrom t here rest
      else if name = ".." then makeDirsFrom t here.dropLast rest
      else if maxName < name.utf8ByteSize then .error .tooLong
      else
        let place := here ++ [name]
        match t.at? place with
        | none =>
            if (t.at? here).any Entry.isDir then
              makeDirsFrom (t.set (some (.dir [])) place) place rest
            else .error .missing
        | some (.dir _) => makeDirsFrom t place rest
        | some (.file _ _) => .error (if rest.isEmpty then .occupied else .notDirectory)
        | some (.link _) =>
            match t.locateFrom true maxLinks here [name] with
            | .ok real =>
                if (t.at? real).any Entry.isDir then makeDirsFrom t real rest
                else .error (if rest.isEmpty then .occupied else .notDirectory)
            | .error cause => .error (if rest.isEmpty then .occupied else cause)

/-- Makes the directories on a path, as far as they are not there, and gives the place of the last
one. -/
def makeDirs (t : Tree) (path : String) : Except AccessFault (Tree × Place) :=
  makeDirsFrom t (if Path.isAbsolute path then [] else workingPlace) (Path.pieces path)

/-- Looks up the pieces of a path that is written to, from the directory at `here`. Unlike in `locate`
the last name need not be there, and the path may not end at a directory, nor in a slash. -/
def writePlaceVia (t : Tree) (follow : Place → List String → Except AccessFault Place) :
    (here : Place) → List String → Except AccessFault Place
  | _, [] => .error .isDirectory
  | here, name :: rest =>
      if name = "" || name = "." then writePlaceVia t follow here rest
      else if name = ".." then writePlaceVia t follow here.dropLast rest
      else if maxName < name.utf8ByteSize then .error .tooLong
      else match t.at? (here ++ [name]) with
        | none =>
            if !(t.at? here).any Entry.isDir || rest.any (· ≠ "") then .error .missing
            else if rest.isEmpty then .ok (here ++ [name])
            else .error .isDirectory
        | some (.dir _) => writePlaceVia t follow (here ++ [name]) rest
        | some (.file _ _) =>
            if rest.isEmpty then .ok (here ++ [name])
            else .error (if rest.all (· = "") then .isDirectory else .notDirectory)
        | some (.link target) =>
            follow (if Path.isAbsolute target then [] else here) (Path.pieces target ++ rest)

/-- Looks up the pieces of a path that is written to, following at most so many links. -/
def writePlaceFrom (t : Tree) : (links : Nat) → (here : Place) → List String →
    Except AccessFault Place
  | 0 => writePlaceVia t fun _ _ => .error .tooManyLinks
  | links + 1 => writePlaceVia t (writePlaceFrom t links)

/-- The place that is written to by a path: where its links lead, there or not. -/
def writePlace (t : Tree) (path : String) : Except AccessFault Place :=
  if path.isEmpty then .error .missing
  else if maxPath < path.utf8ByteSize then .error .tooLong
  else writePlaceFrom t maxLinks (if Path.isAbsolute path then [] else workingPlace)
    (Path.pieces path)

/-- Writes a file, and makes the directories on its path. -/
def write (path : String) (octets : List UInt8) (mtime : Int) (t : Tree) :
    Except AccessFault Tree := do
  let (t, _) ← t.makeDirs (Path.parent path)
  let place ← t.writePlace path
  return t.set (some (.file octets mtime)) place

/-- Sets the time of last change of a file. -/
def touch (path : String) (mtime : Int) (t : Tree) : Except AccessFault Tree := do
  let place ← t.locate true path
  match t.at? place with
  | some (.file octets _) => return t.set (some (.file octets mtime)) place
  | _ => return t

/-- Removes a file, a link or a directory with all it holds. -/
def remove (path : String) (t : Tree) : Except AccessFault Tree := do
  let place ← t.locate false path
  return t.set none place

/-- Makes a directory, and those on its path. -/
def makeDir (path : String) (t : Tree) : Except AccessFault Tree := do
  return (← t.makeDirs path).1

/-- Makes a symbolic link, and the directories on its path. -/
def makeLink (path target : String) (t : Tree) : Except AccessFault Tree := do
  let (t, dir) ← t.makeDirs (Path.parent path)
  let place := dir ++ [Path.lastName path]
  match t.at? place with
  | some _ => .error .occupied
  | none => return t.set (some (.link target)) place

/-- Gives an entry another path, in place of a file that has it. -/
def rename (path target : String) (t : Tree) : Except AccessFault Tree := do
  let source ← t.locate false path
  let parent := Path.parent target
  let dir ← t.locate true (if parent.isEmpty then "." else parent)
  let place := dir ++ [Path.lastName target]
  match t.at? source, t.at? place with
  | none, _ => .error .missing
  | some e, none => return (t.set none source).set (some e) place
  | some (.dir _), some (.dir (_ :: _)) => .error .occupied
  | some (.dir cs), some (.dir []) => return (t.set none source).set (some (.dir cs)) place
  | some (.dir _), some _ => .error .notDirectory
  | some _, some (.dir _) => .error .isDirectory
  | some e, some _ => return (t.set none source).set (some e) place

end NoteCheck.Tree
