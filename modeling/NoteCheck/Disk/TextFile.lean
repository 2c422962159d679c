import NoteCheck.Disk.Locate
import NoteCheck.Text.Utf8

/-!
# Reading text files

A text file is UTF-8, and its line ends read as line feeds.
-/

namespace NoteCheck.Tree

open NoteCheck.Text

/-- The text of the file that a path names. -/
def readText (t : Tree) (path : String) : Except Fault (List Char) :=
  if path.toList.contains '\x00' then .error .zeroInPath
  else match t.openFile path with
    | .error cause => .error (.access cause)
    | .ok (octets, _) =>
        match Utf8.decode? octets with
        | some cs => .ok (unifyLines cs)
        | none => .error .notUtf8

end NoteCheck.Tree
