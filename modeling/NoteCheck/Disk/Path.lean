import NoteCheck.Text.Blank
import NoteCheck.Text.Split

/-!
# Paths as texts

A path is cut at its slashes; an empty piece at the start makes it absolute. `join` puts one
path behind another, unless the other is absolute.
-/

namespace NoteCheck.Path

/-- Whether a path starts at the root. -/
def isAbsolute (path : String) : Bool :=
  path.toList.head? = some '/'

/-- The pieces of a path between its slashes. -/
def pieces (path : String) : List String :=
  (Text.cut '/' path.toList).map String.ofList

/-- One path behind another, with one slash between them. -/
def join (path below : String) : String :=
  if isAbsolute below then below
  else if path.isEmpty || path.toList.getLast? = some '/' then path ++ below
  else path ++ "/" ++ below

/-- The path without its last name, and without the slashes before that. -/
def parent (path : String) : String :=
  let cs := path.toList
  let head := (cs.reverse.dropWhile (· ≠ '/')).reverse
  String.ofList (if head.all (· = '/') then head else Text.dropTail (· = '/') head)

/-- The last name of a path. -/
def lastName (path : String) : String :=
  String.ofList (Text.afterLast '/' path.toList)

end NoteCheck.Path
