import NoteCheck.Note.Title
import NoteCheck.Value.Basic

/-!
# Notes as they are checked

A `Note` is known by its path below the vault. Its frontmatter is a map if it was read from a file;
the time of its last change is compared, but has no other meaning.
-/

namespace NoteCheck

/-- A note that can be checked. -/
structure Note where
  /-- The path below the vault. -/
  path : String
  mtime : Value
  frontmatter : Value
deriving Repr

/-- The title of a note. -/
def Note.title (n : Note) : String :=
  String.ofList (titleOf n.path.toList)

end NoteCheck
