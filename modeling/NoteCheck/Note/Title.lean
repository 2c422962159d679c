import NoteCheck.Text.Split

/-!
# The title of a note

A note is titled by the last name of its path without the extension. The extension begins at the
last point of the name; a name in which only points stand before that one has no extension.
-/

namespace NoteCheck.Note

open NoteCheck.Text

/-- A name without its extension. -/
def dropExtension (name : List Char) : List Char :=
  let before := ((name.reverse.dropWhile (· ≠ '.')).drop 1).reverse
  if before.all (· = '.') then name else before

/-- The title of the note at a path. -/
def titleOf (path : List Char) : List Char :=
  dropExtension (afterLast '/' path)

end NoteCheck.Note
