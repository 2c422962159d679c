import NoteCheck.Text.Split
import NoteCheck.Value.KeyText
import NoteCheck.Yaml.Meaning

/-!
# The frontmatter of a note

A note may open with a *block* of properties: its first line begins with `---`, and the block ends
before the first later line that is `---` apart from blank margins. What follows that line is the
*body*, without the line feeds at its start.

`Frontmatter.read` gives the properties and the body. The block is YAML; if it is malformed or holds
something other than a mapping, the note has no properties and all of it is body. A block that holds
nothing gives no properties either, but is cut off.
-/

namespace NoteCheck

/-- The properties of a note, by name, in order. -/
abbrev Properties := List (String × Value)

/-- A note that has been read. -/
structure Frontmatter where
  properties : Properties
  body : List Char
deriving Repr

namespace Frontmatter

open NoteCheck.Text

/-- The three hyphens that delimit a block. -/
def fence : List Char := ['-', '-', '-']

/-- Whether a line ends a block. -/
def isFence (line : List Char) : Bool :=
  trim line = fence

/-- The lines before the first one that ends a block, and those after it. -/
def cutAtFence? : List (List Char) → Option (List (List Char) × List (List Char))
  | [] => none
  | line :: lines =>
      if isFence line then some ([], lines)
      else (cutAtFence? lines).map fun (before, after) => (line :: before, after)

/-- The block at the start of a note and the body behind it, if there is a block. -/
def cutBlock? (content : List Char) : Option (List Char × List Char) :=
  if startsWith fence content then
    (cutAtFence? (cut '\n' content).tail).map fun (block, after) =>
      (join ['\n'] block, (join ['\n'] after).dropWhile (· = '\n'))
  else none

/-- A day or a moment as its text, and any other value as it is. -/
def asWritten : Value → Value
  | .date d => .text (String.ofList d.text)
  | .timestamp t => .text (String.ofList (t.text 'T'))
  | v => v

/-- Sets the value of a name: in place if the name is there, else at the end. -/
def setProperty (name : String) (v : Value) : Properties → Properties
  | [] => [(name, v)]
  | (n, w) :: rest => if n = name then (n, v) :: rest else (n, w) :: setProperty name v rest

/-- The properties that the entries of a mapping give. Of two entries with the same name the later
one counts, in the place of the first. -/
def ofEntries (entries : List (Value × Value)) : Except Fault Properties :=
  entries.foldlM (fun found (key, v) => do
    return setProperty (← key.keyText) (asWritten v) found) []

/-- The properties that a block holds, if it is a mapping or nothing. -/
def ofBlock? (block : List Char) : Except Fault (Option Properties) :=
  match Yaml.load block with
  | .ok (.entries es) => (ofEntries es).map some
  | .ok (.other v) => .ok (if v.isEmptyLike then some [] else none)
  | .error (.fault cause) => .error cause
  | .error .malformed => .ok none

/-- Reads a note. -/
def read (content : List Char) : Except Fault Frontmatter :=
  match cutBlock? content with
  | none => .ok ⟨[], content⟩
  | some (block, body) => do
      match ← ofBlock? block with
      | some properties => return ⟨properties, body⟩
      | none => return ⟨[], content⟩

end Frontmatter

end NoteCheck
