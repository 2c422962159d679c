/-!
# Trees of files, directories and symbolic links

A `Tree` is what the root directory holds. The children of a directory come in no particular order,
and nothing that is said of a tree depends on their order.

A *place* is a list of names from the root. It names an entry directly: no name of it is looked up
through a symbolic link, and `.` and `..` have no meaning in it.
-/

namespace NoteCheck

/-- Something in a directory. -/
inductive Entry where
  /-- A file and the time of its last change. -/
  | file (octets : List UInt8) (mtime : Int)
  /-- A symbolic link to a path. -/
  | link (target : String)
  | dir (children : List (String × Entry))
deriving Repr, Inhabited

/-- The children of the root directory. -/
abbrev Tree := List (String × Entry)

/-- The names from the root to an entry. -/
abbrev Place := List String

namespace Entry

/-- Whether an entry is a directory. -/
def isDir : Entry → Bool
  | dir _ => true
  | _ => false

/-- What a directory holds; nothing for other entries. -/
def children : Entry → List (String × Entry)
  | dir cs => cs
  | _ => []

end Entry

namespace Tree

/-- The child of a name. -/
def child? (t : Tree) (name : String) : Option Entry :=
  (t.find? (·.1 = name)).map (·.2)

/-- The entry at a place. -/
def at? (t : Tree) : Place → Option Entry
  | [] => some (.dir t)
  | [name] => t.child? name
  | name :: rest =>
      match t.child? name with
      | some (.dir children) => at? children rest
      | _ => none

/-- Replaces the child of a name, or adds or removes it. -/
def setChild (name : String) (e : Option Entry) (t : Tree) : Tree :=
  t.filter (·.1 ≠ name) ++ (e.map fun e => (name, e)).toList

/-- Replaces, adds or removes the entry at a place; nothing happens if its directory is not
there. -/
def set (e : Option Entry) : Place → Tree → Tree
  | [], t => t
  | [name], t => t.setChild name e
  | name :: rest, t =>
      match t.child? name with
      | some (.dir children) => t.setChild name (some (.dir (set e rest children)))
      | _ => t

end Tree

end NoteCheck
