import NoteCheck.Yaml.Tag
import NoteCheck.Yaml.Token

/-!
# Node graphs

A document is a graph of nodes. The nodes stand in an array and refer to one another by position, so
that an alias is the same node as its anchor and a collection can contain itself.
-/

namespace NoteCheck.Yaml

/-- What a node consists of. -/
inductive Content where
  | scalar (text : List Char)
  | sequence (items : List Nat)
  | mapping (pairs : List (Nat × Nat))
deriving DecidableEq, Repr, Inhabited

/-- A node: its tag and what it consists of. -/
structure Node where
  tag : Tag
  content : Content
deriving DecidableEq, Repr, Inhabited

/-- The nodes of a document. -/
abbrev Graph := Array Node

namespace Graph

/-- The node at a position; past the end, an empty scalar that has no meaning. -/
def node (g : Graph) (n : Nat) : Node :=
  g.getD n ⟨.unknown, .scalar []⟩

/-- Replaces the node at a position. -/
def put (g : Graph) (n : Nat) (x : Node) : Graph :=
  g.setIfInBounds n x

/-- Replaces the content of the node at a position. -/
def fill (g : Graph) (n : Nat) (c : Content) : Graph :=
  g.put n { g.node n with content := c }

/-- Replaces the tag of the node at a position. -/
def retag (g : Graph) (n : Nat) (t : Tag) : Graph :=
  g.put n { g.node n with tag := t }

end Graph

end NoteCheck.Yaml
