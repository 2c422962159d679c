import NoteCheck.Calendar.Timestamp
import NoteCheck.Number.Binary64

/-!
# Values of properties

A `Value` is what a note's frontmatter, a settings file or a schema can hold. Maps and sets list
their members in the order of insertion; no two keys of a map and no two members of a set are equal
in the sense of `Value.same`.

A collection may contain itself. Such a value is written with `cycle n` in place of the inner
occurrence, where `n` counts the collections between it and the one it repeats, itself included.
-/

namespace NoteCheck

/-- A value of a property. -/
inductive Value where
  | null
  | bool (b : Bool)
  | int (i : Int)
  | float (x : Binary64)
  | text (s : String)
  | list (items : List Value)
  | tuple (items : List Value)
  | set (members : List Value)
  | bytes (octets : List UInt8)
  | date (d : Date)
  | timestamp (t : Timestamp)
  | map (entries : List (Value × Value))
  | cycle (up : Nat)
deriving Repr, Inhabited, BEq

namespace Value

/-- The text of a value that is one. -/
def text? : Value → Option String
  | text s => some s
  | _ => none

/-- The entries of a value that is a map. -/
def entries? : Value → Option (List (Value × Value))
  | map entries => some entries
  | _ => none

/-- Whether a value stands for *false* where a condition is asked for: nothing, no, zero, and
everything empty. -/
def isEmptyLike : Value → Bool
  | null => true
  | bool b => !b
  | int i => i == 0
  | float x => x.isZero
  | text s => s.isEmpty
  | list items => items.isEmpty
  | tuple items => items.isEmpty
  | set members => members.isEmpty
  | bytes octets => octets.isEmpty
  | map entries => entries.isEmpty
  | date _ | timestamp _ | cycle _ => false

end Value

end NoteCheck
