import NoteCheck.Disk.TextFile
import NoteCheck.Json.Read

/-!
# Data files

A data file holds one JSON value. It can be *absent* or *malformed*, which its readers tell from
every other fault (`DataFault`): those are the file's own faults, the others are the disk's.
-/

namespace NoteCheck

/-- Why a data file gives no value. -/
inductive DataFault where
  /-- The file is not there. -/
  | absent
  /-- The text is not JSON. -/
  | malformed
  | other (cause : Fault)
deriving DecidableEq, Repr

/-- The value that a data file holds. -/
def Tree.readData (t : Tree) (path : String) : Except DataFault Value :=
  match t.readText path with
  | .error (.access .missing) => .error .absent
  | .error cause => .error (.other cause)
  | .ok cs =>
      match Json.read cs with
      | .ok v => .ok v
      | .error .malformed => .error .malformed
      | .error .numeralTooLong => .error (.other .numeralTooLong)

end NoteCheck
