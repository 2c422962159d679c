import NoteCheck.Json.File
import NoteCheck.Value.Same
import NoteCheck.Vault.Basic

/-!
# Looking up a value in the settings file by a chain of keys

Each key leads one step down: into a map by an equal key, into a list or a text by an index, which
counts from the end if it is negative. A chain that leads nowhere gives the default, but an index
past the end is a fault.
-/

namespace NoteCheck

/-- The item that an index leads to. -/
def itemAt {α : Type} (items : List α) (index : Int) : Except Fault α :=
  let position := if index < 0 then index + items.length else index
  if position < 0 then .error .indexOutOfRange
  else match items[position.toNat]? with
    | some item => .ok item
    | none => .error .indexOutOfRange

/-- The index that a key is, truth values being 0 and 1. -/
def Value.index? : Value → Option Int
  | .int i => some i
  | .bool b => some (if b then 1 else 0)
  | _ => none

/-- One step down by a key; none if there is nothing. -/
def Value.child? (v key : Value) : Except Fault (Option Value) :=
  match v with
  | .map entries => .ok (Value.lookup key entries)
  | .list items =>
      match key.index? with
      | some i => (itemAt items i).map some
      | none => .ok none
  | .text s =>
      match key.index? with
      | some i => (itemAt s.toList i).map fun c => some (.text (String.ofList [c]))
      | none => .ok none
  | _ => .ok none

/-- The value that a chain of keys leads to. -/
def Value.descend? : (keys : List Value) → Value → Except Fault (Option Value)
  | [], v => .ok (some v)
  | key :: keys, v => do
      match ← v.child? key with
      | some w => w.descend? keys
      | none => return none

/-- The value in the settings file that a chain of keys leads to. -/
def Disk.setting (d : Disk) (keys : List Value) (default : Value) : Except Fault Value :=
  match d.tree.readData d.settingsFile with
  | .ok v => (v.descend? keys).map (·.getD default)
  | .error .absent => .ok default
  | .error .malformed => .ok default
  | .error (.other cause) => .error cause

end NoteCheck
