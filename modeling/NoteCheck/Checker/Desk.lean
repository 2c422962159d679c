import NoteCheck.Check.Cache
import NoteCheck.Check.Schema
import NoteCheck.Check.Violation
import NoteCheck.Timing.Debouncer
import NoteCheck.Vault.Name

/-!
# The state of checking

A `Checker` knows a vault, the schema it has loaded, what it has found so far, and the note that is
shown. A `Desk` is a checker with the clock that its timers run on and a journal of what it did.

An `Act` is something done at a desk. It may fail, and what it has done before it fails stays done.
-/

namespace NoteCheck

/-- Something worth noting in the journal. -/
inductive Event where
  /-- All results were forgotten. -/
  | cacheCleared
  /-- A schema of so many entries was loaded again. -/
  | schemaReloaded (count : Nat)
  /-- So many results were forgotten because their notes are gone. -/
  | pruned (count : Nat)
  /-- The violations of a note were remembered. -/
  | recalled (title : String)
  /-- A note was checked and had so many violations. -/
  | checked (title : String) (count : Nat)
  /-- The file of the schema could not be read. -/
  | schemaUnread (path : String) (fault : DataFault)
deriving DecidableEq, Repr

/-- The check of a note that a timer is to run, and the checker that asked for it. -/
structure Activation where
  checker : Nat
  path : String
deriving DecidableEq, Repr

/-- A checker. -/
structure Checker where
  /-- What its timers know it by. -/
  number : Nat := 0
  vault : VaultName
  schema : SchemaEntries := []
  cache : Cache Violation := .empty
  debouncer : Debouncer
  /-- The path of the note that is shown. -/
  shown : Option String := none
  /-- What the last check of the note that is shown has found. -/
  shownResult : Option (List Violation) := none

/-- A checker, its clock and its journal. -/
structure Desk where
  checker : Checker
  schedule : Schedule Activation := {}
  /-- What was noted, the first event first. -/
  journal : List Event := []

/-- Something done at a desk. -/
abbrev Act := ExceptT Fault (StateM Desk)

namespace Act

/-- What the checker is like. -/
def checker : Act Checker := do
  return (← get).checker

/-- Changes the checker. -/
def change (f : Checker → Checker) : Act Unit :=
  modify fun desk => { desk with checker := f desk.checker }

/-- Notes an event in the journal. -/
def note (e : Event) : Act Unit :=
  modify fun desk => { desk with journal := desk.journal ++ [e] }

/-- A result that is known, or its fault. -/
def ofResult {α : Type} (result : Except Fault α) : Act α :=
  ExceptT.mk (pure result)

/-- Does something at a desk. -/
def runAt {α : Type} (act : Act α) (desk : Desk) : Except Fault α × Desk :=
  Id.run (StateT.run (ExceptT.run act) desk)

end Act

end NoteCheck
