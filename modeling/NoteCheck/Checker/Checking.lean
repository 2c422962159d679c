import NoteCheck.Checker.Desk
import NoteCheck.Vault.Notes

/-!
# Checking notes

A note is checked against the schema that is loaded, unless its violations are remembered for its
time of last change. Checking a vault reads all of its notes first, then checks each of them in
turn, and last forgets what it knew of other notes.
-/

namespace NoteCheck.Act

/-- A note and the violations found in it. -/
abbrev Finding := Note × List Violation

/-- Checks a note; `force` checks it even if its violations are remembered. -/
def checkNote (n : Note) (force : Bool) : Act (List Violation) := do
  let c ← checker
  let r := c.cache.fetch n.path n.mtime force (violations (.map c.schema) n.frontmatter)
  change fun c => { c with cache := r.cache }
  let found ← ofResult r.result
  note (if r.remembered then .recalled n.title else .checked n.title found.length)
  return found

/-- Checks notes in turn, and gives those that have violations. -/
def checkNotes : List Note → Act (List Finding)
  | [] => return []
  | n :: rest => do
      let found ← checkNote n false
      let others ← checkNotes rest
      return if found.isEmpty then others else (n, found) :: others

/-- Forgets all violations. -/
def clearCache : Act Unit := do
  change fun c => { c with cache := c.cache.clear }
  note .cacheCleared

/-- Forgets the violations of all notes but these, and gives the number of notes forgotten. -/
def pruneTo (paths : List String) : Act Nat := do
  let c ← checker
  let cache := c.cache.prune paths
  let removed := c.cache.size - cache.size
  change fun c => { c with cache }
  if removed ≠ 0 then note (.pruned removed)
  return removed

/-- Forgets the violations of notes that are no longer in the vault. -/
def prune (d : Disk) : Act Nat := do
  let c ← checker
  pruneTo (← ofResult (d.notePaths c.vault.path))

/-- Forgets the violations of a note, and tells whether there were any to forget. -/
def evict (path : String) : Act Bool := do
  let c ← checker
  change fun c => { c with cache := c.cache.evict path }
  return c.cache.contains path

/-- Checks the note at a path of the vault; none if it cannot be read. -/
def checkFile (d : Disk) (path : String) (force : Bool) : Act (Option (List Violation)) := do
  let c ← checker
  match ← ofResult (d.readNote path c.vault.path) with
  | none => return none
  | some n => return some (← checkNote n force)

/-- Checks all notes of the vault, and gives those that have violations. -/
def checkAll (d : Disk) : Act (List Finding) := do
  let c ← checker
  let notes ← ofResult (d.notes c.vault.path)
  let findings ← checkNotes notes
  let _ ← pruneTo (notes.map (·.path))
  return findings

end NoteCheck.Act

namespace NoteCheck

/-- How many notes have violations, and how many violations there are. -/
structure Summary where
  notes : Nat
  violations : Nat
deriving DecidableEq, Repr

/-- The summary of what was found. -/
def summarize (findings : List Act.Finding) : Summary :=
  ⟨findings.length, (findings.flatMap (·.2)).length⟩

end NoteCheck
