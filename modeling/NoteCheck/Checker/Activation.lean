import NoteCheck.Checker.Checking

/-!
# Schemas, vaults and the note that is shown

Loading a schema again forgets all violations, since they were found under the old one. Showing a
note forgets the result of the note before and, if asked to, submits a check of it to the debouncer.
When that check runs its result is kept only if the note is still the one shown.
-/

namespace NoteCheck.Act

/-- Reads the schema of a vault, whatever vault the checker has. -/
def readSchema (d : Disk) (vault : String) : Act SchemaEntries := do
  let loaded ← ofResult (d.loadSchema vault)
  if let some fault := loaded.unread then note (.schemaUnread (d.typesFile vault) fault)
  return loaded.entries

/-- Loads the schema of the vault. -/
def loadSchema (d : Disk) : Act SchemaEntries := do
  let c ← checker
  let entries ← readSchema d c.vault.path
  change fun c => { c with schema := entries }
  return entries

/-- Loads the schema of the vault and forgets all violations. -/
def reloadSchema (d : Disk) : Act SchemaEntries := do
  let entries ← loadSchema d
  clearCache
  note (.schemaReloaded entries.length)
  return entries

/-- Does something with the debouncer and the clock. -/
def withDebouncer {α : Type}
    (f : Debouncer → Schedule Activation → α × Debouncer × Schedule Activation) : Act α :=
  modifyGet fun desk =>
    let (a, debouncer, schedule) := f desk.checker.debouncer desk.schedule
    (a, { desk with checker := { desk.checker with debouncer }, schedule })

/-- Gives up the check that waits. -/
def shutdown : Act Unit :=
  withDebouncer fun d s => ((), d.cancel s)

/-- Sets how long later checks wait. -/
def setDelay (delay : Delay) : Act Unit :=
  change fun c => { c with debouncer := { c.debouncer with delay } }

/-- Shows a note, or none, and submits a check of it if `auto` holds. -/
def activate (path : Option String) (auto : Bool) : Act Unit := do
  change fun c => { c with shown := path, shownResult := none }
  let c ← checker
  match path with
  | some path =>
      if !path.isEmpty && auto then
        let outcome ← withDebouncer (·.submit ⟨c.number, path⟩)
        ofResult outcome
  | none => return ()

/-- The path of the note that is shown, and what its last check has found. -/
def current : Act (Option String × Option (List Violation)) := do
  let c ← checker
  return (c.shown, c.shownResult)

/-- Turns to another vault. -/
def switchVault (d : Disk) (vault : VaultName) : Act Unit := do
  shutdown
  change fun c => { c with vault }
  activate none true
  let _ ← reloadSchema d

/-- Checks a note that was shown, and keeps the result if it still is. -/
def checkShown (d : Disk) (path : String) : Act Unit := do
  let found ← checkFile d path false
  change fun c => if c.shown = some path then { c with shownResult := found } else c

/-- Runs a timer of the checker: its check is made if it is the one that is waited for. -/
def fire (d : Disk) (number : Nat) (path : String) : Act Unit := do
  let admitted ← withDebouncer fun debouncer schedule =>
    let (admitted, debouncer) := debouncer.take number
    (admitted, debouncer, schedule.finish number)
  if admitted then checkShown d path

end NoteCheck.Act

namespace NoteCheck

/-- Sets up a checker of a vault on a clock. It fails if its schema cannot be loaded. -/
def Desk.open? (d : Disk) (number : Nat) (vault : String) (delay : Delay)
    (schedule : Schedule Activation) : Except Fault SchemaEntries × Desk :=
  (Act.loadSchema d).runAt
    { checker :=
        { number, vault := .directory (d.vaultDir vault), debouncer := ⟨delay, .nothing⟩ }
      schedule }

end NoteCheck
