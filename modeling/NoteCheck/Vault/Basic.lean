import NoteCheck.Disk.RealPath

/-!
# Vaults

A vault is a directory of notes. What is kept about it lies in its configuration directory. A path
below the vault is safe if, with all links resolved, it does not lead out of the vault.
-/

namespace NoteCheck

/-- The files, and where the things lie that are not named otherwise. -/
structure Disk where
  tree : Tree
  /-- The vault if none is named. -/
  defaultVault : String
  /-- The file of the settings. -/
  settingsFile : String

namespace Disk

/-- The directory of a vault; an empty name means the default vault. -/
def vaultDir (d : Disk) (vault : String) : String :=
  if vault.isEmpty then d.defaultVault else vault

/-- The configuration directory of a vault. -/
def configDir (d : Disk) (vault : String) : String :=
  Path.join (d.vaultDir vault) ".obsidian"

/-- The file that declares the types of properties. -/
def typesFile (d : Disk) (vault : String) : String :=
  Path.join (d.configDir vault) "types.json"

/-- A path below the vault with its links resolved, and whether it stays in the vault. -/
def safePath (d : Disk) (path vault : String) : Except Fault (RealPath × Bool) := do
  let real ← d.tree.realPath (Path.join (d.vaultDir vault) path)
  let outer ← d.tree.realPath (d.vaultDir vault)
  return (real, real.isWithin outer)

end Disk

end NoteCheck
