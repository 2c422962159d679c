/-!
# What a vault is called

A vault is called by the path of its directory. It may also have no name, or be called by a list
that holds no word. Then, as with an empty path, its directory is the one where a vault lies that is
not named; but the three are different names, so that to turn from one to another is a change.
-/

namespace NoteCheck

/-- What a vault is called. -/
inductive VaultName where
  | unnamed
  /-- A list of no words stands for the name. -/
  | noWords
  /-- The path of the directory. -/
  | directory (path : String)
deriving DecidableEq, Repr

namespace VaultName

/-- The path that a name gives; an empty one stands for the default vault. -/
def path : VaultName → String
  | unnamed | noWords => ""
  | directory path => path

/-- How a name is shown. -/
def text : VaultName → String
  | unnamed => ""
  | noWords => "[]"
  | directory path => path

end VaultName

end NoteCheck
