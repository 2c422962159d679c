/-!
# Tokens of YAML

A text is first cut into tokens. Those of the block style have no spelling of their own: they are
inferred from columns, and the token `key` in front of a simple key from the colon behind it.
-/

namespace NoteCheck.Yaml

/-- A directive before a document. -/
inductive Directive where
  /-- The version of the language; only its first number matters. -/
  | version (major : Nat)
  /-- A handle and what it stands for in tags. -/
  | handle (name expansion : List Char)
  /-- Any other directive, which means nothing. -/
  | reserved
deriving DecidableEq, Repr

/-- A token. -/
inductive Token where
  | streamEnd
  | directive (d : Directive)
  | documentStart
  | documentEnd
  | blockSequenceStart
  | blockMappingStart
  | blockEnd
  | flowSequenceStart
  | flowSequenceEnd
  | flowMappingStart
  | flowMappingEnd
  | blockEntry
  | flowEntry
  | key
  | value
  | alias (name : List Char)
  | anchor (name : List Char)
  /-- A tag: its handle, if it has one, and the rest. -/
  | tag (handle : Option (List Char)) (suffix : List Char)
  /-- A scalar, and whether it is written plain. -/
  | scalar (text : List Char) (plain : Bool)
deriving DecidableEq, Repr

end NoteCheck.Yaml
