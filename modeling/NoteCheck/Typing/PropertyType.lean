import NoteCheck.Typing.Shape

/-!
# Declared property types

A schema declares the type of a property by name. Ten names are known, and each has a rule that
says which values conform (`PropertyType.accepts`). A name that is not known constrains nothing, and
neither does any name where the value is a map (`conforms`).
-/

namespace NoteCheck

/-- The known property types. `multitext` is an older name of `list`, `boolean` another of
`checkbox`. -/
inductive PropertyType where
  | text
  | list
  | multitext
  | number
  | checkbox
  | boolean
  | date
  | datetime
  | tags
  | aliases
deriving DecidableEq, Repr

namespace PropertyType

/-- All known types. -/
def all : List PropertyType :=
  [text, list, multitext, number, checkbox, boolean, date, datetime, tags, aliases]

/-- The name of a type in a schema. -/
def name : PropertyType → String
  | text => "text"
  | list => "list"
  | multitext => "multitext"
  | number => "number"
  | checkbox => "checkbox"
  | boolean => "boolean"
  | date => "date"
  | datetime => "datetime"
  | tags => "tags"
  | aliases => "aliases"

/-- The type of a name. -/
def ofName? (name : String) : Option PropertyType :=
  all.find? fun t => t.name == name

theorem ofName?_name (t : PropertyType) : ofName? t.name = some t := by
  cases t <;> decide

theorem name_of_ofName? {name : String} {t : PropertyType} (h : ofName? name = some t) :
    t.name = name := by
  simpa using List.find?_some h

/-- Whether a value conforms to a known type. A single text is also a list of one item. -/
def accepts (t : PropertyType) (v : Value) : Except Fault Bool :=
  match t with
  | text => .ok v.text?.isSome
  | list | multitext => .ok (v.text?.isSome || v.items?.any (Value.allTexts ""))
  | number => v.isFiniteNumber
  | checkbox | boolean => .ok (v.kind == .boolean)
  | date => .ok (v.isDateShaped && !v.hasTimeOfDay)
  | datetime => .ok (v.isDateShaped && v.hasTimeOfDay)
  | tags => .ok (v.items?.any (Value.allTexts "#"))
  | aliases => .ok (v.items?.any (Value.allTexts ""))

/-- The known type that a schema's value names. -/
def ofValue? : Value → Option PropertyType
  | .text name => ofName? name
  | _ => none

end PropertyType

/-- Whether a value conforms to what a schema declares. A property that repeats the frontmatter
around it is a map, too. -/
def conforms (v declared : Value) : Except Fault Bool :=
  if v.kind = .object then .ok true
  else match PropertyType.ofValue? declared with
    | some t => t.accepts v
    | none => .ok true

end NoteCheck
