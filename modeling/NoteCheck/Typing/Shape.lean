import NoteCheck.Fault
import NoteCheck.Typing.DateText
import NoteCheck.Value.Basic

/-!
# The type that a value looks like

`Value.shape` names the property type that a value most resembles. It only serves to describe the
value in a report; whether the value conforms to a declared type is decided in
`NoteCheck.Typing.PropertyType` on its own grounds.
-/

namespace NoteCheck

/-- What a value looks like. -/
inductive Shape where
  | null
  | date
  | datetime
  | text
  | number
  | checkbox
  | tags
  | list
  | array
  | object
  | set
  | bytes
deriving DecidableEq, Repr

/-- The word for a shape in a report. -/
def Shape.name : Shape → String
  | null => "null"
  | date => "date"
  | datetime => "datetime"
  | text => "text"
  | number => "number"
  | checkbox => "checkbox"
  | tags => "tags"
  | list => "list"
  | array => "array"
  | object => "object"
  | set => "set"
  | bytes => "bytes"

namespace Value

/-- Whether a value is a text that reads as a date. -/
def isDateShaped : Value → Bool
  | text s => DateText.isDateShaped s.toList
  | _ => false

/-- Whether a value is a text that shows a time of day. -/
def hasTimeOfDay : Value → Bool
  | text s => DateText.hasTimeOfDay s.toList
  | _ => false

/-- Whether a value is a finite number. Truth values are none. An integer beyond the doubles cannot
be told finite or infinite. -/
def isFiniteNumber : Value → Except Fault Bool
  | int i => if (Binary64.ofInt? i).isSome then .ok true else .error .beyondDouble
  | float x => .ok x.isFinite
  | _ => .ok false

/-- The items of a value that is a sequence. -/
def items? : Value → Option (List Value)
  | list items | tuple items => some items
  | _ => none

/-- Whether all values are texts that begin with `start`. -/
def allTexts (start : String) (items : List Value) : Bool :=
  items.all fun
    | text s => s.toList.take start.toList.length == start.toList
    | _ => false

/-- What a value looks like. -/
def shape : Value → Except Fault Shape
  | null => .ok .null
  | text s =>
      if DateText.isDateShaped s.toList then
        .ok (if DateText.hasTimeOfDay s.toList then .datetime else .date)
      else .ok .text
  | int i => do
      let _ ← (int i).isFiniteNumber
      return .number
  | float _ => .ok .number
  | bool _ => .ok .checkbox
  | list items | tuple items =>
      .ok (if allTexts "#" items then .tags else if allTexts "" items then .list else .array)
  | map _ | cycle _ => .ok .object
  | set _ => .ok .set
  | bytes _ => .ok .bytes
  | date _ => .ok .date
  | timestamp _ => .ok .datetime

end Value

/-- The families of values, coarser than shapes for texts and finer for the rest. -/
inductive Kind where
  | boolean
  | number
  | string
  | object
  | null
  | list
  | tuple
  | set
  | bytes
  | date
  | datetime
deriving DecidableEq, Repr

/-- The family of a value. -/
def Value.kind : Value → Kind
  | null => .null
  | bool _ => .boolean
  | int _ | float _ => .number
  | text _ => .string
  | map _ | cycle _ => .object
  | list _ => .list
  | tuple _ => .tuple
  | set _ => .set
  | bytes _ => .bytes
  | date _ => .date
  | timestamp _ => .datetime

end NoteCheck
