import NoteCheck.Text.Split

/-!
# English names of months and weekdays

Names are compared without regard to the case of their letters.
-/

namespace NoteCheck

/-- The months, January first. -/
def monthNames : List String :=
  ["january", "february", "march", "april", "may", "june", "july", "august", "september",
   "october", "november", "december"]

/-- The months by their first three letters. -/
def monthAbbreviations : List String :=
  monthNames.map fun name => String.ofList (name.toList.take 3)

/-- The weekdays by their first three letters, Monday first. -/
def weekdayAbbreviations : List String :=
  ["mon", "tue", "wed", "thu", "fri", "sat", "sun"]

/-- The number of the month that has this name or abbreviation in small letters. -/
def monthOf? (name : List Char) : Option Nat :=
  match monthAbbreviations.findIdx? (·.toList = name) with
  | some i => some (i + 1)
  | none => (monthNames.findIdx? (·.toList = name)).map (· + 1)

end NoteCheck
