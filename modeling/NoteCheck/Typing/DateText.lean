import NoteCheck.Calendar.IsoText
import NoteCheck.Calendar.MailText
import NoteCheck.Calendar.LongText

/-!
# Texts that read as dates

A text is *date-shaped* when it has the form of a bare day (`isPlainDay`), of a bare moment
(`isPlainMoment`), or when one of the readers of the calendar accepts it without its margins
(`parses`). Whether it also shows a time of day is a second and independent question
(`hasTimeOfDay`), answered from its characters alone.
-/

namespace NoteCheck.DateText

open NoteCheck.Text

/-- Removes `count` decimal digits from the front. -/
def dropDigits? : (count : Nat) → List Char → Option (List Char)
  | 0, cs => some cs
  | count + 1, c :: cs => if isDecimal c then dropDigits? count cs else none
  | _ + 1, [] => none

/-- Removes a character from the front. -/
def dropSign? (sign : Char) : List Char → Option (List Char)
  | c :: cs => if c = sign then some cs else none
  | [] => none

/-- Removes `YYYY-MM-DD` from the front. -/
def dropDay? (cs : List Char) : Option (List Char) := do
  let cs ← dropDigits? 4 cs
  let cs ← dropSign? '-' cs
  let cs ← dropDigits? 2 cs
  let cs ← dropSign? '-' cs
  dropDigits? 2 cs

/-- Whether nothing is left but perhaps one line feed. -/
def isEnd (cs : List Char) : Bool :=
  cs.isEmpty || cs == ['\n']

/-- Whether a text has the form `YYYY-MM-DD`. -/
def isPlainDay (cs : List Char) : Bool :=
  match dropDay? cs with
  | some rest => isEnd rest
  | none => false

/-- Removes something from the front if it is there. -/
def dropIfThere (drop? : List Char → Option (List Char)) (cs : List Char) : List Char :=
  (drop? cs).getD cs

/-- Removes `:SS`. -/
def dropSeconds? (cs : List Char) : Option (List Char) := do
  dropDigits? 2 (← dropSign? ':' cs)

/-- Removes `.mmm`. -/
def dropMillis? (cs : List Char) : Option (List Char) := do
  dropDigits? 3 (← dropSign? '.' cs)

/-- Removes `YYYY-MM-DDTHH:MM` from the front. -/
def dropMinute? (cs : List Char) : Option (List Char) := do
  let cs ← dropDay? cs
  let cs ← dropSign? 'T' cs
  let cs ← dropDigits? 2 cs
  let cs ← dropSign? ':' cs
  dropDigits? 2 cs

/-- Whether a text has the form `YYYY-MM-DDTHH:MM`, perhaps with seconds, with milliseconds and with
the letter of universal time. -/
def isPlainMoment (cs : List Char) : Bool :=
  match dropMinute? cs with
  | some rest =>
      isEnd (dropIfThere (dropSign? 'Z') (dropIfThere dropMillis? (dropIfThere dropSeconds? rest)))
  | none => false

/-- Whether one of the readers of the calendar accepts the text without its margins. -/
def parses (cs : List Char) : Bool :=
  let t := trim cs
  !t.isEmpty &&
    ((IsoText.readUniversal? t).isSome || MailText.accepts t || (LongText.read? t).isSome)

/-- Whether a text reads as a date. -/
def isDateShaped (cs : List Char) : Bool :=
  isPlainDay cs || isPlainMoment cs || parses cs

/-- Whether the text begins with one or two digits, a colon and two digits. -/
def startsWithClock (cs : List Char) : Bool :=
  (dropDigits? 1 cs).any fun cs =>
    ((dropSign? ':' cs).bind (dropDigits? 2)).isSome ||
      ((dropDigits? 1 cs).bind fun cs => (dropSign? ':' cs).bind (dropDigits? 2)).isSome

/-- Whether one or two digits, a colon and two digits stand somewhere in the text. -/
def holdsClock : List Char → Bool
  | [] => false
  | c :: cs => startsWithClock (c :: cs) || holdsClock cs

/-- Whether a text shows a time of day: a capital T anywhere, or a space and a clock time. -/
def hasTimeOfDay (cs : List Char) : Bool :=
  cs.contains 'T' || (cs.contains ' ' && holdsClock cs)

end NoteCheck.DateText
