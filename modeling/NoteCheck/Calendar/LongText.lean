import NoteCheck.Calendar.Timestamp
import NoteCheck.Calendar.Precision
import NoteCheck.Calendar.Names
import NoteCheck.Text.Blank
import NoteCheck.Text.Digit

/-!
# Moments written out

Nine patterns for a day, such as `January 5, 2024` or `2024/1/5`, each alone or followed by hours
and minutes, or by hours, minutes and seconds. A pattern is a row of `Part`s. A part can match the
front of a text in several ways, listed in its order of preference; the first way of matching all
parts counts, and then nothing of the text may be left. A later way is not tried for the sake of
what is left over.
-/

namespace NoteCheck.LongText

open NoteCheck.Text

/-- A part of a pattern. -/
inductive Part where
  | blanks
  | sign (c : Char)
  | monthName
  | monthAbbreviation
  | weekday
  | monthNumber
  | day
  | year
  | hour
  | minute
  | second
deriving DecidableEq, Repr

/-- The numbers that the parts have matched so far. -/
structure Fields where
  year : Nat := 1900
  month : Nat := 1
  day : Nat := 1
  hour : Nat := 0
  minute : Nat := 0
  second : Nat := 0
deriving DecidableEq, Repr

/-- A way of matching: the value matched and the rest of the text. -/
abbrev Ways := List (Nat × List Char)

/-- One digit of any script whose value satisfies `p`. -/
def digitWhere (p : Nat → Bool) (cs : List Char) : Ways :=
  match cs with
  | [] => []
  | c :: rest => match digitValue? c with
    | some d => if p d then [(d, rest)] else []
    | none => []

/-- One ASCII digit whose value satisfies `p`. -/
def asciiWhere (p : Nat → Bool) (cs : List Char) : Ways :=
  match cs with
  | [] => []
  | c :: rest => if isAsciiDigit c && p (c.toNat - 0x30) then [(c.toNat - 0x30, rest)] else []

/-- A tens digit of ASCII and then a units digit. -/
def twoDigits (tens : Nat → Bool) (units : List Char → Ways) (cs : List Char) : Ways :=
  (asciiWhere tens cs).flatMap fun (t, rest) => (units rest).map fun (u, rest) => (10 * t + u, rest)

/-- Any digit of any script. -/
def anyDigit : List Char → Ways :=
  digitWhere fun _ => true

/-- The names that begin the text, with their numbers, longer names before shorter ones. -/
def named (names : List String) (cs : List Char) : Ways :=
  names.zipIdx.filterMap fun (name, i) =>
    let n := name.toList
    if lower (cs.take n.length) = n then some (i + 1, cs.drop n.length) else none

/-- The runs of blanks at the front, the longest first, and never the empty one. -/
def blankRuns : List Char → Ways
  | [] => []
  | c :: rest => if isBlank c then blankRuns rest ++ [(0, rest)] else []

/-- Four digits of any script. -/
def fourDigits (cs : List Char) : Ways :=
  (anyDigit cs).flatMap fun (a, cs) => (anyDigit cs).flatMap fun (b, cs) =>
    (anyDigit cs).flatMap fun (c, cs) => (anyDigit cs).map fun (d, cs) =>
      (((a * 10 + b) * 10 + c) * 10 + d, cs)

/-- The ways in which a part matches the front of a text. -/
def Part.ways (part : Part) (cs : List Char) : Ways :=
  match part with
  | .blanks => blankRuns cs
  | .sign s => match cs with
    | c :: rest => if c = s then [(0, rest)] else []
    | [] => []
  | .monthName => named monthNames cs
  | .monthAbbreviation => named monthAbbreviations cs
  | .weekday => named weekdayAbbreviations cs
  | .monthNumber =>
      twoDigits (· = 1) (asciiWhere (· ≤ 2)) cs ++ twoDigits (· = 0) (asciiWhere (1 ≤ ·)) cs ++
        asciiWhere (1 ≤ ·) cs
  | .day =>
      twoDigits (· = 3) (asciiWhere (· ≤ 1)) cs ++
        twoDigits (fun t => t = 1 || t = 2) anyDigit cs ++
        twoDigits (· = 0) (asciiWhere (1 ≤ ·)) cs ++ asciiWhere (1 ≤ ·) cs ++
        (match cs with
          | ' ' :: rest => asciiWhere (1 ≤ ·) rest
          | _ => [])
  | .year => fourDigits cs
  | .hour =>
      twoDigits (· = 2) (asciiWhere (· ≤ 3)) cs ++ twoDigits (· ≤ 1) anyDigit cs ++ anyDigit cs
  | .minute => twoDigits (· ≤ 5) anyDigit cs ++ anyDigit cs
  | .second =>
      twoDigits (· = 6) (asciiWhere (· ≤ 1)) cs ++ twoDigits (· ≤ 5) anyDigit cs ++ anyDigit cs

/-- Notes the value that a part has matched. -/
def Part.note (part : Part) (value : Nat) (f : Fields) : Fields :=
  match part with
  | .monthName | .monthAbbreviation | .monthNumber => { f with month := value }
  | .day => { f with day := value }
  | .year => { f with year := value }
  | .hour => { f with hour := value }
  | .minute => { f with minute := value }
  | .second => { f with second := value }
  | .blanks | .sign _ | .weekday => f

/-- The first way of matching all parts, with what it leaves of the text. -/
def firstMatch? : List Part → List Char → Fields → Option (Fields × List Char)
  | [], cs, f => some (f, cs)
  | part :: parts, cs, f =>
      (part.ways cs).findSome? fun (value, rest) => firstMatch? parts rest (part.note value f)

/-- The patterns of a day. -/
def dayPatterns : List (List Part) :=
  [[.monthName, .blanks, .day, .sign ',', .blanks, .year],
   [.monthAbbreviation, .blanks, .day, .sign ',', .blanks, .year],
   [.monthName, .blanks, .day, .blanks, .year],
   [.monthAbbreviation, .blanks, .day, .blanks, .year],
   [.day, .blanks, .monthName, .blanks, .year],
   [.day, .blanks, .monthAbbreviation, .blanks, .year],
   [.year, .sign '/', .monthNumber, .sign '/', .day],
   [.monthNumber, .sign '/', .day, .sign '/', .year],
   [.weekday, .blanks, .monthAbbreviation, .blanks, .day, .blanks, .year]]

/-- What may follow a day. -/
def timePatterns : List (Precision × List Part) :=
  [(.day, []),
   (.clock, [.blanks, .hour, .sign ':', .minute]),
   (.clock, [.blanks, .hour, .sign ':', .minute, .sign ':', .second])]

/-- Whether a text matches a pattern as a whole and the numbers name a moment. -/
def matchesPattern (parts : List Part) (cs : List Char) : Bool :=
  match firstMatch? parts cs {} with
  | some (f, []) => isCalendarDay f.year f.month f.day && isClockTime f.hour f.minute f.second
  | _ => false

/-- How exactly a text names a moment, if it does. -/
def read? (cs : List Char) : Option Precision :=
  dayPatterns.findSome? fun day => timePatterns.findSome? fun (precision, time) =>
    if matchesPattern (day ++ time) cs then some precision else none

end NoteCheck.LongText
