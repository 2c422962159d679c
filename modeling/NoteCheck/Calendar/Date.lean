import NoteCheck.Text.Numeral

/-!
# Days of the proleptic Gregorian calendar

A `Date` names a day of the years 1 to 9999 that exists: the field `exists_day` says that the day
lies in its month. `ordinal` counts days, with 1 January of year 1 as day 1.
-/

namespace NoteCheck

/-- Whether a year has a 29 February. -/
def isLeapYear (year : Nat) : Bool :=
  year % 4 = 0 && (year % 100 ≠ 0 || year % 400 = 0)

/-- The number of days of a month. -/
def daysInMonth (year month : Nat) : Nat :=
  if month = 2 then if isLeapYear year then 29 else 28
  else if month = 4 || month = 6 || month = 9 || month = 11 then 30 else 31

/-- Whether the three numbers name a day of the calendar. -/
def isCalendarDay (year month day : Nat) : Bool :=
  1 ≤ year && year ≤ 9999 && 1 ≤ month && month ≤ 12 && 1 ≤ day && day ≤ daysInMonth year month

/-- A day of the calendar. -/
structure Date where
  year : Nat
  month : Nat
  day : Nat
  exists_day : isCalendarDay year month day = true
deriving DecidableEq, Repr

namespace Date

/-- The day with these numbers, if there is one. -/
def ofNumbers? (year month day : Nat) : Option Date :=
  if h : isCalendarDay year month day = true then some ⟨year, month, day, h⟩ else none

/-- The day with these numbers, which may be negative, if there is one. -/
def ofInts? (year month day : Int) : Option Date :=
  if 0 ≤ year && 0 ≤ month && 0 ≤ day then ofNumbers? year.toNat month.toNat day.toNat else none

/-- The number of days before 1 January of a year. -/
def daysBeforeYear (year : Nat) : Nat :=
  let y := year - 1
  y * 365 + y / 4 - y / 100 + y / 400

/-- The number of days of a year before a month. -/
def daysBeforeMonth (year : Nat) : (month : Nat) → Nat
  | 0 => 0
  | 1 => 0
  | month + 1 => daysBeforeMonth year month + daysInMonth year month

/-- The day counted from the first day of year 1. -/
def ordinal (d : Date) : Nat :=
  daysBeforeYear d.year + daysBeforeMonth d.year d.month + d.day

/-- The last day that has a date. -/
def lastOrdinal : Nat := 3652059

/-- The day of the week of 1 January: 0 is Monday. -/
def firstWeekday (year : Nat) : Nat :=
  (daysBeforeYear year + 7) % 7

/-- Whether a year's weeks, counted from the week that holds its first Thursday, are 53. -/
def hasLongWeekCount (year : Nat) : Bool :=
  firstWeekday year = 3 || (firstWeekday year = 2 && isLeapYear year)

/-- The ordinal of the Monday of week 1, the week that holds the first Thursday of the year. It can
lie before the first day that has a date. -/
def firstMonday (year : Nat) : Int :=
  let january1 : Int := daysBeforeYear year + 1
  let weekday := firstWeekday year
  let monday := january1 - weekday
  if 3 < weekday then monday + 7 else monday

/-- Whether a year, a week and a weekday (Monday is 1) name a day that has a date. -/
def isWeekDay (year week weekday : Nat) : Bool :=
  1 ≤ year && year ≤ 9999 && 1 ≤ week && (week ≤ 52 || (week = 53 && hasLongWeekCount year)) &&
    1 ≤ weekday && weekday ≤ 7 &&
    (let day := firstMonday year + 7 * (week - 1) + (weekday - 1)
     1 ≤ day && day ≤ lastOrdinal)

/-- The text `YYYY-MM-DD`. -/
def text (d : Date) : List Char :=
  Text.padded 4 d.year ++ '-' :: Text.padded 2 d.month ++ '-' :: Text.padded 2 d.day

end Date

end NoteCheck
