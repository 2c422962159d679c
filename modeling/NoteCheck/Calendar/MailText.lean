import NoteCheck.Calendar.Timestamp
import NoteCheck.Calendar.Names
import NoteCheck.Text.Numeral

/-!
# Moments in the manner of a mail header

Such a text is a row of words: perhaps a weekday, then day, month, year, time of day and zone. The
reader forgives much. Day and month may trade places, so may year and time of day, and year and
zone; the zone may be missing or be glued to the time; commas may hang on words; the older form has
the day, month and year in one word with hyphens.
-/

namespace NoteCheck.MailText

open NoteCheck.Text

/-- Drops a weekday at the front: a word that ends in a comma or names a weekday. Of another first
word with a comma only what follows its last comma stays. -/
def dropWeekday : List (List Char) → List (List Char)
  | [] => []
  | w :: ws =>
      if endsWith [','] w || weekdayAbbreviations.any (·.toList = lower w) then ws
      else if w.contains ',' then afterLast ',' w :: ws
      else w :: ws

/-- Cuts a first word of the form day-month-year, when three words are left. -/
def cutHyphens : List (List Char) → List (List Char)
  | [date, time, zone] =>
      let parts := cut '-' date
      if parts.length = 3 then parts ++ [time, zone] else [date, time, zone]
  | ws => ws

/-- Cuts a zone off the end of the last of four words, at its first plus sign or, without one, at
its first hyphen, and adds an empty zone if there is none. -/
def cutZone : List (List Char) → List (List Char)
  | [day, month, year, time] =>
      let at_ := match time.findIdx? (· = '+') with
        | some i => some i
        | none => time.findIdx? (· = '-')
      match at_ with
      | some (i + 1) => [day, month, year, time.take (i + 1), time.drop (i + 1)]
      | _ => [day, month, year, time, []]
  | ws => ws

/-- Drops one comma at the end. -/
def dropComma (w : List Char) : List Char :=
  if endsWith [','] w then w.dropLast else w

/-- The hour, minute and second words of a time of day. Points may stand for the colons. -/
def timeWords? (time : List Char) : Option (List Char × List Char × List Char) :=
  let pieces := match cut ':' time with
    | [single] => if single.contains '.' then cut '.' single else []
    | pieces => pieces
  match pieces with
  | [hour, minute] => some (hour, minute, ['0'])
  | [hour, minute, second] => some (hour, minute, second)
  | _ => none

/-- A year below 100 is meant in the century that makes it fall into 1969 to 2068. -/
def fullYear (year : Int) : Int :=
  if year < 100 then if 68 < year then year + 1900 else year + 2000 else year

/-- The zones known by name. -/
def zoneNames : List String :=
  ["UT", "UTC", "GMT", "Z", "AST", "ADT", "EST", "EDT", "CST", "CDT", "MST", "MDT", "PST", "PDT"]

/-- Whether a zone is acceptable: a numeral in hours and minutes must stay below a day, and any
other word does. -/
def isZone (zone : List Char) : Bool :=
  let zone := zone.map Char.toUpper
  zoneNames.any (·.toList = zone) ||
    match readInt? 10 zone with
    | some v => v.natAbs / 100 * 3600 + v.natAbs % 100 * 60 < 86400
    | none => true

/-- Whether five words, the month found among the first two, name a moment. -/
def isMoment (day : List Char) (month : Nat) (year time zone : List Char) : Bool :=
  let day := dropComma day
  let (year, time) := match year.findIdx? (· = ':') with
    | some (_ + 1) => (time, year)
    | _ => (year, time)
  let year := dropComma year
  match year with
  | [] => false
  | c :: _ =>
      let (year, zone) := if hasDigitForm c then (year, zone) else (zone, year)
      match timeWords? (dropComma time), readInt? 10 year, readInt? 10 day with
      | some (hour, minute, second), some year, some day =>
          match readInt? 10 hour, readInt? 10 minute, readInt? 10 second with
          | some hour, some minute, some second =>
              (Date.ofInts? (fullYear year) month day).isSome && 0 ≤ hour && 0 ≤ minute &&
                0 ≤ second && isClockTime hour.toNat minute.toNat second.toNat && isZone zone
          | _, _, _ => false
      | _, _, _ => false

/-- Whether a text names a moment. -/
def accepts (cs : List Char) : Bool :=
  match cutZone (cutHyphens (dropWeekday (words cs))) with
  | day :: month :: year :: time :: zone :: _ =>
      if day.isEmpty || month.isEmpty || year.isEmpty then false
      else match monthOf? (lower month) with
        | some m => isMoment day m year time zone
        | none => match monthOf? (lower day) with
          | some m => isMoment (lower month) m year time zone
          | none => false
  | _ => false

end NoteCheck.MailText
