import NoteCheck.Calendar.Timestamp
import NoteCheck.Calendar.Precision

/-!
# Moments in the manner of ISO 8601

The text is read octet by octet, a position past the end holding the octet zero. A day comes first,
as year, month and day or as year, week and weekday, each with or without hyphens; then any one
character as a separator; then a time of day, with or without colons, and a zone.

The length of the day's part is settled by the first characters alone (`dayLength?`), before the day
is read, and the reader of the day does not check that it used exactly that many octets. In the same
way the octets of the time are only bounded where the code below says so, which is why texts such as
`2024-01-15T1000005` or `2024-01-15T10:00:00:5` are moments too.
-/

namespace NoteCheck.IsoText

/-- The octets of a text. -/
def octets (cs : List Char) : List UInt8 :=
  cs.flatMap String.utf8EncodeChar

/-- The octet at a position, zero past the end. -/
def at_ (b : List UInt8) (i : Nat) : UInt8 :=
  b.getD i 0

/-- Whether an octet is an ASCII digit. -/
def isDigit (o : UInt8) : Bool :=
  0x30 ≤ o && o ≤ 0x39

/-- Whether the octet at a position is this ASCII character. -/
def holds (b : List UInt8) (i : Nat) (c : Char) : Bool :=
  (at_ b i).toNat == c.toNat

/-- The number written in `count` digits from a position on, after the digits in `value`. -/
def number? (b : List UInt8) : (count position value : Nat) → Option Nat
  | 0, _, value => some value
  | count + 1, position, value =>
      let o := at_ b position
      if isDigit o then number? b count (position + 1) (value * 10 + (o.toNat - 0x30)) else none

/-- The first position from `position` on that holds no digit, among the next `fuel` ones. -/
def skipDigits (b : List UInt8) : (fuel position : Nat) → Nat
  | 0, position => position
  | fuel + 1, position =>
      if isDigit (at_ b position) then skipDigits b fuel (position + 1) else position

/-! ## The day -/

/-- The number of octets of the day's part. A week without weekday followed by a hyphen and two
digits is read as a week and a time that the hyphen separates. -/
def dayLength? (b : List UInt8) : Option Nat :=
  let n := b.length
  if n = 7 then some 7
  else if holds b 4 '-' then
    if holds b 5 'W' then
      if 8 < n && holds b 8 '-' then
        if n = 9 then none else if 10 < n && isDigit (at_ b 10) then some 8 else some 10
      else some 8
    else some 10
  else if holds b 4 'W' then
    let stop := skipDigits b (n - 7) 7
    some (if stop < 9 then stop else if stop % 2 = 0 then 7 else 8)
  else some 8

/-- Whether the text begins with a day; `length` bounds the search for a weekday only. -/
def hasDay (b : List UInt8) (length : Nat) : Bool :=
  match number? b 4 0 0 with
  | none => false
  | some year =>
      let hyphen := holds b 4 '-'
      let p := if hyphen then 5 else 4
      if holds b p 'W' then
        match number? b 2 (p + 1) 0 with
        | none => false
        | some week =>
            if p + 3 < length then
              if hyphen && !holds b (p + 3) '-' then false
              else match number? b 1 (if hyphen then p + 4 else p + 3) 0 with
                | some weekday => Date.isWeekDay year week weekday
                | none => false
            else Date.isWeekDay year week 1
      else
        match number? b 2 p 0 with
        | none => false
        | some month =>
            if hyphen && !holds b (p + 2) '-' then false
            else match number? b 2 (if hyphen then p + 3 else p + 2) 0 with
              | some day => isCalendarDay year month day
              | none => false

/-! ## The time of day -/

/-- The hours, minutes and seconds that were read, those missing being zero, and whether something
unread follows them. -/
structure Reading where
  hour : Nat
  minute : Nat
  second : Nat
  leftover : Bool
deriving DecidableEq, Repr

/-- The reading with these fields. -/
def Reading.ofFields (fields : List Nat) (leftover : Bool) : Reading :=
  ⟨fields.getD 0 0, fields.getD 1 0, fields.getD 2 0, leftover⟩

/-- Reads the digits of a fraction: up to six of them must stand before `stop`, and any digits may
follow. -/
def readFraction? (b : List UInt8) (stop position : Nat) (fields : List Nat) : Option Reading :=
  let count := min 6 (stop - position)
  match number? b count position 0 with
  | none => none
  | some _ =>
      let next := skipDigits b b.length (position + count)
      some (.ofFields fields (at_ b next != 0))

/-- Reads up to `count` further fields of two digits. Whether colons stand between the fields is
settled by what follows the first one. -/
def readFields? (b : List UInt8) (stop : Nat) :
    (count : Nat) → (colons : Option Bool) → (position : Nat) → (fields : List Nat) →
    Option Reading
  | 0, _, position, fields => readFraction? b stop position fields
  | count + 1, colons, position, fields =>
      match number? b 2 position 0 with
      | none => none
      | some value =>
          let fields := fields ++ [value]
          let c := at_ b (position + 2)
          let colons := colons.getD (c == 0x3A)
          if stop ≤ position + 3 then some (.ofFields fields (c != 0))
          else if colons && c == 0x3A then
            readFields? b stop count (some colons) (position + 3) fields
          else if c == 0x2E || c == 0x2C then readFraction? b stop (position + 3) fields
          else if !colons then readFields? b stop count (some colons) (position + 2) fields
          else none

/-- Reads the time from `position` on, up to three fields and a fraction before `stop`. -/
def readTime? (b : List UInt8) (position stop : Nat) : Option Reading :=
  readFields? b stop 3 none position []

/-- The first position before the end that holds the sign of a zone or the letter of universal time,
or the end. -/
def zoneStart (b : List UInt8) (position : Nat) : Nat :=
  position + ((b.drop position).takeWhile fun o => o != 0x2B && o != 0x2D && o != 0x5A).length

/-- Whether a time of day, and a zone perhaps, is all that the text holds from `position` on. What
the fields leave over before a zone does not matter. -/
def hasTime (b : List UInt8) (position : Nat) : Bool :=
  let zone := zoneStart b position
  match readTime? b position zone with
  | none => false
  | some t =>
      isClockTime t.hour t.minute t.second &&
        if b.length ≤ zone then !t.leftover
        else if holds b zone 'Z' then at_ b (zone + 1) == 0
        else match readTime? b (zone + 1) b.length with
          | none => false
          | some o => !o.leftover && o.hour * 3600 + o.minute * 60 + o.second < 86400

/-- The number of octets of the character that an octet leads. -/
def width (lead : UInt8) : Nat :=
  if lead < 0x80 then 1
  else if lead &&& 0xF0 == 0xE0 then 3
  else if lead &&& 0xF0 == 0xF0 then 4
  else 2

/-- How exactly a text names a moment, if it does. -/
def read? (cs : List Char) : Option Precision :=
  if cs.length < 7 then none
  else
    let b := octets cs
    match dayLength? b with
    | none => none
    | some length =>
        if !hasDay b length then none
        else if b.length ≤ length then some .day
        else if b.length = length + 1 then none
        else if hasTime b (length + width (at_ b length)) then some .clock
        else none

/-- As `read?`, a final letter Z of either case standing for universal time. -/
def readUniversal? (cs : List Char) : Option Precision :=
  match cs.getLast? with
  | some c => if c = 'Z' || c = 'z' then read? (cs.dropLast ++ "+00:00".toList) else read? cs
  | none => none

end NoteCheck.IsoText
