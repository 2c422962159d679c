import NoteCheck.Calendar.Date

/-!
# Moments: a day, a time of day and perhaps an offset from universal time

A `Clock` is a time of day to the microsecond. A `Timestamp` joins it to a `Date`; its offset, in
microseconds, is shorter than a day on either side, and a timestamp without one is local.
-/

namespace NoteCheck

/-- Whether three numbers are a time of day. -/
def isClockTime (hour minute second : Nat) : Bool :=
  hour ≤ 23 && minute ≤ 59 && second ≤ 59

/-- A time of day. -/
structure Clock where
  hour : Nat
  minute : Nat
  second : Nat
  micro : Nat
  in_day : (isClockTime hour minute second && decide (micro < 1000000)) = true
deriving DecidableEq, Repr

/-- The time of day with these numbers, if there is one. -/
def Clock.ofNumbers? (hour minute second micro : Nat) : Option Clock :=
  if h : (isClockTime hour minute second && decide (micro < 1000000)) = true then
    some ⟨hour, minute, second, micro, h⟩
  else none

/-- The microseconds of a day. -/
def microsPerDay : Nat := 86400000000

/-- The microseconds since midnight. -/
def Clock.micros (c : Clock) : Nat :=
  ((c.hour * 60 + c.minute) * 60 + c.second) * 1000000 + c.micro

/-- An offset from universal time in microseconds, shorter than a day. -/
structure Offset where
  micros : Int
  below_day : micros.natAbs < microsPerDay
deriving DecidableEq, Repr

/-- The offset of so many microseconds, unless it is a day or longer. -/
def Offset.ofMicros? (micros : Int) : Option Offset :=
  if h : micros.natAbs < microsPerDay then some ⟨micros, h⟩ else none

/-- Universal time itself. -/
def Offset.zero : Offset := ⟨0, by decide⟩

/-- A moment. -/
structure Timestamp where
  date : Date
  clock : Clock
  offset : Option Offset
deriving DecidableEq, Repr

namespace Timestamp

/-- The microseconds since the day before year 1, on the moment's own clock. -/
def localMicros (t : Timestamp) : Int :=
  t.date.ordinal * microsPerDay + t.clock.micros

/-- Two moments are the same when both are local and read alike, or when both have an offset and
are the same in universal time. -/
def same (s t : Timestamp) : Bool :=
  match s.offset, t.offset with
  | none, none => s.localMicros == t.localMicros
  | some o, some p => s.localMicros - o.micros == t.localMicros - p.micros
  | _, _ => false

/-- A fraction of a second, six digits after a point, unless it is zero. -/
def fractionText (micro : Nat) : List Char :=
  if micro = 0 then [] else '.' :: Text.padded 6 micro

/-- The text of an offset: a sign, hours and minutes, and what is left below a minute if anything
is. -/
def offsetText (o : Offset) : List Char :=
  let total := o.micros.natAbs
  let seconds := total / 1000000
  let rest := if total % 60000000 = 0 then []
    else ':' :: Text.padded 2 (seconds % 60) ++ fractionText (total % 1000000)
  (if o.micros < 0 then '-' else '+') ::
    Text.padded 2 (seconds / 3600) ++ ':' :: Text.padded 2 (seconds / 60 % 60) ++ rest

/-- The text of a moment, `separator` standing between the day and the time of day. -/
def text (separator : Char) (t : Timestamp) : List Char :=
  t.date.text ++ separator :: Text.padded 2 t.clock.hour ++ ':' :: Text.padded 2 t.clock.minute ++
    ':' :: Text.padded 2 t.clock.second ++ fractionText t.clock.micro ++
    match t.offset with
    | some o => offsetText o
    | none => []

end Timestamp

end NoteCheck
