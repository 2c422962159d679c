import NoteCheck.Calendar.Timestamp
import NoteCheck.Fault
import NoteCheck.Text.Numeral
import NoteCheck.Yaml.Tag

/-!
# Days and moments as YAML writes them

`readMoment` gives the day or the moment that a text names. The month and the day may have one
digit, the time of day may be missing, and so may the zone. A fraction of a second counts to six
digits.
-/

namespace NoteCheck.Yaml

open Tag (dropMark?)

/-- A number of `least` to `most` digits at the front of a text, as many as there are. -/
def takeNumber? (least most : Nat) (cs : List Char) : Option (Nat × List Char) :=
  let digits := (cs.take most).takeWhile Text.isAsciiDigit
  if digits.length < least then none
  else (Text.readNat? 10 digits).map fun n => (n, cs.drop digits.length)

/-- The zone that a text names, perhaps with blanks before it: none for an empty text, else the
offset in minutes. -/
def takeZone? (cs : List Char) : Option (Option Int) :=
  if cs.isEmpty then some none
  else match cs.dropWhile fun c => c == ' ' || c == '\t' with
    | ['Z'] => some (some 0)
    | sign :: rest =>
        if sign == '+' || sign == '-' then do
          let (hours, rest) ← takeNumber? 1 2 rest
          let (minutes, rest) ← if rest.isEmpty then some (0, [])
            else takeNumber? 2 2 (← dropMark? ':' rest)
          if rest.isEmpty then
            let total : Int := hours * 60 + minutes
            return some (if sign == '-' then -total else total)
          else none
        else none
    | [] => none

/-- The numbers of a day and, unless it stands alone, of a time of day. -/
structure MomentNumbers where
  year : Nat
  month : Nat
  day : Nat
  time : Option (Nat × Nat × Nat × Nat × Option Int)
deriving DecidableEq, Repr

/-- The microseconds of a fraction's digits. -/
def fractionMicros (digits : List Char) : Nat :=
  let six := digits.take 6
  ((Text.readNat? 10 six).getD 0) * Nat.pow 10 (6 - six.length)

/-- Drops the separator between a day and a time of day. -/
def dropSeparator? : List Char → Option (List Char)
  | 'T' :: rest => some rest
  | 't' :: rest => some rest
  | c :: rest =>
      if c == ' ' || c == '\t' then some (rest.dropWhile fun c => c == ' ' || c == '\t') else none
  | [] => none

/-- Reads a day and what follows it. -/
def readNumbers? (cs : List Char) : Option MomentNumbers := do
  let (year, cs) ← takeNumber? 4 4 cs
  let (month, cs) ← takeNumber? 1 2 (← dropMark? '-' cs)
  let (day, cs) ← takeNumber? 1 2 (← dropMark? '-' cs)
  if cs.isEmpty then return ⟨year, month, day, none⟩
  let (hour, cs) ← takeNumber? 1 2 (← dropSeparator? cs)
  let (minute, cs) ← takeNumber? 2 2 (← dropMark? ':' cs)
  let (second, cs) ← takeNumber? 2 2 (← dropMark? ':' cs)
  let (fraction, cs) := match cs with
    | '.' :: rest => (rest.takeWhile Text.isAsciiDigit, rest.dropWhile Text.isAsciiDigit)
    | rest => ([], rest)
  let zone ← takeZone? cs
  return ⟨year, month, day, some (hour, minute, second, fractionMicros fraction, zone)⟩

/-- The day or moment that a text names, if its numbers exist. -/
def readMoment (cs : List Char) : Except Fault (Date ⊕ Timestamp) :=
  match readNumbers? (Tag.dropLineFeed cs) with
  | none => .error .malformedMoment
  | some n =>
      match Date.ofNumbers? n.year n.month n.day, n.time with
      | none, _ => .error .noSuchMoment
      | some date, none => .ok (.inl date)
      | some date, some (hour, minute, second, micro, zone) =>
          match Clock.ofNumbers? hour minute second micro, zone with
          | none, _ => .error .noSuchMoment
          | some clock, none => .ok (.inr ⟨date, clock, none⟩)
          | some clock, some minutes =>
              match Offset.ofMicros? (minutes * 60000000) with
              | some offset => .ok (.inr ⟨date, clock, some offset⟩)
              | none => .error .noSuchMoment

end NoteCheck.Yaml
