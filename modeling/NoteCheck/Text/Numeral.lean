import NoteCheck.Text.Blank
import NoteCheck.Text.Digit

/-!
# Written integers

A numeral may have blank margins, a sign, and single underscores between its digits; its digits may
come from any script. In the bases 2, 8 and 16 the letter mark of the base (`0b`, `0o`, `0x`) may
stand before the digits. A decimal numeral of more than `maxDigits` digits is refused, since the
time to read it grows with the square of its length.
-/

namespace NoteCheck.Text

/-- The longest decimal numeral that is read or written. -/
def maxDigits : Nat := 4300

/-- The blanks that may stand around a numeral: the information separators do not count. -/
def isNumeralMargin (c : Char) : Bool :=
  let n := c.toNat
  (9 ≤ n && n ≤ 13) || n == 32 || (127 ≤ n && isBlank c)

/-- The value of a character as a digit of some base up to 36. -/
def digitIn (c : Char) : Option Nat :=
  if 'a' ≤ c && c ≤ 'z' then some (c.toNat - 'a'.toNat + 10)
  else if 'A' ≤ c && c ≤ 'Z' then some (c.toNat - 'A'.toNat + 10)
  else digitValue? c

/-- Reads digits with single underscores between them. `value` and `count` tell what has been read,
`afterDigit` whether the last character was a digit. -/
def readDigits (base : Nat) : (value count : Nat) → (afterDigit : Bool) → List Char →
    Option (Nat × Nat)
  | value, count, afterDigit, [] => if afterDigit then some (value, count) else none
  | value, count, afterDigit, c :: cs =>
      if c = '_' then
        if afterDigit then readDigits base value count false cs else none
      else match digitIn c with
        | some d =>
            if d < base then readDigits base (value * base + d) (count + 1) true cs else none
        | none => none

/-- The letter mark of a base. -/
def baseMark (base : Nat) : Option Char :=
  if base = 2 then some 'b' else if base = 8 then some 'o' else if base = 16 then some 'x' else none

/-- Drops the mark of the base and one underscore after it. -/
def dropBaseMark (base : Nat) (cs : List Char) : List Char :=
  match cs with
  | '0' :: c :: rest =>
      if baseMark base = some c.toLower then
        match rest with
        | '_' :: rest => rest
        | rest => rest
      else cs
  | cs => cs

/-- The natural number written in `base`. -/
def readNat? (base : Nat) (cs : List Char) : Option Nat :=
  match readDigits base 0 0 false (dropBaseMark base cs) with
  | some (value, count) => if base = 10 && maxDigits < count then none else some value
  | none => none

/-- The integer written in `base`, with blank margins and a sign. -/
def readInt? (base : Nat) (cs : List Char) : Option Int :=
  match dropMargins isNumeralMargin cs with
  | '-' :: rest => (readNat? base rest).map fun n => -(n : Int)
  | '+' :: rest => (readNat? base rest).map Int.ofNat
  | rest => (readNat? base rest).map Int.ofNat

/-- The decimal digits of a natural number. -/
def natText (n : Nat) : List Char :=
  Nat.toDigits 10 n

/-- The decimal text of an integer. -/
def intText : Int → List Char
  | .ofNat n => natText n
  | .negSucc n => '-' :: natText (n + 1)

/-- The decimal text of an integer, refused when it has more than `maxDigits` digits. -/
def intText? (i : Int) : Option (List Char) :=
  let digits := natText i.natAbs
  if maxDigits < digits.length then none else some (intText i)

/-- A natural number below `10 ^ width`, padded with zeros to `width` digits. -/
def padded (width n : Nat) : List Char :=
  let digits := natText n
  List.replicate (width - digits.length) '0' ++ digits

end NoteCheck.Text
