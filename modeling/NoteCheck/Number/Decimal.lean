import NoteCheck.Number.Binary64
import NoteCheck.Text.Numeral

/-!
# Decimal text of a double

*Writing* takes the fewest digits that read back as the same number: for one digit, then two, up to
seventeen, the two decimal numbers next to the value are tried against the interval of reals that
round to it, and the first grid with a hit wins. `Layout` says how the digits are set out.

*Reading* takes a sign, digits with an optional point, and an optional exponent, or one of the words
for an infinity and for what is not a number.
-/

namespace NoteCheck.Decimal

open NoteCheck.Text

/-! ## The fewest digits -/

/-- A positive decimal number, `digits * 10 ^ exponent`. -/
structure Digits where
  digits : Nat
  exponent : Int
deriving DecidableEq, Repr

/-- The power of ten at which the leading digit of `num / den` stands. -/
def leadingPower (num den : Nat) : Int :=
  if den ≤ num then ((natText (num / den)).length : Int) - 1
  else
    let length := (natText (den / num)).length
    if den = num * Nat.pow 10 (length - 1) then 1 - (length : Int) else -(length : Int)

/-- The reals that round to a double, in units of `2 ^ (scale - 2)`, the double being `4 *
significand` of them. The gap below a power of two is half the gap above it. -/
structure Interval where
  low : Nat
  mid : Nat
  high : Nat
  closed : Bool

/-- The interval of a finite double. -/
def Interval.of (x : Binary64) : Interval :=
  let m := x.significand
  let below := if m = Binary64.exponentUnit && 1 < x.exponentField then 1 else 2
  ⟨4 * m - below, 4 * m, 4 * m + 2, m % 2 = 0⟩

/-- Whether `low < p < high`, or also the ends when the interval is closed. The numbers `p` are
given in a common unit `unit` with the ends. -/
def Interval.contains (i : Interval) (unit p : Nat) : Bool :=
  if i.closed then i.low * unit ≤ p && p ≤ i.high * unit else i.low * unit < p && p < i.high * unit

/-- The multiple of `10 ^ exponent` next to the double that lies in its interval, the nearer one if
there are two, and the even one if both are equally near. -/
def onGrid? (x : Binary64) (exponent : Int) : Option Nat :=
  let i := Interval.of x
  let unitScale := x.scale - 2
  let tenUp := if 0 ≤ exponent then Nat.pow 10 exponent.toNat else 1
  let tenDown := if 0 ≤ exponent then 1 else Nat.pow 10 (-exponent).toNat
  let twoUp := if 0 ≤ unitScale then Nat.pow 2 unitScale.toNat else 1
  let twoDown := if 0 ≤ unitScale then 1 else Nat.pow 2 (-unitScale).toNat
  let unit := twoUp * tenDown
  let step := tenUp * twoDown
  let d := i.mid * unit / step
  let down := i.contains unit (d * step)
  let up := i.contains unit ((d + 1) * step)
  if down && up then
    let gapDown := i.mid * unit - d * step
    let gapUp := (d + 1) * step - i.mid * unit
    if gapDown < gapUp then some d
    else if gapUp < gapDown then some (d + 1)
    else if d % 2 = 0 then some d else some (d + 1)
  else if down then some d
  else if up then some (d + 1)
  else none

/-- Drops trailing zeros from the digits. -/
def dropZeros : (fuel : Nat) → Digits → Digits
  | 0, d => d
  | fuel + 1, d =>
      if d.digits ≠ 0 && d.digits % 10 = 0 then dropZeros fuel ⟨d.digits / 10, d.exponent + 1⟩
      else d

/-- Tries the grids from `count` digits on, `fuel` of them. -/
def searchGrids (x : Binary64) (leading : Int) : (fuel count : Nat) → Digits
  | 0, _ => ⟨x.significand, 0⟩
  | fuel + 1, count =>
      let exponent := leading - count + 1
      match onGrid? x exponent with
      | some d => dropZeros 20 ⟨d, exponent⟩
      | none => searchGrids x leading fuel (count + 1)

/-- The fewest digits that read back as a finite positive double. -/
def shortest (x : Binary64) : Digits :=
  let (num, den) := x.toRatio
  searchGrids x (leadingPower num.natAbs den) 17 1

/-! ## Layout -/

/-- How the digits of a number are set out. -/
structure Layout where
  /-- The least power of ten of the leading digit that is written positionally. -/
  positionalFrom : Int
  /-- The least power of ten of the leading digit that is no longer written positionally. -/
  positionalBelow : Int
  /-- The least number of digits of an exponent. -/
  exponentWidth : Nat
  infinity : String
  notANumber : String

/-- Positional from `0.0001` up to sixteen digits before the point, which always stands between
digits; beyond that an exponent of at least two digits with its sign. -/
def Layout.plain : Layout :=
  ⟨-4, 16, 2, "inf", "nan"⟩

/-- As `plain`, with the words of a data file for what has no digits. -/
def Layout.data : Layout :=
  { Layout.plain with infinity := "Infinity", notANumber := "NaN" }

/-- The digits set out by a layout. -/
def Layout.digits (l : Layout) (d : Digits) : List Char :=
  let ds := natText d.digits
  let leading : Int := d.exponent + ds.length - 1
  if l.positionalFrom ≤ leading && leading < l.positionalBelow then
    if leading < 0 then
      '0' :: '.' :: List.replicate (-leading - 1).toNat '0' ++ ds
    else
      let whole := leading.toNat + 1
      let padded := ds ++ List.replicate (whole - ds.length) '0'
      let rest := padded.drop whole
      padded.take whole ++ '.' :: (if rest.isEmpty then ['0'] else rest)
  else
    let rest := ds.drop 1
    ds.take 1 ++ (if rest.isEmpty then [] else '.' :: rest) ++
      'e' :: (if leading < 0 then '-' else '+') :: padded l.exponentWidth leading.natAbs

/-- The text of a double. -/
def write (l : Layout) (x : Binary64) : List Char :=
  if x.isNaN then l.notANumber.toList
  else
    let body :=
      if x.isInfinite then l.infinity.toList
      else if x.isZero then ['0', '.', '0']
      else l.digits (shortest { x with negative := false })
    if x.negative then '-' :: body else body

/-! ## Reading -/

/-- The digits at the front of a text, read after those already in `value`; `count` counts them. -/
def takeDigits : (value count : Nat) → List Char → Nat × Nat × List Char
  | value, count, [] => (value, count, [])
  | value, count, c :: cs =>
      match digitValue? c with
      | some d => takeDigits (value * 10 + d) (count + 1) cs
      | none => (value, count, c :: cs)

/-- The exponent at the end of a number: nothing, or a mark, a sign and at least one digit. -/
def readExponent? : List Char → Option Int
  | [] => some 0
  | c :: cs =>
      if c = 'e' || c = 'E' then
        let (negative, cs) := match cs with
          | '-' :: rest => (true, rest)
          | '+' :: rest => (false, rest)
          | rest => (false, rest)
        let (value, count, rest) := takeDigits 0 0 cs
        if count = 0 || !rest.isEmpty then none
        else some (if negative then -(value : Int) else value)
      else none

/-- Reads an unsigned number. -/
def readUnsigned? (negative : Bool) (cs : List Char) : Option Binary64 :=
  let (whole, wholeCount, rest) := takeDigits 0 0 cs
  let (digits, fractionCount, rest) := match rest with
    | '.' :: rest =>
        let (value, count, rest) := takeDigits whole 0 rest
        (value, count, rest)
    | rest => (whole, 0, rest)
  if wholeCount + fractionCount = 0 then none
  else (readExponent? rest).map fun e => Binary64.ofDecimal negative digits (e - fractionCount)

/-- Reads a number or one of the words for an infinity and for what is not a number. -/
def read? (cs : List Char) : Option Binary64 :=
  let (negative, body) := match dropMargins isNumeralMargin cs with
    | '-' :: rest => (true, rest)
    | '+' :: rest => (false, rest)
    | rest => (false, rest)
  let word := body.map Char.toLower
  if word = "inf".toList || word = "infinity".toList then some (Binary64.infinity negative)
  else if word = "nan".toList then some Binary64.nan
  else readUnsigned? negative body

end NoteCheck.Decimal
