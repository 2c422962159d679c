/-!
# Double precision numbers

A number of the IEEE 754 format binary64, as its sign and the sixty-three bits under the sign. Read
as a natural number these bits, the *magnitude*, order the absolute values: subnormal numbers come
first, then the normal ones, then infinity, then everything that is not a number.

All arithmetic is exact rational arithmetic on `significand * 2 ^ scale` followed by one rounding,
`ofRatio`, to the nearest number with ties to the even significand. Nothing here rests on the
machine's floating point unit, so every value can be computed inside a proof.
-/

namespace NoteCheck

/-- A double precision number. -/
structure Binary64 where
  /-- The sign bit. -/
  negative : Bool
  /-- The exponent and fraction bits. -/
  magnitude : Fin 9223372036854775808
deriving DecidableEq, Repr

namespace Binary64

/-- The weight of the lowest exponent bit within the magnitude. -/
def exponentUnit : Nat := 4503599627370496

/-- The magnitude of infinity: all exponent bits set, no fraction. -/
def infiniteMagnitude : Nat := 2047 * exponentUnit

/-- The number with a sign and a magnitude; a magnitude too large becomes infinite. -/
def ofMagnitude (negative : Bool) (magnitude : Nat) : Binary64 :=
  if h : magnitude < infiniteMagnitude then
    ⟨negative, ⟨magnitude, by simp [infiniteMagnitude, exponentUnit] at h; omega⟩⟩
  else
    ⟨negative, ⟨infiniteMagnitude, by simp [infiniteMagnitude, exponentUnit]⟩⟩

/-- The number with the given 64 bits. -/
def ofBits (bits : Nat) : Binary64 :=
  ⟨bits / 9223372036854775808 % 2 == 1, ⟨bits % 9223372036854775808, Nat.mod_lt _ (by decide)⟩⟩

/-- The 64 bits of a number. -/
def toBits (x : Binary64) : Nat :=
  (if x.negative then 9223372036854775808 else 0) + x.magnitude.val

/-- Infinity of either sign. -/
def infinity (negative : Bool) : Binary64 :=
  ofMagnitude negative infiniteMagnitude

/-- Zero of either sign. -/
def zero (negative : Bool) : Binary64 :=
  ofMagnitude negative 0

/-- The quiet value that is not a number. -/
def nan : Binary64 :=
  ofBits 0x7ff8000000000000

/-- Whether this is not a number. -/
def isNaN (x : Binary64) : Bool :=
  infiniteMagnitude < x.magnitude.val

/-- Whether this is one of the two infinities. -/
def isInfinite (x : Binary64) : Bool :=
  x.magnitude.val == infiniteMagnitude

/-- Whether this is a number with a finite value. -/
def isFinite (x : Binary64) : Bool :=
  x.magnitude.val < infiniteMagnitude

/-- Whether this is one of the two zeros. -/
def isZero (x : Binary64) : Bool :=
  x.magnitude.val == 0

/-- The exponent field. -/
def exponentField (x : Binary64) : Nat :=
  x.magnitude.val / exponentUnit

/-- The integer that the scale multiplies. -/
def significand (x : Binary64) : Nat :=
  x.magnitude.val % exponentUnit + if x.exponentField = 0 then 0 else exponentUnit

/-- The power of two that multiplies the significand. -/
def scale (x : Binary64) : Int :=
  if x.exponentField = 0 then -1074 else (x.exponentField : Int) - 1075

/-- The value of a finite number as a numerator and a positive denominator. -/
def toRatio (x : Binary64) : Int × Nat :=
  let signed : Int := if x.negative then -(x.significand : Int) else x.significand
  if 0 ≤ x.scale then (signed * (Nat.pow 2 x.scale.toNat : Nat), 1)
  else (signed, Nat.pow 2 (-x.scale).toNat)

/-- A quotient rounded to the nearest natural number, a tie to the even one. -/
def roundRatio (num den : Nat) : Nat :=
  let quotient := num / den
  let rest := 2 * (num % den)
  if rest < den then quotient
  else if den < rest then quotient + 1
  else if quotient % 2 = 0 then quotient else quotient + 1

/-- `num / den` divided by `2 ^ scale`, as a new numerator and denominator. -/
def descale (num den : Nat) (scale : Int) : Nat × Nat :=
  if 0 ≤ scale then (num, den * Nat.pow 2 scale.toNat) else (num * Nat.pow 2 (-scale).toNat, den)

/-- The scale at which a positive quotient has a significand of 53 bits, but never below the scale
of the subnormal numbers. -/
def scaleFor (num den : Nat) : Int :=
  let low : Int := (Nat.log2 num : Int) - Nat.log2 den - 53
  let (n, d) := descale num den low
  max (-1074) (if 2 * exponentUnit ≤ n / d then low + 1 else low)

/-- The double nearest to `num / den`, a tie going to the even significand. The significand carries
its leading bit into the exponent field, so the sum below also renders a carry out of the rounding
and an overflow into infinity. -/
def ofRatio (negative : Bool) (num den : Nat) : Binary64 :=
  if num = 0 || den = 0 then zero negative
  else
    let scale := scaleFor num den
    let (n, d) := descale num den scale
    ofMagnitude negative ((scale + 1074).toNat * exponentUnit + roundRatio n d)

/-- The double nearest to an integer; none when the nearest one is infinite. -/
def ofInt? (i : Int) : Option Binary64 :=
  let x := ofRatio (i < 0) i.natAbs 1
  if x.isFinite then some x else none

/-- The double nearest to `i / den`; none when the nearest one is infinite. -/
def ofIntQuotient? (i : Int) (den : Nat) : Option Binary64 :=
  let x := ofRatio (i < 0) i.natAbs den
  if x.isFinite then some x else none

/-- The double nearest to `digits * 10 ^ exponent`. Exponents far outside the range of the format
are decided without computing the power. -/
def ofDecimal (negative : Bool) (digits : Nat) (exponent : Int) : Binary64 :=
  let top : Int := (Nat.toDigits 10 digits).length + exponent
  if digits = 0 then zero negative
  else if 400 < top then infinity negative
  else if top < -400 then zero negative
  else if 0 ≤ exponent then ofRatio negative (digits * Nat.pow 10 exponent.toNat) 1
  else ofRatio negative digits (Nat.pow 10 (-exponent).toNat)

/-- The number with the opposite sign. -/
def neg (x : Binary64) : Binary64 :=
  { x with negative := !x.negative }

instance : Neg Binary64 := ⟨neg⟩

/-- The double nearest to a signed quotient; `zeroSign` is the sign of an exact zero. -/
def ofSignedRatio (zeroSign : Bool) (num : Int) (den : Nat) : Binary64 :=
  if num = 0 then zero zeroSign else ofRatio (num < 0) num.natAbs den

/-- The rounded sum. -/
def add (x y : Binary64) : Binary64 :=
  if x.isNaN || y.isNaN then nan
  else if x.isInfinite then
    if y.isInfinite && x.negative != y.negative then nan else x
  else if y.isInfinite then y
  else
    let (a, b) := x.toRatio
    let (c, d) := y.toRatio
    ofSignedRatio (x.negative && y.negative) (a * d + c * b) (b * d)

/-- The rounded product. -/
def mul (x y : Binary64) : Binary64 :=
  let negative := x.negative != y.negative
  if x.isNaN || y.isNaN then nan
  else if x.isInfinite || y.isInfinite then
    if x.isZero || y.isZero then nan else infinity negative
  else
    let (a, b) := x.toRatio
    let (c, d) := y.toRatio
    ofSignedRatio negative (a * c) (b * d)

instance : Add Binary64 := ⟨add⟩
instance : Mul Binary64 := ⟨mul⟩

/-- Equality of values: the two zeros are equal, and what is not a number equals nothing. -/
def eqValue (x y : Binary64) : Bool :=
  !x.isNaN && !y.isNaN &&
    ((x.isZero && y.isZero) || (x.negative == y.negative && x.magnitude == y.magnitude))

/-- Whether the value is exactly the given integer. -/
def eqInt (x : Binary64) (i : Int) : Bool :=
  x.isFinite && (let (num, den) := x.toRatio; num == i * den)

/-- A finite value rounded to the nearest integer, a tie to the even one. -/
def round? (x : Binary64) : Option Int :=
  if x.isFinite then
    let (num, den) := x.toRatio
    let n : Int := roundRatio num.natAbs den
    some (if num < 0 then -n else n)
  else none

end Binary64

end NoteCheck
