import Mathlib
import NoteCheck.Number.Decimal
import NoteCheck.Proofs.Number.Rounding

/-!
# The fewest digits of a double name no other double

The numbers that round to a double lie in an interval around it, and the intervals of different
doubles have no number in common: where two of them meet, one of the two significands is odd and
leaves the end out (`eq_of_roundsTo`).  The search for the fewest digits ends at a decimal number in
the interval (`roundsTo_shortest`), since seventeen digits are always enough: a grid of that many
digits is finer than the interval is wide (`onGrid?_isSome`).

* **`eq_of_shortest`**: so two doubles with the same fewest digits are one.
-/

namespace NoteCheck.Decimal

open NoteCheck.Text

variable {x y : Binary64} {q : ℚ} {exponent : Int} {d : Nat}

/-! ## What rounds to a double -/

/-- Whether a number in the units of an interval lies in it. -/
def Interval.Holds (i : Interval) (q : ℚ) : Prop :=
  if i.closed then i.low ≤ q ∧ q ≤ i.high else i.low < q ∧ q < i.high

/-- Whether a number rounds to a double that is not negative. -/
def RoundsTo (q : ℚ) (x : Binary64) : Prop :=
  (Interval.of x).Holds (q / 2 ^ (x.scale - 2))

lemma Interval.contains_iff {i : Interval} {unit : Nat} (hunit : 0 < unit) (p : Nat) :
    i.contains unit p = true ↔ i.Holds (p / unit) := by
  have hpos : (0 : ℚ) < unit := by exact_mod_cast hunit
  rw [contains, Holds]
  split
  · rw [Bool.and_eq_true, decide_eq_true_eq, decide_eq_true_eq, le_div_iff₀ hpos,
      div_le_iff₀ hpos]
    norm_cast
  · rw [Bool.and_eq_true, decide_eq_true_eq, decide_eq_true_eq, lt_div_iff₀ hpos,
      div_lt_iff₀ hpos]
    norm_cast

lemma Interval.Holds.bounds {i : Interval} (h : i.Holds q) : i.low ≤ q ∧ q ≤ i.high := by
  rw [Holds] at h
  split at h
  · exact h
  · exact ⟨h.1.le, h.2.le⟩

/-- An end that an interval holds belongs to a closed interval. -/
lemma Interval.Holds.closed {i : Interval} (h : i.Holds q) (hend : q = i.low ∨ q = i.high) :
    i.closed = true := by
  rw [Holds] at h
  split at h
  · assumption
  · rcases hend with rfl | rfl
    · exact absurd h.1 (lt_irrefl _)
    · exact absurd h.2 (lt_irrefl _)

/-- How the magnitude of a double is made of its scale and its significand. -/
lemma magnitude_eq (x : Binary64) : ∃ k : Nat, x.scale = k - 1074 ∧
    x.magnitude.val = k * 2 ^ 52 + x.significand ∧ x.significand < 2 ^ 53 ∧
    (0 < k → 2 ^ 52 ≤ x.significand) ∧ (1 < x.exponentField ↔ 0 < k) := by
  refine ⟨x.exponentField - 1, ?_⟩
  simp only [Binary64.scale, Binary64.significand, Binary64.exponentField, Binary64.exponentUnit]
  by_cases hsubnormal : x.magnitude.val / 4503599627370496 = 0
  · simp only [hsubnormal, ↓reduceIte]
    omega
  · simp only [hsubnormal, ↓reduceIte]
    omega

lemma Interval.of_closed (x : Binary64) :
    (Interval.of x).closed = true ↔ x.significand % 2 = 0 := by
  simp [Interval.of]

/-- Below the least significand of a scale the interval is narrower. -/
lemma Interval.of_low (x : Binary64) :
    (x.significand = 2 ^ 52 ∧ 1 < x.exponentField) ∧ (Interval.of x).low + 1 = (Interval.of x).mid ∨
      ¬ (x.significand = 2 ^ 52 ∧ 1 < x.exponentField) ∧
        (Interval.of x).low = (Interval.of x).mid - 2 := by
  have hcond : (decide (x.significand = Binary64.exponentUnit) && decide (1 < x.exponentField)) =
      true ↔ x.significand = 2 ^ 52 ∧ 1 < x.exponentField := by
    rw [Bool.and_eq_true, decide_eq_true_eq, decide_eq_true_eq]
    rfl
  by_cases hleast : x.significand = 2 ^ 52 ∧ 1 < x.exponentField
  · refine .inl ⟨hleast, ?_⟩
    simp only [of, if_pos (hcond.mpr hleast)]
    omega
  · refine .inr ⟨hleast, ?_⟩
    simp only [of, if_neg (mt hcond.mp hleast)]

/-- The upper end of an interval is not above the lower end of a later one, and they are the same
only if one of the two is open. -/
lemma high_le_low (hlt : x.magnitude.val < y.magnitude.val) {s : Nat} (hs : y.scale = x.scale + s) :
    (Interval.of x).high ≤ (Interval.of y).low * 2 ^ s ∧
      ((Interval.of x).high = (Interval.of y).low * 2 ^ s →
        ¬ ((Interval.of x).closed = true ∧ (Interval.of y).closed = true)) := by
  obtain ⟨k, hxscale, hxmagnitude, hxless, -, -⟩ := magnitude_eq x
  obtain ⟨l, hyscale, hymagnitude, -, hyleast, hyfield⟩ := magnitude_eq y
  obtain rfl : l = k + s := by omega
  have hhigh : (Interval.of x).high = 4 * x.significand + 2 := rfl
  have hmid : (Interval.of y).mid = 4 * y.significand := rfl
  have hlow := Interval.of_low y
  rw [Interval.of_closed, Interval.of_closed, hhigh]
  rcases Nat.eq_zero_or_pos s with rfl | hs
  · rw [pow_zero, Nat.mul_one]
    omega
  · -- A later scale starts above the largest significand of the one before it.
    have htwice : (Interval.of y).low * 2 ≤ (Interval.of y).low * 2 ^ s :=
      Nat.mul_le_mul_left _ (Nat.le_self_pow hs.ne' 2)
    have hleast := hyleast (by omega)
    omega

/-- A number does not round to a double and to a larger one. -/
lemma magnitude_le_of_roundsTo (hxq : RoundsTo q x) (hyq : RoundsTo q y) :
    y.magnitude.val ≤ x.magnitude.val := by
  by_contra hlt
  have hlt := Nat.not_le.mp hlt
  obtain ⟨s, hs⟩ : ∃ s : Nat, y.scale = x.scale + s := by
    obtain ⟨k, hxscale, hxmagnitude, -, hxleast, -⟩ := magnitude_eq x
    obtain ⟨l, hyscale, hymagnitude, hyless, -, -⟩ := magnitude_eq y
    exact ⟨l - k, by omega⟩
  obtain ⟨hle, hopen⟩ := high_le_low hlt hs
  have hunits : q / 2 ^ (x.scale - 2) = q / 2 ^ (y.scale - 2) * 2 ^ s := by
    rw [hs, show x.scale + s - 2 = x.scale - 2 + s by ring, zpow_add₀ two_ne_zero, zpow_natCast,
      ← div_div, div_mul_cancel₀ _ (by positivity)]
  have hpos : (0 : ℚ) < 2 ^ s := by positivity
  have hcast : ((Interval.of x).high : ℚ) ≤ (Interval.of y).low * 2 ^ s := by exact_mod_cast hle
  have hhigh := hxq.bounds.2
  have hlow := mul_le_mul_of_nonneg_right hyq.bounds.1 hpos.le
  rw [hunits] at hhigh
  -- So the number is the end that the two intervals share, and both are closed.
  have hmeet : ((Interval.of x).high : ℚ) = (Interval.of y).low * 2 ^ s :=
    le_antisymm hcast (hlow.trans hhigh)
  refine hopen (by exact_mod_cast hmeet) ⟨hxq.closed (.inr ?_), hyq.closed (.inl ?_)⟩
  · rw [hunits]
    exact le_antisymm hhigh (hmeet.trans_le hlow)
  · exact mul_right_cancel₀ hpos.ne' (le_antisymm (hhigh.trans hcast) hlow)

/-- **No number rounds to two doubles.** -/
lemma eq_of_roundsTo (hx : x.negative = false) (hy : y.negative = false) (hxq : RoundsTo q x)
    (hyq : RoundsTo q y) : x = y := by
  have hmagnitude : x.magnitude = y.magnitude :=
    Fin.ext (Nat.le_antisymm (magnitude_le_of_roundsTo hyq hxq) (magnitude_le_of_roundsTo hxq hyq))
  cases x
  cases y
  simp_all

/-! ## The search -/

/-- How many steps of a common unit make one unit of a double's interval. -/
def gridUnit (x : Binary64) (exponent : Int) : Nat :=
  (if 0 ≤ x.scale - 2 then Nat.pow 2 (x.scale - 2).toNat else 1) *
    (if 0 ≤ exponent then 1 else Nat.pow 10 (-exponent).toNat)

/-- How many of a common unit lie between two multiples of a power of ten. -/
def gridStep (x : Binary64) (exponent : Int) : Nat :=
  (if 0 ≤ exponent then Nat.pow 10 exponent.toNat else 1) *
    (if 0 ≤ x.scale - 2 then 1 else Nat.pow 2 (-(x.scale - 2)).toNat)

lemma pow_or_one_pos {b : Nat} (hb : 0 < b) (e : Int) :
    0 < (if 0 ≤ e then Nat.pow b e.toNat else 1) ∧
      0 < (if 0 ≤ e then 1 else Nat.pow b (-e).toNat) := by
  constructor <;> split <;> first | exact Nat.one_pos | exact Nat.pow_pos hb

/-- A power is a quotient of natural numbers, whatever the sign of its exponent. -/
lemma zpow_eq_div (b : Nat) (e : Int) :
    (b : ℚ) ^ e = ((if 0 ≤ e then Nat.pow b e.toNat else 1 : Nat) : ℚ) /
      (if 0 ≤ e then 1 else Nat.pow b (-e).toNat : Nat) := by
  split
  · next he =>
      obtain ⟨n, rfl⟩ := Int.eq_ofNat_of_zero_le he
      simp
  · next he =>
      obtain ⟨n, rfl⟩ : ∃ n : Nat, e = -(n : Int) := ⟨(-e).toNat, by omega⟩
      simp

lemma gridUnit_pos (x : Binary64) (exponent : Int) : 0 < gridUnit x exponent :=
  Nat.mul_pos (pow_or_one_pos (by decide) _).1 (pow_or_one_pos (by decide) _).2

lemma gridStep_pos (x : Binary64) (exponent : Int) : 0 < gridStep x exponent :=
  Nat.mul_pos (pow_or_one_pos (by decide) _).1 (pow_or_one_pos (by decide) _).2

/-- The grid in the units of the interval. -/
lemma gridStep_div_gridUnit (x : Binary64) (exponent : Int) :
    (gridStep x exponent : ℚ) / gridUnit x exponent = 10 ^ exponent / 2 ^ (x.scale - 2) := by
  have hten := zpow_eq_div 10 exponent
  have htwo := zpow_eq_div 2 (x.scale - 2)
  rw [gridStep, gridUnit, Nat.cast_mul, Nat.cast_mul]
  push_cast at hten htwo ⊢
  rw [hten, htwo, div_div_div_eq]
  ring

lemma holds_multiple_iff (x : Binary64) (exponent : Int) (d : Nat) :
    (Interval.of x).contains (gridUnit x exponent) (d * gridStep x exponent) = true ↔
      RoundsTo (d * 10 ^ exponent) x := by
  rw [Interval.contains_iff (gridUnit_pos x exponent), RoundsTo, Nat.cast_mul, mul_div_assoc,
    gridStep_div_gridUnit, mul_div_assoc]

lemma onGrid?_eq (x : Binary64) (exponent : Int) :
    onGrid? x exponent =
      let i := Interval.of x
      let unit := gridUnit x exponent
      let step := gridStep x exponent
      let d := i.mid * unit / step
      let down := i.contains unit (d * step)
      let up := i.contains unit ((d + 1) * step)
      if down && up then
        let gapDown := i.mid * unit - d * step
        let gapUp := (d + 1) * step - i.mid * unit
        if gapDown < gapUp then some d
        else if gapUp < gapDown then some (d + 1)
        else if d % 2 = 0 then some d else some (d + 1)
      else if down then some d
      else if up then some (d + 1)
      else none :=
  rfl

/-- What is found on a grid rounds to the double. -/
lemma roundsTo_of_onGrid? (h : onGrid? x exponent = some d) : RoundsTo (d * 10 ^ exponent) x := by
  rw [← holds_multiple_iff]
  rw [onGrid?_eq] at h
  dsimp only at h
  split at h
  · next hboth =>
      obtain ⟨hdown, hup⟩ := (Bool.and_eq_true _ _).mp hboth
      split at h
      · rwa [← Option.some.inj h]
      · split at h
        · rwa [← Option.some.inj h]
        · split at h
          · rwa [← Option.some.inj h]
          · rwa [← Option.some.inj h]
  · split at h
    · next hdown => rwa [← Option.some.inj h]
    · split at h
      · next hup => rwa [← Option.some.inj h]
      · cases h

lemma Interval.contains_of_lt {i : Interval} {unit p : Nat} (hlow : i.low * unit < p)
    (hhigh : p < i.high * unit) : i.contains unit p = true := by
  rw [contains]
  split
  · simp [hlow.le, hhigh.le]
  · simp [hlow, hhigh]

/-- A grid that is finer than the interval is wide has a number in it, next to the double. -/
lemma onGrid?_isSome (hpos : 0 < x.significand) (hfine : (10 : ℚ) ^ exponent / 2 ^ (x.scale - 2) <
    (Interval.of x).high - (Interval.of x).low) : (onGrid? x exponent).isSome = true := by
  have hunit := gridUnit_pos x exponent
  have hstep := gridStep_pos x exponent
  have hless : gridStep x exponent + (Interval.of x).low * gridUnit x exponent <
      (Interval.of x).high * gridUnit x exponent := by
    have hunit' : (0 : ℚ) < gridUnit x exponent := by exact_mod_cast hunit
    rw [← gridStep_div_gridUnit, div_lt_iff₀ hunit', sub_mul, lt_sub_iff_add_lt] at hfine
    exact_mod_cast hfine
  have hlow : (Interval.of x).low < (Interval.of x).mid := by
    simp only [Interval.of]
    split <;> omega
  have hhigh : (Interval.of x).mid < (Interval.of x).high := by
    simp only [Interval.of]
    omega
  have hlow := Nat.mul_lt_mul_of_pos_right hlow hunit
  have hhigh := Nat.mul_lt_mul_of_pos_right hhigh hunit
  have hdiv := Nat.div_add_mod' ((Interval.of x).mid * gridUnit x exponent) (gridStep x exponent)
  have hmod := Nat.mod_lt ((Interval.of x).mid * gridUnit x exponent) hstep
  have hnext := Nat.add_one_mul
    ((Interval.of x).mid * gridUnit x exponent / gridStep x exponent) (gridStep x exponent)
  rw [onGrid?_eq]
  dsimp only
  split
  · split
    · rfl
    · split
      · rfl
      · split <;> rfl
  · split
    · rfl
    · next hdown =>
        rw [if_pos]
        · rfl
        · -- The lower neighbour is out, so the upper one is less than a step above the lower end.
          have hout : ¬ (Interval.of x).low * gridUnit x exponent <
              (Interval.of x).mid * gridUnit x exponent / gridStep x exponent *
                gridStep x exponent := fun hin =>
            hdown (Interval.contains_of_lt hin (by omega))
          exact Interval.contains_of_lt (by omega) (by omega)

/-! ## Seventeen digits are enough -/

lemma pow_length_le {n : Nat} (h : 0 < n) : 10 ^ ((natText n).length - 1) ≤ n := by
  rcases Nat.eq_zero_or_pos ((natText n).length - 1) with hzero | hpos
  · rw [hzero]
    exact h
  · by_contra hless
    have hshort := (Nat.length_toDigits_le_iff (by decide) hpos).mpr (Nat.not_le.mp hless)
    rw [natText] at hpos hshort
    omega

lemma lt_pow_length (n : Nat) : n < 10 ^ (natText n).length :=
  (Nat.length_toDigits_le_iff (by decide) Nat.length_toDigits_pos).mp (Nat.le_refl _)

lemma length_natText_pos (n : Nat) : 0 < (natText n).length :=
  Nat.length_toDigits_pos

/-- The leading digit of a quotient does not stand above it. -/
lemma leadingPower_le {num den : Nat} (hnum : 0 < num) (hden : 0 < den) :
    (10 : ℚ) ^ leadingPower num den ≤ num / den := by
  have hden' : (0 : ℚ) < den := by exact_mod_cast hden
  have hnum' : (0 : ℚ) < num := by exact_mod_cast hnum
  rw [leadingPower]
  split
  · next hle =>
      have hpow := pow_length_le (Nat.div_pos hle hden)
      obtain ⟨n, hn⟩ : ∃ n, (natText (num / den)).length = n + 1 :=
        ⟨_, (Nat.sub_add_cancel (length_natText_pos _)).symm⟩
      rw [hn, Nat.add_sub_cancel] at hpow
      rw [hn, Nat.cast_add, Nat.cast_one, add_sub_cancel_right, zpow_natCast, le_div_iff₀ hden']
      exact_mod_cast (Nat.le_div_iff_mul_le hden).mp hpow
  · obtain ⟨n, hn⟩ : ∃ n, (natText (den / num)).length = n + 1 :=
      ⟨_, (Nat.sub_add_cancel (length_natText_pos _)).symm⟩
    have hless := lt_pow_length (den / num)
    dsimp only
    rw [hn] at hless ⊢
    rw [Nat.add_sub_cancel, le_div_iff₀ hden']
    split
    · next hexact =>
        rw [hexact, show (1 : Int) - ((n + 1 : Nat) : Int) = -(n : Int) by push_cast; ring,
          zpow_neg, zpow_natCast, inv_mul_le_iff₀ (by positivity)]
        exact_mod_cast (Nat.mul_comm num (10 ^ n)).le
    · rw [zpow_neg, zpow_natCast, inv_mul_le_iff₀ (by positivity)]
      have hbound := ((Nat.div_lt_iff_lt_mul hnum).mp hless).le
      exact_mod_cast hbound

/-- A grid of seventeen digits is finer than the interval of a double is wide. -/
lemma seventeen_digits (hx : x.negative = false) (hpos : 0 < x.significand) {leading : Int}
    (hleading : (10 : ℚ) ^ leading ≤ x.value) :
    (10 : ℚ) ^ (leading - 16) / 2 ^ (x.scale - 2) <
      (Interval.of x).high - (Interval.of x).low := by
  have hstep : (10 : ℚ) ^ (leading - 16) / 2 ^ (x.scale - 2) ≤ 4 * x.significand / 10 ^ 16 := by
    rw [Binary64.value_eq hx] at hleading
    rw [div_le_iff₀ (by positivity), zpow_sub₀ (by norm_num), zpow_sub₀ two_ne_zero,
      div_le_iff₀ (by positivity)]
    calc (10 : ℚ) ^ leading ≤ x.significand * 2 ^ x.scale := hleading
      _ = _ := by norm_num; ring
  have hwidth : (Interval.of x).low + 4 ≤ (Interval.of x).high ∨
      x.significand = 2 ^ 52 ∧ (Interval.of x).low + 3 = (Interval.of x).high := by
    have hmid : (Interval.of x).mid = 4 * x.significand := rfl
    have hhigh : (Interval.of x).high = (Interval.of x).mid + 2 := rfl
    rcases Interval.of_low x with ⟨hleast, hlow⟩ | ⟨-, hlow⟩
    · exact .inr ⟨hleast.1, by omega⟩
    · exact .inl (by omega)
  obtain ⟨-, -, -, hless, -, -⟩ := magnitude_eq x
  refine hstep.trans_lt ?_
  rw [div_lt_iff₀ (by positivity)]
  rcases hwidth with hwidth | ⟨hleast, hwidth⟩
  · have hwidth : ((Interval.of x).low : ℚ) + 4 ≤ (Interval.of x).high := by exact_mod_cast hwidth
    have hless : (x.significand : ℚ) < 2 ^ 53 := by exact_mod_cast hless
    linarith
  · have hwidth : ((Interval.of x).low : ℚ) + 3 = (Interval.of x).high := by exact_mod_cast hwidth
    rw [← hwidth, hleast]
    norm_num

/-- The value of a decimal number. -/
def Digits.value (d : Digits) : ℚ :=
  d.digits * 10 ^ d.exponent

lemma value_dropZeros (fuel : Nat) (d : Digits) : (dropZeros fuel d).value = d.value := by
  fun_induction dropZeros fuel d with
  | case1 => rfl
  | case2 fuel d hzero ih =>
      rw [Bool.and_eq_true, decide_eq_true_eq, decide_eq_true_eq] at hzero
      have hdigits : d.digits / 10 * 10 = d.digits :=
        Nat.div_mul_cancel (Nat.dvd_of_mod_eq_zero hzero.2)
      rw [ih, Digits.value, Digits.value]
      calc ((d.digits / 10 : Nat) : ℚ) * 10 ^ (d.exponent + 1)
          = ((d.digits / 10 * 10 : Nat) : ℚ) * 10 ^ d.exponent := by
            rw [zpow_add_one₀ (by norm_num)]
            push_cast
            ring
        _ = d.digits * 10 ^ d.exponent := by rw [hdigits]
  | case3 => rfl

/-- The search ends on a grid of at most seventeen digits. -/
lemma roundsTo_searchGrids {leading : Int}
    (hlast : (onGrid? x (leading - 16)).isSome = true) {fuel count : Nat} (hfuel : 0 < fuel)
    (hcount : fuel + count = 18) : RoundsTo (searchGrids x leading fuel count).value x := by
  induction fuel generalizing count with
  | zero => exact absurd hfuel (Nat.lt_irrefl 0)
  | succ fuel ih =>
      rw [searchGrids]
      split
      · next d hfound =>
          rw [value_dropZeros]
          exact roundsTo_of_onGrid? hfound
      · next hnone =>
          refine ih (Nat.pos_of_ne_zero ?_) (by omega)
          rintro rfl
          rw [show leading - (count : Int) + 1 = leading - 16 by omega] at hnone
          rw [hnone] at hlast
          exact absurd hlast (by decide)

/-- **The fewest digits round to the double.** -/
lemma roundsTo_shortest (hx : x.negative = false) (hpos : 0 < x.significand) :
    RoundsTo (shortest x).value x := by
  suffices hleading : (10 : ℚ) ^ leadingPower x.toRatio.1.natAbs x.toRatio.2 ≤ x.value from
    roundsTo_searchGrids (onGrid?_isSome hpos (seventeen_digits hx hpos hleading)) (by decide) rfl
  obtain ⟨num, hnum⟩ := Int.eq_ofNat_of_zero_le (Binary64.toRatio_num_nonneg hx)
  have hvalue : x.value = num / x.toRatio.2 := by
    rw [Binary64.value, hnum]
    rfl
  have hnum' : 0 < num := by
    refine Nat.pos_of_ne_zero fun hzero => ?_
    rw [Binary64.value_eq hx, hzero, Nat.cast_zero, zero_div] at hvalue
    have : (0 : ℚ) < x.significand * 2 ^ x.scale := by positivity
    exact this.ne' hvalue
  rw [hvalue, hnum]
  exact leadingPower_le hnum' (Binary64.toRatio_den_pos x)

/-- **The fewest digits of a double are those of no other one.** -/
theorem eq_of_shortest (hx : x.negative = false) (hy : y.negative = false)
    (hxpos : 0 < x.significand) (hypos : 0 < y.significand)
    (h : (shortest x).value = (shortest y).value) : x = y := by
  have hyq := roundsTo_shortest hy hypos
  rw [← h] at hyq
  exact eq_of_roundsTo hx hy (roundsTo_shortest hx hxpos) hyq

end NoteCheck.Decimal
