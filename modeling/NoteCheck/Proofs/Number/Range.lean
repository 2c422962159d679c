import Mathlib
import NoteCheck.Number.Binary64

/-!
# Which integers are near a double

The largest finite double is `2 ^ 1024 - 2 ^ 971`, and the next number with the same spacing would
be `2 ^ 1024`.  An integer from their middle on rounds to infinity, the middle itself too, since
there the tie goes to the even significand (`ofInt?_eq_none_iff`).

The proof follows the rounding.  The scale of a positive integer is read off its leading bit
(`scaleFor_one`); below `2 ^ 1023` the exponent is too small to overflow, from `2 ^ 1024` on it is
too large not to, and between the two everything depends on the one carry out of the significand.
-/

namespace NoteCheck.Binary64

/-- The middle between the largest double and the next power of two. -/
def overflow : Nat :=
  2 ^ 1024 - 2 ^ 970

lemma isFinite_ofMagnitude (negative : Bool) (magnitude : Nat) :
    (ofMagnitude negative magnitude).isFinite = true ↔ magnitude < infiniteMagnitude := by
  rw [ofMagnitude, isFinite]
  split
  · simp
  · next h => simp [h]

/-- Dividing by one needs no rounding. -/
lemma roundRatio_one (num : Nat) : roundRatio num 1 = num := by
  simp [roundRatio, Nat.mod_one]

/-- Rounding goes to one of the two neighbours. -/
lemma roundRatio_bounds (num den : Nat) :
    num / den ≤ roundRatio num den ∧ roundRatio num den ≤ num / den + 1 := by
  simp only [roundRatio]
  split
  · omega
  · split
    · omega
    · split <;> omega

lemma descale_ofNat (num den s : Nat) : descale num den (s : Int) = (num, den * 2 ^ s) := by
  simp [descale]

lemma descale_neg (num den s : Nat) : descale num den (-(s : Int)) = (num * 2 ^ s, den) := by
  cases s with
  | zero => simp [descale]
  | succ s =>
      rw [descale, if_neg (by omega)]
      simp

/-- The significand of a positive integer begins with its leading bit. -/
lemma scaleFor_one {num : Nat} (h : num ≠ 0) : scaleFor num 1 = (Nat.log2 num : Int) - 52 := by
  have hlow := Nat.log2_self_le h
  have hone : Nat.log2 1 = 0 := by decide
  have hquot : ∀ n d, descale num 1 ((Nat.log2 num : Int) - (Nat.log2 1 : Nat) - 53) = (n, d) →
      2 * exponentUnit ≤ n / d := by
    intro n d hdescale
    rcases Nat.le_total 53 (Nat.log2 num) with hle | hle
    · obtain ⟨s, hs⟩ := Nat.exists_eq_add_of_le hle
      rw [hs, hone, show ((53 + s : Nat) : Int) - (0 : Nat) - 53 = (s : Int) by omega,
        descale_ofNat] at hdescale
      obtain ⟨rfl, rfl⟩ := Prod.mk.inj hdescale
      rw [hs, Nat.pow_add] at hlow
      rw [Nat.one_mul, Nat.le_div_iff_mul_le (Nat.two_pow_pos s)]
      exact hlow
    · obtain ⟨s, hs⟩ := Nat.exists_eq_add_of_le hle
      rw [hone, show (Nat.log2 num : Int) - (0 : Nat) - 53 = -(s : Int) by omega,
        descale_neg] at hdescale
      obtain ⟨rfl, rfl⟩ := Prod.mk.inj hdescale
      have hmul : 2 ^ Nat.log2 num * 2 ^ s ≤ num * 2 ^ s := Nat.mul_le_mul_right _ hlow
      rw [← Nat.pow_add, ← hs] at hmul
      rw [Nat.div_one]
      exact hmul
  simp only [scaleFor]
  rcases hd : descale num 1 ((Nat.log2 num : Int) - (Nat.log2 1 : Nat) - 53) with ⟨n, d⟩
  rw [if_pos (hquot n d hd), hone]
  omega

/-- The significand that a positive integer is rounded to, a carry included. -/
def roundedSignificand (num : Nat) : Nat :=
  if 52 ≤ Nat.log2 num then roundRatio num (2 ^ (Nat.log2 num - 52))
  else num * 2 ^ (52 - Nat.log2 num)

/-- The magnitude of a positive integer before it is cut off at infinity. -/
lemma ofRatio_one {num : Nat} (h : num ≠ 0) (negative : Bool) :
    ofRatio negative num 1 = ofMagnitude negative
      ((Nat.log2 num + 1022) * exponentUnit + roundedSignificand num) := by
  have hscale : (((Nat.log2 num : Int) - 52 + 1074).toNat) = Nat.log2 num + 1022 := by omega
  rw [ofRatio, if_neg (by simp [h])]
  simp only [scaleFor_one h, hscale, roundedSignificand]
  split
  · next hle =>
      rw [show (Nat.log2 num : Int) - 52 = ((Nat.log2 num - 52 : Nat) : Int) by omega,
        descale_ofNat, Nat.one_mul]
  · next hlt =>
      rw [show (Nat.log2 num : Int) - 52 = -((52 - Nat.log2 num : Nat) : Int) by omega,
        descale_neg]
      simp only [roundRatio_one]

/-- Between the middle and the next power of two, rounding carries out of the significand. -/
lemma roundRatio_carry {num half : Nat} (hlt : num < 2 ^ 54 * half) :
    2 ^ 53 ≤ roundRatio num (2 * half) ↔ 2 ^ 54 * half - half ≤ num := by
  have hhalf : 0 < half := by
    rcases Nat.eq_zero_or_pos half with rfl | h
    · omega
    · exact h
  have hdiv := Nat.div_add_mod num (2 * half)
  have hmod := Nat.mod_lt num (show 0 < 2 * half by omega)
  have hquot : num / (2 * half) < 2 ^ 53 := Nat.div_lt_of_lt_mul (by omega)
  by_cases hlast : num / (2 * half) = 2 ^ 53 - 1
  · simp only [roundRatio, hlast]
    rw [hlast] at hdiv
    split
    · omega
    · split
      · omega
      · rw [if_neg (by decide)]
        omega
  · -- below the last significand there is nothing to carry
    have hbound := (roundRatio_bounds num (2 * half)).2
    have hless : num / (2 * half) + 1 ≤ 2 ^ 53 - 1 := by omega
    have hmul : 2 * half * (num / (2 * half) + 1) ≤ 2 * half * (2 ^ 53 - 1) :=
      Nat.mul_le_mul_left _ hless
    rw [Nat.mul_add] at hmul
    omega

lemma roundedSignificand_bounds {num : Nat} (h : num ≠ 0) :
    exponentUnit ≤ roundedSignificand num ∧ roundedSignificand num ≤ 2 * exponentUnit := by
  have hlow := Nat.log2_self_le h
  have hhigh : num < 2 ^ (Nat.log2 num + 1) := Nat.lt_log2_self
  rw [roundedSignificand]
  split
  · next hle =>
      obtain ⟨s, hs⟩ := Nat.exists_eq_add_of_le hle
      rw [hs, show 52 + s + 1 = s + 53 by omega, Nat.pow_add] at hhigh
      rw [hs, Nat.pow_add] at hlow
      rw [hs, Nat.add_sub_cancel_left]
      obtain ⟨hfloor, hceil⟩ := roundRatio_bounds num (2 ^ s)
      have hquot : num / 2 ^ s < 2 ^ 53 := Nat.div_lt_of_lt_mul hhigh
      have hleast : 2 ^ 52 ≤ num / 2 ^ s := (Nat.le_div_iff_mul_le (Nat.two_pow_pos s)).mpr hlow
      simp only [exponentUnit]
      omega
  · next hlt =>
      obtain ⟨s, hs⟩ := Nat.exists_eq_add_of_le (Nat.le_of_not_le hlt)
      rw [show 52 - Nat.log2 num = s by omega]
      have hleast := Nat.mul_le_mul_right (2 ^ s) hlow
      have hmost := Nat.mul_le_mul_right (2 ^ s) (Nat.le_of_lt hhigh)
      rw [← Nat.pow_add, ← hs] at hleast
      rw [← Nat.pow_add, show Nat.log2 num + 1 + s = 53 by omega] at hmost
      exact ⟨hleast, hmost⟩

/-- **The range of the doubles.**  The integers that no finite double is nearest to are those from
the overflow on, of either sign. -/
theorem ofInt?_eq_none_iff (i : Int) : ofInt? i = none ↔ overflow ≤ i.natAbs := by
  have hfinite : ofInt? i = none ↔ ¬ (ofRatio (i < 0) i.natAbs 1).isFinite = true := by
    rw [ofInt?]
    split <;> simp_all
  obtain ⟨k, hk⟩ : ∃ k, k = 970 := ⟨970, rfl⟩
  have hhalf : 0 < 2 ^ k := Nat.two_pow_pos k
  rw [hfinite, overflow, show (1024 : Nat) = 54 + k by omega, ← hk, Nat.pow_add]
  generalize i.natAbs = num
  rcases Nat.eq_zero_or_pos num with rfl | hpos
  · have hzero : (ofRatio (i < 0) 0 1).isFinite = true := by
      rw [ofRatio, if_pos (by simp), zero, isFinite_ofMagnitude]
      decide
    rw [hzero]
    generalize 2 ^ k = half at hhalf ⊢
    simp only [not_true_eq_false, false_iff, Nat.not_le]
    omega
  · have hne := Nat.pos_iff_ne_zero.mp hpos
    have hlow := Nat.log2_self_le hne
    have hhigh : num < 2 ^ (Nat.log2 num + 1) := Nat.lt_log2_self
    have hsignificand := roundedSignificand_bounds hne
    rw [ofRatio_one hne, isFinite_ofMagnitude, Nat.not_lt]
    rcases Nat.lt_trichotomy (Nat.log2 num) 1023 with hlt | heq | hgt
    · have hmost : (2 : Nat) ^ (Nat.log2 num + 1) ≤ 2 ^ 53 * 2 ^ k := by
        rw [← Nat.pow_add]
        exact Nat.pow_le_pow_right (by omega) (by omega)
      have hexponent := Nat.mul_le_mul_right exponentUnit
        (show Nat.log2 num + 1022 ≤ 2044 by omega)
      generalize 2 ^ k = half at *
      simp only [infiniteMagnitude, exponentUnit] at *
      omega
    · have hdouble : (2 : Nat) ^ (1023 - 52) = 2 * 2 ^ k := by
        rw [show 1023 - 52 = k + 1 by omega, Nat.pow_succ']
      rw [heq, show 1023 + 1 = 54 + k by omega, Nat.pow_add] at hhigh
      rw [roundedSignificand, heq, if_pos (by omega), hdouble]
      have hcarry := roundRatio_carry hhigh
      generalize roundRatio num (2 * 2 ^ k) = rounded at hcarry ⊢
      rw [← hcarry]
      simp only [infiniteMagnitude, exponentUnit]
      omega
    · have hleast : (2 : Nat) ^ 54 * 2 ^ k ≤ 2 ^ Nat.log2 num := by
        rw [← Nat.pow_add]
        exact Nat.pow_le_pow_right (by omega) (by omega)
      have hexponent := Nat.mul_le_mul_right exponentUnit
        (show 2046 ≤ Nat.log2 num + 1022 by omega)
      generalize 2 ^ k = half at *
      simp only [infiniteMagnitude, exponentUnit] at *
      omega

end NoteCheck.Binary64
