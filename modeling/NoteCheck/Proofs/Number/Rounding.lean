import Mathlib
import NoteCheck.Proofs.Number.Range

/-!
# How far rounding goes

A positive quotient that is neither too small nor too large is rounded to a double that differs from
it by at most `2 ^ -53` of it (`ofRatio_error`).  The rounding is that of the significand to a
natural number, which is at least `2 ^ 52`; so its error of at most one half is small against it.
-/

namespace NoteCheck.Binary64

variable {x y : Binary64} {num den : Nat}

/-- The value of a finite number. -/
def value (x : Binary64) : ℚ :=
  x.toRatio.1 / x.toRatio.2

lemma toRatio_den_pos (x : Binary64) : 0 < x.toRatio.2 := by
  rw [toRatio]
  split
  · exact Nat.one_pos
  · exact Nat.two_pow_pos _

lemma toRatio_num_nonneg (h : x.negative = false) : 0 ≤ x.toRatio.1 := by
  rw [toRatio, h, if_neg Bool.false_ne_true]
  split <;> positivity

lemma value_eq (h : x.negative = false) : x.value = x.significand * (2 : ℚ) ^ x.scale := by
  rw [value, toRatio, h]
  split
  · next hscale =>
      obtain ⟨n, hn⟩ := Int.eq_ofNat_of_zero_le hscale
      simp [hn]
  · next hscale =>
      obtain ⟨n, hn⟩ : ∃ n : Nat, x.scale = -(n : Int) := ⟨(-x.scale).toNat, by omega⟩
      simp [hn, div_eq_mul_inv]

/-! ## Rounding a significand -/

/-- Rounding to the nearest natural number errs by one half at most. -/
lemma roundRatio_error (num : Nat) (hden : den ≠ 0) :
    |(roundRatio num den : ℚ) - num / den| ≤ 1 / 2 := by
  have hpos : (0 : ℚ) < den := by exact_mod_cast Nat.pos_of_ne_zero hden
  have hnat : 2 * num ≤ (2 * roundRatio num den + 1) * den ∧
      2 * roundRatio num den * den ≤ 2 * num + den := by
    have hdiv := Nat.div_add_mod num den
    have hdown : (2 * (num / den) + 1) * den = 2 * (den * (num / den)) + den := by ring
    have hup : (2 * (num / den + 1) + 1) * den = 2 * (den * (num / den)) + 3 * den := by ring
    have hdown' : 2 * (num / den) * den = 2 * (den * (num / den)) := by ring
    have hup' : 2 * (num / den + 1) * den = 2 * (den * (num / den)) + 2 * den := by ring
    have hmod := Nat.mod_lt num (Nat.pos_of_ne_zero hden)
    simp only [roundRatio]
    split
    · omega
    · split
      · omega
      · split <;> omega
  have hlow : (2 * num : ℚ) ≤ (2 * roundRatio num den + 1) * den := by exact_mod_cast hnat.1
  have hhigh : (2 * roundRatio num den * den : ℚ) ≤ 2 * num + den := by exact_mod_cast hnat.2
  have hcancel : (num / den : ℚ) * den = num := div_mul_cancel₀ _ hpos.ne'
  rw [abs_le]
  constructor <;> nlinarith

lemma descale_den_ne_zero (num : Nat) (hden : den ≠ 0) (scale : Int) :
    (descale num den scale).2 ≠ 0 := by
  rw [descale]
  split
  · exact Nat.mul_ne_zero hden (Nat.two_pow_pos _).ne'
  · exact hden

lemma descale_value (num den : Nat) (scale : Int) :
    ((descale num den scale).1 : ℚ) / (descale num den scale).2 = num / den / 2 ^ scale := by
  rw [descale]
  split
  · next hscale =>
      obtain ⟨n, rfl⟩ := Int.eq_ofNat_of_zero_le hscale
      simp [div_div]
  · next hscale =>
      obtain ⟨n, rfl⟩ : ∃ n : Nat, scale = -(n : Int) := ⟨(-scale).toNat, by omega⟩
      simp [div_eq_mul_inv]
      ring

/-! ## The scale of a quotient -/

/-- By how many binary digits the numerator is longer than the denominator. -/
def order (num den : Nat) : Int :=
  (Nat.log2 num : Int) - Nat.log2 den

lemma two_pow_order_lt (hnum : num ≠ 0) (hden : den ≠ 0) :
    (2 : ℚ) ^ (order num den - 1) < num / den ∧ (num / den : ℚ) < 2 ^ (order num den + 1) := by
  have hpos : (0 : ℚ) < den := by exact_mod_cast Nat.pos_of_ne_zero hden
  have hnumlow : (2 : ℚ) ^ Nat.log2 num ≤ num := by exact_mod_cast Nat.log2_self_le hnum
  have hnumhigh : (num : ℚ) < 2 ^ (Nat.log2 num + 1) := by
    exact_mod_cast (Nat.lt_log2_self : num < 2 ^ (Nat.log2 num + 1))
  have hdenlow : (2 : ℚ) ^ Nat.log2 den ≤ den := by exact_mod_cast Nat.log2_self_le hden
  have hdenhigh : (den : ℚ) < 2 ^ (Nat.log2 den + 1) := by
    exact_mod_cast (Nat.lt_log2_self : den < 2 ^ (Nat.log2 den + 1))
  have hlow : (2 : ℚ) ^ (order num den - 1) * 2 ^ (Nat.log2 den + 1) = 2 ^ Nat.log2 num := by
    rw [← zpow_natCast, ← zpow_natCast, ← zpow_add₀ two_ne_zero, order]
    congr 1
    push_cast
    ring
  have hhigh : (2 : ℚ) ^ (order num den + 1) * 2 ^ Nat.log2 den = 2 ^ (Nat.log2 num + 1) := by
    rw [← zpow_natCast, ← zpow_natCast, ← zpow_add₀ two_ne_zero, order]
    congr 1
    push_cast
    ring
  constructor
  · rw [lt_div_iff₀ hpos]
    calc (2 : ℚ) ^ (order num den - 1) * den
        < 2 ^ (order num den - 1) * 2 ^ (Nat.log2 den + 1) :=
          mul_lt_mul_of_pos_left hdenhigh (zpow_pos two_pos _)
      _ = 2 ^ Nat.log2 num := hlow
      _ ≤ num := hnumlow
  · rw [div_lt_iff₀ hpos]
    calc (num : ℚ) < 2 ^ (Nat.log2 num + 1) := hnumhigh
      _ = 2 ^ (order num den + 1) * 2 ^ Nat.log2 den := hhigh.symm
      _ ≤ 2 ^ (order num den + 1) * den := mul_le_mul_of_nonneg_left hdenlow (zpow_pos two_pos _).le

/-- At its scale a quotient has a significand of 53 bits, if it is not too small. -/
lemma scaleFor_spec (hnum : num ≠ 0) (hden : den ≠ 0) (hlow : -1021 ≤ order num den) :
    -1074 ≤ scaleFor num den ∧ scaleFor num den ≤ order num den - 52 ∧
      2 ^ 52 ≤ (num / den : ℚ) / 2 ^ scaleFor num den ∧
      (num / den : ℚ) / 2 ^ scaleFor num den < 2 ^ 53 := by
  obtain ⟨hless, hmore⟩ := two_pow_order_lt hnum hden
  have hone : (num / den : ℚ) / 2 ^ (order num den - 53) < 2 ^ 54 := by
    rw [div_lt_iff₀ (zpow_pos two_pos _), ← zpow_natCast, ← zpow_add₀ two_ne_zero]
    rwa [show ((54 : Nat) : Int) + (order num den - 53) = order num den + 1 by push_cast; ring]
  have htwo : (2 : ℚ) ^ 52 < (num / den : ℚ) / 2 ^ (order num den - 53) := by
    rw [lt_div_iff₀ (zpow_pos two_pos _), ← zpow_natCast, ← zpow_add₀ two_ne_zero]
    rwa [show ((52 : Nat) : Int) + (order num den - 53) = order num den - 1 by push_cast; ring]
  have hden' := descale_den_ne_zero num hden (order num den - 53)
  have hvalue := descale_value num den (order num den - 53)
  have hscale : scaleFor num den = if 2 * exponentUnit ≤
      (descale num den (order num den - 53)).1 / (descale num den (order num den - 53)).2 then
      order num den - 52 else order num den - 53 := by
    simp only [scaleFor, order] at hlow ⊢
    split <;> omega
  have hcond : 2 * exponentUnit ≤
      (descale num den (order num den - 53)).1 / (descale num den (order num den - 53)).2 ↔
      (2 : ℚ) ^ 53 ≤ num / den / 2 ^ (order num den - 53) := by
    rw [Nat.le_div_iff_mul_le (Nat.pos_of_ne_zero hden'), ← hvalue,
      le_div_iff₀ (by exact_mod_cast Nat.pos_of_ne_zero hden')]
    rw [← Nat.cast_le (α := ℚ), exponentUnit]
    push_cast
    norm_num
  rw [hscale]
  split
  · next hbig =>
      have hhalf : (num / den : ℚ) / 2 ^ (order num den - 52) =
          num / den / 2 ^ (order num den - 53) / 2 := by
        rw [show order num den - 52 = (order num den - 53) + 1 by ring, zpow_add_one₀ two_ne_zero,
          div_mul_eq_div_div]
      have hbig := hcond.mp hbig
      refine ⟨by omega, le_refl _, ?_, ?_⟩
      · rw [hhalf, le_div_iff₀ two_pos]
        calc (2 : ℚ) ^ 52 * 2 = 2 ^ 53 := by norm_num
          _ ≤ _ := hbig
      · rw [hhalf, div_lt_iff₀ two_pos]
        calc _ < (2 : ℚ) ^ 54 := hone
          _ = 2 ^ 53 * 2 := by norm_num
  · next hsmall => exact ⟨by omega, by omega, htwo.le, not_le.mp (mt hcond.mpr hsmall)⟩

/-! ## The error of a quotient -/

/-- A magnitude is read back as its significand and scale, a carry included. -/
lemma value_ofMagnitude {scale : Int} {r : Nat} (hlow : -1074 ≤ scale) (hhigh : scale ≤ 970)
    (hr : 2 ^ 52 ≤ r) (hr' : r ≤ 2 ^ 53) :
    (ofMagnitude false ((scale + 1074).toNat * exponentUnit + r)).isFinite = true ∧
      (ofMagnitude false ((scale + 1074).toNat * exponentUnit + r)).negative = false ∧
      (ofMagnitude false ((scale + 1074).toNat * exponentUnit + r)).value = r * 2 ^ scale := by
  obtain ⟨k, rfl⟩ : ∃ k : Nat, scale = k - 1074 := ⟨(scale + 1074).toNat, by omega⟩
  have hfits : k * exponentUnit + r < infiniteMagnitude := by
    simp only [infiniteMagnitude, exponentUnit]
    omega
  have hk : ((k : Int) - 1074 + 1074).toNat = k := by omega
  rw [hk]
  have hmagnitude : (ofMagnitude false (k * exponentUnit + r)).magnitude.val =
      k * exponentUnit + r := by
    rw [ofMagnitude, dif_pos hfits]
  have hnegative : (ofMagnitude false (k * exponentUnit + r)).negative = false := by
    rw [ofMagnitude, dif_pos hfits]
  refine ⟨(isFinite_ofMagnitude _ _).mpr hfits, hnegative, ?_⟩
  rw [value_eq hnegative, significand, scale, exponentField, hmagnitude]
  rcases Nat.lt_or_ge r (2 ^ 53) with hlt | hge
  · have hfield : (k * exponentUnit + r) / exponentUnit = k + 1 := by
      simp only [exponentUnit]
      omega
    have hrest : (k * exponentUnit + r) % exponentUnit + exponentUnit = r := by
      simp only [exponentUnit]
      omega
    rw [hfield, if_neg (by omega), if_neg (by omega), hrest]
    congr 2
    push_cast
    ring
  · -- The carry has made the significand the least one of the next scale.
    obtain rfl : r = 2 ^ 53 := Nat.le_antisymm hr' hge
    have hfield : (k * exponentUnit + 2 ^ 53) / exponentUnit = k + 2 := by
      simp only [exponentUnit]
      omega
    have hrest : (k * exponentUnit + 2 ^ 53) % exponentUnit + exponentUnit = 2 ^ 52 := by
      simp only [exponentUnit]
      omega
    rw [hfield, if_neg (by omega), if_neg (by omega), hrest,
      show ((k + 2 : Nat) : Int) - 1075 = ((k : Int) - 1074) + 1 by push_cast; ring,
      zpow_add_one₀ two_ne_zero]
    push_cast
    ring

/-- **The error of a rounded quotient** is at most `2 ^ -53` of it, unless it is very small or very
large. -/
theorem ofRatio_error (hnum : num ≠ 0) (hden : den ≠ 0) (hlow : 2 ^ (-1000 : Int) ≤ (num / den : ℚ))
    (hhigh : (num / den : ℚ) ≤ 2 ^ (1000 : Int)) :
    (ofRatio false num den).isFinite = true ∧ (ofRatio false num den).negative = false ∧
      |(ofRatio false num den).value - num / den| ≤ num / den / 2 ^ 53 := by
  obtain ⟨hless, hmore⟩ := two_pow_order_lt hnum hden
  have horder : -1000 < order num den + 1 :=
    (zpow_lt_zpow_iff_right₀ one_lt_two).mp (hlow.trans_lt hmore)
  have horder' : order num den - 1 < 1000 :=
    (zpow_lt_zpow_iff_right₀ one_lt_two).mp (hless.trans_le hhigh)
  obtain ⟨hmin, hmax, hleast, hmost⟩ := scaleFor_spec hnum hden (by omega)
  have herror := roundRatio_error (descale num den (scaleFor num den)).1
    (descale_den_ne_zero num hden (scaleFor num den))
  rw [descale_value] at herror
  rw [ofRatio, if_neg (by simp [hnum, hden])]
  dsimp only
  generalize hr : roundRatio (descale num den (scaleFor num den)).1
    (descale num den (scaleFor num den)).2 = r at herror
  generalize scaleFor num den = scale at *
  obtain ⟨habove, hbelow⟩ := abs_le.mp herror
  have hr52 : 2 ^ 52 ≤ r := by
    have : (2 : ℚ) ^ 52 < r + 1 := by linarith
    exact Nat.lt_succ_iff.mp (by exact_mod_cast this)
  have hr53 : r ≤ 2 ^ 53 := by
    have : (r : ℚ) < 2 ^ 53 + 1 := by linarith
    exact Nat.lt_succ_iff.mp (by exact_mod_cast this)
  obtain ⟨hfinite, hnegative, hvalue⟩ := value_ofMagnitude hmin (by omega) hr52 hr53
  refine ⟨hfinite, hnegative, ?_⟩
  rw [hvalue]
  have hpos : (0 : ℚ) < 2 ^ scale := zpow_pos two_pos _
  have hcancel : (num / den : ℚ) / 2 ^ scale * 2 ^ scale = num / den :=
    div_mul_cancel₀ _ hpos.ne'
  calc |(r : ℚ) * 2 ^ scale - num / den|
      = |((r : ℚ) - num / den / 2 ^ scale) * 2 ^ scale| := by rw [sub_mul, hcancel]
    _ = |(r : ℚ) - num / den / 2 ^ scale| * 2 ^ scale := by rw [abs_mul, abs_of_pos hpos]
    _ ≤ 1 / 2 * 2 ^ scale := mul_le_mul_of_nonneg_right herror hpos.le
    _ ≤ num / den / 2 ^ scale / 2 ^ 53 * 2 ^ scale :=
        mul_le_mul_of_nonneg_right (by rw [le_div_iff₀ (by positivity)]; linarith) hpos.le
    _ = num / den / 2 ^ 53 := by rw [div_mul_eq_mul_div, hcancel]

/-- The product of two positive numbers is rounded as the quotient that it is. -/
lemma mul_eq_ofRatio (hx : x.isFinite = true) (hy : y.isFinite = true)
    (hx' : x.negative = false) (hy' : y.negative = false) (hpos : 0 < x.value * y.value) :
    ∃ num den, num ≠ 0 ∧ den ≠ 0 ∧ x * y = ofRatio false num den ∧
      (num / den : ℚ) = x.value * y.value := by
  have hspecial : ∀ z : Binary64, z.isFinite = true → z.isNaN = false ∧ z.isInfinite = false := by
    intro z hz
    rw [isFinite, decide_eq_true_eq] at hz
    exact ⟨decide_eq_false (by omega), by rw [isInfinite, beq_eq_false_iff_ne]; omega⟩
  obtain ⟨a, ha⟩ := Int.eq_ofNat_of_zero_le (toRatio_num_nonneg hx')
  obtain ⟨c, hc⟩ := Int.eq_ofNat_of_zero_le (toRatio_num_nonneg hy')
  have hvalue : ((a * c : Nat) : ℚ) / (x.toRatio.2 * y.toRatio.2 : Nat) = x.value * y.value := by
    rw [value, value, ha, hc]
    push_cast
    rw [div_mul_div_comm]
  have hne : a * c ≠ 0 := by
    intro hzero
    rw [← hvalue, hzero] at hpos
    simp at hpos
  refine ⟨a * c, x.toRatio.2 * y.toRatio.2, hne,
    Nat.mul_ne_zero (toRatio_den_pos x).ne' (toRatio_den_pos y).ne', ?_, hvalue⟩
  have hne' : ((a : Int) * c) ≠ 0 := by exact_mod_cast hne
  have hsign : ¬ (a : Int) * c < 0 := not_lt.mpr (by positivity)
  change mul x y = _
  simp [mul, hspecial x hx, hspecial y hy, ha, hc, ofSignedRatio, hne', hsign, Int.natAbs_mul]

/-- A number less than one half from a natural number is rounded to it. -/
lemma round?_eq_some {n : Nat} (hx : x.isFinite = true) (hx' : x.negative = false)
    (h : |x.value - n| < 1 / 2) : x.round? = some (n : Int) := by
  obtain ⟨a, ha⟩ := Int.eq_ofNat_of_zero_le (toRatio_num_nonneg hx')
  have herror := roundRatio_error a (toRatio_den_pos x).ne'
  have hvalue : (a : ℚ) / x.toRatio.2 = x.value := by
    rw [value, ha]
    rfl
  rw [hvalue] at herror
  obtain ⟨hless, hmore⟩ := abs_le.mp herror
  obtain ⟨hless', hmore'⟩ := abs_lt.mp h
  have hround : roundRatio a x.toRatio.2 = n := by
    have hup : (roundRatio a x.toRatio.2 : ℚ) < n + 1 := by linarith
    have hdown : (n : ℚ) < roundRatio a x.toRatio.2 + 1 := by linarith
    have hup : roundRatio a x.toRatio.2 < n + 1 := by exact_mod_cast hup
    have hdown : n < roundRatio a x.toRatio.2 + 1 := by exact_mod_cast hdown
    omega
  rw [round?, if_pos hx]
  simp [ha, hround]

end NoteCheck.Binary64
