import Mathlib
import NoteCheck.Proofs.Number.Rounding
import NoteCheck.Timing.Debouncer

/-!
# Delays are exact

A delay is divided by a thousand and multiplied by a million again, each time with rounding.  For up
to thirty years both errors together stay below half a microsecond, so the last rounding takes
them away (`Delay.ofMillis_eq`).
-/

namespace NoteCheck

open Binary64 (ofRatio_error mul_eq_ofRatio round?_eq_some)

/-- A million is a double. -/
lemma million_eq : ∃ million, Binary64.ofInt? 1000000 = some million ∧ million.isFinite = true ∧
    million.negative = false ∧ million.value = 1000000 := by
  have hratio : (Binary64.ofRatio false 1000000 1).toRatio = (1000000 * 2 ^ 33, 2 ^ 33) := by
    decide +kernel
  refine ⟨Binary64.ofRatio false 1000000 1, by decide +kernel, by decide +kernel,
    by decide +kernel, ?_⟩
  rw [Binary64.value, hratio]
  norm_num

/-- The quotients that delays are made of are neither too small nor too large. -/
lemma ofRatio_error_of_moderate (num den : Nat) (hnum : num ≠ 0) (hden : den ≠ 0)
    (hlow : 1 / 1000 ≤ (num / den : ℚ)) (hhigh : (num / den : ℚ) ≤ 10 ^ 16) :
    (Binary64.ofRatio false num den).isFinite = true ∧
      (Binary64.ofRatio false num den).negative = false ∧
      |(Binary64.ofRatio false num den).value - num / den| ≤ num / den / 2 ^ 53 := by
  refine ofRatio_error hnum hden (le_trans ?_ hlow) (hhigh.trans ?_)
  · calc (2 : ℚ) ^ (-1000 : Int) ≤ 2 ^ (-10 : Int) := zpow_le_zpow_right₀ one_le_two (by norm_num)
      _ ≤ 1 / 1000 := by norm_num
  · calc (10 : ℚ) ^ 16 ≤ 2 ^ (60 : Int) := by norm_num
      _ ≤ 2 ^ (1000 : Int) := zpow_le_zpow_right₀ one_le_two (by norm_num)

/-- **The delay of some milliseconds** is a thousand times as many microseconds, up to `10 ^ 12`. -/
theorem Delay.ofMillis_eq {millis : Int} (hnonneg : 0 ≤ millis) (hsmall : millis ≤ 10 ^ 12) :
    Delay.ofMillis millis = .ok (some (1000 * millis)) := by
  obtain ⟨ms, rfl⟩ := Int.eq_ofNat_of_zero_le hnonneg
  rcases Nat.eq_zero_or_pos ms with rfl | hpos
  · decide +kernel
  obtain ⟨million, hmillion, hfinite, hsign, hvalue⟩ := million_eq
  have hms : (1 : ℚ) ≤ ms := by exact_mod_cast hpos
  have hms' : (ms : ℚ) ≤ 10 ^ 12 := by exact_mod_cast hsmall
  -- The first rounding: seconds.
  obtain ⟨hseconds, hsign', herror⟩ := ofRatio_error_of_moderate ms 1000
    hpos.ne' (by norm_num) (by push_cast; linarith) (by push_cast; linarith)
  have hquotient : Binary64.ofIntQuotient? (ms : Int) (1 * 1000) =
      some (Binary64.ofRatio false ms 1000) := by
    have hplus : decide ((ms : Int) < 0) = false := decide_eq_false (by omega)
    simp only [Binary64.ofIntQuotient?, Int.natAbs_natCast, Nat.one_mul, hplus, hseconds, if_true]
  generalize Binary64.ofRatio false ms 1000 = seconds at *
  push_cast at herror
  obtain ⟨hless, hmore⟩ := abs_le.mp herror
  -- The second rounding: microseconds.
  have hproduct : 0 < seconds.value * million.value := by
    rw [hvalue]
    linarith
  obtain ⟨num, den, hnum, hden, hmul, hexact⟩ :=
    mul_eq_ofRatio hseconds hfinite hsign' hsign hproduct
  rw [hvalue] at hexact
  obtain ⟨hmicros, hsign'', herror'⟩ :=
    ofRatio_error_of_moderate num den hnum hden (by linarith) (by linarith)
  rw [← hmul] at hmicros hsign'' herror'
  obtain ⟨hless', hmore'⟩ := abs_le.mp herror'
  have hround : (seconds * million).round? = some ((1000 * ms : Nat) : Int) := by
    refine round?_eq_some hmicros hsign'' (abs_lt.mpr ?_)
    push_cast
    constructor <;> linarith
  rw [Delay.ofMillis, Delay.ofRatio, hquotient, hmillion]
  dsimp only
  rw [hround]
  simp

end NoteCheck
