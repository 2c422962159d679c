import Mathlib.Algebra.Group.Nat.Defs
import Mathlib.Tactic.Lemma
import NoteCheck.Text.Numeral

/-!
# Numbers of a fixed width

A number that is padded with zeros is written from its last digit backwards, like any other
(`padded_succ`), and where it fits its width it takes just that many digits (`length_padded`).  So
numbers that fit can be told apart and cut off what follows them (`padded_append_inj`).
-/

namespace NoteCheck.Text

lemma padded_one {n : Nat} (h : n < 10) : padded 1 n = [n.digitChar] := by
  rw [padded, natText, Nat.toDigits_of_lt_base h]
  rfl

/-- The last digit stands behind the number without it, zeros and all. -/
lemma padded_succ (width n : Nat) :
    padded (width + 2) n = padded (width + 1) (n / 10) ++ [(n % 10).digitChar] := by
  rw [padded, padded, natText, natText]
  rcases Nat.lt_or_ge n 10 with hone | hmore
  · rw [Nat.toDigits_of_lt_base hone, Nat.div_eq_of_lt hone, Nat.mod_eq_of_lt hone,
      Nat.toDigits_zero]
    simp [List.replicate_succ']
  · have hlength : width + 2 - ((Nat.toDigits 10 (n / 10)).length + 1) =
        width + 1 - (Nat.toDigits 10 (n / 10)).length := by omega
    rw [Nat.toDigits_of_base_le (by decide) hmore, List.length_append, List.length_singleton,
      hlength, List.append_assoc]

lemma length_padded {width n : Nat} (hwidth : 0 < width) (h : n < 10 ^ width) :
    (padded width n).length = width := by
  have hfits := (Nat.length_toDigits_le_iff (by decide) hwidth).mpr h
  rw [padded, natText, List.length_append, List.length_replicate]
  omega

lemma isDigit_of_mem_padded {width n : Nat} {c : Char} (h : c ∈ padded width n) :
    c.isDigit = true := by
  rw [padded] at h
  rcases List.mem_append.mp h with h | h
  · rw [List.eq_of_mem_replicate h]
    rfl
  · exact Nat.isDigit_of_mem_toDigits (by decide) (by decide) h

lemma ofDigitChars_natText (n : Nat) : Nat.ofDigitChars 10 (natText n) 0 = n :=
  Nat.ofDigitChars_ten_toDigits

lemma natText_inj {n m : Nat} (h : natText n = natText m) : n = m := by
  rw [← ofDigitChars_natText n, h, ofDigitChars_natText]

lemma ofDigitChars_padded (width n : Nat) : Nat.ofDigitChars 10 (padded width n) 0 = n := by
  rw [padded, Nat.ofDigitChars_append, Nat.ofDigitChars_replicate_zero, Nat.mul_zero,
    ofDigitChars_natText]

/-- Numbers of one width are cut off in one way. -/
lemma padded_append_inj {width n m : Nat} {cs ds : List Char} (hwidth : 0 < width)
    (hn : n < 10 ^ width) (hm : m < 10 ^ width) (h : padded width n ++ cs = padded width m ++ ds) :
    n = m ∧ cs = ds := by
  obtain ⟨hfront, hrest⟩ :=
    List.append_inj h ((length_padded hwidth hn).trans (length_padded hwidth hm).symm)
  refine ⟨?_, hrest⟩
  rw [← ofDigitChars_padded width n, hfront, ofDigitChars_padded]

end NoteCheck.Text
