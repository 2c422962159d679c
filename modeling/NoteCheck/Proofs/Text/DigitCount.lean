import Mathlib
import NoteCheck.Proofs.Text.Pieces
import NoteCheck.Text.Numeral

/-!
# How many digits a text has

A reader of dates takes its text apart before it looks at any numeral: margins are dropped, words
and pieces are cut off, letters are made small.  None of this adds a digit, since what is left over
is always a part of the text with its characters in their order (`flatten_words_sublist`,
`flatten_cut_sublist`).  A numeral that is read has a digit in it (`digitCount_pos_of_readInt?`), so
each numeral that a reader finds in a different part counts for one digit of the whole text.
-/

namespace NoteCheck.Text

variable {cs ds : List Char}

/-- The number of decimal digits in a text, whatever their script. -/
def digitCount (cs : List Char) : Nat :=
  cs.countP isDecimal

lemma digitCount_append (cs ds : List Char) :
    digitCount (cs ++ ds) = digitCount cs + digitCount ds :=
  List.countP_append

lemma digitCount_le_of_sublist (h : cs.Sublist ds) : digitCount cs ≤ digitCount ds :=
  h.countP_le

lemma digitCount_of_forall (h : ∀ c ∈ cs, isDecimal c = true) : digitCount cs = cs.length :=
  List.countP_eq_length.mpr h

lemma digitCount_pos_of_mem {c : Char} (hc : c ∈ cs) (h : isDecimal c = true) :
    0 < digitCount cs :=
  List.countP_pos_iff.mpr ⟨c, hc, h⟩

/-- A run of digits counts in full wherever it stands. -/
lemma length_le_digitCount (h : ds.Sublist cs) (hds : ∀ d ∈ ds, isDecimal d = true) :
    ds.length ≤ digitCount cs := by
  rw [← digitCount_of_forall hds]
  exact digitCount_le_of_sublist h

/-! ## Parts of a text -/

lemma dropMargins_sublist (p : Char → Bool) (cs : List Char) : (dropMargins p cs).Sublist cs := by
  have htail : (dropTail p (cs.dropWhile p)).Sublist (cs.dropWhile p) := by
    rw [dropTail, ← List.reverse_sublist, List.reverse_reverse]
    exact List.dropWhile_sublist p
  exact htail.trans (List.dropWhile_sublist p)

lemma flatten_words_sublist (cs : List Char) : (words cs).flatten.Sublist cs := by
  fun_induction words cs with
  | case1 => exact List.Sublist.refl _
  | case2 c hblank => exact List.nil_sublist _
  | case3 c hblank => exact List.Sublist.refl _
  | case4 c d cs hblank ih => exact ih.cons c
  | case5 c d cs hblank hnext ih => exact ih.cons_cons c
  | case6 c d cs hblank hnext w ws hwords ih =>
      rw [hwords] at ih
      exact ih.cons_cons c
  | case7 c d cs hblank hnext hwords ih => exact (List.nil_sublist _).cons_cons c

lemma flatten_cut_sublist (sep : Char) (cs : List Char) : (cut sep cs).flatten.Sublist cs := by
  fun_induction cut sep cs with
  | case1 => exact List.Sublist.refl _
  | case2 cs ih => exact ih.cons sep
  | case3 c cs hc piece rest hcut ih =>
      rw [hcut] at ih
      exact ih.cons_cons c
  | case4 c cs hc hcut ih => exact absurd hcut (cut_ne_nil sep cs)

lemma afterLast_sublist (sep : Char) (cs : List Char) : (afterLast sep cs).Sublist cs := by
  rw [afterLast, ← List.reverse_sublist, List.reverse_reverse]
  exact List.takeWhile_sublist _

lemma toNat_of_isDecimal {c : Char} (h : isDecimal c = true) :
    c.toNat ≤ 57 ∨ 0x660 ≤ c.toNat := by
  obtain ⟨d, hd⟩ := Option.isSome_iff_exists.mp h
  obtain ⟨z, hz, -⟩ := Option.map_eq_some_iff.mp hd
  have hrange : z ≤ c.toNat ∧ c.toNat < z + 10 := by simpa using List.find?_some hz
  have hzeros : ∀ z ∈ zeros, z = 0x30 ∨ 0x660 ≤ z := by decide
  have hapart := hzeros z (List.mem_of_find?_eq_some hz)
  omega

/-- No capital becomes a digit when it is made small. -/
lemma isDecimal_of_toLower {c : Char} (h : isDecimal c.toLower = true) : isDecimal c = true := by
  have hbounds := toNat_of_isDecimal h
  rw [Char.toLower] at h hbounds
  split at h
  · next hupper =>
      -- The small letters lie between the digits of ASCII and all others.
      rw [dif_pos hupper, ← Char.toNat_val, UInt32.toNat_add] at hbounds
      obtain ⟨hlow, hhigh⟩ := hupper
      rw [ge_iff_le, UInt32.le_iff_toNat_le] at hlow
      rw [UInt32.le_iff_toNat_le] at hhigh
      simp only [Char.reduceVal, UInt32.reduceToNat, UInt32.reduceSub] at hlow hhigh hbounds
      omega
  · exact h

lemma digitCount_lower_le (cs : List Char) : digitCount (lower cs) ≤ digitCount cs := by
  rw [digitCount, lower, List.countP_map]
  exact List.countP_mono_left fun c _ h => isDecimal_of_toLower h

/-! ## Numerals -/

/-- A digit of base ten is decimal. -/
lemma isDecimal_of_digitIn {c : Char} {d : Nat} (h : digitIn c = some d) (hten : d < 10) :
    isDecimal c = true := by
  rw [digitIn] at h
  split at h
  · rw [Option.some.injEq] at h
    omega
  · split at h
    · rw [Option.some.injEq] at h
      omega
    · rw [isDecimal, h]
      rfl

/-- No base of ten has a mark. -/
lemma dropBaseMark_ten (cs : List Char) : dropBaseMark 10 cs = cs := by
  unfold dropBaseMark
  split
  · rw [if_neg (by simp [baseMark])]
  · rfl

/-- Digits that are read begin with one. -/
lemma digitCount_pos_of_readNat? (h : (readNat? 10 cs).isSome = true) : 0 < digitCount cs := by
  rw [readNat?, dropBaseMark_ten] at h
  split at h
  · next value count hdigits =>
      cases cs with
      | nil => cases hdigits
      | cons c cs =>
          rw [readDigits] at hdigits
          split at hdigits
          · cases hdigits
          · split at hdigits
            · next d hd =>
                split at hdigits
                · next hten =>
                    exact digitCount_pos_of_mem List.mem_cons_self (isDecimal_of_digitIn hd hten)
                · cases hdigits
            · cases hdigits
  · cases h

/-- **A numeral has a digit in it**, whatever its margins and its sign. -/
lemma digitCount_pos_of_readInt? {i : Int} (h : readInt? 10 cs = some i) : 0 < digitCount cs := by
  have hpart : ∀ rest : List Char, rest.Sublist (dropMargins isNumeralMargin cs) →
      readNat? 10 rest ≠ none → 0 < digitCount cs := by
    intro rest hrest hread
    refine Nat.lt_of_lt_of_le (digitCount_pos_of_readNat? (Option.isSome_iff_ne_none.mpr hread)) ?_
    exact digitCount_le_of_sublist (hrest.trans (dropMargins_sublist isNumeralMargin cs))
  rw [readInt?] at h
  split at h
  · next rest heq =>
      exact hpart rest (heq ▸ List.sublist_cons_self _ _) fun hnone => by simp [hnone] at h
  · next rest heq =>
      exact hpart rest (heq ▸ List.sublist_cons_self _ _) fun hnone => by simp [hnone] at h
  · exact hpart _ (List.Sublist.refl _) fun hnone => by simp [hnone] at h

end NoteCheck.Text
