import Mathlib.Data.List.Infix
import Mathlib.Data.List.TakeWhile
import Mathlib.Tactic.Lemma
import NoteCheck.Text.Blank
import NoteCheck.Text.Digit

/-!
# Kinds of characters

The characters of ASCII take one octet each in UTF-8, and the octet is the number of the character.
The digits of all scripts lie apart from the blanks, so trimming a text leaves what is made of
digits and signs in it.
-/

namespace NoteCheck.Text

/-! ## ASCII -/

/-- Whether a text holds only characters of ASCII. -/
def IsAscii (cs : List Char) : Prop :=
  ∀ c ∈ cs, c.toNat < 128

lemma utf8EncodeChar_of_lt {c : Char} (h : c.toNat < 128) :
    String.utf8EncodeChar c = [c.toUInt8] := by
  have hsize : c.utf8Size = 1 := by
    rw [Char.utf8Size_eq_one_iff, UInt32.le_iff_toNat_le]
    exact Nat.le_of_lt_succ h
  rw [String.utf8EncodeChar_eq_singleton hsize]
  rfl

lemma IsAscii.flatMap_utf8EncodeChar {cs : List Char} (h : IsAscii cs) :
    cs.flatMap String.utf8EncodeChar = cs.map Char.toUInt8 := by
  induction cs with
  | nil => rfl
  | cons c cs ih =>
      obtain ⟨hc, hcs⟩ := List.forall_mem_cons.mp h
      rw [List.flatMap_cons, utf8EncodeChar_of_lt hc, ih hcs, List.map_cons, List.singleton_append]

lemma toNat_toUInt8_of_lt {c : Char} (h : c.toNat < 128) : c.toUInt8.toNat = c.toNat := by
  rw [Char.toUInt8, UInt32.toNat_toUInt8]
  exact Nat.mod_eq_of_lt (Nat.lt_trans h (by decide))

/-! ## Digits -/

lemma bounds_of_isDigit {c : Char} (h : c.isDigit = true) : 48 ≤ c.toNat ∧ c.toNat ≤ 57 := by
  rw [Char.isDigit, Bool.and_eq_true, decide_eq_true_eq, decide_eq_true_eq] at h
  exact h

lemma digitValue?_of_isDigit {c : Char} (h : c.isDigit = true) :
    digitValue? c = some (c.toNat - 48) := by
  obtain ⟨hlow, hhigh⟩ := bounds_of_isDigit h
  have hzero : zeros.find? (fun z => z ≤ c.toNat && c.toNat < z + 10) = some 0x30 :=
    List.find?_cons_of_pos (by simpa using ⟨hlow, by omega⟩)
  rw [digitValue?, hzero]
  rfl

/-- The digits of ASCII are decimal. -/
lemma isDecimal_of_isDigit {c : Char} (h : c.isDigit = true) : isDecimal c = true := by
  rw [isDecimal, digitValue?_of_isDigit h]
  rfl

/-- The digits of all scripts lie apart from the blanks. -/
lemma isBlank_eq_false_of_isDecimal {c : Char} (h : isDecimal c = true) : isBlank c = false := by
  obtain ⟨d, hd⟩ := Option.isSome_iff_exists.mp h
  obtain ⟨z, hz, -⟩ := Option.map_eq_some_iff.mp hd
  have hrange : z ≤ c.toNat ∧ c.toNat < z + 10 := by simpa using List.find?_some hz
  have hzeros : ∀ z ∈ zeros, z = 0x30 ∨ 0x660 ≤ z ∧ z + 10 ≤ 0x1680 ∨
      0x17e0 ≤ z ∧ z + 10 ≤ 0x2000 ∨ 0xa620 ≤ z := by decide
  have hapart := hzeros z (List.mem_of_find?_eq_some hz)
  simp only [isBlank, Bool.or_eq_false_iff, Bool.and_eq_false_iff, decide_eq_false_iff_not,
    beq_eq_false_iff_ne]
  omega

/-! ## Margins -/

/-- Margins that hold nothing of what is looked for do not matter. -/
lemma infix_dropWhile_iff {p : Char → Bool} {x cs : List Char} (hx : ∀ c ∈ x, p c = false) :
    x <:+: cs.dropWhile p ↔ x <:+: cs := by
  induction cs with
  | nil => rfl
  | cons c cs ih =>
      rw [List.dropWhile_cons]
      split
      · next hc =>
          rw [ih, List.infix_cons_iff]
          refine ⟨Or.inr, ?_⟩
          rintro (hfront | hpart)
          · cases x with
            | nil => exact List.nil_infix
            | cons d x =>
                obtain ⟨rfl, -⟩ := List.cons_prefix_cons.mp hfront
                rw [hx d List.mem_cons_self] at hc
                cases hc
          · exact hpart
      · rfl

lemma infix_dropTail_iff {p : Char → Bool} {x cs : List Char} (hx : ∀ c ∈ x, p c = false) :
    x <:+: dropTail p cs ↔ x <:+: cs := by
  rw [dropTail, ← List.reverse_infix, List.reverse_reverse,
    infix_dropWhile_iff (fun c hc => hx c (List.mem_reverse.mp hc)), List.reverse_infix]

/-- Trimming a text leaves every part of it that holds no blanks. -/
lemma infix_trim_iff {x cs : List Char} (hx : ∀ c ∈ x, isBlank c = false) :
    x <:+: trim cs ↔ x <:+: cs := by
  rw [trim, dropMargins, infix_dropTail_iff hx, infix_dropWhile_iff hx]

lemma mem_trim_iff {c : Char} {cs : List Char} (hc : isBlank c = false) :
    c ∈ trim cs ↔ c ∈ cs := by
  rw [← List.singleton_infix_iff, ← List.singleton_infix_iff, infix_trim_iff (by simpa using hc)]

/-- What stands in front of something else is dropped. -/
lemma dropWhile_margin {p : Char → Bool} {margin cs rest : List Char}
    (hmargin : ∀ c ∈ margin, p c = true) (hcs : ∀ c ∈ cs, p c = false) (hne : cs ≠ []) :
    (margin ++ (cs ++ rest)).dropWhile p = cs ++ rest := by
  rw [List.dropWhile_append_of_pos hmargin]
  cases cs with
  | nil => exact absurd rfl hne
  | cons c cs =>
      rw [List.cons_append, List.dropWhile_cons, hcs c List.mem_cons_self,
        if_neg Bool.false_ne_true]

/-- Blank margins are trimmed off a text without blanks. -/
lemma trim_margins {left right cs : List Char} (hleft : ∀ c ∈ left, isBlank c = true)
    (hright : ∀ c ∈ right, isBlank c = true) (hcs : ∀ c ∈ cs, isBlank c = false) (hne : cs ≠ []) :
    trim (left ++ cs ++ right) = cs := by
  have hback : (right.reverse ++ (cs.reverse ++ [])).dropWhile isBlank = cs.reverse ++ [] :=
    dropWhile_margin (fun c hc => hright c (List.mem_reverse.mp hc))
      (fun c hc => hcs c (List.mem_reverse.mp hc)) (by simpa using hne)
  rw [trim, dropMargins, List.append_assoc, dropWhile_margin hleft hcs hne, dropTail,
    List.reverse_append, ← List.append_nil cs.reverse, hback, List.append_nil, List.reverse_reverse]

/-- A text stands between its margins. -/
lemma eq_margins_append_trim (cs : List Char) :
    ∃ left right, (∀ c ∈ left, isBlank c = true) ∧ (∀ c ∈ right, isBlank c = true) ∧
      cs = left ++ trim cs ++ right := by
  have hall : ∀ ds : List Char, ∀ c ∈ ds.takeWhile isBlank, isBlank c = true := fun ds c hc =>
    List.mem_takeWhile_imp hc
  set rest := cs.dropWhile isBlank with hrest
  refine ⟨cs.takeWhile isBlank, (rest.reverse.takeWhile isBlank).reverse, hall cs, ?_, ?_⟩
  · intro c hc
    exact hall _ c (List.mem_reverse.mp hc)
  · rw [trim, dropMargins, ← hrest, dropTail, List.append_assoc, ← List.reverse_append,
      List.takeWhile_append_dropWhile, List.reverse_reverse, hrest,
      List.takeWhile_append_dropWhile]

/-- A text without blanks has no margins. -/
lemma trim_of_forall {cs : List Char} (h : ∀ c ∈ cs, isBlank c = false) : trim cs = cs := by
  by_cases hne : cs = []
  · rw [hne]
    rfl
  · have hkept : trim ([] ++ cs ++ []) = cs := trim_margins (by simp) (by simp) h hne
    simpa using hkept

end NoteCheck.Text
