import Mathlib.Tactic.Lemma
import NoteCheck.Calendar.IsoText

/-!
# What stands in a moment of ISO 8601

The reader of such moments goes by positions, and it does not ask whether it has looked at every
octet of the day's part.  It has, though: a text that is all day consists of digits, hyphens and the
letter W (`isDayOctet_of_read?`), so a text with any other character in it has a time of day or is
no moment.
-/

namespace NoteCheck.IsoText

variable {b : List UInt8}

/-- An octet that can stand in a day: a digit, a hyphen or the mark of a week. -/
def IsDayOctet (o : UInt8) : Prop :=
  isDigit o = true ∨ o = 0x2D ∨ o = 0x57

lemma isDigit_of_number? {count position value result : Nat}
    (h : number? b count position value = some result) :
    ∀ i < count, isDigit (at_ b (position + i)) = true := by
  induction count generalizing position value with
  | zero => simp
  | succ count ih =>
      rw [number?] at h
      split at h
      · next hdigit =>
          intro i hi
          cases i with
          | zero => exact hdigit
          | succ i =>
              have hrest := ih h i (by omega)
              rwa [show position + 1 + i = position + (i + 1) by omega] at hrest
      · cases h

/-- The octets of a number that is read can stand in a day. -/
lemma isDayOctet_of_number? {count position result : Nat}
    (h : number? b count position 0 = some result) {i : Nat} (hfrom : position ≤ i)
    (hto : i < position + count) : IsDayOctet (at_ b i) := by
  have hdigit := isDigit_of_number? h (i - position) (by omega)
  rw [Nat.add_sub_cancel' hfrom] at hdigit
  exact Or.inl hdigit

lemma eq_of_holds {i : Nat} {c : Char} {o : UInt8} (h : holds b i c = true)
    (ho : o.toNat = c.toNat) : at_ b i = o := by
  rw [holds, beq_iff_eq, ← ho] at h
  exact UInt8.toNat_inj.mp h

lemma isDayOctet_of_hyphen {i : Nat} (h : holds b i '-' = true) : IsDayOctet (at_ b i) :=
  Or.inr (Or.inl (eq_of_holds h rfl))

lemma isDayOctet_of_week {i : Nat} (h : holds b i 'W' = true) : IsDayOctet (at_ b i) :=
  Or.inr (Or.inr (eq_of_holds h rfl))

/-- How long the day's part can be. -/
lemma dayLength?_le {length : Nat} (h : dayLength? b = some length) :
    length ≤ 10 ∧ (holds b 4 '-' = false → length ≤ 8) := by
  rw [dayLength?] at h
  dsimp only at h
  split at h
  · rw [← Option.some.inj h]
    omega
  · split at h
    · next hhyphen =>
        refine ⟨?_, fun hnone => absurd hhyphen (by simp [hnone])⟩
        split at h
        · split at h
          · split at h
            · cases h
            · split at h
              · have hlength := Option.some.inj h
                omega
              · have hlength := Option.some.inj h
                omega
          · have hlength := Option.some.inj h
            omega
        · exact Nat.le_of_eq (Option.some.inj h).symm
    · split at h
      · have hlength := Option.some.inj h
        split at hlength
        · omega
        · split at hlength <;> omega
      · rw [← Option.some.inj h]
        omega

/-- With a hyphen after the year the fields begin at the fifth position. -/
lemma isDayOctet_of_hyphened {length : Nat} (hlength : length ≤ 10)
    (hhyphen : holds b 4 '-' = true) (h : hasDay b length = true) {i : Nat} (hfrom : 4 ≤ i)
    (hi : i < length) : IsDayOctet (at_ b i) := by
  rcases Nat.eq_or_lt_of_le hfrom with rfl | hfive
  · exact isDayOctet_of_hyphen hhyphen
  rw [hasDay] at h
  split at h
  · cases h
  · simp only [hhyphen, if_true, Bool.true_and] at h
    split at h
    · next hmark =>
        rcases Nat.eq_or_lt_of_le hfive with rfl | hsix
        · exact isDayOctet_of_week hmark
        split at h
        · cases h
        · next week hweek =>
            rcases Nat.lt_or_ge i 8 with hseven | height
            · exact isDayOctet_of_number? hweek hsix (by omega)
            rw [if_pos (by omega)] at h
            split at h
            · cases h
            · next hsecond =>
                split at h
                · next weekday hweekday =>
                    rcases Nat.eq_or_lt_of_le height with rfl | hnine
                    · exact isDayOctet_of_hyphen (by simpa using hsecond)
                    · exact isDayOctet_of_number? hweekday hnine (by omega)
                · cases h
    · split at h
      · cases h
      · next month hmonth =>
          rcases Nat.lt_or_ge i 7 with hsix | hseven
          · exact isDayOctet_of_number? hmonth hfive (by omega)
          split at h
          · cases h
          · next hsecond =>
              split at h
              · next day hday =>
                  rcases Nat.eq_or_lt_of_le hseven with rfl | height
                  · exact isDayOctet_of_hyphen (by simpa using hsecond)
                  · exact isDayOctet_of_number? hday height (by omega)
              · cases h

/-- Without hyphens the fields begin at the fourth position. -/
lemma isDayOctet_of_joined {length : Nat} (hlength : length ≤ 8)
    (hhyphen : holds b 4 '-' = false) (h : hasDay b length = true) {i : Nat} (hfrom : 4 ≤ i)
    (hi : i < length) : IsDayOctet (at_ b i) := by
  rw [hasDay] at h
  split at h
  · cases h
  · simp only [hhyphen, Bool.false_eq_true, if_false, Bool.false_and] at h
    split at h
    · next hmark =>
        rcases Nat.eq_or_lt_of_le hfrom with rfl | hfive
        · exact isDayOctet_of_week hmark
        split at h
        · cases h
        · next week hweek =>
            rcases Nat.lt_or_ge i 7 with hsix | hseven
            · exact isDayOctet_of_number? hweek hfive (by omega)
            rw [if_pos (by omega)] at h
            split at h
            · next weekday hweekday => exact isDayOctet_of_number? hweekday hseven (by omega)
            · cases h
    · split at h
      · cases h
      · next month hmonth =>
          rcases Nat.lt_or_ge i 6 with hfive | hsix
          · exact isDayOctet_of_number? hmonth hfrom (by omega)
          split at h
          · next day hday => exact isDayOctet_of_number? hday hsix (by omega)
          · cases h

/-- A day that is read leaves no position of its part unread. -/
lemma isDayOctet_of_hasDay {length : Nat} (hlength : dayLength? b = some length)
    (h : hasDay b length = true) {i : Nat} (hi : i < length) : IsDayOctet (at_ b i) := by
  obtain ⟨hten, height⟩ := dayLength?_le hlength
  rcases Nat.lt_or_ge i 4 with hyear | hfrom
  · rw [hasDay] at h
    split at h
    · cases h
    · next year hnumber => exact isDayOctet_of_number? hnumber (Nat.zero_le i) (by omega)
  · cases hhyphen : holds b 4 '-' with
    | true => exact isDayOctet_of_hyphened hten hhyphen h hfrom hi
    | false => exact isDayOctet_of_joined (height hhyphen) hhyphen h hfrom hi

/-- **A day alone.**  A text that is read as a day consists of octets that can stand in one. -/
theorem isDayOctet_of_read? {cs : List Char} (h : read? cs = some .day) :
    ∀ o ∈ octets cs, IsDayOctet o := by
  rw [read?] at h
  split at h
  · cases h
  · dsimp only at h
    split at h
    · cases h
    · next length hlength =>
        split at h
        · cases h
        · next hday =>
            split at h
            · next hend =>
                intro o ho
                obtain ⟨i, hi, rfl⟩ := List.mem_iff_getElem.mp ho
                have hat : at_ (octets cs) i = (octets cs)[i] := by
                  rw [at_, List.getD_eq_getElem?_getD, List.getElem?_eq_getElem hi,
                    Option.getD_some]
                rw [← hat]
                exact isDayOctet_of_hasDay hlength (by simpa using hday) (by omega)
            · split at h
              · cases h
              · split at h <;> cases h

/-- A character of ASCII is an octet of every text that it stands in. -/
lemma mem_octets {cs : List Char} {c : Char} {o : UInt8}
    (hoctet : String.utf8EncodeChar c = [o]) (h : c ∈ cs) : o ∈ octets cs :=
  List.mem_flatMap.mpr ⟨c, h, by rw [hoctet]; exact List.mem_singleton_self o⟩

/-- A character of ASCII that can stand in no day stands in no text that is read as one. -/
lemma not_mem_of_read? {cs : List Char} (h : read? cs = some .day) {c : Char} {o : UInt8}
    (hoctet : String.utf8EncodeChar c = [o]) (ho : ¬ IsDayOctet o) : c ∉ cs :=
  fun hc => ho (isDayOctet_of_read? h o (mem_octets hoctet hc))

/-- The letter of universal time makes no day of a text. -/
lemma read?_of_readUniversal? {cs : List Char} (h : readUniversal? cs = some .day) :
    read? cs = some .day := by
  rw [readUniversal?] at h
  split at h
  · split at h
    · have hcolon : ':' ∈ cs.dropLast ++ "+00:00".toList := by simp
      exact absurd hcolon (not_mem_of_read? h rfl (by unfold IsDayOctet; decide))
    · exact h
  · cases h

end NoteCheck.IsoText
