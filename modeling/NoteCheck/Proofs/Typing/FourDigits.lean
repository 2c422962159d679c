import NoteCheck.Proofs.Calendar.IsoOctets
import NoteCheck.Proofs.Calendar.MailWords
import NoteCheck.Proofs.Calendar.Spelling
import NoteCheck.Proofs.Typing.Agreement
import NoteCheck.Proofs.Typing.Clockface

/-!
# Every date has four digits

The tests for a date are generous, and a reader of a note's properties may wonder whether they take
a word or a title for one.  They do not: every text that is taken for a date has four decimal digits
in it, of whatever script.  Each way of reading a date has a reason of its own for that.  The bare
forms are runs of digits, and ISO 8601 begins with a year of four.  A written-out date has a year of
four digits and a day.  A mail header may abbreviate its year to one digit, but asks for numerals in
four different places.  The letter of universal time, which is read as an offset with digits, stands
behind all the digits that count.

* **`digitCount_of_dates`**: so a text with fewer digits looks like a text and nothing else, and it
  is reported wherever a day or a moment is declared.
-/

namespace NoteCheck

open NoteCheck.Text

variable {cs : List Char}

/-! ## ISO 8601 -/

namespace IsoText

lemma isDigit_eq_false_of_le {n : Nat} (hlow : 0xC0 ≤ n) (hhigh : n < 0x100) :
    isDigit (UInt8.ofNat n) = false := by
  have hoctet : (UInt8.ofNat n).toNat = n := UInt8.toNat_ofNat_of_lt' hhigh
  rw [isDigit, Bool.and_eq_false_iff, decide_eq_false_iff_not, decide_eq_false_iff_not,
    UInt8.le_iff_toNat_le, UInt8.le_iff_toNat_le, hoctet]
  right
  change ¬ n ≤ 0x39
  omega

/-- A character that takes more than one octet is not led by a digit. -/
lemma toNat_lt_of_isDigit {c : Char} {o : UInt8} {rest : List UInt8}
    (hoctets : String.utf8EncodeChar c = o :: rest) (h : isDigit o = true) : c.toNat < 128 := by
  by_contra hlarge
  have hsmall : ¬ c.val.toNat ≤ 0x7f := by
    rw [Char.toNat_val]
    omega
  have hlead : isDigit o = false := by
    rw [String.utf8EncodeChar, if_neg hsmall] at hoctets
    split at hoctets
    · rw [← (List.cons.inj hoctets).1]
      exact isDigit_eq_false_of_le (by omega) (by omega)
    · split at hoctets
      · rw [← (List.cons.inj hoctets).1]
        exact isDigit_eq_false_of_le (by omega) (by omega)
      · rw [← (List.cons.inj hoctets).1]
        exact isDigit_eq_false_of_le (by omega) (by omega)
  rw [hlead] at h
  cases h

lemma isDigit_of_toUInt8 {c : Char} (hascii : c.toNat < 128) (h : isDigit c.toUInt8 = true) :
    c.isDigit = true := by
  rw [isDigit, Bool.and_eq_true, decide_eq_true_eq, decide_eq_true_eq, UInt8.le_iff_toNat_le,
    UInt8.le_iff_toNat_le, toNat_toUInt8_of_lt hascii] at h
  rw [Char.isDigit, Bool.and_eq_true, decide_eq_true_eq, decide_eq_true_eq]
  exact h

/-- Digits at the front of the octets are digits at the front of the text. -/
lemma exists_digits_of_octets {count : Nat}
    (h : ∀ i < count, isDigit (at_ (octets cs) i) = true) :
    ∃ ds rest, ds.length = count ∧ (∀ d ∈ ds, d.isDigit = true) ∧ ds ++ rest = cs := by
  induction count generalizing cs with
  | zero => exact ⟨[], cs, rfl, by simp, rfl⟩
  | succ count ih =>
      cases cs with
      | nil => exact absurd (h 0 (Nat.succ_pos count)) (by decide)
      | cons c cs =>
          obtain ⟨o, tail, hc⟩ := List.exists_cons_of_ne_nil (String.utf8EncodeChar_ne_nil (c := c))
          have hfirst : isDigit o = true := by
            have hzero := h 0 (Nat.succ_pos count)
            rwa [at_, octets, List.flatMap_cons, hc] at hzero
          have hascii := toNat_lt_of_isDigit hc hfirst
          have hsplit : octets (c :: cs) = c.toUInt8 :: octets cs := by
            rw [octets, List.flatMap_cons, utf8EncodeChar_of_lt hascii]
            rfl
          rw [hsplit] at h
          obtain ⟨ds, rest, rfl, hds, rfl⟩ := ih fun i hi => h (i + 1) (by omega)
          have hdigit := isDigit_of_toUInt8 hascii (h 0 (Nat.succ_pos _))
          exact ⟨c :: ds, rest, rfl, List.forall_mem_cons.mpr ⟨hdigit, hds⟩, rfl⟩

/-- A moment begins with a year of four digits. -/
lemma exists_year_of_read? (h : (read? cs).isSome = true) :
    ∃ ds rest, ds.length = 4 ∧ (∀ d ∈ ds, d.isDigit = true) ∧ ds ++ rest = cs := by
  rw [read?] at h
  split at h
  · cases h
  · dsimp only at h
    split at h
    · cases h
    · next length hlength =>
        split at h
        · cases h
        · next hday =>
            rw [hasDay] at hday
            split at hday
            · exact absurd rfl hday
            · next year hyear =>
                refine exists_digits_of_octets fun i hi => ?_
                simpa using isDigit_of_number? hyear i hi

/-- The offset that the letter of universal time stands for adds no digit to the year. -/
lemma four_le_digitCount_of_readUniversal? (h : (readUniversal? cs).isSome = true) :
    4 ≤ digitCount cs := by
  rw [readUniversal?] at h
  split at h
  · split at h
    · obtain ⟨ds, rest, hlength, hds, happend⟩ := exists_year_of_read? h
      have hfront : ds <+: cs.dropLast := by
        rcases List.append_eq_append_iff.mp happend with ⟨more, hmore, -⟩ | ⟨more, rfl, hmore⟩
        · exact ⟨more, hmore.symm⟩
        · cases more with
          | nil => rw [List.append_nil]
          | cons c more =>
              have hplus : c = '+' := (List.cons.inj hmore).1.symm
              have hdigit := hds c (by simp)
              rw [hplus] at hdigit
              exact absurd hdigit (by decide)
      rw [← hlength]
      exact length_le_digitCount (hfront.sublist.trans (List.dropLast_sublist cs))
        fun d hd => isDecimal_of_isDigit (hds d hd)
    · obtain ⟨ds, rest, hlength, hds, rfl⟩ := exists_year_of_read? h
      rw [← hlength]
      exact length_le_digitCount (List.sublist_append_left ds rest)
        fun d hd => isDecimal_of_isDigit (hds d hd)
  · cases h

end IsoText

/-! ## Written-out dates -/

namespace LongText

/-- Every pattern asks for a year. -/
lemma four_le_digitCount_of_matchesPattern {parts : List Part} (hyear : Part.year ∈ parts)
    (h : matchesPattern parts cs = true) : 4 ≤ digitCount cs := by
  obtain ⟨pieces, hpieces, rfl⟩ := exists_pieces_of_matchesPattern h
  obtain ⟨i, hi, hpart⟩ := List.mem_iff_getElem.mp hyear
  have hspells := hpieces.get hi (hpieces.length_eq ▸ hi)
  rw [List.get_eq_getElem, hpart] at hspells
  obtain ⟨hfour, hdigits⟩ := hspells
  rw [← hfour]
  exact length_le_digitCount (List.sublist_flatten_of_mem (List.getElem_mem _)) hdigits

lemma four_le_digitCount_of_read? (h : (read? cs).isSome = true) : 4 ≤ digitCount cs := by
  rw [read?, List.findSome?_isSome_iff] at h
  obtain ⟨day, hday, h⟩ := h
  obtain ⟨⟨precision, time⟩, -, h⟩ := List.findSome?_isSome_iff.mp h
  have hyear : ∀ day ∈ dayPatterns, Part.year ∈ day := by decide
  dsimp only at h
  split at h
  · next hmatch =>
      exact four_le_digitCount_of_matchesPattern (List.mem_append_left time (hyear day hday)) hmatch
  · cases h

end LongText

/-! ## All forms of a date -/

namespace DateText

/-- A day begins with a year of four digits. -/
lemma four_le_digitCount_of_dropDay? {rest : List Char} (h : dropDay? cs = some rest) :
    4 ≤ digitCount cs := by
  obtain ⟨after, hafter, -⟩ := Option.bind_eq_some_iff.mp h
  obtain ⟨ds, hlength, hds, rfl⟩ := dropDigits?_eq_some_iff.mp hafter
  rw [← hlength]
  exact length_le_digitCount (List.sublist_append_left ds after) hds

lemma four_le_digitCount_of_isPlainDay (h : isPlainDay cs = true) : 4 ≤ digitCount cs := by
  rw [isPlainDay] at h
  split at h
  · next rest hrest => exact four_le_digitCount_of_dropDay? hrest
  · cases h

lemma four_le_digitCount_of_isPlainMoment (h : isPlainMoment cs = true) : 4 ≤ digitCount cs := by
  rw [isPlainMoment] at h
  split at h
  · next rest hrest =>
      obtain ⟨after, hafter, -⟩ := Option.bind_eq_some_iff.mp hrest
      exact four_le_digitCount_of_dropDay? hafter
  · cases h

/-- The readers of the calendar look at a text without its margins. -/
lemma four_le_digitCount_of_parses (h : parses cs = true) : 4 ≤ digitCount cs := by
  refine Nat.le_trans ?_ (digitCount_le_of_sublist (dropMargins_sublist isBlank cs))
  rw [parses, Bool.and_eq_true, Bool.or_eq_true, Bool.or_eq_true] at h
  rcases h.2 with (hiso | hmail) | hlong
  · exact IsoText.four_le_digitCount_of_readUniversal? hiso
  · exact MailText.four_le_digitCount_of_accepts hmail
  · exact LongText.four_le_digitCount_of_read? hlong

/-- **A text that is taken for a date has four digits**, by whatever form it is taken for one. -/
lemma four_le_digitCount_of_isDateShaped (h : isDateShaped cs = true) : 4 ≤ digitCount cs := by
  rw [isDateShaped, Bool.or_eq_true, Bool.or_eq_true] at h
  rcases h with (hday | hmoment) | hparses
  · exact four_le_digitCount_of_isPlainDay hday
  · exact four_le_digitCount_of_isPlainMoment hmoment
  · exact four_le_digitCount_of_parses hparses

/-- A text with fewer digits is a text and conforms to neither type of a date. -/
lemma eq_text_of_digitCount_lt {s : String} (h : digitCount s.toList < 4) :
    (Value.text s).shape = .ok .text ∧
      ∀ t ∈ [PropertyType.date, .datetime], conforms (.text s) (.text t.name) = .ok false := by
  have hshaped : isDateShaped s.toList = false := by
    rw [Bool.eq_false_iff]
    intro hshaped
    have hfour := four_le_digitCount_of_isDateShaped hshaped
    omega
  constructor
  · rw [Value.shape, hshaped, if_neg Bool.false_ne_true]
  · intro t ht
    rw [conforms_name (by simp [Value.kind])]
    rcases List.mem_cons.mp ht with rfl | ht
    · rw [PropertyType.accepts, Value.isDateShaped, hshaped, Bool.false_and]
    · rw [List.mem_singleton.mp ht, PropertyType.accepts, Value.isDateShaped, hshaped,
        Bool.false_and]

/-- **Ordinary text is no date.**  Every text that is taken for a date, by whatever form, has at
least four decimal digits.  So a text with fewer looks like a text, conforms neither to *date* nor
to *datetime*, and the check of a property that has one of these types reports it as what it is. -/
theorem digitCount_of_dates :
    (∀ s : String, isDateShaped s.toList = true → 4 ≤ digitCount s.toList) ∧
    ∀ s : String, digitCount s.toList < 4 →
      (Value.text s).shape = .ok .text ∧
      ∀ t ∈ [PropertyType.date, .datetime],
        conforms (.text s) (.text t.name) = .ok false ∧
        ∀ schema property : Value, isExempt property = false →
          declared? schema property = some t.name →
          checkProperty schema property (.text s) = .ok (some ⟨property, t.name, .text⟩) := by
  refine ⟨fun s h => four_le_digitCount_of_isDateShaped h, fun s h => ?_⟩
  obtain ⟨hshape, hconforms⟩ := eq_text_of_digitCount_lt h
  refine ⟨hshape, fun t ht => ⟨hconforms t ht, fun schema property hexempt hdeclared => ?_⟩⟩
  rw [checkProperty, hexempt, if_neg Bool.false_ne_true, hdeclared]
  dsimp only
  rw [hshape, hconforms t ht]
  rfl

/-- Four digits can be enough for a date, and three are not. -/
theorem digitCount_of_dates_short :
    (isDateShaped "1 Jan 1 1:1".toList = true ∧ digitCount "1 Jan 1 1:1".toList = 4 ∧
      4 ≤ digitCount "1 Jan 1 1:1".toList) ∧
    (Value.text "Jan 1 1:1").shape = .ok .text ∧
    conforms (.text "Jan 1 1:1") (.text "datetime") = .ok false ∧
    checkProperty (.map [(.text "due", .text "date")]) (.text "due") (.text "Jan 1 1:1") =
      .ok (some ⟨.text "due", "date", .text⟩) := by
  have hshaped : isDateShaped "1 Jan 1 1:1".toList = true := by decide +kernel
  have hfew : digitCount "Jan 1 1:1".toList < 4 := by decide +kernel
  obtain ⟨hshape, hrejected⟩ := digitCount_of_dates.2 "Jan 1 1:1" hfew
  exact ⟨⟨hshaped, by decide +kernel, digitCount_of_dates.1 _ hshaped⟩, hshape,
    (hrejected .datetime (by decide)).1,
    (hrejected .date (by decide)).2 (.map [(.text "due", .text "date")]) (.text "due")
      (by decide) (by decide +kernel)⟩

end DateText

end NoteCheck
