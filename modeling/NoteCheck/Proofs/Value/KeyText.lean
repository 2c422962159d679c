import NoteCheck.Proofs.Calendar.Unambiguous
import NoteCheck.Proofs.Json.Writing
import NoteCheck.Proofs.Number.DecimalText
import NoteCheck.Proofs.Value.Lookup
import NoteCheck.Value.KeyText

/-!
# Values with the same text as a key

The text of a key that is not itself a text tells what kind of value it is
(`keyForm?_of_keyText`): words and octets by their first letter, a moment by its space, a double by
a point, an exponent or a word of its own, and a day by its hyphens.  Within each kind the text can
be read back.

* **`eq_of_keyText`**: two values with the same text as keys are one, unless one of them is that
  text or neither is a number.
* **`clash_iff`**: so different keys have one text exactly if they clash.
-/

namespace NoteCheck.Value

open NoteCheck.Text Decimal

variable {cs : List Char} {k l : Value} {name : String}

/-! ## Octets -/

/-- What an escape stands for, and what follows it. -/
def readEscape? : List Char → Option (Nat × List Char)
  | 't' :: rest => some (9, rest)
  | 'n' :: rest => some (10, rest)
  | 'r' :: rest => some (13, rest)
  | 'x' :: c :: d :: rest => some ((digitIn c).getD 0 * 16 + (digitIn d).getD 0, rest)
  | c :: rest => some (c.toNat, rest)
  | [] => none

/-- The first octet of what stands in quotes, and what follows it. -/
def readOctet? : List Char → Option (Nat × List Char)
  | [] => none
  | c :: rest => if c = '\\' then readEscape? rest else some (c.toNat, rest)

lemma digitIn_digitChar : ∀ n < 16, digitIn (Nat.digitChar n) = some n := by
  decide +kernel

/-- An octet in quotes is read back. -/
lemma readOctet?_quotedOctet {quote : Char} (hquote : quote = '\'' ∨ quote = '"') (octet : UInt8)
    (rest : List Char) :
    readOctet? (quotedOctet quote octet ++ rest) = some (octet.toNat, rest) := by
  have hlt : octet.toNat < 256 := octet.toNat_lt
  have hchar : (Char.ofNat octet.toNat).toNat = octet.toNat := by
    rw [Char.toNat_ofNat, if_pos (Or.inl (by omega))]
  simp only [quotedOctet, Bool.or_eq_true, decide_eq_true_eq]
  generalize Char.ofNat octet.toNat = c at hchar
  rw [← hchar]
  split
  · next hmark =>
      rcases hmark with rfl | rfl
      · rcases hquote with rfl | rfl <;> rfl
      · rfl
  · next hmark =>
      split
      · next htab => rw [htab]; rfl
      · split
        · next hfeed => rw [hfeed]; rfl
        · split
          · next hreturn => rw [hreturn]; rfl
          · split
            · have hhigh := digitIn_digitChar (c.toNat / 16) (by omega)
              have hlow := digitIn_digitChar (c.toNat % 16) (by omega)
              change some ((digitIn _).getD 0 * 16 + (digitIn _).getD 0, rest) = _
              rw [hhigh, hlow, Option.getD_some, Option.getD_some, Nat.div_add_mod']
            · rw [List.singleton_append, readOctet?, if_neg (not_or.mp hmark).2]

lemma flatMap_quotedOctet_inj {quote : Char} (hquote : quote = '\'' ∨ quote = '"')
    {octets others : List UInt8}
    (h : octets.flatMap (quotedOctet quote) = others.flatMap (quotedOctet quote)) :
    octets = others := by
  induction octets generalizing others with
  | nil =>
      cases others with
      | nil => rfl
      | cons other others =>
          have hread := readOctet?_quotedOctet hquote other (others.flatMap (quotedOctet quote))
          rw [← List.flatMap_cons, ← h] at hread
          cases hread
  | cons octet octets ih =>
      have hread := readOctet?_quotedOctet hquote octet (octets.flatMap (quotedOctet quote))
      rw [← List.flatMap_cons, h] at hread
      cases others with
      | nil => cases hread
      | cons other others =>
          rw [List.flatMap_cons, readOctet?_quotedOctet hquote] at hread
          obtain ⟨hoctet, hrest⟩ := Prod.mk.inj (Option.some.inj hread)
          rw [UInt8.toNat_inj.mp hoctet, ih hrest.symm]

lemma octetsText_inj {octets others : List UInt8} (h : octetsText octets = octetsText others) :
    octets = others := by
  obtain ⟨hquote, h⟩ := List.cons.inj (List.cons.inj h).2
  rw [← hquote] at h
  refine flatMap_quotedOctet_inj ?_ (List.append_cancel_right h)
  split
  · exact .inr rfl
  · exact .inl rfl

/-! ## What a text tells of the kind of a value -/

/-- The kinds of values whose texts as keys are told apart. -/
inductive KeyForm where
  | word
  | octets
  | moment
  | double
  | day
  | whole
deriving DecidableEq, Repr

/-- The kind of a text. -/
def KeyForm.ofText (cs : List Char) : KeyForm :=
  if cs.head? ∈ [some 'N', some 'T', some 'F'] then .word
  else if cs.head? = some 'b' then .octets
  else if ' ' ∈ cs then .moment
  else if '.' ∈ cs ∨ 'e' ∈ cs ∨ 'n' ∈ cs then .double
  else if '-' ∈ cs.tail then .day
  else .whole

/-- The kind of a value. Texts and collections have none. -/
def keyForm? : Value → Option KeyForm
  | null | bool _ => some .word
  | int _ => some .whole
  | float _ => some .double
  | bytes _ => some .octets
  | date _ => some .day
  | timestamp _ => some .moment
  | text _ | list _ | tuple _ | set _ | map _ | cycle _ => none

namespace KeyForm

/-- Words and octets are known by their first letter. -/
lemma ofText_of_head (hhead : ∀ c ∈ cs.head?, c ∉ ['N', 'T', 'F', 'b']) :
    ofText cs = if ' ' ∈ cs then .moment
      else if '.' ∈ cs ∨ 'e' ∈ cs ∨ 'n' ∈ cs then .double
      else if '-' ∈ cs.tail then .day
      else .whole := by
  cases cs with
  | nil => rfl
  | cons c cs =>
      have hc := hhead c rfl
      simp only [List.mem_cons, List.not_mem_nil, or_false, not_or] at hc
      rw [ofText, if_neg (by simp [hc]), if_neg (by simp [hc])]

/-- Whole numbers and days are made of digits and hyphens. -/
def IsDayChar (c : Char) : Prop :=
  c.isDigit = true ∨ c = '-'

lemma IsDayChar.apart {c d : Char} (h : IsDayChar c) (hd : d.isDigit = false ∧ d ≠ '-') :
    c ≠ d := by
  rintro rfl
  rcases h with hdigit | hneg
  · rw [hd.1] at hdigit
    cases hdigit
  · exact hd.2 hneg

lemma IsDayChar.not_letter {c : Char} (h : IsDayChar c) : c ∉ ['N', 'T', 'F', 'b'] := by
  simp only [List.mem_cons, List.not_mem_nil, or_false, not_or]
  refine ⟨?_, ?_, ?_, ?_⟩ <;> exact h.apart (by decide)

lemma ofText_of_dayChars (h : ∀ c ∈ cs, IsDayChar c) :
    ofText cs = if '-' ∈ cs.tail then .day else .whole := by
  have hnot : ∀ d : Char, d.isDigit = false ∧ d ≠ '-' → d ∉ cs := fun d hd hmem =>
    (h d hmem).apart hd rfl
  rw [ofText_of_head fun c hc => (h c (List.mem_of_mem_head? hc)).not_letter,
    if_neg (hnot ' ' (by decide)), if_neg]
  simp [hnot '.' (by decide), hnot 'e' (by decide), hnot 'n' (by decide)]

lemma ofText_intText (i : Int) : ofText (intText i) = .whole := by
  have htail : ∀ c ∈ (intText i).tail, c.isDigit = true := by
    cases i with
    | ofNat n => exact fun c hc => isDigits_natText n c (List.mem_of_mem_tail hc)
    | negSucc n => exact isDigits_natText (n + 1)
  have hall : ∀ c ∈ intText i, IsDayChar c := by
    cases i with
    | ofNat n => exact fun c hc => .inl (isDigits_natText n c hc)
    | negSucc n =>
        intro c hc
        exact (List.mem_cons.mp hc).symm.imp_left (isDigits_natText (n + 1) c)
  rw [ofText_of_dayChars hall, if_neg]
  exact fun hneg => absurd (htail '-' hneg) (by decide)

lemma date_text_ne_nil (d : Date) : d.text ≠ [] := by
  rw [← List.length_pos_iff, IsoText.length_date_text]
  decide

lemma ofText_date (d : Date) : ofText d.text = .day := by
  have hyear : padded 4 d.year ≠ [] := by
    rw [← List.length_pos_iff, length_padded (by decide) (IsoText.date_bounds d).1]
    decide
  rw [ofText_of_dayChars fun c => IsoText.mem_date_text, if_pos]
  simp [Date.text, List.tail_append_of_ne_nil, hyear]

lemma ofText_timestamp (t : Timestamp) : ofText (t.text ' ') = .moment := by
  rw [ofText_of_head, if_pos]
  · rw [IsoText.text_eq]
    simp
  · intro c hc
    rw [IsoText.text_eq, List.head?_append_of_ne_nil _ (date_text_ne_nil _)] at hc
    exact IsDayChar.not_letter (IsoText.mem_date_text (List.mem_of_mem_head? hc))

lemma ofText_write (x : Binary64) : ofText (write Layout.plain x) = .double := by
  have hword : IsWord (write Layout.plain x) := isWord_write (by decide) (by decide) x
  rw [ofText_of_head, if_neg, if_pos (mark_mem_write x)]
  · exact fun hspace => absurd (hword ' ' hspace) (by decide)
  · intro c hc hletter
    obtain ⟨cs, hcs⟩ := List.head?_eq_some_iff.mp hc
    simp only [List.mem_cons, List.not_mem_nil, or_false] at hletter
    rcases hletter with rfl | rfl | rfl | rfl <;>
      exact write_ne_cons (by decide) (by decide) x cs hcs

end KeyForm

lemma toList_of_keyText_int {i : Int} (h : (int i).keyText = .ok name) :
    name.toList = intText i := by
  rw [keyText] at h
  split at h
  · next digits hdigits =>
      rw [intText?] at hdigits
      split at hdigits
      · cases hdigits
      · rw [← Except.ok.inj h, String.toList_ofList, ← Option.some.inj hdigits]
  · cases h

/-- **The text of a key tells its kind**, unless it is itself a text. -/
lemma keyForm?_of_keyText (h : k.keyText = .ok name) :
    k = .text name ∨ k.keyForm? = some (KeyForm.ofText name.toList) := by
  cases k with
  | text s =>
      cases h
      exact .inl rfl
  | null =>
      cases h
      exact .inr rfl
  | bool b =>
      cases h
      cases b <;> exact .inr rfl
  | int i => exact .inr (by rw [toList_of_keyText_int h, KeyForm.ofText_intText]; rfl)
  | float x =>
      right
      rw [← Except.ok.inj h, String.toList_ofList, KeyForm.ofText_write]
      rfl
  | bytes octets =>
      right
      rw [← Except.ok.inj h, String.toList_ofList]
      rfl
  | date d =>
      right
      rw [← Except.ok.inj h, String.toList_ofList, KeyForm.ofText_date]
      rfl
  | timestamp t =>
      right
      rw [← Except.ok.inj h, String.toList_ofList, KeyForm.ofText_timestamp]
      rfl
  | list _ | tuple _ | set _ | map _ | cycle _ => cases h

/-! ## Reading a key back -/

lemma intText_inj {i j : Int} (h : intText i = intText j) : i = j := by
  have hneg : ∀ n m, natText n ≠ '-' :: natText m := by
    intro n m hsame
    have hdigit := isDigits_natText n '-' (by rw [hsame]; exact List.mem_cons_self)
    cases hdigit
  match i, j with
  | .ofNat n, .ofNat m => rw [natText_inj h]
  | .ofNat n, .negSucc m => exact absurd h (hneg _ _)
  | .negSucc n, .ofNat m => exact absurd h.symm (hneg _ _)
  | .negSucc n, .negSucc m => rw [Nat.succ.inj (natText_inj (List.cons.inj h).2)]

/-- The values of a kind. -/
lemma of_keyForm? (l : Value) : match l.keyForm? with
    | some .word => l = null ∨ ∃ b, l = bool b
    | some .octets => ∃ octets, l = bytes octets
    | some .moment => ∃ t, l = timestamp t
    | some .double => ∃ x, l = float x
    | some .day => ∃ d, l = date d
    | some .whole => ∃ i, l = int i
    | none => True := by
  cases l <;> simp [keyForm?]

/-- Within one kind the text can be read back. -/
lemma eq_of_keyForm? (hk : k.keyText = .ok name) (hl : l.keyText = .ok name)
    (hform : k.keyForm? = l.keyForm?) (hsome : k.keyForm?.isSome = true) :
    k = l ∨ k.isNaN = true ∧ l.isNaN = true := by
  have hlike := of_keyForm? l
  rw [← hform] at hlike
  have htext := hk.trans hl.symm
  cases k with
  | null =>
      obtain rfl | ⟨c, rfl⟩ := hlike
      · exact .inl rfl
      · cases c <;> exact absurd (Except.ok.inj htext) (by decide)
  | bool b =>
      obtain rfl | ⟨c, rfl⟩ := hlike
      · cases b <;> exact absurd (Except.ok.inj htext) (by decide)
      · cases b <;> cases c
        · exact .inl rfl
        · exact absurd (Except.ok.inj htext) (by decide)
        · exact absurd (Except.ok.inj htext) (by decide)
        · exact .inl rfl
  | int i =>
      obtain ⟨j, rfl⟩ := hlike
      have htext := (toList_of_keyText_int hk).symm.trans (toList_of_keyText_int hl)
      exact .inl (congrArg int (intText_inj htext))
  | float x =>
      obtain ⟨y, rfl⟩ := hlike
      exact (eq_of_write (String.ofList_inj.mp (Except.ok.inj htext))).imp_left (congrArg float)
  | bytes octets =>
      obtain ⟨others, rfl⟩ := hlike
      exact .inl (congrArg bytes (octetsText_inj (String.ofList_inj.mp (Except.ok.inj htext))))
  | date d =>
      obtain ⟨e, rfl⟩ := hlike
      exact .inl (congrArg date (Date.text_inj (String.ofList_inj.mp (Except.ok.inj htext))))
  | timestamp s =>
      obtain ⟨t, rfl⟩ := hlike
      exact .inl (congrArg timestamp
        (Timestamp.text_inj (String.ofList_inj.mp (Except.ok.inj htext))))
  | text _ | list _ | tuple _ | set _ | map _ | cycle _ => cases hsome

/-- **The text of a key names one value**, unless one of two keys is that text or neither is a
number. -/
theorem eq_of_keyText (hk : k.keyText = .ok name) (hl : l.keyText = .ok name) :
    k = l ∨ k = .text name ∨ l = .text name ∨ k.isNaN = true ∧ l.isNaN = true := by
  rcases keyForm?_of_keyText hk with htext | hkform
  · exact .inr (.inl htext)
  rcases keyForm?_of_keyText hl with htext | hlform
  · exact .inr (.inr (.inl htext))
  rcases eq_of_keyForm? hk hl (hkform.trans hlform.symm) (by rw [hkform]; rfl) with hsame | hnan
  · exact .inl hsame
  · exact .inr (.inr (.inr hnan))

/-! ## Clashing keys -/

/-- Whether keys have one text although they may differ: one of them is the text of the other, or
neither is a number. -/
def Clash (k l : Value) : Prop :=
  (∃ name, k = .text name ∧ l.keyText = .ok name) ∨
    (∃ name, l = .text name ∧ k.keyText = .ok name) ∨ k.isNaN = true ∧ l.isNaN = true

lemma same_timestamp (t : Timestamp) : t.same t = true := by
  rw [Timestamp.same]
  cases t.offset <;> exact beq_self_eq_true _

/-- A key is the same as itself, unless it is not a number. -/
lemma same_self (hk : k.keyText = .ok name) (hnan : k.isNaN = false) : k.same k = true := by
  cases k with
  | float x =>
      have hx : x.isNaN = false := hnan
      simp [same, sameAtom, number?, sameNumber, Binary64.eqValue, hx]
  | timestamp t => simp [same, sameAtom, number?, same_timestamp]
  | list _ | tuple _ | set _ | map _ | cycle _ => cases hk
  | _ => simp [same, sameAtom, number?, sameNumber]

lemma keyText_of_isNaN (hnan : k.isNaN = true) : k.keyText = .ok "nan" := by
  cases k with
  | float x =>
      have hx : x.isNaN = true := hnan
      rw [keyText, write_eq, if_pos hx]
      rfl
  | _ => cases hnan

/-- **Different keys have one text** exactly if they clash. -/
theorem clash_iff {m n : String} (hk : k.keyText = .ok m) (hl : l.keyText = .ok n)
    (happart : k.same l = false) : k.Clash l ↔ m = n := by
  constructor
  · rintro (⟨name, rfl, hname⟩ | ⟨name, rfl, hname⟩ | ⟨hknan, hlnan⟩)
    · exact (Except.ok.inj hk).symm.trans (Except.ok.inj (hname.symm.trans hl))
    · exact (Except.ok.inj (hk.symm.trans hname)).trans (Except.ok.inj hl)
    · rw [keyText_of_isNaN hknan] at hk
      rw [keyText_of_isNaN hlnan] at hl
      exact (Except.ok.inj hk).symm.trans (Except.ok.inj hl)
  · rintro rfl
    rcases eq_of_keyText hk hl with rfl | htext | htext | hnan
    · cases hnan : k.isNaN with
      | true => exact .inr (.inr ⟨hnan, hnan⟩)
      | false =>
          rw [same_self hk hnan] at happart
          cases happart
    · exact .inl ⟨m, htext, hl⟩
    · exact .inr (.inl ⟨m, htext, hk⟩)
    · exact .inr (.inr hnan)

end NoteCheck.Value
