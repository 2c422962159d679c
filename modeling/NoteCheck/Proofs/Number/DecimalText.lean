import Mathlib
import NoteCheck.Proofs.Number.Shortest
import NoteCheck.Proofs.Text.Characters
import NoteCheck.Proofs.Text.Padded

/-!
# The text of a double names no other double

However the digits of a number are set out, with zeros, a point or an exponent, a reader that takes
the text apart as `readUnsigned?` does finds the number again (`readValue?_digits`).  The number is
one that rounds to the double and so to no other.

* **`eq_of_write`**: two doubles with the same text are one, unless neither is a number.
-/

namespace NoteCheck.Decimal

open NoteCheck.Text

variable {x y : Binary64} {ds fs cs rest : List Char}

/-- The digits behind a point, read after those in front of it. -/
def takeFraction (whole : Nat) : List Char → Nat × Nat × List Char
  | '.' :: rest => takeDigits whole 0 rest
  | rest => (whole, 0, rest)

/-- The number that a text stands for: digits with an optional point and an optional exponent. -/
def readValue? (cs : List Char) : Option ℚ :=
  let (whole, _, rest) := takeDigits 0 0 cs
  let (digits, fractionCount, rest) := takeFraction whole rest
  (readExponent? rest).map fun e : Int => (digits : ℚ) * 10 ^ (e - fractionCount)

/-! ## Digits -/

/-- Whether a text holds only digits of ASCII. -/
def IsDigits (cs : List Char) : Prop :=
  ∀ c ∈ cs, c.isDigit = true

lemma isDigits_natText (n : Nat) : IsDigits (natText n) :=
  fun _ hc => Nat.isDigit_of_mem_toDigits (by decide) (by decide) hc

lemma isDigits_replicate_zero (n : Nat) : IsDigits (List.replicate n '0') := by
  intro c hc
  rw [List.eq_of_mem_replicate hc]
  rfl

lemma IsDigits.append (hds : IsDigits ds) (hfs : IsDigits fs) : IsDigits (ds ++ fs) :=
  List.forall_mem_append.mpr ⟨hds, hfs⟩

lemma IsDigits.take (hds : IsDigits ds) (n : Nat) : IsDigits (ds.take n) :=
  fun c hc => hds c (List.mem_of_mem_take hc)

lemma IsDigits.drop (hds : IsDigits ds) (n : Nat) : IsDigits (ds.drop n) :=
  fun c hc => hds c (List.mem_of_mem_drop hc)

lemma takeDigits_append (hds : IsDigits ds) (value count : Nat) (rest : List Char) :
    takeDigits value count (ds ++ rest) =
      takeDigits (Nat.ofDigitChars 10 ds value) (count + ds.length) rest := by
  induction ds generalizing value count with
  | nil => rw [Nat.ofDigitChars_nil, List.nil_append, List.length_nil, Nat.add_zero]
  | cons c ds ih =>
      obtain ⟨hc, hds⟩ := List.forall_mem_cons.mp hds
      rw [List.cons_append, takeDigits, digitValue?_of_isDigit hc]
      dsimp only
      rw [ih hds, Nat.ofDigitChars_cons, List.length_cons, Nat.mul_comm value, Nat.add_right_comm,
        Nat.add_assoc count]
      rfl

/-- Digits are taken up to a character that is none. -/
lemma takeDigits_cons {c : Char} (hc : digitValue? c = none) (value count : Nat) :
    takeDigits value count (c :: rest) = (value, count, c :: rest) := by
  rw [takeDigits, hc]

/-! ## The parts of a number -/

lemma readValue?_point (hds : IsDigits ds) (hfs : IsDigits fs)
    (hrest : rest = [] ∨ ∃ cs, rest = 'e' :: cs) :
    readValue? (ds ++ '.' :: (fs ++ rest)) = (readExponent? rest).map fun e : Int =>
      (Nat.ofDigitChars 10 (ds ++ fs) 0 : ℚ) * 10 ^ (e - fs.length) := by
  have hend : takeFraction (Nat.ofDigitChars 10 ds 0) ('.' :: (fs ++ rest)) =
      (Nat.ofDigitChars 10 (ds ++ fs) 0, fs.length, rest) := by
    rw [takeFraction, takeDigits_append hfs, ← Nat.ofDigitChars_append, Nat.zero_add]
    rcases hrest with rfl | ⟨cs, rfl⟩
    · rfl
    · exact takeDigits_cons (by decide) _ _
  rw [readValue?, takeDigits_append hds, takeDigits_cons (by decide)]
  dsimp only
  rw [hend]

lemma readValue?_exponent (hds : IsDigits ds) :
    readValue? (ds ++ 'e' :: cs) = (readExponent? ('e' :: cs)).map fun e : Int =>
      (Nat.ofDigitChars 10 ds 0 : ℚ) * 10 ^ e := by
  rw [readValue?, takeDigits_append hds, takeDigits_cons (by decide)]
  simp [takeFraction]

lemma readExponent?_written (width : Nat) (e : Int) :
    readExponent? ('e' :: (if e < 0 then '-' else '+') :: padded width e.natAbs) = some e := by
  have hdigits : IsDigits (padded width e.natAbs) := fun _ => isDigit_of_mem_padded
  have htake := takeDigits_append hdigits 0 0 []
  rw [List.append_nil, ofDigitChars_padded, takeDigits, Nat.zero_add] at htake
  have hpos : (padded width e.natAbs).length ≠ 0 := by
    rw [padded, List.length_append]
    have := length_natText_pos e.natAbs
    omega
  split
  · next hneg =>
      simp [readExponent?, htake, hpos, abs_of_neg hneg]
  · next hneg =>
      simp [readExponent?, htake, hpos, abs_of_nonneg (not_lt.mp hneg)]

/-! ## The layouts -/

/-- Digits with a point in front of all of them. -/
lemma readValue?_behind_point (hds : IsDigits ds) (zeros : Nat) :
    readValue? ('0' :: '.' :: List.replicate zeros '0' ++ ds) =
      some ((Nat.ofDigitChars 10 ds 0 : ℚ) * 10 ^ (-(zeros + ds.length : Nat) : Int)) := by
  have hvalue : Nat.ofDigitChars 10 (['0'] ++ (List.replicate zeros '0' ++ ds)) 0 =
      Nat.ofDigitChars 10 ds 0 := by
    simp [Nat.ofDigitChars_append, Nat.ofDigitChars_cons]
  have hread := readValue?_point (isDigits_replicate_zero 1)
    ((isDigits_replicate_zero zeros).append hds) (Or.inl rfl)
  rw [List.append_nil, List.replicate_one, hvalue, List.length_append, List.length_replicate]
    at hread
  rw [show (-(zeros + ds.length : Nat) : Int) = 0 - (zeros + ds.length : Nat) by omega]
  exact hread

/-- Digits with a point behind the first `whole` of them, zeros being added if there are fewer. -/
lemma readValue?_before_point (hds : IsDigits ds) {whole : Nat} {filled : List Char}
    (hfilled : filled = ds ++ List.replicate (whole - ds.length) '0') :
    readValue? (filled.take whole ++
      '.' :: (if (filled.drop whole).isEmpty then ['0'] else filled.drop whole)) =
      some ((Nat.ofDigitChars 10 ds 0 : ℚ) * 10 ^ ((whole : Int) - ds.length)) := by
  rcases Nat.lt_or_ge whole ds.length with hmore | hless
  · obtain rfl : filled = ds := by
      rw [hfilled, Nat.sub_eq_zero_of_le hmore.le, List.replicate_zero, List.append_nil]
    have hrest : (filled.drop whole).isEmpty = false := by
      rw [List.isEmpty_eq_false_iff, ← List.length_pos_iff, List.length_drop]
      omega
    have hread := readValue?_point (hds.take whole) (hds.drop whole) (Or.inl rfl)
    rw [List.append_nil, List.take_append_drop, List.length_drop] at hread
    rw [hrest, if_neg Bool.false_ne_true, show (whole : Int) - filled.length =
      0 - (filled.length - whole : Nat) by omega]
    exact hread
  · have hlength : filled.length = whole := by
      rw [hfilled, List.length_append, List.length_replicate]
      omega
    have hvalue : Nat.ofDigitChars 10 (filled ++ ['0']) 0 =
        10 * (10 ^ (whole - ds.length) * Nat.ofDigitChars 10 ds 0) := by
      rw [hfilled, Nat.ofDigitChars_append, Nat.ofDigitChars_append,
        Nat.ofDigitChars_replicate_zero]
      rfl
    have hread := readValue?_point (hfilled ▸ hds.append (isDigits_replicate_zero _))
      (isDigits_replicate_zero 1) (Or.inl rfl)
    rw [List.append_nil, List.replicate_one, hvalue] at hread
    rw [List.drop_eq_nil_of_le hlength.le, List.isEmpty_nil, if_pos rfl,
      List.take_of_length_le hlength.le, hread,
      show (whole : Int) - ds.length = ((whole - ds.length : Nat) : Int) by omega, zpow_natCast]
    simp only [readExponent?, Option.map_some, List.length_singleton]
    norm_num
    ring

/-- Digits with a point behind the first, if others follow it, and an exponent. -/
lemma readValue?_scientific (hds : IsDigits ds) (hpos : 0 < ds.length) (width : Nat) (e : Int) :
    readValue? (ds.take 1 ++ (if (ds.drop 1).isEmpty then [] else '.' :: ds.drop 1) ++
      'e' :: (if e < 0 then '-' else '+') :: padded width e.natAbs) =
      some ((Nat.ofDigitChars 10 ds 0 : ℚ) * 10 ^ (e - (ds.length - 1 : Nat))) := by
  split
  · next hrest =>
      have hone : ds.length = 1 := by
        rw [List.isEmpty_iff, List.drop_eq_nil_iff] at hrest
        omega
      rw [List.append_nil, List.take_of_length_le hone.le, readValue?_exponent hds,
        readExponent?_written, hone]
      simp
  · rw [List.append_assoc, List.cons_append, readValue?_point (hds.take 1) (hds.drop 1)
      (Or.inr ⟨_, rfl⟩), readExponent?_written, List.take_append_drop, List.length_drop]
    rfl

/-- **The digits of a number are read back**, however they are set out. -/
theorem readValue?_digits (l : Layout) (d : Digits) : readValue? (l.digits d) = some d.value := by
  have hds := isDigits_natText d.digits
  have hpos := length_natText_pos d.digits
  rw [Layout.digits, Digits.value]
  dsimp only
  split
  · split
    · rw [readValue?_behind_point hds, ofDigitChars_natText]
      congr 3
      omega
    · rw [readValue?_before_point hds rfl, ofDigitChars_natText]
      congr 3
      omega
  · rw [readValue?_scientific hds hpos, ofDigitChars_natText]
    congr 3
    omega

/-! ## The text of a double -/

/-- The text of a double without its sign. -/
def bodyText (l : Layout) (x : Binary64) : List Char :=
  if x.isInfinite then l.infinity.toList
  else if x.isZero then ['0', '.', '0']
  else l.digits (shortest x)

/-- A double without its sign. -/
def unsigned (x : Binary64) : Binary64 :=
  { x with negative := false }

/-- The text of a double that is a number or an infinity. -/
def signedText (l : Layout) (x : Binary64) : List Char :=
  if x.negative then '-' :: bodyText l (unsigned x) else bodyText l (unsigned x)

lemma write_eq (l : Layout) (x : Binary64) :
    write l x = if x.isNaN then l.notANumber.toList else signedText l x :=
  rfl

lemma significand_pos (h : x.isZero = false) : 0 < x.significand := by
  obtain ⟨k, -, hmagnitude, -, hleast, -⟩ := magnitude_eq x
  rw [Binary64.isZero, beq_eq_false_iff_ne] at h
  omega

/-- The number that is read from the text of a finite double rounds to it. -/
lemma exists_readValue?_bodyText (l : Layout) (hx : x.negative = false)
    (hfinite : x.isInfinite = false) :
    ∃ q, readValue? (bodyText l x) = some q ∧ RoundsTo q x := by
  rw [bodyText, hfinite, if_neg Bool.false_ne_true]
  split
  · next hzero =>
      have hsignificand : x.significand = 0 := by
        rw [Binary64.isZero, beq_iff_eq] at hzero
        rw [Binary64.significand, Binary64.exponentField, hzero]
        rfl
      refine ⟨0, by decide +kernel, ?_⟩
      simp [RoundsTo, Interval.Holds, Interval.of, hsignificand]
  · next hzero =>
      exact ⟨_, readValue?_digits l _,
        roundsTo_shortest hx (significand_pos (Bool.eq_false_iff.mpr hzero))⟩

/-- The first character of a number is a digit, a point or the mark of an exponent. -/
lemma readValue?_cons_eq_none {c : Char} (hdigit : digitValue? c = none)
    (hc : c ∉ ['.', 'e', 'E']) (cs : List Char) : readValue? (c :: cs) = none := by
  simp only [List.mem_cons, List.not_mem_nil, or_false, not_or] at hc
  have hfraction : takeFraction 0 (c :: cs) = (0, 0, c :: cs) := by
    rw [takeFraction]
    rintro rest heq
    exact hc.1 (List.cons.inj heq).1
  rw [readValue?, takeDigits_cons hdigit]
  dsimp only
  rw [hfraction]
  simp [readExponent?, hc]

/-- A text without a sign is the word for infinity or that of a number. -/
lemma bodyText_cases (hx : x.negative = false) :
    x.isInfinite = true ∧ bodyText Layout.plain x = "inf".toList ∨
      ∃ q, readValue? (bodyText Layout.plain x) = some q ∧ RoundsTo q x := by
  cases hinfinite : x.isInfinite with
  | false => exact .inr (exists_readValue?_bodyText Layout.plain hx hinfinite)
  | true => exact .inl ⟨rfl, by rw [bodyText, if_pos hinfinite]; rfl⟩

/-- No text without a sign is one that no number and no infinity has. -/
lemma bodyText_ne (hx : x.negative = false) (hread : readValue? cs = none)
    (hinf : cs ≠ "inf".toList) : bodyText Layout.plain x ≠ cs := by
  rintro rfl
  rcases bodyText_cases hx with ⟨-, hword⟩ | ⟨q, hq, -⟩
  · exact hinf hword
  · rw [hread] at hq
    cases hq

lemma eq_of_bodyText (hx : x.negative = false) (hy : y.negative = false)
    (h : bodyText Layout.plain x = bodyText Layout.plain y) : x = y := by
  have hword : readValue? "inf".toList = none := by decide +kernel
  rcases bodyText_cases hx with ⟨hxinf, hxword⟩ | ⟨q, hxread, hxq⟩ <;>
    rcases bodyText_cases hy with ⟨hyinf, hyword⟩ | ⟨r, hyread, hyq⟩
  · rw [Binary64.isInfinite, beq_iff_eq] at hxinf hyinf
    exact Binary64.mk.injEq .. ▸ ⟨hx.trans hy.symm, Fin.ext (hxinf.trans hyinf.symm)⟩
  · rw [← h, hxword, hword] at hyread
    cases hyread
  · rw [h, hyword, hword] at hxread
    cases hxread
  · rw [h, hyread] at hxread
    obtain rfl := Option.some.inj hxread
    exact eq_of_roundsTo hx hy hxq hyq

lemma signedText_ne_nan (x : Binary64) : signedText Layout.plain x ≠ "nan".toList := by
  rw [signedText]
  split
  · exact fun h => absurd (List.cons.inj h).1 (by decide)
  · exact bodyText_ne rfl (by decide +kernel) (by decide)

lemma eq_of_signedText (h : signedText Layout.plain x = signedText Layout.plain y) : x = y := by
  have hneg : ∀ (z : Binary64) cs, bodyText Layout.plain (unsigned z) ≠ '-' :: cs := fun z cs =>
    bodyText_ne rfl (readValue?_cons_eq_none (by decide) (by decide) cs) fun hinf =>
      absurd (List.cons.inj hinf).1 (by decide)
  obtain ⟨xneg, xmag⟩ := x
  obtain ⟨yneg, ymag⟩ := y
  suffices hsame : xneg = yneg ∧ unsigned ⟨xneg, xmag⟩ = unsigned ⟨yneg, ymag⟩ by
    have hmag : xmag = ymag := (Binary64.mk.inj hsame.2).2
    rw [hsame.1, hmag]
  cases xneg <;> cases yneg
  · exact ⟨rfl, eq_of_bodyText rfl rfl h⟩
  · exact absurd h (hneg _ _)
  · exact absurd h.symm (hneg _ _)
  · exact ⟨rfl, eq_of_bodyText rfl rfl (List.cons.inj h).2⟩

/-- The first character of a double is a digit, a sign or that of a word. -/
lemma write_ne_cons {c : Char} (hdigit : digitValue? c = none)
    (hc : c ∉ ['.', 'e', 'E', 'n', 'i', '-']) (x : Binary64) (cs : List Char) :
    write Layout.plain x ≠ c :: cs := by
  simp only [List.mem_cons, List.not_mem_nil, or_false, not_or] at hc
  obtain ⟨hpoint, he, hE, hn, hi, hneg⟩ := hc
  rw [write_eq, signedText]
  split
  · exact fun h => hn (List.cons.inj h).1.symm
  · split
    · exact fun h => hneg (List.cons.inj h).1.symm
    · exact bodyText_ne rfl (readValue?_cons_eq_none hdigit (by simp [hpoint, he, hE]) cs)
        fun h => hi (List.cons.inj h).1

/-- The digits of a number have a point or an exponent among them. -/
lemma mark_mem_digits (l : Layout) (d : Digits) : '.' ∈ l.digits d ∨ 'e' ∈ l.digits d := by
  rw [Layout.digits]
  dsimp only
  split
  · left
    split <;> simp
  · right
    simp

/-- The text of a double shows that it is one. -/
lemma mark_mem_write (x : Binary64) : '.' ∈ write Layout.plain x ∨ 'e' ∈ write Layout.plain x ∨
    'n' ∈ write Layout.plain x := by
  have hbody : ∀ z, '.' ∈ bodyText Layout.plain z ∨ 'e' ∈ bodyText Layout.plain z ∨
      'n' ∈ bodyText Layout.plain z := by
    intro z
    rw [bodyText]
    split
    · exact .inr (.inr (by decide))
    · split
      · exact .inl (by decide)
      · exact (mark_mem_digits _ _).imp_right .inl
  rw [write_eq, signedText]
  split
  · exact .inr (.inr (by decide))
  · split
    · exact (hbody _).imp (List.mem_cons_of_mem _)
        (Or.imp (List.mem_cons_of_mem _) (List.mem_cons_of_mem _))
    · exact hbody _

/-- **The text of a double is that of no other one**, if it is a number. -/
theorem eq_of_write (h : write Layout.plain x = write Layout.plain y) :
    x = y ∨ x.isNaN = true ∧ y.isNaN = true := by
  rw [write_eq, write_eq] at h
  split at h <;> split at h
  · next hx hy => exact .inr ⟨hx, hy⟩
  · exact absurd h.symm (signedText_ne_nan y)
  · exact absurd h (signedText_ne_nan x)
  · exact .inl (eq_of_signedText h)

end NoteCheck.Decimal
