import Mathlib.Algebra.Group.Nat.Defs
import Mathlib.Data.List.TakeWhile
import NoteCheck.Json.Read
import NoteCheck.Proofs.Json.Storable
import NoteCheck.Proofs.Outcome
import NoteCheck.Proofs.Text.Characters
import NoteCheck.Proofs.Value.Lookup

/-!
# What is read can be stored

A numeral is refused if it has more digits than are written, so an integer that is read can be
written again (`intText?_isSome_of_readInt?`).  All else that the reader of JSON puts together can
be stored, too (`isStorable_of_read`).

A numeral with more digits is not malformed, it is a trouble of its own, whatever else the text holds;
a text of nothing but ones is the plainest case (`read_ones`).
-/

namespace NoteCheck

namespace Text

lemma readDigits_lt {base value count v n : Nat} {afterDigit : Bool} {cs : List Char}
    (h : readDigits base value count afterDigit cs = some (v, n))
    (hvalue : value < base ^ count) : v < base ^ n := by
  induction cs generalizing value count afterDigit with
  | nil =>
      rw [readDigits] at h
      split at h
      · obtain ⟨rfl, rfl⟩ := Prod.mk.inj (Option.some.inj h)
        exact hvalue
      · cases h
  | cons c cs ih =>
      rw [readDigits] at h
      split at h
      · split at h
        · exact ih h hvalue
        · cases h
      · split at h
        · next d hd =>
            split at h
            · next hlt =>
                refine ih h ?_
                have hmul : (value + 1) * base ≤ base ^ count * base :=
                  Nat.mul_le_mul_right _ hvalue
                rw [Nat.add_mul, Nat.one_mul] at hmul
                rw [Nat.pow_succ]
                omega
            · cases h
        · cases h

lemma lt_of_readNat? {n : Nat} {cs : List Char} (h : readNat? 10 cs = some n) :
    n < 10 ^ maxDigits := by
  rw [readNat?] at h
  split at h
  · next value count hread =>
      have hlt := readDigits_lt hread (by simp)
      split at h
      · cases h
      · next hfits =>
          rw [← Option.some.inj h]
          have hcount : count ≤ maxDigits := by simpa using hfits
          exact Nat.lt_of_lt_of_le hlt (Nat.pow_le_pow_right (by decide) hcount)
  · cases h

lemma intText?_isSome_of_natAbs_lt {i : Int} (h : i.natAbs < 10 ^ maxDigits) :
    (intText? i).isSome = true := by
  have hlength : ¬ maxDigits < (natText i.natAbs).length :=
    Nat.not_lt.mpr ((Nat.length_toDigits_le_iff (by decide) (by decide)).mpr h)
  rw [intText?, if_neg hlength]
  rfl

/-- An integer that is read can be written. -/
lemma intText?_isSome_of_readInt? {i : Int} {cs : List Char} (h : readInt? 10 cs = some i) :
    (intText? i).isSome = true := by
  refine intText?_isSome_of_natAbs_lt ?_
  have hnat : ∀ {cs : List Char} {m : Int}, ((readNat? 10 cs).map Int.ofNat) = some m →
      m.natAbs < 10 ^ maxDigits := by
    intro cs m hm
    obtain ⟨n, hn, rfl⟩ := Option.map_eq_some_iff.mp hm
    exact lt_of_readNat? hn
  rw [readInt?] at h
  split at h
  · obtain ⟨m, hm, rfl⟩ := Option.map_eq_some_iff.mp h
    rw [Int.natAbs_neg]
    obtain ⟨n, hn, hpure⟩ := Option.bind_eq_some_iff.mp hm
    rw [← Option.some.inj hpure]
    exact lt_of_readNat? hn
  · exact hnat h
  · exact hnat h

end Text

namespace Json

variable {cs rest : List Char} {v : Value}

lemma isStorable_of_readNumber {negative : Bool} (h : readNumber negative cs = .ok (v, rest)) :
    v.IsStorable := by
  rw [readNumber.eq_def] at h
  dsimp only at h
  split at h
  · cases h
  · split at h
    · split at h
      · next i hi =>
          obtain ⟨rfl, -⟩ := Prod.mk.inj (Except.ok.inj h)
          exact .int (Text.intText?_isSome_of_readInt? hi)
      · cases h
    · split at h
      · obtain ⟨rfl, -⟩ := Prod.mk.inj (Except.ok.inj h)
        exact .float _
      · cases h

lemma isStorable_of_mem_words {word : String} (h : (word, v) ∈ words) : v.IsStorable := by
  simp only [words, List.mem_cons, Prod.mk.injEq, List.not_mem_nil, or_false] at h
  rcases h with ⟨-, rfl⟩ | ⟨-, rfl⟩ | ⟨-, rfl⟩ | ⟨-, rfl⟩ | ⟨-, rfl⟩ | ⟨-, rfl⟩
  · exact .null
  · exact .bool true
  · exact .bool false
  all_goals exact .float _

lemma isStorable_of_readPlain (h : readPlain cs = .ok (v, rest)) : v.IsStorable := by
  rw [readPlain.eq_def] at h
  split at h
  · next hfind =>
      obtain ⟨rfl, -⟩ := Prod.mk.inj (Except.ok.inj h)
      exact isStorable_of_mem_words (List.mem_of_find?_eq_some hfind)
  · split at h <;> exact isStorable_of_readNumber h

/-- The entries of a map that can be stored. -/
structure AreStorable (entries : List (Value × Value)) : Prop where
  keys : ∀ e ∈ entries, ∃ key, e.1 = .text key
  values : ∀ e ∈ entries, e.2.IsStorable

lemma AreStorable.nil : AreStorable [] := ⟨by simp, by simp⟩

lemma AreStorable.insert {entries : List (Value × Value)} (h : AreStorable entries) (key : String)
    (hv : v.IsStorable) : AreStorable (Value.insert (.text key) v entries) := by
  constructor
  · intro e he
    rcases Value.mem_insert he with rfl | he
    · exact ⟨key, rfl⟩
    · exact h.keys e he
  · intro e he
    rcases Value.mem_insert he with rfl | he
    · exact hv
    · exact h.values e he

/-- What the three readers give with so much fuel can be stored, if what was read before can. -/
structure ReadsStorable (fuel : Nat) : Prop where
  value : ∀ {cs v rest}, readValue fuel cs = .ok (v, rest) → v.IsStorable
  items : ∀ {before cs v rest}, (∀ w ∈ before, w.IsStorable) →
    readItems fuel before cs = .ok (v, rest) → v.IsStorable
  members : ∀ {before cs v rest}, AreStorable before →
    readMembers fuel before cs = .ok (v, rest) → v.IsStorable

lemma readsStorable : ∀ fuel, ReadsStorable fuel
  | 0 => by
      constructor
      · intro cs v rest h
        rw [readValue] at h
        cases h
      · intro before cs v rest _ h
        rw [readItems] at h
        cases h
      · intro before cs v rest _ h
        rw [readMembers] at h
        cases h
  | fuel + 1 => by
      have ih := readsStorable fuel
      constructor
      · intro cs v rest h
        rw [readValue.eq_def] at h
        dsimp only at h
        split at h
        · split at h
          · obtain ⟨rfl, -⟩ := Prod.mk.inj (Except.ok.inj h)
            exact .text _
          · cases h
        · split at h
          · obtain ⟨rfl, -⟩ := Prod.mk.inj (Except.ok.inj h)
            exact .list (by simp)
          · exact ih.items (by simp) h
        · split at h
          · obtain ⟨rfl, -⟩ := Prod.mk.inj (Except.ok.inj h)
            exact .map (by simp) (by simp)
          · exact ih.members .nil h
        · exact isStorable_of_readPlain h
      · intro before cs v rest hbefore h
        rw [readItems] at h
        obtain ⟨⟨w, more⟩, hread, h⟩ := Fault.bind_eq_ok_iff.mp h
        have hall : ∀ u ∈ w :: before, u.IsStorable :=
          List.forall_mem_cons.mpr ⟨ih.value hread, hbefore⟩
        dsimp only at h
        split at h
        · obtain ⟨rfl, -⟩ := Prod.mk.inj (Except.ok.inj h)
          exact .list fun u hu => hall u (List.mem_reverse.mp hu)
        · exact ih.items hall h
        · cases h
      · intro before cs v rest hbefore h
        rw [readMembers.eq_def] at h
        dsimp only at h
        split at h
        · split at h
          · cases h
          · next key more hkey =>
              split at h
              · obtain ⟨⟨w, after⟩, hread, h⟩ := Fault.bind_eq_ok_iff.mp h
                have hall := hbefore.insert (String.ofList key) (ih.value hread)
                dsimp only at h
                split at h
                · obtain ⟨rfl, -⟩ := Prod.mk.inj (Except.ok.inj h)
                  exact .map hall.keys hall.values
                · exact ih.members hall h
                · cases h
              · cases h
        · cases h

/-- **Reading a value** gives one that can be stored. -/
theorem isStorable_of_read (h : read cs = .ok v) : v.IsStorable := by
  rw [read] at h
  obtain ⟨⟨w, rest⟩, hread, h⟩ := Fault.bind_eq_ok_iff.mp h
  dsimp only at h
  split at h
  · rw [← Except.ok.inj h]
    exact (readsStorable _).value hread
  · cases h

end Json

/-! ## A numeral that is too long -/

namespace Text

variable {cs digits : List Char} {c : Char}

lemma isDigit_of_isAsciiDigit (h : isAsciiDigit c = true) : c.isDigit = true := h

lemma digitIn_of_isAsciiDigit (h : isAsciiDigit c = true) : ∃ d < 10, digitIn c = some d := by
  obtain ⟨-, hhigh⟩ := bounds_of_isDigit (isDigit_of_isAsciiDigit h)
  have hletter : ∀ a b : Char, 57 < a.toNat → ¬ (decide (a ≤ c) && decide (c ≤ b)) = true := by
    intro a b ha hab
    rw [Bool.and_eq_true, decide_eq_true_eq] at hab
    have hle : a.toNat ≤ c.toNat := hab.1
    omega
  obtain ⟨d, hd⟩ := Option.isSome_iff_exists.mp (isDecimal_of_isDigit (isDigit_of_isAsciiDigit h))
  refine ⟨d, digitValue?_lt hd, ?_⟩
  rw [digitIn, if_neg (hletter 'a' 'z' (by decide)), if_neg (hletter 'A' 'Z' (by decide)), hd]

/-- Digits of ASCII are all read. -/
lemma readDigits_of_isAsciiDigit (h : ∀ c ∈ cs, isAsciiDigit c = true) (value count : Nat) :
    ∃ v, readDigits 10 value count true cs = some (v, count + cs.length) := by
  induction cs generalizing value count with
  | nil => exact ⟨value, rfl⟩
  | cons c cs ih =>
      obtain ⟨hc, hcs⟩ := List.forall_mem_cons.mp h
      obtain ⟨d, hd, hdigit⟩ := digitIn_of_isAsciiDigit hc
      obtain ⟨v, hv⟩ := ih hcs (value * 10 + d) (count + 1)
      have hunderscore : c ≠ '_' := by
        rintro rfl
        exact absurd hc (by decide)
      refine ⟨v, ?_⟩
      rw [readDigits, if_neg hunderscore, hdigit]
      dsimp only
      rw [if_pos hd, hv, List.length_cons, Nat.add_right_comm, Nat.add_assoc]

/-- Digits of ASCII are no natural number only if they are too many. -/
lemma readNat?_eq_none_iff (h : ∀ c ∈ cs, isAsciiDigit c = true) (hne : cs ≠ []) :
    readNat? 10 cs = none ↔ maxDigits < cs.length := by
  have hmark : dropBaseMark 10 cs = cs := by
    rw [dropBaseMark.eq_def]
    split
    · rw [if_neg (by simp [baseMark])]
    · rfl
  have hread : ∃ v, readDigits 10 0 0 false cs = some (v, cs.length) := by
    obtain ⟨c, rest, rfl⟩ := List.exists_cons_of_ne_nil hne
    obtain ⟨v, hv⟩ := readDigits_of_isAsciiDigit h 0 0
    refine ⟨v, ?_⟩
    have hunderscore : c ≠ '_' := by
      rintro rfl
      exact absurd (h _ List.mem_cons_self) (by decide)
    rw [readDigits, if_neg hunderscore] at hv ⊢
    rw [hv, Nat.zero_add]
  obtain ⟨v, hv⟩ := hread
  rw [readNat?, hmark, hv]
  simp

lemma dropMargins_of_forall {p : Char → Bool} (h : ∀ c ∈ cs, p c = false) :
    dropMargins p cs = cs := by
  have hdrop : ∀ ds : List Char, (∀ c ∈ ds, p c = false) → ds.dropWhile p = ds := by
    intro ds hds
    cases ds with
    | nil => rfl
    | cons d ds => exact List.dropWhile_cons_of_neg (by simp [hds d List.mem_cons_self])
  rw [dropMargins, dropTail, hdrop cs h,
    hdrop cs.reverse fun c hc => h c (List.mem_reverse.mp hc), List.reverse_reverse]

/-- Digits of ASCII with a sign or none are no integer only if they are too many. -/
lemma readInt?_eq_none_iff (negative : Bool) (h : ∀ c ∈ digits, isAsciiDigit c = true)
    (hne : digits ≠ []) :
    readInt? 10 ((if negative then ['-'] else []) ++ digits) = none ↔
      maxDigits < digits.length := by
  have hmargin : ∀ c ∈ digits, isNumeralMargin c = false := by
    intro c hc
    obtain ⟨hlow, hhigh⟩ := bounds_of_isDigit (isDigit_of_isAsciiDigit (h c hc))
    simp only [isNumeralMargin, Bool.or_eq_false_iff, Bool.and_eq_false_iff,
      decide_eq_false_iff_not, beq_eq_false_iff_ne]
    omega
  have hsigned : ∀ c ∈ (if negative then ['-'] else []) ++ digits, isNumeralMargin c = false := by
    cases negative with
    | false => exact hmargin
    | true => exact List.forall_mem_cons.mpr ⟨by decide, hmargin⟩
  rw [readInt?, dropMargins_of_forall hsigned, ← readNat?_eq_none_iff h hne]
  cases negative with
  | true =>
      cases hnat : readNat? 10 digits <;> simp [hnat]
  | false =>
      obtain ⟨c, rest, rfl⟩ := List.exists_cons_of_ne_nil hne
      have hfirst := h c List.mem_cons_self
      simp only [Bool.false_eq_true, if_false, List.nil_append]
      split
      · next hsign =>
          rw [(List.cons.inj hsign).1] at hfirst
          exact absurd hfirst (by decide)
      · next hsign =>
          rw [(List.cons.inj hsign).1] at hfirst
          exact absurd hfirst (by decide)
      · rw [Option.map_eq_none_iff]

end Text

namespace Json

/-- A number that begins with a one is read as a number without a sign. -/
lemma readValue_one (fuel : Nat) (cs : List Char) :
    readValue (fuel + 1) ('1' :: cs) = readNumber false ('1' :: cs) := by
  have hplain : readPlain ('1' :: cs) = readNumber false ('1' :: cs) := by
    simp [readPlain, words]
  rw [← hplain]
  rfl

lemma readNumber_ones {n : Nat} (h : Text.maxDigits < n) :
    readNumber false (List.replicate n '1') = .error .numeralTooLong := by
  obtain ⟨m, rfl⟩ := Nat.exists_eq_succ_of_ne_zero (Nat.ne_zero_of_lt h)
  have hall : ∀ c ∈ List.replicate (m + 1) '1', Text.isAsciiDigit c = true := by
    intro c hc
    rw [List.eq_of_mem_replicate hc]
    decide
  have hdigits : takeDigits (List.replicate (m + 1) '1') = (List.replicate (m + 1) '1', []) := by
    rw [takeDigits, List.dropWhile_eq_nil_iff.mpr hall]
    exact Prod.ext (List.takeWhile_eq_self_iff.mpr hall) rfl
  have hlong : Text.readInt? 10 (List.replicate (m + 1) '1') = none :=
    (Text.readInt?_eq_none_iff false hall (by simp)).mpr (by simpa using h)
  rw [List.replicate_succ] at hdigits hlong ⊢
  rw [readNumber, hdigits]
  · simp [takeFraction, takeExponent, hlong]
  · intro rest hzero
    exact absurd (List.cons.inj hzero).1 (by decide)

/-- More ones than a numeral may have digits are no value. -/
lemma read_ones {n : Nat} (h : Text.maxDigits < n) :
    read (List.replicate n '1') = .error .numeralTooLong := by
  obtain ⟨m, rfl⟩ := Nat.exists_eq_succ_of_ne_zero (Nat.ne_zero_of_lt h)
  rw [read, List.replicate_succ, skipBlanks, List.dropWhile_cons_of_neg (by decide),
    readValue_one, ← List.replicate_succ, readNumber_ones h]
  rfl

end Json

end NoteCheck
