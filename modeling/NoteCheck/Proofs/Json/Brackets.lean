import NoteCheck.Proofs.Json.Reading

/-!
# Brackets in a text that is read

Each reader of JSON passes a part of the text and leaves the rest (`Passes`): a value leaves as many
brackets open as there were, and what is read behind an opening bracket closes it.

* **`through_of_read`** — in a text that is a value all strings and brackets are closed at the end.
* **`hasLongNumeral_of_read`** — a text is refused for a numeral that is too long only if it has one,
  outside its strings.
* **`read_write_ne_ok`** — no value is read from a map whose writing broke off.
-/

namespace NoteCheck.Json

/-! ## Passing a part of a text -/

/-- Whether one gets from a text to the rest of it by looking through what stands before. -/
def Passes (s : Scan) (cs : List Char) (t : Scan) (rest : List Char) : Prop :=
  ∃ taken, cs = taken ++ rest ∧ s.through taken = t

/-- Whether a numeral that is too long stands in a text, outside its strings. -/
def HasLongNumeral (s : Scan) (cs : List Char) : Prop :=
  ∃ n digits rest, Passes s cs (.outside n) (digits ++ rest) ∧
    (∀ c ∈ digits, Text.isAsciiDigit c = true) ∧ Text.maxDigits < digits.length

variable {s t u : Scan} {n unit : Nat} {c x : Char} {cs rest more : List Char} {v : Value}

lemma Passes.refl : Passes s cs s cs := ⟨[], rfl, rfl⟩

lemma Passes.trans (h : Passes s cs t rest) (hmore : Passes t rest u more) :
    Passes s cs u more := by
  obtain ⟨first, rfl, rfl⟩ := h
  obtain ⟨second, rfl, rfl⟩ := hmore
  exact ⟨first ++ second, (List.append_assoc ..).symm, Scan.through_append⟩

lemma Passes.cons (hstep : s.step c = t) (h : Passes t cs u rest) : Passes s (c :: cs) u rest :=
  Passes.trans ⟨[c], rfl, hstep⟩ h

lemma Passes.of_isNeutral {taken : List Char} (h : ∀ c ∈ taken, IsNeutral c) :
    Passes (.outside n) (taken ++ rest) (.outside n) rest :=
  ⟨taken, rfl, through_of_isNeutral h⟩

lemma Passes.hasLongNumeral (h : Passes s cs t rest) (hlong : HasLongNumeral t rest) :
    HasLongNumeral s cs := by
  obtain ⟨n, digits, after, hpass, hdigits⟩ := hlong
  exact ⟨n, digits, after, h.trans hpass, hdigits⟩

/-! ## Strings -/

lemma passes_hexUnit? (h : hexUnit? cs = some (unit, rest)) :
    Passes (.inside n) cs (.inside n) rest := by
  have hplain : ∀ {x : Char} {m : Nat},
      (if x.toNat < 128 then Text.digitIn x else none) = some m → x ≠ '"' ∧ x ≠ '\\' := by
    have hnone : ∀ y ∈ ['"', '\\'], (if y.toNat < 128 then Text.digitIn y else none) = none :=
      List.all_iff_forall_prop.mp (by decide)
    intro x m hx
    refine ⟨fun hquote => ?_, fun hslash => ?_⟩
    · rw [hnone x (by simp [hquote])] at hx
      cases hx
    · rw [hnone x (by simp [hslash])] at hx
      cases hx
  rw [hexUnit?.eq_def] at h
  dsimp only at h
  split at h
  · split at h
    · next ha hb hc hd =>
        split at h
        · obtain ⟨-, rfl⟩ := Prod.mk.inj (Option.some.inj h)
          exact .cons (step_inside (hplain ha).1 (hplain ha).2) <|
            .cons (step_inside (hplain hb).1 (hplain hb).2) <|
            .cons (step_inside (hplain hc).1 (hplain hc).2) <|
            .cons (step_inside (hplain hd).1 (hplain hd).2) .refl
        · cases h
    · cases h
  · cases h

/-- A backslash and the letter behind it. -/
lemma Passes.escape (h : Passes (.inside n) cs t rest) :
    Passes (.inside n) ('\\' :: c :: cs) t rest :=
  .cons (t := ⟨n, .escaped⟩) rfl (.cons (t := .inside n) rfl h)

lemma passes_unitChar (h : unitChar unit cs = (x, rest)) :
    Passes (.inside n) cs (.inside n) rest := by
  rw [unitChar.eq_def] at h
  split at h
  · split at h
    · split at h
      · next hlow =>
          split at h
          · obtain ⟨-, rfl⟩ := Prod.mk.inj h
            exact .escape (passes_hexUnit? hlow)
          · obtain ⟨-, rfl⟩ := Prod.mk.inj h
            exact .refl
      · obtain ⟨-, rfl⟩ := Prod.mk.inj h
        exact .refl
    · obtain ⟨-, rfl⟩ := Prod.mk.inj h
      exact .refl
  · split at h <;>
    · obtain ⟨-, rfl⟩ := Prod.mk.inj h
      exact .refl

lemma passes_readString {fuel : Nat} {before string : List Char}
    (h : readString fuel before cs = some (string, rest)) :
    Passes (.inside n) cs (.outside n) rest := by
  fun_induction readString fuel before cs with
  | case3 fuel before cs =>
      obtain ⟨-, rfl⟩ := Prod.mk.inj (Option.some.inj h)
      exact .cons rfl .refl
  | case4 fuel before cs unit after hunit x cs' hx hquote ih =>
      exact .escape ((passes_hexUnit? hunit).trans ((passes_unitChar hx).trans (ih h)))
  | case6 fuel before c cs hletter x hescape hquote ih => exact .escape (ih h)
  | case10 fuel before c cs hquote hslash hcontrol ih =>
      exact .cons (step_inside hquote hslash) (ih h)
  | _ => cases h

/-! ## Blanks, numbers and words -/

lemma passes_skipBlanks : Passes (.outside n) cs (.outside n) (skipBlanks cs) := by
  have hblank : ∀ c ∈ cs.takeWhile fun c => c = ' ' || c = '\t' || c = '\n' || c = '\r',
      IsNeutral c := by
    intro c hc
    have hall : ∀ c ∈ [' ', '\t', '\n', '\r'], IsNeutral c := List.all_iff_forall_prop.mp (by decide)
    have himp := List.mem_takeWhile_imp hc
    simp only [Bool.or_eq_true, decide_eq_true_eq] at himp
    exact hall c (by simpa [or_assoc] using himp)
  have hpass := @Passes.of_isNeutral n (skipBlanks cs) _ hblank
  rwa [skipBlanks, List.takeWhile_append_dropWhile] at hpass

lemma takeDigits_eq {digits : List Char} (h : takeDigits cs = (digits, rest)) :
    cs = digits ++ rest ∧ ∀ c ∈ digits, Text.isAsciiDigit c = true := by
  obtain ⟨rfl, rfl⟩ := Prod.mk.inj h
  exact ⟨List.takeWhile_append_dropWhile.symm, fun _ => List.mem_takeWhile_imp⟩

lemma passes_takeDigits {digits : List Char} (h : takeDigits cs = (digits, rest)) :
    Passes (.outside n) cs (.outside n) rest := by
  obtain ⟨rfl, hdigits⟩ := takeDigits_eq h
  exact .of_isNeutral fun c hc => isNeutral_of_isAsciiDigit (hdigits c hc)

lemma passes_takeFraction : Passes (.outside n) cs (.outside n) (takeFraction cs).2 := by
  rw [takeFraction.eq_def]
  split
  · split
    · exact .refl
    · next hdigits =>
        exact .cons (IsNeutral.step (by decide)) (passes_takeDigits hdigits)
  · exact .refl

lemma passes_takeExponent : Passes (.outside n) cs (.outside n) (takeExponent cs).2 := by
  rw [takeExponent.eq_def]
  split
  · next e more =>
      split
      · next hmark =>
          have hneutral : IsNeutral e := by
            rw [Bool.or_eq_true, decide_eq_true_eq, decide_eq_true_eq] at hmark
            rcases hmark with rfl | rfl <;> decide
          dsimp only
          split
          · exact .refl
          · next hdigits =>
              refine .cons hneutral.step ?_
              split at hdigits
              · exact .cons (IsNeutral.step (by decide)) (passes_takeDigits hdigits)
              · exact .cons (IsNeutral.step (by decide)) (passes_takeDigits hdigits)
              · exact passes_takeDigits hdigits
      · exact .refl
  · exact .refl

/-! ## Values -/

/-- What a reader gives for a text: it passes a part of it, or the text is malformed, or a numeral
that is too long stands in it. -/
def Reads (s t : Scan) (cs : List Char) : Except Trouble (Value × List Char) → Prop
  | .ok (_, rest) => Passes s cs t rest
  | .error .malformed => True
  | .error .numeralTooLong => HasLongNumeral s cs

section

variable {found : Except Trouble (Value × List Char)}
  {next : Value × List Char → Except Trouble (Value × List Char)}

/-- What stands before a text that is read. -/
lemma Reads.after (hpass : Passes s cs t rest) (h : Reads t u rest found) : Reads s u cs found := by
  rcases found with (_ | _) | ⟨v, more⟩
  · trivial
  · exact hpass.hasLongNumeral h
  · exact hpass.trans h

/-- Reading on behind a value. -/
lemma Reads.bind (h : Reads s t cs found) (hnext : ∀ v rest, Reads t u rest (next (v, rest))) :
    Reads s u cs (found >>= next) := by
  rcases found with (_ | _) | ⟨v, rest⟩
  · trivial
  · exact h
  · exact .after h (hnext v rest)

end

lemma reads_readNumber (negative : Bool) :
    Reads (.outside n) (.outside n) cs (readNumber negative cs) := by
  rw [readNumber.eq_def]
  dsimp only
  split
  · trivial
  · next digits rest hne hwhole =>
      have hcs : cs = digits ++ rest ∧ ∀ c ∈ digits, Text.isAsciiDigit c = true := by
        split at hwhole
        · obtain ⟨rfl, rfl⟩ := Prod.mk.inj hwhole
          exact ⟨rfl, List.forall_mem_singleton.mpr (by decide)⟩
        · exact takeDigits_eq hwhole
      obtain ⟨rfl, hdigits⟩ := hcs
      have hpass : Passes (.outside n) (digits ++ rest) (.outside n)
          (takeExponent (takeFraction rest).2).2 :=
        (Passes.of_isNeutral fun c hc => isNeutral_of_isAsciiDigit (hdigits c hc)).trans
          (passes_takeFraction.trans passes_takeExponent)
      split
      · split
        · exact hpass
        · next hnone =>
            exact ⟨n, digits, rest, .refl, hdigits,
              (Text.readInt?_eq_none_iff negative hdigits (fun h => hne h)).mp hnone⟩
      · split
        · exact hpass
        · trivial

lemma reads_readPlain : Reads (.outside n) (.outside n) cs (readPlain cs) := by
  rw [readPlain.eq_def]
  split
  · next word v hfind =>
      have hneutral : ∀ word ∈ words, word.1.toList.all (IsNeutral ·) = true := by decide
      have hfront : word.toList.isPrefixOf cs = true := by simpa using List.find?_some hfind
      obtain ⟨rest, rfl⟩ := List.isPrefixOf_iff_prefix.mp hfront
      rw [Reads, List.drop_left]
      exact .of_isNeutral (List.all_iff_forall_prop.mp
        (hneutral _ (List.mem_of_find?_eq_some hfind)))
  · split
    · exact .after (.cons (IsNeutral.step (by decide)) .refl) (reads_readNumber true)
    · exact reads_readNumber false

/-- What the three readers do with so much fuel. -/
structure ReadsAll (fuel : Nat) : Prop where
  value : ∀ n cs, Reads (.outside n) (.outside n) cs (readValue fuel cs)
  items : ∀ n before cs, Reads (.outside (n + 1)) (.outside n) cs (readItems fuel before cs)
  members : ∀ n before cs, Reads (.outside (n + 1)) (.outside n) cs (readMembers fuel before cs)

/-- A bracket that closes. -/
lemma reads_close (hcs : cs = c :: rest) (hc : c = ']' ∨ c = '\x7d') :
    Reads (.outside (n + 1)) (.outside n) cs (.ok (v, rest)) := by
  subst hcs
  rcases hc with rfl | rfl <;> exact Passes.cons rfl .refl

/-- A mark between the parts of a list or a map, and the blanks behind it. -/
lemma passes_mark (hcs : cs = c :: rest) (hc : IsNeutral c) :
    Passes (.outside n) cs (.outside n) (skipBlanks rest) := by
  subst hcs
  exact .cons hc.step passes_skipBlanks

lemma readsAll : ∀ fuel, ReadsAll fuel
  | 0 => by
      constructor
      · intro n cs
        rw [readValue]
        trivial
      · intro n before cs
        rw [readItems]
        trivial
      · intro n before cs
        rw [readMembers]
        trivial
  | fuel + 1 => by
      have ih := readsAll fuel
      constructor
      · intro n cs
        rw [readValue.eq_def]
        dsimp only
        split
        · split
          · next hstring => exact .cons rfl (passes_readString hstring)
          · trivial
        · next rest =>
            refine .after (.cons (t := .outside (n + 1)) rfl passes_skipBlanks) ?_
            split
            · next hclose => exact reads_close hclose (.inl rfl)
            · exact ih.items n [] _
        · next rest =>
            refine .after (.cons (t := .outside (n + 1)) rfl passes_skipBlanks) ?_
            split
            · next hclose => exact reads_close hclose (.inr rfl)
            · exact ih.members n [] _
        · exact reads_readPlain
      · intro n before cs
        rw [readItems]
        refine (ih.value (n + 1) cs).bind fun v rest => ?_
        dsimp only
        refine .after passes_skipBlanks ?_
        split
        · next hclose => exact reads_close hclose (.inl rfl)
        · next hcomma => exact .after (passes_mark hcomma (by decide)) (ih.items n _ _)
        · trivial
      · intro n before cs
        rw [readMembers.eq_def]
        dsimp only
        split
        · split
          · trivial
          · next hkey =>
              refine .after (.cons rfl ((passes_readString hkey).trans passes_skipBlanks)) ?_
              split
              · next hcolon =>
                refine .after (passes_mark hcolon (by decide)) ?_
                refine (ih.value (n + 1) _).bind fun v rest => ?_
                dsimp only
                refine .after passes_skipBlanks ?_
                split
                · next hclose => exact reads_close hclose (.inr rfl)
                · next hcomma => exact .after (passes_mark hcomma (by decide)) (ih.members n _ _)
                · trivial
              · trivial
        · trivial

lemma reads_readValue (cs : List Char) :
    Reads (.outside 0) (.outside 0) cs (readValue (cs.length + 1) (skipBlanks cs)) :=
  .after passes_skipBlanks ((readsAll _).value 0 _)

/-- **In a text that is a value** all strings and brackets are closed at the end. -/
theorem through_of_read (h : read cs = .ok v) : (Scan.outside 0).through cs = .outside 0 := by
  rw [read] at h
  obtain ⟨⟨w, rest⟩, hread, h⟩ := Fault.bind_eq_ok_iff.mp h
  dsimp only at h
  split at h
  · next hrest =>
      have hpass := reads_readValue cs
      rw [hread] at hpass
      obtain ⟨taken, rfl, htaken⟩ := Passes.trans hpass passes_skipBlanks
      rw [List.isEmpty_iff.mp hrest, List.append_nil, htaken]
  · cases h

/-- **A text that is refused for a numeral that is too long** has one, outside its strings. -/
theorem hasLongNumeral_of_read (h : read cs = .error .numeralTooLong) :
    HasLongNumeral (.outside 0) cs := by
  rw [read] at h
  rcases Fault.bind_eq_error_iff.mp h with hread | ⟨⟨w, rest⟩, -, hrest⟩
  · have hlong := reads_readValue cs
    rwa [hread] at hlong
  · dsimp only at hrest
    split at hrest <;> cases hrest

/-! ## A text that breaks off -/

/-- **A map whose writing broke off** leaves a text that is no value: its bracket is still open. -/
theorem read_write_ne_ok {entries : List (Value × Value)}
    (hfault : (write 0 (.map entries)).fault ≠ none) (v : Value) :
    read (write 0 (.map entries)).text ≠ .ok v := by
  obtain ⟨k, hk, hopen⟩ : ∃ k, 1 ≤ k ∧
      (Scan.outside 0).through (write 0 (.map entries)).text = .outside k := by
    cases entries with
    | nil => exact absurd rfl hfault
    | cons entry rest =>
        have hmembers := runs_writeMembers 1 1 (entry :: rest) leads_nil
        have hmap : write 0 (.map (entry :: rest)) =
            ⟨'\x7b' :: newLine 1 ++ (writeMembers 1 [] (entry :: rest)).text,
              (writeMembers 1 [] (entry :: rest)).fault⟩ ++
              .of (newLine 0 ++ ['\x7d']) := by
          rw [write]
          · rfl
          · simp
        rw [hmap, Written.append_def] at hfault ⊢
        dsimp only at hfault ⊢
        split at hfault
        · next cause hcause =>
            obtain ⟨k, hk, hleads⟩ := hmembers.broken hfault
            rw [hcause]
            exact ⟨k, hk, ((leads_firstLine 1 0).append hleads).through⟩
        · exact absurd rfl hfault
  intro h
  have hclosed := through_of_read h
  rw [hopen] at hclosed
  have hzero : k = 0 := congrArg Scan.opened hclosed
  omega

end NoteCheck.Json
