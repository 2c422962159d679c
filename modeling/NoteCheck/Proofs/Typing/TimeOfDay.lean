import NoteCheck.Proofs.Calendar.IsoOctets
import NoteCheck.Proofs.Calendar.Spelling
import NoteCheck.Proofs.Typing.Clockface
import NoteCheck.Typing.PropertyType

/-!
# Reading a time of day and showing one

Whether a text is a day or a moment is asked twice.  The readers of the calendar find out how much
of a moment the text names; the rules of the types *date* and *datetime* ask them only whether the text
is a date at all, and then look for a time of day on their own, by the characters of the text
(`DateText.hasTimeOfDay`).  Here the two answers are compared, for the forms of ISO 8601 and for
those that are written out (`DateText.Form`).

* **`timeOfDay_of_reads`** — a text that is read as a day shows no time of day, and one that is read
  as a moment shows one if it has a capital T, or a space and two digits for the minute or the
  second (`Form.Shows`).  The two types take the text for what it shows, so a moment that is written
  with another sign before its time of day is a *date*.  Nothing is said of days with a capital T in
  a name (`Form.HasNamedT`).
-/

namespace NoteCheck

namespace LongText

open NoteCheck.Text

/-! ## The characters of a written-out day -/

/-- Whether a part of a pattern is a name. -/
def Part.isName : Part → Bool
  | .monthName | .monthAbbreviation | .weekday => true
  | _ => false

/-- Outside of names there are only blanks, digits and the signs of the pattern. -/
lemma Part.Spells.char {part : Part} {piece : List Char} (h : part.Spells piece)
    {c : Char} (hc : c ∈ piece) :
    isBlank c = true ∨ isDecimal c = true ∨ part = .sign c ∨ part.isName = true := by
  cases part with
  | blanks => exact Or.inl (h.2 c hc)
  | sign s =>
      rw [Spells] at h
      rw [h, List.mem_singleton] at hc
      exact Or.inr (Or.inr (Or.inl (by rw [hc])))
  | monthName | monthAbbreviation | weekday => exact Or.inr (Or.inr (Or.inr rfl))
  | monthNumber | year | hour | minute | second => exact Or.inr (Or.inl (h.2 c hc))
  | day =>
      rcases h with h | ⟨d, rfl, hd⟩
      · exact Or.inr (Or.inl (h.2 c hc))
      · rcases List.mem_cons.mp hc with rfl | hc
        · exact Or.inl (by decide)
        · rw [List.mem_singleton.mp hc]
          exact Or.inr (Or.inl hd)

lemma Part.Spells.colon_not_mem_name {part : Part} {piece : List Char} (h : part.Spells piece)
    (hname : part.isName = true) : ':' ∉ piece := by
  intro hc
  have hlower : ':' ∈ lower piece := List.mem_map.mpr ⟨':', hc, by decide⟩
  have hmonths : ∀ n ∈ monthNames.map String.toList, ':' ∉ n := by decide
  have hshort : ∀ n ∈ monthAbbreviations.map String.toList, ':' ∉ n := by decide
  have hdays : ∀ n ∈ weekdayAbbreviations.map String.toList, ':' ∉ n := by decide
  cases part with
  | monthName => exact hmonths _ h hlower
  | monthAbbreviation => exact hshort _ h hlower
  | weekday => exact hdays _ h hlower
  | _ => cases hname

lemma Part.Spells.colon_not_mem {part : Part} {piece : List Char} (h : part.Spells piece)
    (hsign : part ≠ .sign ':') : ':' ∉ piece := by
  intro hc
  rcases h.char hc with hblank | hdecimal | hpart | hname
  · exact absurd hblank (by decide)
  · exact absurd hdecimal (by decide)
  · exact hsign hpart
  · exact h.colon_not_mem_name hname hc

variable {day time : List Part} {pieces : List (List Char)}

lemma exists_part_of_mem_flatten (h : List.Forall₂ Part.Spells day pieces) {c : Char}
    (hc : c ∈ pieces.flatten) : ∃ part ∈ day, ∃ piece, part.Spells piece ∧ c ∈ piece := by
  induction h with
  | nil => simp at hc
  | cons hspells _ ih =>
      rw [List.flatten_cons, List.mem_append] at hc
      rcases hc with hc | hc
      · exact ⟨_, List.mem_cons_self, _, hspells, hc⟩
      · obtain ⟨part, hpart, piece, hpiece⟩ := ih hc
        exact ⟨part, List.mem_cons_of_mem _ hpart, piece, hpiece⟩

lemma colon_not_mem_day (hday : day ∈ dayPatterns)
    (h : List.Forall₂ Part.Spells day pieces) : ':' ∉ pieces.flatten := by
  intro hc
  obtain ⟨part, hpart, piece, hspells, hmem⟩ := exists_part_of_mem_flatten h hc
  have hsigns : ∀ day ∈ dayPatterns, ∀ part ∈ day, part ≠ .sign ':' := by decide
  exact hspells.colon_not_mem (hsigns day hday part hpart) hmem

/-- A capital T in a written-out day stands in a name. -/
lemma isName_of_mem_day (hday : day ∈ dayPatterns)
    (h : List.Forall₂ Part.Spells day pieces) (hc : 'T' ∈ pieces.flatten) :
    ∃ part ∈ day, part.isName = true := by
  obtain ⟨part, hpart, piece, hspells, hmem⟩ := exists_part_of_mem_flatten h hc
  have hsigns : ∀ day ∈ dayPatterns, ∀ part ∈ day, part ≠ .sign 'T' := by decide
  rcases hspells.char hmem with hblank | hdecimal | hsign | hname
  · exact absurd hblank (by decide)
  · exact absurd hdecimal (by decide)
  · exact absurd hsign (hsigns day hday part hpart)
  · exact ⟨part, hpart, hname⟩

/-- A written-out day, alone or before a time, cuts the text in two. -/
lemma exists_pieces_of_day_time {cs : List Char} (h : matchesPattern (day ++ time) cs = true) :
    ∃ days times, List.Forall₂ Part.Spells day days ∧ List.Forall₂ Part.Spells time times ∧
      days.flatten ++ times.flatten = cs := by
  obtain ⟨pieces, hpieces, rfl⟩ := exists_pieces_of_matchesPattern h
  refine ⟨pieces.take day.length, pieces.drop day.length, ?_, ?_, ?_⟩
  · simpa using List.forall₂_take day.length hpieces
  · simpa using List.forall₂_drop day.length hpieces
  · rw [← List.flatten_append, List.take_append_drop]

/-! ## The numerals of a time -/

/-- Numerals that follow one another with colons. -/
def numerals (ms : List (List Char)) : List Char :=
  ms.flatMap (':' :: ·)

lemma IsShortNumeral.colon_not_mem {m : List Char} (h : IsShortNumeral m) : ':' ∉ m :=
  fun hc => absurd (h.2 _ hc) (by decide)

/-- Every time that a pattern asks for ends in an hour and one or two numerals behind it. -/
lemma exists_numerals_of_spells {times : List (List Char)}
    (htime : (Precision.clock, time) ∈ timePatterns)
    (h : List.Forall₂ Part.Spells time times) :
    ∃ blanks hour ms, times.flatten = blanks ++ hour ++ numerals ms ∧ ':' ∉ blanks ∧
      IsShortNumeral hour ∧ ∀ m ∈ ms, IsShortNumeral m := by
  have hcases : ∃ more, time = .blanks :: .hour :: .sign ':' :: .minute :: more ∧
      (more = [] ∨ more = [.sign ':', .second]) := by
    have hclock : time = [.blanks, .hour, .sign ':', .minute] ∨
        time = [.blanks, .hour, .sign ':', .minute, .sign ':', .second] := by
      simpa [timePatterns] using htime
    exact hclock.elim (fun h => ⟨_, h, Or.inl rfl⟩) fun h => ⟨_, h, Or.inr rfl⟩
  obtain ⟨more, rfl, hmore⟩ := hcases
  obtain ⟨blanks, _, hblanks, h₁, rfl⟩ := List.forall₂_cons_left_iff.mp h
  obtain ⟨hour, _, hhour, h₂, rfl⟩ := List.forall₂_cons_left_iff.mp h₁
  obtain ⟨_, _, rfl, h₃, rfl⟩ := List.forall₂_cons_left_iff.mp h₂
  obtain ⟨minute, rest, hminute, h₄, rfl⟩ := List.forall₂_cons_left_iff.mp h₃
  have hcolon : ':' ∉ blanks := hblanks.colon_not_mem (by decide)
  rcases hmore with rfl | rfl
  · obtain rfl := List.forall₂_nil_left_iff.mp h₄
    exact ⟨blanks, hour, [minute], by simp [numerals], hcolon, hhour,
      List.forall_mem_singleton.mpr hminute⟩
  · obtain ⟨_, _, rfl, h₅, rfl⟩ := List.forall₂_cons_left_iff.mp h₄
    obtain ⟨second, _, hsecond, h₆, rfl⟩ := List.forall₂_cons_left_iff.mp h₅
    obtain rfl := List.forall₂_nil_left_iff.mp h₆
    exact ⟨blanks, hour, [minute, second], by simp [numerals], hcolon, hhour,
      List.forall_mem_cons.mpr ⟨hminute, List.forall_mem_singleton.mpr hsecond⟩⟩

lemma cut_numerals {before : List Char} {ms : List (List Char)} (hbefore : ':' ∉ before)
    (hms : ∀ m ∈ ms, IsShortNumeral m) : cut ':' (before ++ numerals ms) = before :: ms := by
  induction ms generalizing before with
  | nil =>
      rw [numerals, List.flatMap_nil, List.append_nil]
      exact cut_of_not_mem hbefore
  | cons m ms ih =>
      obtain ⟨hm, hms⟩ := List.forall_mem_cons.mp hms
      calc cut ':' (before ++ numerals (m :: ms))
          = cut ':' (before ++ ':' :: (m ++ numerals ms)) := rfl
        _ = cut ':' before ++ cut ':' (m ++ numerals ms) := cut_append_sep _ _ _
        _ = before :: m :: ms := by rw [cut_of_not_mem hbefore, ih hm.colon_not_mem hms]; rfl

open NoteCheck.DateText in
/-- A numeral of two digits shows a minute, since a numeral stands before its colon. -/
lemma showsMinute_numerals {before hour m : List Char} {ms : List (List Char)}
    (hhour : IsShortNumeral hour) (hms : ∀ m ∈ ms, IsShortNumeral m) (hm : m ∈ ms)
    (htwo : m.length = 2) : ShowsMinute (before ++ hour ++ numerals ms) := by
  induction ms generalizing before hour with
  | nil => cases hm
  | cons first ms ih =>
      obtain ⟨hfirst, hrest⟩ := List.forall_mem_cons.mp hms
      rcases List.mem_cons.mp hm with rfl | hm
      · obtain ⟨e, f, rfl⟩ := List.length_eq_two.mp htwo
        have hne : hour ≠ [] := by
          rintro rfl
          rcases hhour.1 with h | h <;> cases h
        obtain ⟨init, d, rfl⟩ := List.eq_nil_or_concat hour |>.resolve_left hne
        refine ⟨d, e, f, hhour.2 d (by simp), hfirst.2 e (by simp), hfirst.2 f (by simp),
          before ++ init, numerals ms, ?_⟩
        simp [numerals]
      · have hshown : ShowsMinute (before ++ hour ++ [':'] ++ first ++ numerals ms) :=
          ih hfirst hrest hm
        simpa [numerals] using hshown

open NoteCheck.DateText in
lemma exists_of_showsMinute {cs : List Char} (h : ShowsMinute cs) :
    ∃ piece ∈ (cut ':' cs).tail, 2 ≤ piece.length := by
  obtain ⟨d, e, f, -, he, hf, before, after, rfl⟩ := h
  have hne : ':' ∉ [e, f] := by
    rw [List.mem_cons, List.mem_singleton]
    rintro (rfl | rfl)
    · exact absurd he (by decide)
    · exact absurd hf (by decide)
  obtain ⟨first, rest, -, hcut⟩ := cut_append_of_not_mem hne after
  have happend : cut ':' (before ++ [d, ':', e, f] ++ after) =
      cut ':' (before ++ [d]) ++ cut ':' ([e, f] ++ after) := by
    rw [← cut_append_sep]
    simp
  obtain ⟨head, tail, hhead⟩ := List.exists_cons_of_ne_nil (cut_ne_nil ':' (before ++ [d]))
  refine ⟨[e, f] ++ first, ?_, by simp⟩
  rw [happend, hhead, hcut]
  simp

open NoteCheck.DateText in
/-- A written-out moment shows a minute when a numeral after a colon has two digits. -/
lemma showsMinute_iff {cs : List Char} (hday : day ∈ dayPatterns)
    (htime : (Precision.clock, time) ∈ timePatterns)
    (h : matchesPattern (day ++ time) cs = true) :
    ShowsMinute cs ↔ ∃ m ∈ (cut ':' cs).tail, m.length = 2 := by
  obtain ⟨days, times, hdays, htimes, rfl⟩ := exists_pieces_of_day_time h
  obtain ⟨blanks, hour, ms, hflat, hblanks, hhour, hms⟩ := exists_numerals_of_spells htime htimes
  have hbefore : ':' ∉ days.flatten ++ blanks ++ hour := by
    simp [colon_not_mem_day hday hdays, hblanks, hhour.colon_not_mem]
  have htext : days.flatten ++ times.flatten = days.flatten ++ blanks ++ hour ++ numerals ms := by
    rw [hflat]
    simp
  have htail : (cut ':' (days.flatten ++ times.flatten)).tail = ms := by
    rw [htext, cut_numerals hbefore hms, List.tail_cons]
  constructor
  · intro hshown
    obtain ⟨m, hm, hlength⟩ := exists_of_showsMinute hshown
    refine ⟨m, hm, ?_⟩
    rw [htail] at hm
    rcases (hms m hm).1 with hone | htwo
    · omega
    · exact htwo
  · rintro ⟨m, hm, htwo⟩
    rw [htail] at hm
    rw [htext]
    exact showsMinute_numerals hhour hms hm htwo

/-- Every piece is in the text, and the year has four digits. -/
lemma ne_nil_of_matchesPattern {cs : List Char} (hday : day ∈ dayPatterns)
    (h : matchesPattern (day ++ time) cs = true) : cs ≠ [] := by
  rintro rfl
  obtain ⟨pieces, hpieces, hempty⟩ := exists_pieces_of_matchesPattern h
  have hyear : ∀ day ∈ dayPatterns, Part.year ∈ day := by decide
  obtain ⟨i, hi, hpart⟩ := List.mem_iff_getElem.mp (List.mem_append_left time (hyear day hday))
  have hspells := hpieces.get hi (hpieces.length_eq ▸ hi)
  rw [List.get_eq_getElem, hpart] at hspells
  have hnil := List.flatten_eq_nil_iff.mp hempty _ (List.getElem_mem (hpieces.length_eq ▸ hi))
  have hfour := hspells.1
  rw [List.get_eq_getElem, hnil] at hfour
  cases hfour

lemma read?_isSome_of_matchesPattern {cs : List Char} {p : Precision} (hday : day ∈ dayPatterns)
    (htime : (p, time) ∈ timePatterns) (h : matchesPattern (day ++ time) cs = true) :
    (read? cs).isSome = true := by
  rw [read?, List.findSome?_isSome_iff]
  refine ⟨day, hday, List.findSome?_isSome_iff.mpr ⟨(p, time), htime, ?_⟩⟩
  dsimp only
  rw [if_pos h]
  rfl

end LongText

namespace DateText

open NoteCheck.Text NoteCheck.LongText

/-! ## Forms -/

/-- The forms in which a text can name a moment: those of ISO 8601, and the written-out ones, by the
pattern of the day and the pattern of what follows it. -/
inductive Form where
  | iso (precision : Precision)
  | long (precision : Precision) (day time : List Part)

/-- How exactly the texts of a form name a moment. -/
def Form.precision : Form → Precision
  | iso precision | long precision _ _ => precision

/-- Whether a text is read in a form. -/
def Form.Reads (cs : List Char) : Form → Prop
  | iso precision => IsoText.readUniversal? cs = some precision
  | long precision day time =>
      day ∈ dayPatterns ∧ (precision, time) ∈ timePatterns ∧ matchesPattern (day ++ time) cs = true

/-- Whether a text that is read in a form shows a time of day.  In a form that is written out, a
numeral after a colon is a piece that the colons cut off. -/
def Form.Shows (cs : List Char) : Form → Prop
  | iso .day | long .day _ _ => False
  | iso .clock => 'T' ∈ cs ∨ ' ' ∈ cs ∧ ShowsMinute cs
  | long .clock _ _ => 'T' ∈ cs ∨ ' ' ∈ cs ∧ ∃ m ∈ (cut ':' (trim cs)).tail, m.length = 2

/-- Whether a capital T stands in a text that is read as a day with a name. -/
def Form.HasNamedT (cs : List Char) : Form → Prop
  | long .day day _ => 'T' ∈ cs ∧ ∃ part ∈ day, part.isName = true
  | _ => False

/-- The margins of a text show nothing. -/
lemma showsMinute_trim_iff {cs : List Char} : ShowsMinute (trim cs) ↔ ShowsMinute cs := by
  have hpart : ∀ d e f, isDecimal d = true → isDecimal e = true → isDecimal f = true →
      ([d, ':', e, f] <:+: trim cs ↔ [d, ':', e, f] <:+: cs) := fun d e f hd he hf =>
    infix_trim_iff (by
      simp [isBlank_eq_false_of_isDecimal hd, isBlank_eq_false_of_isDecimal he,
        isBlank_eq_false_of_isDecimal hf, show isBlank ':' = false by decide])
  constructor <;> rintro ⟨d, e, f, hd, he, hf, h⟩
  · exact ⟨d, e, f, hd, he, hf, (hpart d e f hd he hf).mp h⟩
  · exact ⟨d, e, f, hd, he, hf, (hpart d e f hd he hf).mpr h⟩

/-! ## The comparison -/

/-- A text that is read in a form is a date. -/
lemma Form.Reads.dateShaped {cs : List Char} {form : Form} (h : form.Reads (trim cs)) :
    isDateShaped cs = true := by
  have hparses : parses cs = true := by
    rw [parses]
    cases form with
    | iso p =>
        have hne : trim cs ≠ [] := by
          intro hnil
          rw [Reads, hnil] at h
          cases h
        rw [Reads] at h
        simp [h, hne]
    | long p day time =>
        obtain ⟨hday, htime, hmatch⟩ := h
        have hsome := read?_isSome_of_matchesPattern hday htime hmatch
        simp [ne_nil_of_matchesPattern hday hmatch, hsome]
  rw [isDateShaped, hparses, Bool.or_true]

/-- The characters of a text show a time of day if its form does. -/
lemma Form.Reads.hasTimeOfDay_iff {cs : List Char} {form : Form} (h : form.Reads (trim cs))
    (hnamed : ¬ form.HasNamedT cs) : hasTimeOfDay cs = true ↔ form.Shows cs := by
  rw [DateText.hasTimeOfDay_iff]
  have hletter : 'T' ∈ trim cs ↔ 'T' ∈ cs := mem_trim_iff (by decide)
  match form, h with
  | .iso .day, h =>
      have hday := IsoText.read?_of_readUniversal? h
      have hT : 'T' ∉ cs := by
        rw [← hletter]
        exact IsoText.not_mem_of_read? hday rfl (by unfold IsoText.IsDayOctet; decide)
      have hminute : ¬ ShowsMinute cs := by
        rw [← showsMinute_trim_iff]
        rintro ⟨d, e, f, -, -, -, hpart⟩
        refine IsoText.not_mem_of_read? hday (c := ':') rfl
          (by unfold IsoText.IsDayOctet; decide) (hpart.subset ?_)
        simp
      simp [Shows, hT, hminute]
  | .iso .clock, h => exact Iff.rfl
  | .long .day day time, ⟨hday, htime, hmatch⟩ =>
      obtain rfl : time = [] := by simpa [timePatterns] using htime
      rw [List.append_nil] at hmatch
      obtain ⟨pieces, hpieces, htext⟩ := exists_pieces_of_matchesPattern hmatch
      have hminute : ¬ ShowsMinute cs := by
        rw [← showsMinute_trim_iff]
        rintro ⟨d, e, f, -, -, -, hpart⟩
        refine colon_not_mem_day hday hpieces ?_
        rw [htext]
        exact hpart.subset (by simp)
      have hT : 'T' ∉ cs := fun hT => by
        refine hnamed ⟨hT, ?_⟩
        rw [← hletter, ← htext] at hT
        exact isName_of_mem_day hday hpieces hT
      simp [Shows, hT, hminute]
  | .long .clock day time, ⟨hday, htime, hmatch⟩ =>
      have hminute : ShowsMinute cs ↔ ∃ m ∈ (cut ':' (trim cs)).tail, m.length = 2 := by
        rw [← showsMinute_trim_iff]
        exact showsMinute_iff hday htime hmatch
      simp only [Shows, hminute]

/-- **Reading and showing.**  Whether a text that is read in a form shows a time of day is told by
the form and by what stands before its time of day, and then the types *date* and *datetime* take
the text for what it shows.  A day shows none. -/
theorem timeOfDay_of_reads {s : String} {form : Form} (h : form.Reads (trim s.toList))
    (hnamed : ¬ form.HasNamedT s.toList) :
    (form.Shows s.toList → form.precision = .clock ∧ hasTimeOfDay s.toList = true ∧
      conforms (.text s) (.text "date") = .ok false ∧
      conforms (.text s) (.text "datetime") = .ok true) ∧
    (¬ form.Shows s.toList → hasTimeOfDay s.toList = false ∧
      conforms (.text s) (.text "date") = .ok true ∧
      conforms (.text s) (.text "datetime") = .ok false) := by
  have hshaped := h.dateShaped
  have hdate : conforms (.text s) (.text "date") = .ok (!hasTimeOfDay s.toList) := by
    calc conforms (.text s) (.text "date")
        = .ok (isDateShaped s.toList && !hasTimeOfDay s.toList) := rfl
      _ = .ok (!hasTimeOfDay s.toList) := by rw [hshaped, Bool.true_and]
  have hdatetime : conforms (.text s) (.text "datetime") = .ok (hasTimeOfDay s.toList) := by
    calc conforms (.text s) (.text "datetime")
        = .ok (isDateShaped s.toList && hasTimeOfDay s.toList) := rfl
      _ = .ok (hasTimeOfDay s.toList) := by rw [hshaped, Bool.true_and]
  have hshown := h.hasTimeOfDay_iff hnamed
  rw [hdate, hdatetime]
  constructor
  · intro hshows
    rw [hshown.mpr hshows]
    refine ⟨?_, rfl, rfl, rfl⟩
    match form, hshows with
    | .iso .clock, _ | .long .clock _ _, _ => rfl
  · intro hhides
    rw [Bool.eq_false_iff.mpr (mt hshown.mp hhides)]
    exact ⟨rfl, rfl, rfl⟩

/-- A moment without a capital T, but with a space and a minute of two digits. -/
theorem timeOfDay_of_january :
    conforms (.text "5 January 2024 10:30") (.text "date") = .ok false ∧
    conforms (.text "5 January 2024 10:30") (.text "datetime") = .ok true := by
  have hreads : (Form.long .clock [.day, .blanks, .monthName, .blanks, .year]
      [.blanks, .hour, .sign ':', .minute]).Reads (trim "5 January 2024 10:30".toList) :=
    ⟨by decide, by decide, by decide +kernel⟩
  have hshows : (Form.long .clock [.day, .blanks, .monthName, .blanks, .year]
      [.blanks, .hour, .sign ':', .minute]).Shows "5 January 2024 10:30".toList :=
    Or.inr ⟨by decide, by decide +kernel⟩
  obtain ⟨-, -, hdate, hdatetime⟩ := (timeOfDay_of_reads hreads id).1 hshows
  exact ⟨hdate, hdatetime⟩

/-- A moment with another sign before its time of day is taken for a day. -/
theorem timeOfDay_of_underscore :
    (Form.iso .clock).Reads (trim "2024-01-15_10:00".toList) ∧
    hasTimeOfDay "2024-01-15_10:00".toList = false ∧
    conforms (.text "2024-01-15_10:00") (.text "date") = .ok true ∧
    conforms (.text "2024-01-15_10:00") (.text "datetime") = .ok false :=
  ⟨by unfold Form.Reads; decide +kernel, by decide, by decide +kernel, by decide +kernel⟩

end DateText

end NoteCheck
