import Mathlib.Tactic.Lemma
import NoteCheck.Calendar.MailText
import NoteCheck.Proofs.Text.DigitCount

/-!
# The words of a mail header

The reader of such moments shuffles words: it drops a weekday, cuts a date at its hyphens and a zone
off a time, and then lets day and month, year and time, and year and zone trade places.  Through all
of this every word stays a part of the text, and no two words share a character of it
(`flatten_dropWeekday_sublist`, `flatten_cutHyphens_sublist`, `flatten_cutZone`).  A moment needs a
numeral for its day, its year, its hour and its minute, whatever words these come from
(`four_le_of_isMoment`).

* **`four_le_digitCount_of_accepts`**: so a text that names a moment has four digits.
-/

namespace NoteCheck.MailText

open NoteCheck.Text

variable {day year time zone hour minute second : List Char} {month : Nat}

/-! ## From the text to five words -/

lemma flatten_dropWeekday_sublist (ws : List (List Char)) :
    (dropWeekday ws).flatten.Sublist ws.flatten := by
  cases ws with
  | nil => exact List.Sublist.refl _
  | cons w ws =>
      rw [dropWeekday]
      split
      · exact List.sublist_append_right w ws.flatten
      · split
        · exact (afterLast_sublist ',' w).append (List.Sublist.refl _)
        · exact List.Sublist.refl _

lemma flatten_cutHyphens_sublist (ws : List (List Char)) :
    (cutHyphens ws).flatten.Sublist ws.flatten := by
  unfold cutHyphens
  split
  · next date time zone =>
      dsimp only
      split
      · rw [List.flatten_append]
        exact (flatten_cut_sublist '-' date).append (List.Sublist.refl _)
      · exact List.Sublist.refl _
  · exact List.Sublist.refl _

/-- Cutting off the zone moves no character. -/
lemma flatten_cutZone (ws : List (List Char)) : (cutZone ws).flatten = ws.flatten := by
  unfold cutZone
  split
  · next day month year time =>
      dsimp only
      split <;> simp
  · rfl

/-! ## The numerals of a moment -/

lemma dropComma_sublist (w : List Char) : (dropComma w).Sublist w := by
  rw [dropComma]
  split
  · exact List.dropLast_sublist w
  · exact List.Sublist.refl w

/-- The first two of the pieces of a text are different parts of it. -/
lemma digitCount_first_two {pieces rest : List (List Char)}
    (hpieces : pieces = hour :: minute :: rest) (h : pieces.flatten.Sublist time) :
    digitCount hour + digitCount minute ≤ digitCount time := by
  rw [hpieces, List.flatten_cons, List.flatten_cons, ← List.append_assoc] at h
  rw [← digitCount_append]
  exact digitCount_le_of_sublist ((List.sublist_append_left _ _).trans h)

/-- The words of a time of day are different parts of it, but for a second that is left out. -/
lemma digitCount_timeWords? (h : timeWords? time = some (hour, minute, second)) :
    digitCount hour + digitCount minute ≤ digitCount time := by
  have hcolons := flatten_cut_sublist ':' time
  have hpoints : ∀ single, cut ':' time = [single] → (cut '.' single).flatten.Sublist time := by
    intro single hcut
    rw [hcut, List.flatten_singleton] at hcolons
    exact (flatten_cut_sublist '.' single).trans hcolons
  rw [timeWords?] at h
  split at h
  case h_3 => cases h
  all_goals
    next heq =>
      obtain ⟨rfl, rfl, -⟩ := by simpa using h
      refine digitCount_first_two heq ?_
      split
      · next single hcut =>
          split
          · exact hpoints single hcut
          · exact List.nil_sublist _
      · exact hcolons

/-- **A moment needs four numerals**: two in its time of day, one for its day and one for its
year. -/
lemma four_le_of_isMoment (h : isMoment day month year time zone = true) :
    4 ≤ digitCount day + digitCount year + digitCount time + digitCount zone := by
  rw [isMoment] at h
  dsimp only at h
  -- Year and time may have traded places, and then year and zone.
  generalize year.findIdx? (· = ':') = place at h
  rcases place with _ | _ | place
  all_goals
    dsimp only at h
    split at h
    · cases h
    · next yearWord c rest hcomma =>
        split at h
        · next hour minute second y d htime hyear hday =>
            split at h
            · next hhour hminute hsecond =>
                have hclock := digitCount_timeWords? htime
                have hhourPos := digitCount_pos_of_readInt? hhour
                have hminutePos := digitCount_pos_of_readInt? hminute
                have hdayPos := digitCount_pos_of_readInt? hday
                have hyearPos := digitCount_pos_of_readInt? hyear
                have hdayWord := digitCount_le_of_sublist (dropComma_sublist day)
                have htimeWord := digitCount_le_of_sublist (dropComma_sublist time)
                have hyearWord := digitCount_le_of_sublist (dropComma_sublist year)
                split at hyearPos <;> dsimp only at hyearPos <;> omega
            · cases h
        · cases h

/-- **A text that names a moment has four digits.** -/
theorem four_le_digitCount_of_accepts {cs : List Char} (h : accepts cs = true) :
    4 ≤ digitCount cs := by
  have hwords : (cutZone (cutHyphens (dropWeekday (words cs)))).flatten.Sublist cs := by
    rw [flatten_cutZone]
    exact ((flatten_cutHyphens_sublist _).trans (flatten_dropWeekday_sublist _)).trans
      (flatten_words_sublist cs)
  rw [accepts] at h
  split at h
  · next day month year time zone rest hfive =>
      rw [hfive] at hwords
      have hcount := digitCount_le_of_sublist hwords
      simp only [List.flatten_cons, digitCount_append] at hcount
      split at h
      · cases h
      · split at h
        · have hfour := four_le_of_isMoment h
          omega
        · split at h
          · have hfour := four_le_of_isMoment h
            have hmonth := digitCount_lower_le month
            omega
          · cases h
  · cases h

end NoteCheck.MailText
