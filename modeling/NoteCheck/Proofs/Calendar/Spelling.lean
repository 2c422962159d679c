import Mathlib.Data.List.Forall2
import NoteCheck.Calendar.LongText
import NoteCheck.Proofs.Text.Characters

/-!
# How the long forms of a date are spelled

A pattern is matched part by part, and every way of matching a part takes a piece off the front of
the text.  So a text that matches a pattern is cut into as many pieces as the pattern has parts, and
each piece is spelled as its part asks for (`exists_pieces_of_matchesPattern`).  What is true of the
pieces of every part is then true of the whole text; nothing is said here of the numbers that the
pieces stand for.
-/

namespace NoteCheck

namespace LongText

open NoteCheck.Text

/-- One or two decimal digits. -/
def IsShortNumeral (cs : List Char) : Prop :=
  (cs.length = 1 ∨ cs.length = 2) ∧ ∀ c ∈ cs, isDecimal c = true

/-- Whether a piece of a text is spelled as a part of a pattern asks for. -/
def Part.Spells : Part → List Char → Prop
  | .blanks, cs => cs ≠ [] ∧ ∀ c ∈ cs, isBlank c = true
  | .sign s, cs => cs = [s]
  | .monthName, cs => lower cs ∈ monthNames.map String.toList
  | .monthAbbreviation, cs => lower cs ∈ monthAbbreviations.map String.toList
  | .weekday, cs => lower cs ∈ weekdayAbbreviations.map String.toList
  | .monthNumber, cs | .hour, cs | .minute, cs | .second, cs => IsShortNumeral cs
  | .day, cs => IsShortNumeral cs ∨ ∃ d, cs = [' ', d] ∧ isDecimal d = true
  | .year, cs => cs.length = 4 ∧ ∀ c ∈ cs, isDecimal c = true

/-! ## The ways of matching -/

/-- Whether each of some ways of matching takes off a piece of this kind. -/
def Takes (P : List Char → Prop) (cs : List Char) (ws : Ways) : Prop :=
  ∀ w ∈ ws, ∃ piece, P piece ∧ piece ++ w.2 = cs

variable {P Q : List Char → Prop} {cs : List Char} {ws vs : Ways}

lemma Takes.nil : Takes P cs [] := by
  intro w hw
  cases hw

lemma Takes.mono (h : Takes P cs ws) (hPQ : ∀ piece, P piece → Q piece) : Takes Q cs ws := by
  intro w hw
  obtain ⟨piece, hpiece, hcs⟩ := h w hw
  exact ⟨piece, hPQ piece hpiece, hcs⟩

lemma Takes.append (hws : Takes P cs ws) (hvs : Takes P cs vs) : Takes P cs (ws ++ vs) := by
  intro w hw
  rcases List.mem_append.mp hw with hw | hw
  · exact hws w hw
  · exact hvs w hw

/-- One decimal digit. -/
def IsDigit (cs : List Char) : Prop :=
  ∃ d, cs = [d] ∧ isDecimal d = true

lemma IsDigit.isShortNumeral (h : IsDigit cs) : IsShortNumeral cs := by
  obtain ⟨d, rfl, hd⟩ := h
  exact ⟨Or.inl rfl, by simpa using hd⟩

lemma takes_anyDigit (cs : List Char) : Takes IsDigit cs (anyDigit cs) := by
  cases cs with
  | nil => exact Takes.nil
  | cons c rest =>
      intro w hw
      rw [anyDigit, digitWhere] at hw
      split at hw
      · next d hd =>
          rw [if_pos rfl, List.mem_singleton] at hw
          subst hw
          exact ⟨[c], ⟨c, rfl, by rw [isDecimal, hd]; rfl⟩, rfl⟩
      · cases hw

lemma takes_asciiWhere (p : Nat → Bool) (cs : List Char) : Takes IsDigit cs (asciiWhere p cs) := by
  cases cs with
  | nil => exact Takes.nil
  | cons c rest =>
      intro w hw
      rw [asciiWhere] at hw
      split at hw
      · next hc =>
          rw [List.mem_singleton] at hw
          subst hw
          rw [Bool.and_eq_true] at hc
          exact ⟨[c], ⟨c, rfl, isDecimal_of_isDigit hc.1⟩, rfl⟩
      · cases hw

lemma takes_twoDigits (tens : Nat → Bool) {units : List Char → Ways}
    (hunits : ∀ cs, Takes IsDigit cs (units cs)) (cs : List Char) :
    Takes IsShortNumeral cs (twoDigits tens units cs) := by
  intro w hw
  rw [twoDigits, List.mem_flatMap] at hw
  obtain ⟨v, hv, hw⟩ := hw
  obtain ⟨u, hu, rfl⟩ := List.mem_map.mp hw
  obtain ⟨_, ⟨c, rfl, hc⟩, hfirst⟩ := takes_asciiWhere tens cs v hv
  obtain ⟨_, ⟨d, rfl, hd⟩, hsecond⟩ := hunits v.2 u hu
  refine ⟨[c, d], ⟨Or.inr rfl, by simp [hc, hd]⟩, ?_⟩
  rw [← hfirst, ← hsecond]
  rfl

lemma takes_fourDigits (cs : List Char) :
    Takes (fun piece => piece.length = 4 ∧ ∀ c ∈ piece, isDecimal c = true) cs
      (fourDigits cs) := by
  intro w hw
  rw [fourDigits, List.mem_flatMap] at hw
  obtain ⟨v₁, hv₁, hw⟩ := hw
  obtain ⟨v₂, hv₂, hw⟩ := List.mem_flatMap.mp hw
  obtain ⟨v₃, hv₃, hw⟩ := List.mem_flatMap.mp hw
  obtain ⟨v₄, hv₄, rfl⟩ := List.mem_map.mp hw
  obtain ⟨_, ⟨a, rfl, ha⟩, h₁⟩ := takes_anyDigit cs v₁ hv₁
  obtain ⟨_, ⟨b, rfl, hb⟩, h₂⟩ := takes_anyDigit v₁.2 v₂ hv₂
  obtain ⟨_, ⟨c, rfl, hc⟩, h₃⟩ := takes_anyDigit v₂.2 v₃ hv₃
  obtain ⟨_, ⟨d, rfl, hd⟩, h₄⟩ := takes_anyDigit v₃.2 v₄ hv₄
  refine ⟨[a, b, c, d], ⟨rfl, by simp [ha, hb, hc, hd]⟩, ?_⟩
  rw [← h₁, ← h₂, ← h₃, ← h₄]
  rfl

lemma takes_named (names : List String) (cs : List Char) :
    Takes (fun piece => lower piece ∈ names.map String.toList) cs (named names cs) := by
  intro w hw
  rw [named, List.mem_filterMap] at hw
  obtain ⟨⟨name, i⟩, hname, hw⟩ := hw
  dsimp only at hw
  split at hw
  · next hlower =>
      rw [← Option.some.inj hw]
      refine ⟨cs.take name.toList.length, ?_, List.take_append_drop _ _⟩
      dsimp only
      rw [hlower]
      exact List.mem_map_of_mem (List.fst_mem_of_mem_zipIdx hname)
  · cases hw

lemma takes_blankRuns (cs : List Char) : Takes Part.blanks.Spells cs (blankRuns cs) := by
  induction cs with
  | nil => exact Takes.nil
  | cons c rest ih =>
      rw [blankRuns]
      split
      · next hc =>
          intro w hw
          rcases List.mem_append.mp hw with hw | hw
          · obtain ⟨piece, ⟨-, hblank⟩, hrest⟩ := ih w hw
            refine ⟨c :: piece, ⟨by simp, by simpa using ⟨hc, hblank⟩⟩, ?_⟩
            rw [← hrest]
            rfl
          · rw [List.mem_singleton.mp hw]
            exact ⟨[c], ⟨by simp, by simpa using hc⟩, rfl⟩
      · exact Takes.nil

/-- Every way of matching a part takes off a piece that is spelled as the part asks for. -/
lemma Part.takes_ways (part : Part) (cs : List Char) : Takes part.Spells cs (part.ways cs) := by
  have hascii : ∀ p cs, Takes IsShortNumeral cs (asciiWhere p cs) := fun p cs =>
    (takes_asciiWhere p cs).mono fun _ h => h.isShortNumeral
  have hany : ∀ cs, Takes IsShortNumeral cs (anyDigit cs) := fun cs =>
    (takes_anyDigit cs).mono fun _ h => h.isShortNumeral
  cases part with
  | blanks => exact takes_blankRuns cs
  | sign s =>
      cases cs with
      | nil => exact Takes.nil
      | cons c rest =>
          intro w hw
          rw [ways] at hw
          split at hw
          · next hc =>
              rw [List.mem_singleton.mp hw]
              exact ⟨[c], by rw [Spells, hc], rfl⟩
          · cases hw
  | monthName => exact takes_named monthNames cs
  | monthAbbreviation => exact takes_named monthAbbreviations cs
  | weekday => exact takes_named weekdayAbbreviations cs
  | monthNumber =>
      exact ((takes_twoDigits _ (takes_asciiWhere _) cs).append
        (takes_twoDigits _ (takes_asciiWhere _) cs)).append (hascii _ cs)
  | day =>
      have hnumeral := (((takes_twoDigits (· = 3) (takes_asciiWhere (· ≤ 1)) cs).append
        (takes_twoDigits (fun t => t = 1 || t = 2) takes_anyDigit cs)).append
        (takes_twoDigits (· = 0) (takes_asciiWhere (1 ≤ ·)) cs)).append (hascii (1 ≤ ·) cs)
      refine (hnumeral.mono fun _ => Or.inl).append fun w hw => ?_
      split at hw
      · next rest =>
          obtain ⟨_, ⟨d, rfl, hd⟩, hrest⟩ := takes_asciiWhere _ rest w hw
          exact ⟨[' ', d], Or.inr ⟨d, rfl, hd⟩, by rw [← hrest]; rfl⟩
      · cases hw
  | year => exact takes_fourDigits cs
  | hour =>
      exact ((takes_twoDigits _ (takes_asciiWhere _) cs).append
        (takes_twoDigits _ takes_anyDigit cs)).append (hany cs)
  | minute => exact (takes_twoDigits _ takes_anyDigit cs).append (hany cs)
  | second =>
      exact ((takes_twoDigits _ (takes_asciiWhere _) cs).append
        (takes_twoDigits _ takes_anyDigit cs)).append (hany cs)

/-! ## Patterns -/

lemma exists_pieces_of_firstMatch? {parts : List Part} {rest : List Char} {f g : Fields}
    (h : firstMatch? parts cs f = some (g, rest)) :
    ∃ pieces, List.Forall₂ Part.Spells parts pieces ∧ pieces.flatten ++ rest = cs := by
  induction parts generalizing cs f with
  | nil =>
      rw [firstMatch?, Option.some.injEq, Prod.mk.injEq] at h
      exact ⟨[], .nil, h.2.symm⟩
  | cons part parts ih =>
      rw [firstMatch?] at h
      obtain ⟨w, hw, h⟩ := List.exists_of_findSome?_eq_some h
      obtain ⟨piece, hpiece, hcs⟩ := part.takes_ways cs w hw
      obtain ⟨pieces, hpieces, hrest⟩ := ih h
      refine ⟨piece :: pieces, .cons hpiece hpieces, ?_⟩
      rw [List.flatten_cons, List.append_assoc, hrest, hcs]

/-- **Spelling.**  A text that matches a pattern consists of pieces that are spelled as the parts of
the pattern ask for. -/
theorem exists_pieces_of_matchesPattern {parts : List Part} (h : matchesPattern parts cs = true) :
    ∃ pieces, List.Forall₂ Part.Spells parts pieces ∧ pieces.flatten = cs := by
  rw [matchesPattern] at h
  split at h
  · next f hmatch =>
      obtain ⟨pieces, hpieces, hcs⟩ := exists_pieces_of_firstMatch? hmatch
      exact ⟨pieces, hpieces, by rwa [List.append_nil] at hcs⟩
  · cases h

end LongText

end NoteCheck
