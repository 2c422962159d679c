import Mathlib.Data.List.TakeWhile
import Mathlib.Tactic.Lemma
import NoteCheck.Text.Split

/-!
# Pieces of a text and the text of pieces

Cutting a text and joining pieces undo each other, and here they are followed through the parts of
a text.  A text that stands in front of another one without a separator belongs to its first piece;
pieces that have a separator each behind them come out as they are.
-/

namespace NoteCheck.Text

variable {sep : Char}

/-- What stands in a piece stands in the text. -/
lemma mem_of_mem_cut {c : Char} {piece cs : List Char} (hpiece : piece ∈ cut sep cs)
    (hc : c ∈ piece) : c ∈ cs := by
  induction cs generalizing piece with
  | nil =>
      rw [List.mem_singleton.mp hpiece] at hc
      exact hc
  | cons d cs ih =>
      unfold cut at hpiece
      split at hpiece
      · rcases List.mem_cons.mp hpiece with rfl | hpiece
        · cases hc
        · exact List.mem_cons_of_mem d (ih hpiece hc)
      · split at hpiece
        · next first rest hcut =>
            rcases List.mem_cons.mp hpiece with rfl | hpiece
            · rcases List.mem_cons.mp hc with rfl | hc
              · exact List.mem_cons_self
              · exact List.mem_cons_of_mem d (ih (hcut ▸ List.mem_cons_self) hc)
            · exact List.mem_cons_of_mem d (ih (hcut ▸ List.mem_cons_of_mem first hpiece) hc)
        · next hcut => exact absurd hcut (cut_ne_nil sep cs)

/-- A text that is cut by itself, and what is cut off behind it. -/
lemma cut_append_of_not_mem {before : List Char} (h : sep ∉ before) (cs : List Char) :
    ∃ first rest, cut sep cs = first :: rest ∧
      cut sep (before ++ cs) = (before ++ first) :: rest := by
  cases hcut : cut sep cs with
  | nil => exact absurd hcut (cut_ne_nil sep cs)
  | cons first rest =>
      refine ⟨first, rest, rfl, ?_⟩
      induction before with
      | nil => exact hcut
      | cons c before ih =>
          rw [List.mem_cons, not_or] at h
          rw [List.cons_append, cut, if_neg (Ne.symm h.1), ih h.2]
          rfl

/-- A text without separators at the start of another one stands at the start of its first piece. -/
lemma prefix_of_cut {start cs piece : List Char} {rest : List (List Char)} (h : sep ∉ start)
    (hcut : cut sep cs = piece :: rest) : start <+: cs ↔ start <+: piece := by
  constructor
  · rintro ⟨tail, rfl⟩
    obtain ⟨first, others, -, hfirst⟩ := cut_append_of_not_mem h tail
    obtain ⟨rfl, -⟩ := List.cons.inj (hfirst.symm.trans hcut)
    exact List.prefix_append start first
  · intro hpiece
    have hcs : piece <+: cs := by
      rw [← join_cut sep cs, hcut]
      cases rest with
      | nil => exact List.prefix_rfl
      | cons next others => exact ⟨[sep] ++ join [sep] (next :: others), by simp [join]⟩
    exact hpiece.trans hcs

/-- Pieces in front of others have a separator each behind them. -/
lemma join_append (pieces : List (List Char)) {rest : List (List Char)} (h : rest ≠ []) :
    join [sep] (pieces ++ rest) = pieces.flatMap (· ++ [sep]) ++ join [sep] rest := by
  induction pieces with
  | nil => rfl
  | cons piece pieces ih =>
      cases hmore : pieces ++ rest with
      | nil => exact absurd (List.append_eq_nil_iff.mp hmore).2 h
      | cons next others =>
          have hjoin : join [sep] (piece :: next :: others) =
              piece ++ [sep] ++ join [sep] (next :: others) := rfl
          rw [List.cons_append, hmore, hjoin, ← hmore, ih, List.flatMap_cons, List.append_assoc,
            List.append_assoc, List.append_assoc]

/-- The separators at the front of a text, and what comes after them. -/
lemma eq_replicate_append (sep : Char) (cs : List Char) :
    ∃ n rest, cs = List.replicate n sep ++ rest ∧ cs.dropWhile (· = sep) = rest ∧
      rest.head? ≠ some sep := by
  refine ⟨(cs.takeWhile (· = sep)).length, cs.dropWhile (· = sep), ?_, rfl, ?_⟩
  · have hall : ∀ c ∈ cs.takeWhile (· = sep), c = sep := fun c hc => by
      simpa using List.mem_takeWhile_imp hc
    rw [← List.eq_replicate_of_mem hall, List.takeWhile_append_dropWhile]
  · intro hhead
    have hstop := List.head?_dropWhile_not (· = sep) cs
    rw [hhead] at hstop
    simp at hstop

/-- A text that does not start with a separator has none to lose at its front. -/
lemma dropWhile_of_head? {cs : List Char} (h : cs.head? ≠ some sep) :
    cs.dropWhile (· = sep) = cs := by
  cases cs with
  | nil => rfl
  | cons c cs =>
      have hc : ¬ c = sep := fun hc => h (by rw [hc, List.head?_cons])
      rw [List.dropWhile_cons, if_neg (by simpa using hc)]

end NoteCheck.Text
