/-!
# Cutting a text at a separator

A text is *cut* into the pieces between its separators, and `join` puts pieces together with a
separator between each two. Joining what was cut gives the text back (`join_cut`), so no character
is lost.
-/

namespace NoteCheck.Text

/-- The pieces between the occurrences of `sep`; there is always one more piece than separators. -/
def cut (sep : Char) : List Char → List (List Char)
  | [] => [[]]
  | c :: cs =>
      if c = sep then [] :: cut sep cs
      else match cut sep cs with
        | piece :: rest => (c :: piece) :: rest
        | [] => [[c]]

theorem cut_ne_nil (sep : Char) (cs : List Char) : cut sep cs ≠ [] := by
  cases cs with
  | nil => simp [cut]
  | cons c cs =>
      unfold cut
      split
      · simp
      · split <;> simp

/-- The pieces, joined with one separator between each two. -/
def join (sep : List Char) : List (List Char) → List Char
  | [] => []
  | [piece] => piece
  | piece :: rest => piece ++ sep ++ join sep rest

/-- Joining the pieces gives the text back. -/
theorem join_cut (sep : Char) (cs : List Char) : join [sep] (cut sep cs) = cs := by
  induction cs with
  | nil => rfl
  | cons c cs ih =>
      unfold cut
      split
      · next h =>
          cases hc : cut sep cs with
          | nil => exact absurd hc (cut_ne_nil sep cs)
          | cons p ps => simp [join, ← hc, ih, h]
      · cases hc : cut sep cs with
        | nil => exact absurd hc (cut_ne_nil sep cs)
        | cons p ps =>
            rw [hc] at ih
            cases ps <;> simp_all [join]

/-- No piece holds a separator. -/
theorem not_mem_of_mem_cut {sep : Char} {piece : List Char} (cs : List Char)
    (h : piece ∈ cut sep cs) : sep ∉ piece := by
  induction cs generalizing piece with
  | nil => simp_all [cut]
  | cons c cs ih =>
      unfold cut at h
      split at h
      · rcases List.mem_cons.mp h with rfl | h
        · simp
        · exact ih h
      · next hc =>
          cases hcut : cut sep cs with
          | nil => exact absurd hcut (cut_ne_nil sep cs)
          | cons first rest =>
              rw [hcut] at h ih
              rcases List.mem_cons.mp h with rfl | h
              · simp [Ne.symm hc, ih List.mem_cons_self]
              · exact ih (List.mem_cons_of_mem _ h)

/-- A text without a separator is one piece. -/
theorem cut_of_not_mem {sep : Char} {cs : List Char} (h : sep ∉ cs) : cut sep cs = [cs] := by
  induction cs with
  | nil => rfl
  | cons c cs ih =>
      rw [List.mem_cons, not_or] at h
      rw [cut, if_neg (Ne.symm h.1), ih h.2]

/-- A separator cuts: what stands before it and what stands after it are cut each by itself. -/
theorem cut_append_sep (sep : Char) (before after : List Char) :
    cut sep (before ++ sep :: after) = cut sep before ++ cut sep after := by
  induction before with
  | nil => simp [cut]
  | cons c before ih =>
      rw [List.cons_append, cut, cut, ih]
      split
      · rfl
      · cases hcut : cut sep before with
        | nil => exact absurd hcut (cut_ne_nil sep before)
        | cons first rest => rfl

/-- What stands before the first `sep` and what after it, when it occurs. -/
def cutFirst? (sep : Char) : List Char → Option (List Char × List Char)
  | [] => none
  | c :: cs =>
      if c = sep then some ([], cs)
      else (cutFirst? sep cs).map fun (before, after) => (c :: before, after)

/-- What follows the last `sep`, or the whole text when there is none. -/
def afterLast (sep : Char) (cs : List Char) : List Char :=
  (cs.reverse.takeWhile (· ≠ sep)).reverse

/-- Whether `start` is the beginning of the text. -/
def startsWith (start cs : List Char) : Bool :=
  start.isPrefixOf cs

/-- Whether `tail` is the end of the text. -/
def endsWith (tail cs : List Char) : Bool :=
  tail.isSuffixOf cs

/-- ASCII capitals become small letters; every other character stays. -/
def lower (cs : List Char) : List Char :=
  cs.map Char.toLower

end NoteCheck.Text
