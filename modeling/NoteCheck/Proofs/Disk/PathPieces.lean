import Mathlib.Data.List.TakeWhile
import Mathlib.Tactic.Conv
import Mathlib.Tactic.Lemma
import NoteCheck.Disk.Path

/-!
# The pieces of a path and of its directory

A path is the text of its directory, slashes and its last name.  So the pieces of a path are those
of its directory and the last name, apart from empty pieces, which lead nowhere (`pieces_eq`).
-/

namespace NoteCheck

namespace Text

variable {sep : Char} {cs above last : List Char}

/-- A text without a separator, or its parts before and after the last one. -/
lemma not_mem_or_eq_append (sep : Char) (cs : List Char) :
    sep ∉ cs ∨ ∃ above last, cs = above ++ sep :: last ∧ sep ∉ last := by
  by_cases h : sep ∈ cs
  · obtain ⟨last, above, hcs, hlast⟩ := List.eq_append_cons_of_mem (List.mem_reverse.mpr h)
    refine Or.inr ⟨above.reverse, last.reverse, ?_, by simpa using hlast⟩
    rw [← List.reverse_reverse cs, hcs]
    simp
  · exact Or.inl h

lemma afterLast_of_not_mem (h : sep ∉ cs) : afterLast sep cs = cs := by
  rw [afterLast, List.takeWhile_eq_self_iff.mpr, List.reverse_reverse]
  intro c hc
  simpa using ne_of_mem_of_not_mem (List.mem_reverse.mp hc) h

lemma afterLast_append_sep (above : List Char) (h : sep ∉ last) :
    afterLast sep (above ++ sep :: last) = last := by
  have hlast : ∀ c ∈ last.reverse, decide (c ≠ sep) = true := by
    intro c hc
    simpa using ne_of_mem_of_not_mem (List.mem_reverse.mp hc) h
  rw [afterLast, List.reverse_append, List.reverse_cons, List.append_assoc,
    List.takeWhile_append_of_pos hlast]
  simp

lemma eq_dropTail_append (sep : Char) (cs : List Char) :
    ∃ n, cs = dropTail (· = sep) cs ++ List.replicate n sep := by
  have hall : ∀ c ∈ cs.reverse.takeWhile (· = sep), c = sep := fun c hc => by
    simpa using List.mem_takeWhile_imp hc
  refine ⟨(cs.reverse.takeWhile (· = sep)).length, ?_⟩
  rw [dropTail, ← List.reverse_replicate, ← List.reverse_append,
    ← List.eq_replicate_of_mem hall, List.takeWhile_append_dropWhile, List.reverse_reverse]

lemma cut_append_replicate (sep : Char) (cs : List Char) (n : Nat) :
    cut sep (cs ++ List.replicate n sep) = cut sep cs ++ List.replicate n [] := by
  induction n with
  | zero => simp
  | succ n ih =>
      rw [List.replicate_succ', ← List.append_assoc, cut_append_sep, ih, List.replicate_succ',
        List.append_assoc]
      rfl

end Text

namespace Path

variable {above last : List Char}

/-- The directory of a path, without the last slashes unless it is the root. -/
lemma parent_append_slash (h : '/' ∉ last) :
    parent (String.ofList (above ++ '/' :: last)) =
      String.ofList (if above.all (· = '/') then above ++ ['/']
        else Text.dropTail (· = '/') above) := by
  have hlast : ∀ c ∈ last.reverse, decide (c ≠ '/') = true := by
    intro c hc
    simpa using ne_of_mem_of_not_mem (List.mem_reverse.mp hc) h
  have hhead : ((above ++ '/' :: last).reverse.dropWhile (· ≠ '/')).reverse = above ++ ['/'] := by
    rw [List.reverse_append, List.reverse_cons, List.append_assoc,
      List.dropWhile_append_of_pos hlast]
    simp
  rw [parent, String.toList_ofList, hhead]
  simp [Text.dropTail]

lemma parent_of_not_mem {cs : List Char} (h : '/' ∉ cs) : parent (String.ofList cs) = "" := by
  have hhead : cs.reverse.dropWhile (· ≠ '/') = [] := by
    rw [List.dropWhile_eq_nil_iff]
    intro c hc
    simpa using ne_of_mem_of_not_mem (List.mem_reverse.mp hc) h
  rw [parent, String.toList_ofList, hhead]
  rfl

/-- A path starts at the root if its directory does. -/
lemma isAbsolute_parent (path : String) : isAbsolute (parent path) = isAbsolute path := by
  rw [← String.ofList_toList (s := path)]
  rcases Text.not_mem_or_eq_append '/' path.toList with h | ⟨above, last, hpath, hlast⟩
  · rw [parent_of_not_mem h, isAbsolute, isAbsolute, String.toList_ofList]
    cases hcs : path.toList with
    | nil => rfl
    | cons c cs =>
        have hc : c ≠ '/' := by
          rintro rfl
          exact h (hcs ▸ List.mem_cons_self)
        simp [hc]
  · rw [hpath, parent_append_slash hlast, isAbsolute, isAbsolute, String.toList_ofList,
      String.toList_ofList]
    congr 1
    split
    · simp [List.head?_append]
    · next hall =>
        obtain ⟨n, hn⟩ := Text.eq_dropTail_append '/' above
        cases hcut : Text.dropTail (· = '/') above with
        | nil =>
            rw [hcut, List.nil_append] at hn
            exact absurd (by rw [hn]; simp) hall
        | cons c cs =>
            rw [hcut] at hn
            rw [hn]
            rfl

/-- **The pieces of a path** are those of its directory and its last name, but for empty pieces
between them. -/
theorem pieces_eq (path : String) : ∃ above blanks : List String,
    pieces path = above ++ [lastName path] ∧ (∀ b ∈ blanks, b = "") ∧
      (above = pieces (parent path) ++ blanks ∨ pieces (parent path) = above ++ blanks) := by
  rw [← String.ofList_toList (s := path)]
  rcases Text.not_mem_or_eq_append '/' path.toList with h | ⟨above, last, hpath, hlast⟩
  · refine ⟨[], [""], ?_, by simp, Or.inr ?_⟩
    · rw [pieces, lastName, String.toList_ofList, Text.cut_of_not_mem h,
        Text.afterLast_of_not_mem h]
      rfl
    · rw [parent_of_not_mem h]
      decide
  · rw [hpath, parent_append_slash hlast]
    refine ⟨(Text.cut '/' above).map String.ofList, ?_⟩
    have hpieces : pieces (String.ofList (above ++ '/' :: last)) =
        (Text.cut '/' above).map String.ofList ++
          [lastName (String.ofList (above ++ '/' :: last))] := by
      rw [pieces, lastName, String.toList_ofList, Text.cut_append_sep, Text.cut_of_not_mem hlast,
        Text.afterLast_append_sep _ hlast, List.map_append]
      rfl
    split
    · refine ⟨[""], hpieces, by simp, Or.inr ?_⟩
      rw [pieces, String.toList_ofList, Text.cut_append_sep, List.map_append]
      rfl
    · obtain ⟨n, hn⟩ := Text.eq_dropTail_append '/' above
      refine ⟨List.replicate n "", hpieces, fun b hb => List.eq_of_mem_replicate hb, Or.inl ?_⟩
      rw [pieces, String.toList_ofList]
      conv_lhs => rw [hn]
      rw [Text.cut_append_replicate, List.map_append, List.map_replicate]

end Path

end NoteCheck
