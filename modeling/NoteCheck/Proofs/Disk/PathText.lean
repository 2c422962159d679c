import Mathlib.Tactic.Lemma
import NoteCheck.Disk.RealPath

/-!
# The text of a resolved path

Whether a path lies below another one is decided on texts, but files are found by names.  This file
goes from the one to the other: a resolved path is given back by cutting its text
(`namesOf_text`), so a text that begins with another one and a slash names a place below that of the
other (`names_prefix_of_isWithin`).  Both rest on what a *name* is: a piece without a slash that is
neither empty nor a point nor two points.
-/

namespace NoteCheck

namespace Path

/-- A piece of a path that names an entry of a directory. -/
structure IsName (piece : String) : Prop where
  ne_empty : piece ≠ ""
  ne_here : piece ≠ "."
  ne_up : piece ≠ ".."
  slashless : '/' ∉ piece.toList

instance (piece : String) : Decidable (IsName piece) :=
  decidable_of_iff (piece ≠ "" ∧ piece ≠ "." ∧ piece ≠ ".." ∧ '/' ∉ piece.toList)
    ⟨fun ⟨hempty, hhere, hup, hslash⟩ => ⟨hempty, hhere, hup, hslash⟩,
      fun h => ⟨h.ne_empty, h.ne_here, h.ne_up, h.slashless⟩⟩

/-- What a piece without a slash can be. -/
lemma blank_or_up_or_isName {piece : String} (h : '/' ∉ piece.toList) :
    (piece = "" ∨ piece = ".") ∨ piece = ".." ∨ IsName piece := by
  by_cases hblank : piece = "" ∨ piece = "."
  · exact Or.inl hblank
  · rw [not_or] at hblank
    by_cases hup : piece = ".."
    · exact Or.inr (Or.inl hup)
    · exact Or.inr (Or.inr ⟨hblank.1, hblank.2, hup, h⟩)

/-- The pieces of a path that are not empty. -/
def namesOf (path : String) : List String :=
  (pieces path).filter (· ≠ "")

lemma slashless_of_mem_pieces {path piece : String} (h : piece ∈ pieces path) :
    '/' ∉ piece.toList := by
  obtain ⟨cs, hcs, rfl⟩ := List.mem_map.mp h
  rw [String.toList_ofList]
  exact Text.not_mem_of_mem_cut _ hcs

lemma pieces_append_slash (a b : String) : pieces (a ++ "/" ++ b) = pieces a ++ pieces b := by
  have hslash : "/".toList = ['/'] := rfl
  rw [pieces, String.toList_append, String.toList_append, hslash, List.append_assoc,
    List.singleton_append, Text.cut_append_sep, List.map_append, pieces, pieces]

lemma pieces_of_isName {name : String} (h : IsName name) : pieces name = [name] := by
  rw [pieces, Text.cut_of_not_mem h.slashless]
  simp

lemma namesOf_append_slash (a b : String) : namesOf (a ++ "/" ++ b) = namesOf a ++ namesOf b := by
  rw [namesOf, pieces_append_slash, List.filter_append, namesOf, namesOf]

lemma namesOf_slash_append (path : String) : namesOf ("/" ++ path) = namesOf path := by
  have h := namesOf_append_slash "" path
  rwa [String.empty_append, show namesOf "" = [] by decide, List.nil_append] at h

lemma namesOf_of_isName {name : String} (h : IsName name) : namesOf name = [name] := by
  rw [namesOf, pieces_of_isName h]
  simp [h.ne_empty]

lemma namesOf_intercalate : ∀ {names : List String}, (∀ name ∈ names, IsName name) →
    namesOf ("/".intercalate names) = names
  | [], _ => by decide
  | [name], h => by
      rw [String.intercalate_singleton]
      exact namesOf_of_isName (h name List.mem_cons_self)
  | name :: next :: rest, h => by
      rw [String.intercalate_cons_cons, namesOf_append_slash,
        namesOf_of_isName (h name List.mem_cons_self),
        namesOf_intercalate fun n hn => h n (List.mem_cons_of_mem _ hn)]
      rfl

/-- What is put behind a path from the root is a path from the root. -/
lemma isAbsolute_join {path : String} (h : isAbsolute path = true) (below : String) :
    isAbsolute (join path below) = true := by
  have happend : ∀ rest, isAbsolute (path ++ rest) = true := by
    intro rest
    rw [isAbsolute, decide_eq_true_eq] at h ⊢
    rw [String.toList_append, List.head?_append, h]
    rfl
  rw [join]
  split
  · next hbelow => exact hbelow
  · split
    · exact happend below
    · rw [String.append_assoc]
      exact happend ("/" ++ below)

end Path

namespace RealPath

open NoteCheck.Path (IsName namesOf)

variable {p outer : RealPath}

/-- Cutting the text of a resolved path gives its names back. -/
lemma namesOf_text (h : ∀ name ∈ p.names, IsName name) : namesOf p.text = p.names := by
  have hone : namesOf ("/" ++ "/".intercalate p.names) = p.names := by
    rw [Path.namesOf_slash_append, Path.namesOf_intercalate h]
  rw [text]
  split
  · rw [show ("//" : String) = "/" ++ "/" from rfl, String.append_assoc,
      Path.namesOf_slash_append, hone]
  · exact hone

/-- A path that is within another one by its text lies there by its names. -/
lemma names_prefix_of_isWithin (hp : ∀ name ∈ p.names, IsName name)
    (houter : ∀ name ∈ outer.names, IsName name) (h : p.isWithin outer = true) :
    outer.names <+: p.names := by
  rw [← namesOf_text hp, ← namesOf_text houter]
  rw [isWithin, Bool.or_eq_true, decide_eq_true_eq, List.isPrefixOf_iff_prefix] at h
  rcases h with hsame | ⟨rest, hrest⟩
  · exact congrArg namesOf hsame ▸ List.prefix_refl _
  · have htext : p.text = outer.text ++ "/" ++ String.ofList rest := by
      rw [← String.toList_inj, String.toList_append, String.toList_ofList, hrest]
    rw [htext, Path.namesOf_append_slash]
    exact List.prefix_append _ _

end RealPath

end NoteCheck
