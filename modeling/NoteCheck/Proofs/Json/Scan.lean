import Mathlib.Data.Bool.AllAny
import Mathlib.Tactic.Lemma
import NoteCheck.Text.Digit

/-!
# Looking through a text of JSON

A text is looked through one character after another, to see how many brackets are open and whether
a string is (`Scan.step`).  This takes no notice of commas, colons and words, so it can be asked of
any text, of one that is a value as well as of one that breaks off.
-/

namespace NoteCheck.Json

/-- Where a text stands between two characters: outside its strings, in a string, or in a string
behind a backslash. -/
inductive Spot where
  | outside
  | inside
  | escaped
deriving DecidableEq, Repr

/-- How many brackets are open in the text so far, and where it stands. -/
structure Scan where
  opened : Nat
  spot : Spot
deriving DecidableEq, Repr

namespace Scan

/-- Outside of strings, with so many brackets open. -/
def outside (n : Nat) : Scan := ⟨n, .outside⟩

/-- In a string, with so many brackets open. -/
def inside (n : Nat) : Scan := ⟨n, .inside⟩

/-- One more character. -/
def step (s : Scan) (c : Char) : Scan :=
  match s.spot with
  | .outside =>
      if c = '"' then { s with spot := .inside }
      else if c = '[' || c = '\x7b' then { s with opened := s.opened + 1 }
      else if c = ']' || c = '\x7d' then { s with opened := s.opened - 1 }
      else s
  | .inside =>
      if c = '"' then { s with spot := .outside }
      else if c = '\\' then { s with spot := .escaped }
      else s
  | .escaped => { s with spot := .inside }

/-- All characters of a text. -/
def through (s : Scan) (cs : List Char) : Scan :=
  cs.foldl step s

variable {s : Scan} {n : Nat} {c : Char} {cs ds : List Char}

@[simp] lemma through_nil : s.through [] = s := rfl

@[simp] lemma through_cons : s.through (c :: cs) = (s.step c).through cs := rfl

@[simp] lemma through_append : s.through (cs ++ ds) = (s.through cs).through ds :=
  List.foldl_append

/-- What changes nothing character by character changes nothing. -/
lemma through_of_forall (h : ∀ c ∈ cs, s.step c = s) : s.through cs = s := by
  induction cs with
  | nil => rfl
  | cons c cs ih =>
      obtain ⟨hc, hcs⟩ := List.forall_mem_cons.mp h
      rw [through_cons, hc, ih hcs]

end Scan

/-- Whether a character means nothing to strings and brackets outside of strings. -/
def IsNeutral (c : Char) : Prop :=
  c ∉ ['"', '[', ']', '\x7b', '\x7d']

instance (c : Char) : Decidable (IsNeutral c) :=
  inferInstanceAs (Decidable (c ∉ ['"', '[', ']', '\x7b', '\x7d']))

section

variable {n : Nat} {c : Char} {cs : List Char}

lemma IsNeutral.step (h : IsNeutral c) : (Scan.outside n).step c = .outside n := by
  simp only [IsNeutral, List.mem_cons, List.not_mem_nil, or_false, not_or] at h
  simp [Scan.step, Scan.outside, h]

lemma through_of_isNeutral (h : ∀ c ∈ cs, IsNeutral c) :
    (Scan.outside n).through cs = .outside n :=
  Scan.through_of_forall fun c hc => (h c hc).step

lemma step_inside (hquote : c ≠ '"') (hslash : c ≠ '\\') :
    (Scan.inside n).step c = .inside n := by
  simp [Scan.step, Scan.inside, hquote, hslash]

lemma isNeutral_of_isAsciiDigit (h : Text.isAsciiDigit c = true) : IsNeutral c := by
  have hall : ∀ c ∈ ['"', '[', ']', '\x7b', '\x7d'], Text.isAsciiDigit c = false :=
    List.all_iff_forall_prop.mp (by decide)
  intro hc
  rw [hall c hc] at h
  cases h

end

end NoteCheck.Json
