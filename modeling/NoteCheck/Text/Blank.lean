/-!
# Blank characters

A character is *blank* when it belongs to the white space of Unicode as a note's author sees it:
the ASCII controls from tab to carriage return, the four information separators, the space, the
next-line control, and the spaces and separators of the general punctuation.

* `trim` — a text without its blank margins.
* `words` — the maximal runs of characters that are not blank.
-/

namespace NoteCheck.Text

/-- Whether a character is white space. -/
def isBlank (c : Char) : Bool :=
  let n := c.toNat
  (9 ≤ n && n ≤ 13) || (28 ≤ n && n ≤ 32) || n == 0x85 || n == 0xA0 || n == 0x1680 ||
    (0x2000 ≤ n && n ≤ 0x200A) || n == 0x2028 || n == 0x2029 || n == 0x202F || n == 0x205F ||
    n == 0x3000

/-- Drops the longest tail whose characters all satisfy `p`. -/
def dropTail (p : Char → Bool) (cs : List Char) : List Char :=
  (cs.reverse.dropWhile p).reverse

/-- Drops the longest margins on both sides whose characters all satisfy `p`. -/
def dropMargins (p : Char → Bool) (cs : List Char) : List Char :=
  dropTail p (cs.dropWhile p)

/-- A text without its blank margins. -/
def trim (cs : List Char) : List Char :=
  dropMargins isBlank cs

/-- The maximal runs of characters that are not blank, in order. -/
def words : List Char → List (List Char)
  | [] => []
  | [c] => if isBlank c then [] else [[c]]
  | c :: d :: cs =>
      if isBlank c then words (d :: cs)
      else if isBlank d then [c] :: words (d :: cs)
      else match words (d :: cs) with
        | w :: ws => (c :: w) :: ws
        | [] => [[c]]

theorem isBlank_of_isWhitespace {c : Char} (h : c.isWhitespace = true) : isBlank c = true := by
  simp only [Char.isWhitespace, Bool.or_eq_true, decide_eq_true_eq] at h
  rcases h with ((h | h) | h) | h <;> subst h <;> decide

end NoteCheck.Text
