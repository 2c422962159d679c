/-!
# Lines

A line of a text ends at a character that Unicode counts as a line end, or at a separator of
records, groups or files; a carriage return and the line feed behind it are one end. The last line
may lack its end. No line holds an end of a line (`not_endsLine_of_mem_splitLines`).
-/

namespace NoteCheck.Text

/-- Whether a character ends a line. -/
def endsLine (c : Char) : Bool :=
  let n := c.toNat
  (10 ≤ n && n ≤ 13) || (28 ≤ n && n ≤ 30) || n == 0x85 || n == 0x2028 || n == 0x2029

/-- The lines of a text, without their ends. -/
def splitLines : List Char → List (List Char)
  | [] => []
  | '\r' :: '\n' :: cs => [] :: splitLines cs
  | c :: cs =>
      if endsLine c then [] :: splitLines cs
      else match splitLines cs with
        | line :: rest => (c :: line) :: rest
        | [] => [[c]]

theorem not_endsLine_of_mem_splitLines (cs : List Char) :
    ∀ line ∈ splitLines cs, ∀ c ∈ line, endsLine c = false := by
  fun_induction splitLines cs with
  | case1 => simp
  | case2 _ ih => simpa using ih
  | case3 _ _ _ _ ih => simpa using ih
  | case4 _ _ _ hd first rest heq ih =>
      simp only [heq, List.forall_mem_cons] at ih ⊢
      exact ⟨⟨by simpa using hd, ih.1⟩, ih.2⟩
  | case5 _ _ _ hd _ _ => simpa using hd

end NoteCheck.Text
