import NoteCheck.Proofs.Note.Block
import NoteCheck.Proofs.Text.Characters

/-!
# Which lines delimit a block

The two ends of a block are told in different ways.  Its first line only has to begin with three
hyphens, whatever comes after them; and it ends at the first line below that consists of three
hyphens and blanks around them (`IsFenceLine`), even where that line is indented.

* **`read_between_fences`** — these lines alone decide what is read as a block.
* **`read_loose_fences`** — so a note can have a block that does not begin with a line of just three
  hyphens, and a block can end at a line of a text in it.
-/

namespace NoteCheck.Frontmatter

open NoteCheck.Text

/-- Whether a line consists of three hyphens and blanks on both sides of them. -/
def IsFenceLine (line : List Char) : Prop :=
  ∃ left right, (∀ c ∈ left, isBlank c = true) ∧ (∀ c ∈ right, isBlank c = true) ∧
    line = left ++ fence ++ right

lemma isBlank_of_mem_fence {c : Char} (hc : c ∈ fence) : isBlank c = false := by
  rw [List.eq_of_mem_replicate (show c ∈ List.replicate 3 '-' from hc)]
  rfl

lemma isFence_iff {line : List Char} : isFence line = true ↔ IsFenceLine line := by
  rw [isFence, decide_eq_true_eq]
  constructor
  · intro htrim
    obtain ⟨left, right, hleft, hright, hline⟩ := eq_margins_append_trim line
    rw [htrim] at hline
    exact ⟨left, right, hleft, hright, hline⟩
  · rintro ⟨left, right, hleft, hright, rfl⟩
    exact trim_margins hleft hright (fun c hc => isBlank_of_mem_fence hc) (by simp [fence])

lemma isFence_eq_false_iff {line : List Char} : isFence line = false ↔ ¬ IsFenceLine line := by
  rw [← isFence_iff, Bool.not_eq_true]

/-- **A block is what stands between its fences.**  Suppose that a note can be read.  If anything
but the whole of it as body is read from it, then its first line begins with three hyphens, and below
it stands a line that is three hyphens but for blanks around them; the properties are those of the
lines between the first line and the first such line, and the body is what comes after that line.
The other way round, wherever a first line begins so and a first such line stands below it, the lines
between them are read as the block: what is read is the properties that they give, with the body
after them, and the whole note as body only if they give none. -/
theorem read_between_fences {content : List Char} {f : Frontmatter} (h : read content = .ok f) :
    (f ≠ ⟨[], content⟩ → ∃ opening lines closing after,
      cut '\n' content = opening :: (lines ++ closing :: after) ∧ fence <+: opening ∧
      IsFenceLine closing ∧ (∀ line ∈ lines, ¬ IsFenceLine line) ∧
      BlockGives (join ['\n'] lines) f.properties ∧
      f.body = (join ['\n'] after).dropWhile (· = '\n')) ∧
    ∀ (opening closing : List Char) (lines after : List (List Char)),
      cut '\n' content = opening :: (lines ++ closing :: after) → fence <+: opening →
      IsFenceLine closing → (∀ line ∈ lines, ¬ IsFenceLine line) →
      (∀ properties, BlockGives (join ['\n'] lines) properties →
        f = ⟨properties, (join ['\n'] after).dropWhile (· = '\n')⟩) ∧
      ((∀ properties, ¬ BlockGives (join ['\n'] lines) properties) → f = ⟨[], content⟩) := by
  constructor
  · intro hcutOff
    rcases read_eq_ok_iff.mp h with ⟨-, hwhole⟩ | ⟨block, body, hcut, h⟩
    · exact absurd hwhole hcutOff
    · rcases h with ⟨properties, hgives, rfl⟩ | ⟨-, hwhole⟩
      · obtain ⟨opening, lines, closing, after, hlines, hstarts, hclosing, hopen, rfl, rfl⟩ :=
          cutBlock?_eq_some_iff.mp hcut
        exact ⟨opening, lines, closing, after, hlines, hstarts, isFence_iff.mp hclosing,
          fun line hline => isFence_eq_false_iff.mp (hopen line hline), hgives, rfl⟩
      · exact absurd hwhole hcutOff
  · intro opening closing lines after hlines hstarts hclosing hopen
    have hcut := cutBlock?_eq_some_iff.mpr ⟨opening, lines, closing, after, hlines, hstarts,
      isFence_iff.mpr hclosing, fun line hline => isFence_eq_false_iff.mpr (hopen line hline), rfl,
      rfl⟩
    rcases read_eq_ok_iff.mp h with ⟨hnone, -⟩ | ⟨block, body, hcut', h⟩
    · rw [hcut] at hnone
      cases hnone
    · obtain ⟨rfl, rfl⟩ := Prod.mk.inj (Option.some.inj (hcut.symm.trans hcut'))
      rcases h with ⟨properties, hgives, rfl⟩ | ⟨hnone, rfl⟩
      · refine ⟨fun others hothers => ?_, fun hno => absurd hgives (hno properties)⟩
        have heq := (ofBlock?_eq_some_iff.mpr hgives).symm.trans (ofBlock?_eq_some_iff.mpr hothers)
        rw [Option.some.inj (Except.ok.inj heq)]
      · refine ⟨fun properties hgives => ?_, fun _ => rfl⟩
        exact absurd (hnone.symm.trans (ofBlock?_eq_some_iff.mpr hgives)) (by simp)

/-- A block that ends at an indented line and holds a longer line of hyphens. -/
theorem read_between_fences_indented :
    ∃ f, read "---\nrule: -----\n  ---\nText".toList = .ok f ∧
      f = ⟨[("rule", .text "-----")], "Text".toList⟩ := by
  have hread : (read "---\nrule: -----\n  ---\nText".toList).isOk = true := by decide +kernel
  obtain ⟨f, hf⟩ := Fault.isOk_iff.mp hread
  have hgives : BlockGives "rule: -----".toList [("rule", .text "-----")] :=
    blockGives_of_isSoleText (by decide +kernel)
  have hopen : ∀ line ∈ ["rule: -----".toList], ¬ IsFenceLine line := fun line hline =>
    isFence_eq_false_iff.mp (by rw [List.mem_singleton.mp hline]; decide)
  have hblock := (read_between_fences hf).2 "---".toList "  ---".toList ["rule: -----".toList]
    ["Text".toList] (by decide) (by decide) (isFence_iff.mp (by decide)) hopen
  exact ⟨f, hf, hblock.1 _ hgives⟩

/-- **Blocks between lines that are not just three hyphens.**  A block begins at a first line that
has a word right after the hyphens.  And a block ends at an indented line that belongs to a text in
it, although a line that is three hyphens, and no blanks before them, comes only later. -/
theorem read_loose_fences :
    (∃ content f, content = "---title\nk: v\n---\n".toList ∧ read content = .ok f ∧
      f = ⟨[("k", .text "v")], []⟩ ∧
      ∀ right rest, (∀ c ∈ right, isBlank c = true) → cut '\n' content ≠ (fence ++ right) :: rest) ∧
    ∃ content f lines, content = "---\nt: |\n  a\n  ---\n  b\n---\n".toList ∧ read content = .ok f ∧
      f = ⟨[("t", .text "a")], "  b\n---\n".toList⟩ ∧
      cut '\n' content = fence :: (lines ++ [fence, []]) ∧ "  ---".toList ∈ lines ∧
      ∀ line ∈ lines, ∀ right, (∀ c ∈ right, isBlank c = true) → line ≠ fence ++ right := by
  constructor
  · refine ⟨_, _, rfl, ?_, rfl, ?_⟩
    · exact read_eq_ok_iff.mpr (Or.inr ⟨"k: v".toList, [], by decide +kernel,
        Or.inl ⟨_, blockGives_of_isSoleText (by decide +kernel), rfl⟩⟩)
    · intro right rest hright hcut
      have hfirst : cut '\n' "---title\nk: v\n---\n".toList =
          (fence ++ "title".toList) :: ["k: v".toList, fence, []] := by decide
      have hword := List.append_cancel_left (List.cons.inj (hfirst.symm.trans hcut)).1
      exact absurd (hright 't' (hword ▸ by decide)) (by decide)
  · refine ⟨_, _, ["t: |".toList, "  a".toList, "  ---".toList, "  b".toList], rfl, ?_, rfl,
      by decide, by decide, ?_⟩
    · exact read_eq_ok_iff.mpr (Or.inr ⟨"t: |\n  a".toList, "  b\n---\n".toList,
        by decide +kernel, Or.inl ⟨_, blockGives_of_isSoleText (by decide +kernel), rfl⟩⟩)
    · rintro line hline right - rfl
      have hstarts : ∀ l ∈ ["t: |".toList, "  a".toList, "  ---".toList, "  b".toList],
          ¬ fence <+: l := by decide
      exact hstarts _ hline (List.prefix_append fence right)

end NoteCheck.Frontmatter
