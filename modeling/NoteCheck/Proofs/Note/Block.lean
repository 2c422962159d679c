import NoteCheck.Note.Frontmatter
import NoteCheck.Proofs.Outcome
import NoteCheck.Proofs.Text.Pieces

/-!
# Taking a note apart and putting it together

A note with a block consists of its sections: the opening line, the lines of the block, the closing
line, line feeds, and the body (`Sections`).  Reading a note finds its sections or finds that it has
none (`exists_sections`), and the YAML of the block alone decides about the properties
(`BlockGives`).

* **`read_sections`** — so nothing of a note is lost in reading it, and to put a block and a body
  together and read the result gives both back.
-/

namespace NoteCheck.Frontmatter

open NoteCheck.Text

variable {content block body : List Char} {f : Frontmatter} {properties : Properties}

/-! ## Where a block ends -/

lemma cutAtFence?_eq_some_iff {lines before after : List (List Char)} :
    cutAtFence? lines = some (before, after) ↔
      ∃ closing, lines = before ++ closing :: after ∧ isFence closing = true ∧
        ∀ line ∈ before, isFence line = false := by
  induction lines generalizing before with
  | nil => simp [cutAtFence?]
  | cons line lines ih =>
      rw [cutAtFence?]
      cases hline : isFence line with
      | true =>
          rw [if_pos rfl, Option.some.injEq, Prod.mk.injEq]
          constructor
          · rintro ⟨rfl, rfl⟩
            exact ⟨line, rfl, hline, by simp⟩
          · rintro ⟨closing, hlines, -, hbefore⟩
            cases before with
            | nil => exact ⟨rfl, (List.cons.inj hlines).2⟩
            | cons first before =>
                have hfirst := hbefore first List.mem_cons_self
                rw [← (List.cons.inj hlines).1, hline] at hfirst
                cases hfirst
      | false =>
          rw [if_neg Bool.false_ne_true, Option.map_eq_some_iff]
          constructor
          · rintro ⟨⟨found, rest⟩, hfound, heq⟩
            obtain ⟨rfl, rfl⟩ := Prod.mk.inj heq
            obtain ⟨closing, rfl, hclosing, hfirst⟩ := ih.mp hfound
            exact ⟨closing, rfl, hclosing, List.forall_mem_cons.mpr ⟨hline, hfirst⟩⟩
          · rintro ⟨closing, hlines, hclosing, hbefore⟩
            cases before with
            | nil =>
                rw [← (List.cons.inj hlines).1, hline] at hclosing
                cases hclosing
            | cons first before =>
                obtain ⟨rfl, rfl⟩ := List.cons.inj hlines
                refine ⟨(before, after), ih.mpr ⟨closing, rfl, hclosing, ?_⟩, rfl⟩
                exact fun l hl => hbefore l (List.mem_cons_of_mem _ hl)

lemma newline_not_mem_fence : '\n' ∉ fence := by
  decide

/-- **A block in the lines of a note**: they are an opening line, the lines of the block, the first
line after the opening one that is a fence, and further lines. -/
lemma cutBlock?_eq_some_iff :
    cutBlock? content = some (block, body) ↔
      ∃ opening lines closing after,
        cut '\n' content = opening :: (lines ++ closing :: after) ∧ fence <+: opening ∧
        isFence closing = true ∧ (∀ line ∈ lines, isFence line = false) ∧
        join ['\n'] lines = block ∧ (join ['\n'] after).dropWhile (· = '\n') = body := by
  cases hcut : cut '\n' content with
  | nil => exact absurd hcut (cut_ne_nil _ _)
  | cons first rest =>
      rw [cutBlock?, hcut, List.tail_cons, startsWith]
      constructor
      · intro h
        split at h
        · next hstart =>
            obtain ⟨⟨lines, after⟩, hlines, hparts⟩ := Option.map_eq_some_iff.mp h
            obtain ⟨hblock, hbody⟩ := Prod.mk.inj hparts
            obtain ⟨closing, rfl, hclosing, hopen⟩ := cutAtFence?_eq_some_iff.mp hlines
            have hfirst := (prefix_of_cut newline_not_mem_fence hcut).mp
              (List.isPrefixOf_iff_prefix.mp hstart)
            exact ⟨first, lines, closing, after, rfl, hfirst, hclosing, hopen, hblock, hbody⟩
        · cases h
      · rintro ⟨opening, lines, closing, after, hlines, hopening, hclosing, hopen, rfl, rfl⟩
        obtain ⟨rfl, rfl⟩ := List.cons.inj hlines
        have hstart := (prefix_of_cut newline_not_mem_fence hcut).mpr hopening
        rw [if_pos (List.isPrefixOf_iff_prefix.mpr hstart),
          cutAtFence?_eq_some_iff.mpr ⟨closing, rfl, hclosing, hopen⟩]
        rfl

/-! ## What a block gives -/

/-- Whether a block gives these properties: its YAML is a mapping and these are its entries by the
texts of their keys, or it holds nothing and there are none. -/
def BlockGives (block : List Char) (properties : Properties) : Prop :=
  (∃ entries, Yaml.load block = .ok (.entries entries) ∧ ofEntries entries = .ok properties) ∨
    ∃ v, Yaml.load block = .ok (.other v) ∧ v.isEmptyLike = true ∧ properties = []

lemma ofBlock?_eq_some_iff :
    ofBlock? block = .ok (some properties) ↔ BlockGives block properties := by
  rw [ofBlock?, BlockGives]
  split
  · next entries hload =>
      rw [Fault.map_eq_ok_iff]
      simp [hload]
  · next v hload =>
      cases hempty : v.isEmptyLike with
      | true =>
          rw [if_pos rfl, Except.ok.injEq, Option.some.injEq]
          constructor
          · rintro rfl
            exact Or.inr ⟨v, hload, hempty, rfl⟩
          · rintro (⟨entries, hentries, -⟩ | ⟨-, -, -, rfl⟩)
            · exact absurd (hload.symm.trans hentries) (by simp)
            · rfl
      | false => simp [hload, hempty]
  · next cause hload => simp [hload]
  · next hload => simp [hload]

/-- **What a note is read as**: without a block, or with a block that gives no properties, it is all
body; else the properties are those of the block. -/
lemma read_eq_ok_iff :
    read content = .ok f ↔
      cutBlock? content = none ∧ f = ⟨[], content⟩ ∨
        ∃ block body, cutBlock? content = some (block, body) ∧
          ((∃ properties, BlockGives block properties ∧ f = ⟨properties, body⟩) ∨
            ofBlock? block = .ok none ∧ f = ⟨[], content⟩) := by
  rw [read]
  split
  · next hcut => simp [hcut, eq_comm]
  · next block body hcut =>
      rw [Fault.bind_eq_ok_iff]
      constructor
      · rintro ⟨found, hfound, h⟩
        refine Or.inr ⟨block, body, hcut, ?_⟩
        cases found with
        | none => exact Or.inr ⟨hfound, (Except.ok.inj h).symm⟩
        | some properties =>
            exact Or.inl ⟨properties, ofBlock?_eq_some_iff.mp hfound, (Except.ok.inj h).symm⟩
      · rintro (⟨hnone, -⟩ | ⟨block', body', hsome, h⟩)
        · rw [hcut] at hnone
          cases hnone
        · obtain ⟨rfl, rfl⟩ := Prod.mk.inj (Option.some.inj (hcut.symm.trans hsome))
          rcases h with ⟨properties, hgives, rfl⟩ | ⟨hfound, rfl⟩
          · exact ⟨some properties, ofBlock?_eq_some_iff.mpr hgives, rfl⟩
          · exact ⟨none, hfound, rfl⟩

/-! ## Sections -/

/-- The sections of a note with a block. -/
structure Sections where
  /-- The first line. -/
  opening : List Char
  /-- The lines of the block. -/
  lines : List (List Char)
  /-- The line that ends the block. -/
  closing : List Char
  /-- How many line feeds stand before the body. -/
  gap : Nat
  body : List Char
  opening_starts : fence <+: opening
  opening_line : '\n' ∉ opening
  lines_line : ∀ line ∈ lines, '\n' ∉ line
  lines_open : ∀ line ∈ lines, isFence line = false
  closing_line : '\n' ∉ closing
  closing_fence : isFence closing = true
  body_starts : body.head? ≠ some '\n'
  body_apart : body ≠ [] → gap ≠ 0

namespace Sections

/-- The text of the block. -/
def blockText (s : Sections) : List Char :=
  join ['\n'] s.lines

/-- The text of the note, without any loss. -/
def text (s : Sections) : List Char :=
  s.opening ++ '\n' :: s.lines.flatMap (· ++ ['\n']) ++ s.closing ++ List.replicate s.gap '\n' ++
    s.body

end Sections

/-- A note whose block is found has sections. -/
lemma exists_sections (h : cutBlock? content = some (block, body)) :
    ∃ s : Sections, s.text = content ∧ s.blockText = block ∧ s.body = body := by
  obtain ⟨opening, lines, closing, after, hcut, hstarts, hclosing, hopen, rfl, rfl⟩ :=
    cutBlock?_eq_some_iff.mp h
  have hlines : ∀ line ∈ opening :: (lines ++ closing :: after), '\n' ∉ line := by
    rw [← hcut]
    exact fun line hline => not_mem_of_mem_cut content hline
  obtain ⟨hopening, hlines⟩ := List.forall_mem_cons.mp hlines
  obtain ⟨hbefore, hrest⟩ := List.forall_mem_append.mp hlines
  have hline := hrest closing List.mem_cons_self
  have hcontent : content =
      opening ++ '\n' :: (lines.flatMap (· ++ ['\n']) ++ join ['\n'] (closing :: after)) := by
    have hjoin : join ['\n'] ((opening :: lines) ++ closing :: after) =
        (opening :: lines).flatMap (· ++ ['\n']) ++ join ['\n'] (closing :: after) :=
      join_append _ (List.cons_ne_nil closing after)
    rw [← join_cut '\n' content, hcut, ← List.cons_append, hjoin, List.flatMap_cons]
    simp
  cases after with
  | nil =>
      -- The closing line ends the note, so there is neither a gap nor a body.
      refine ⟨⟨opening, lines, closing, 0, [], hstarts, hopening, hbefore, hopen, hline, hclosing,
        by simp, by simp⟩, ?_, rfl, rfl⟩
      rw [hcontent]
      simp [Sections.text, join]
  | cons next after =>
      obtain ⟨n, body, hsplit, hbody, hstart⟩ :=
        eq_replicate_append '\n' (join ['\n'] (next :: after))
      refine ⟨⟨opening, lines, closing, n + 1, body, hstarts, hopening, hbefore, hopen, hline,
        hclosing, hstart, by simp⟩, ?_, rfl, hbody.symm⟩
      rw [hcontent]
      simp [Sections.text, join, hsplit, List.replicate_succ]

/-! ## Assembly -/

/-- The note that is put together from a block and a body. -/
def assemble (block body : List Char) : List Char :=
  fence ++ '\n' :: block ++ '\n' :: fence ++ '\n' :: body

/-- A block that holds no fence is found again. -/
lemma cutBlock?_assemble (hblock : ∀ line ∈ cut '\n' block, isFence line = false)
    (body : List Char) :
    cutBlock? (assemble block body) = some (block, body.dropWhile (· = '\n')) := by
  have hcut : cut '\n' (assemble block body) =
      fence :: (cut '\n' block ++ fence :: cut '\n' body) := by
    have hassoc : assemble block body =
        fence ++ '\n' :: (block ++ '\n' :: (fence ++ '\n' :: body)) := by
      simp [assemble]
    rw [hassoc, cut_append_sep, cut_append_sep, cut_append_sep,
      cut_of_not_mem newline_not_mem_fence]
    rfl
  refine cutBlock?_eq_some_iff.mpr ⟨fence, cut '\n' block, fence, cut '\n' body, hcut,
    List.prefix_rfl, by decide, hblock, join_cut _ _, ?_⟩
  rw [join_cut]

/-- What an assembled note has for properties is decided by its block. -/
lemma properties_read_assemble (hblock : ∀ line ∈ cut '\n' block, isFence line = false)
    (body : List Char) :
    (read (assemble block body)).map (·.properties) = (ofBlock? block).map (·.getD []) := by
  rw [read, cutBlock?_assemble hblock]
  cases h : ofBlock? block with
  | error cause => simp [h, Except.map]
  | ok found =>
      cases found with
      | none => simp [h, Except.map]
      | some properties => simp [h, Except.map]

/-- **Reading a note takes it apart without loss, and undoes its assembly.**  What is read from a
note is the whole of it as body; or it is the body that comes after the opening line, the block, the
closing line and line feeds, with the properties that the block gives, and these sections make up
the note.  The other way round, let a block hold no fence.  If it gives properties and a body does
not start with a line feed, then these properties and this body are read from the note assembled of
the two; and whatever the body, the properties are the same. -/
theorem read_sections :
    (∀ (content : List Char) (f : Frontmatter), read content = .ok f →
      f = ⟨[], content⟩ ∨
        ∃ s : Sections, s.text = content ∧ s.body = f.body ∧ BlockGives s.blockText f.properties) ∧
    ∀ block : List Char, (∀ line ∈ cut '\n' block, isFence line = false) →
      (∀ (body : List Char) (properties : Properties), body.head? ≠ some '\n' →
        BlockGives block properties → read (assemble block body) = .ok ⟨properties, body⟩) ∧
      ∀ body other : List Char,
        (read (assemble block body)).map (·.properties) =
          (read (assemble block other)).map (·.properties) := by
  constructor
  · intro content f h
    rcases read_eq_ok_iff.mp h with ⟨-, rfl⟩ | ⟨block, body, hcut, h⟩
    · exact Or.inl rfl
    · rcases h with ⟨properties, hgives, rfl⟩ | ⟨-, rfl⟩
      · obtain ⟨s, htext, rfl, rfl⟩ := exists_sections hcut
        exact Or.inr ⟨s, htext, rfl, hgives⟩
      · exact Or.inl rfl
  · intro block hblock
    refine ⟨fun body properties hbody hgives => ?_, fun body other => ?_⟩
    · have hcut := cutBlock?_assemble hblock body
      rw [dropWhile_of_head? hbody] at hcut
      exact read_eq_ok_iff.mpr (Or.inr ⟨block, body, hcut, Or.inl ⟨properties, hgives, rfl⟩⟩)
    · rw [properties_read_assemble hblock, properties_read_assemble hblock]

/-- Whether what a block comes to is one property whose value is a text. -/
def isSoleText (name word : String) : Except Fault (Option Properties) → Bool
  | .ok (some [(n, .text t)]) => n == name && t == word
  | _ => false

lemma blockGives_of_isSoleText {name word : String}
    (h : isSoleText name word (ofBlock? block) = true) :
    BlockGives block [(name, .text word)] := by
  refine ofBlock?_eq_some_iff.mp ?_
  unfold isSoleText at h
  split at h
  · next n t hblock =>
      obtain ⟨hname, hword⟩ := Bool.and_eq_true_iff.mp h
      rw [hblock, beq_iff_eq.mp hname, beq_iff_eq.mp hword]
  · cases h

/-- A block with a line of hyphens in it, and a body that starts with a fence. -/
theorem read_sections_rule :
    ∃ block body : List Char, block = "rule: -----".toList ∧ body = "---\nText".toList ∧
      read (assemble block body) = .ok ⟨[("rule", .text "-----")], body⟩ ∧
      ∃ s : Sections, s.text = assemble block body ∧ s.body = body ∧
        BlockGives s.blockText [("rule", .text "-----")] := by
  refine ⟨_, _, rfl, rfl, ?_⟩
  have hgives : BlockGives "rule: -----".toList [("rule", .text "-----")] :=
    blockGives_of_isSoleText (by decide +kernel)
  have hread := (read_sections.2 "rule: -----".toList (by decide)).1 "---\nText".toList _
    (by decide) hgives
  have hparts := (read_sections.1 _ _ hread).resolve_left fun h => by
    have hproperties := congrArg Frontmatter.properties h
    cases hproperties
  exact ⟨hread, hparts⟩

end NoteCheck.Frontmatter
