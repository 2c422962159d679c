import NoteCheck.Proofs.Disk.PathText

/-!
# Containment of resolved paths, by their texts and by their names

Whether a resolved path is within another one is decided on their texts: it must be that path, or begin
with its text and a slash.  Where the other path has names this comes to the same as to begin with these
names (`RealPath.isWithin_iff_isBelow`), since a text begins with a slash and a name, and so tells its
slashes apart from those between names.

The text of the root ends with a slash itself.  With one more there is none that begins with it but those
that begin with two, so the root has nothing within but itself and these (`RealPath.isWithin_root_iff`).
-/

namespace NoteCheck.RealPath

open NoteCheck.Path (IsName)

/-- Whether a path is another one or lies below it, name by name. -/
structure IsBelow (p outer : RealPath) : Prop where
  doubled : p.doubled = outer.doubled
  names : outer.names <+: p.names

variable {p outer : RealPath} {names more : List String}

/-! ## How a text begins -/

/-- Joined names begin with something that is no slash. -/
lemma exists_cons_intercalate (hne : names ≠ []) (h : ∀ name ∈ names, IsName name) :
    ∃ c cs, ("/".intercalate names).toList = c :: cs ∧ c ≠ '/' := by
  cases names with
  | nil => exact absurd rfl hne
  | cons name rest =>
      have hname := h name List.mem_cons_self
      obtain ⟨c, cs, hcs⟩ := List.exists_cons_of_ne_nil
        (mt String.toList_eq_nil_iff.mp hname.ne_empty)
      have hc : c ≠ '/' := by
        rintro rfl
        exact hname.slashless (hcs ▸ List.mem_cons_self)
      cases rest with
      | nil => exact ⟨c, cs, by rw [String.intercalate_singleton, hcs], hc⟩
      | cons next rest =>
          refine ⟨c, cs ++ "/".toList ++ ("/".intercalate (next :: rest)).toList, ?_, hc⟩
          rw [String.intercalate_cons_cons, String.toList_append, String.toList_append, hcs,
            List.cons_append, List.cons_append]

lemma not_slash_prefix_intercalate (h : ∀ name ∈ names, IsName name) (cs : List Char) :
    ¬ '/' :: cs <+: ("/".intercalate names).toList := by
  by_cases hne : names = []
  · rw [hne]
    simp
  · obtain ⟨c, rest, hrest, hc⟩ := exists_cons_intercalate hne h
    rw [hrest]
    exact fun hprefix => hc (List.cons_prefix_cons.mp hprefix).1.symm

lemma toList_text (p : RealPath) : p.text.toList =
    (if p.doubled then ['/', '/'] else ['/']) ++ ("/".intercalate p.names).toList := by
  rw [text, String.toList_append]
  cases p.doubled <;> rfl

/-- Two slashes stand at the start just if they stand for the root. -/
lemma doubled_iff (h : ∀ name ∈ p.names, IsName name) :
    p.doubled = true ↔ ['/', '/'] <+: p.text.toList := by
  rw [toList_text]
  cases p.doubled with
  | true => exact ⟨fun _ => List.prefix_append _ _, fun _ => rfl⟩
  | false =>
      refine ⟨fun hfalse => (Bool.false_ne_true hfalse).elim, fun hprefix => ?_⟩
      exact absurd (List.cons_prefix_cons.mp hprefix).2 (not_slash_prefix_intercalate h [])

/-- Three slashes never stand at the start. -/
lemma not_tripled (h : ∀ name ∈ p.names, IsName name) : ¬ ['/', '/', '/'] <+: p.text.toList := by
  intro htripled
  have hdoubled : p.doubled = true :=
    (doubled_iff h).mpr (List.IsPrefix.trans ⟨['/'], rfl⟩ htripled)
  rw [toList_text, hdoubled] at htripled
  exact not_slash_prefix_intercalate h []
    (List.cons_prefix_cons.mp (List.cons_prefix_cons.mp htripled).2).2

/-- A path that begins with the text of one that has names begins with as many slashes. -/
lemma doubled_eq_of_begins (hp : ∀ name ∈ p.names, IsName name)
    (houter : ∀ name ∈ outer.names, IsName name) (hne : outer.names ≠ [])
    (h : outer.text.toList <+: p.text.toList) : p.doubled = outer.doubled := by
  have hlong : ['/', '/'].length ≤ outer.text.toList.length := by
    obtain ⟨c, cs, hcs, -⟩ := exists_cons_intercalate hne houter
    rw [toList_text, hcs]
    cases outer.doubled <;> simp
  rw [Bool.eq_iff_iff, doubled_iff hp, doubled_iff houter]
  exact ⟨fun hprefix => List.prefix_of_prefix_length_le hprefix h hlong, fun hprefix => hprefix.trans h⟩

/-! ## Equal texts, and longer ones -/

lemma eq_of_names (hdoubled : p.doubled = outer.doubled) (hnames : p.names = outer.names) :
    p = outer := by
  cases p
  cases outer
  exact (mk.injEq _ _ _ _).mpr ⟨hdoubled, hnames⟩

/-- Different resolved paths have different texts. -/
lemma text_injective (hp : ∀ name ∈ p.names, IsName name)
    (houter : ∀ name ∈ outer.names, IsName name) (h : p.text = outer.text) : p = outer := by
  have hnames : p.names = outer.names := by rw [← namesOf_text hp, ← namesOf_text houter, h]
  have hdoubled : p.doubled = outer.doubled := by
    rw [Bool.eq_iff_iff, doubled_iff hp, doubled_iff houter, h]
  exact eq_of_names hdoubled hnames

lemma intercalate_append (hnames : names ≠ []) (hmore : more ≠ []) :
    "/".intercalate (names ++ more) = "/".intercalate names ++ "/" ++ "/".intercalate more := by
  induction names with
  | nil => exact absurd rfl hnames
  | cons name rest ih =>
      cases rest with
      | nil =>
          obtain ⟨next, others, rfl⟩ := List.exists_cons_of_ne_nil hmore
          rw [List.singleton_append, String.intercalate_cons_cons, String.intercalate_singleton]
      | cons next others =>
          have ih := ih (List.cons_ne_nil _ _)
          rw [List.cons_append] at ih
          rw [List.cons_append, List.cons_append, String.intercalate_cons_cons, ih,
            String.intercalate_cons_cons]
          simp only [String.append_assoc]

/-- A path with more names than another one begins with the text of that one and a slash. -/
lemma IsBelow.text_begins (h : p.IsBelow outer) (hne : outer.names ≠ []) (hlonger : p ≠ outer) :
    (outer.text ++ "/").toList <+: p.text.toList := by
  obtain ⟨below, hbelow⟩ := h.names
  have hmore : below ≠ [] := by
    rintro rfl
    rw [List.append_nil] at hbelow
    exact hlonger (eq_of_names h.doubled hbelow.symm)
  have htext : p.text = (outer.text ++ "/") ++ "/".intercalate below := by
    rw [text, text, h.doubled, ← hbelow, intercalate_append hne hmore]
    simp only [String.append_assoc]
  simp only [htext, String.toList_append]
  exact List.prefix_append _ _

/-! ## To be within -/

lemma isWithin_iff : p.isWithin outer = true ↔
    p.text = outer.text ∨ (outer.text ++ "/").toList <+: p.text.toList := by
  rw [isWithin, Bool.or_eq_true, decide_eq_true_eq, List.isPrefixOf_iff_prefix]

/-- **To be within a path that has names** is to be that path or to lie below it. -/
theorem isWithin_iff_isBelow (hp : ∀ name ∈ p.names, IsName name)
    (houter : ∀ name ∈ outer.names, IsName name) (hne : outer.names ≠ []) :
    p.isWithin outer = true ↔ p.IsBelow outer := by
  constructor
  · intro h
    have hnames := names_prefix_of_isWithin hp houter h
    rcases isWithin_iff.mp h with hsame | hprefix
    · rw [text_injective hp houter hsame]
      exact ⟨rfl, List.prefix_rfl⟩
    · rw [String.toList_append] at hprefix
      exact ⟨doubled_eq_of_begins hp houter hne ((List.prefix_append _ _).trans hprefix), hnames⟩
  · intro h
    by_cases hsame : p = outer
    · exact isWithin_iff.mpr (Or.inl (congrArg text hsame))
    · exact isWithin_iff.mpr (Or.inr (h.text_begins hne hsame))

/-- **To be within the root** is to be the root, or to begin with two slashes where the root is one. -/
theorem isWithin_root_iff (hp : ∀ name ∈ p.names, IsName name) (hroot : outer.names = []) :
    p.isWithin outer = true ↔ p = outer ∨ outer.doubled = false ∧ p.doubled = true := by
  have houter : ∀ name ∈ outer.names, IsName name := by simp [hroot]
  have hsame : p.text = outer.text ↔ p = outer :=
    ⟨text_injective hp houter, congrArg text⟩
  have hslash : (outer.text ++ "/").toList <+: p.text.toList ↔
      outer.doubled = false ∧ p.doubled = true := by
    rw [String.toList_append, toList_text, hroot]
    cases outer.doubled with
    | true => exact ⟨fun h => absurd h (not_tripled hp), fun h => nomatch h.1⟩
    | false => exact ⟨fun h => ⟨rfl, (doubled_iff hp).mpr h⟩, fun h => (doubled_iff hp).mp h.2⟩
  rw [isWithin_iff, hsame, hslash]

end NoteCheck.RealPath
