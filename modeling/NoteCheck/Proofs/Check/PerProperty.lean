import NoteCheck.Proofs.Check.Oversized

/-!
# Violations, property by property

A check goes through the entries of a frontmatter one by one, and what it reports for an entry is
about the property of that entry (`property_of_checkProperty`).  So the violations of some of the
properties are those that the entries of these properties give by themselves
(`entryViolations_filter`), and a property that the schema does not have checked has none.
-/

namespace NoteCheck

variable {schema property v : Value} {entries : List (Value × Value)} {found : List Violation}

/-- What a check of a property reports is about that property, and the property is checked. -/
lemma property_of_checkProperty {first : Violation}
    (h : checkProperty schema property v = .ok (some first)) :
    first.property = property ∧ IsChecked schema property := by
  rw [checkProperty] at h
  split at h
  · cases h
  · next hexempt =>
      split at h
      · cases h
      · next expected hdeclared =>
          obtain ⟨actual, -, h⟩ := Fault.bind_eq_ok_iff.mp h
          obtain ⟨conforming, -, h⟩ := Fault.bind_eq_ok_iff.mp h
          cases conforming with
          | true => cases h
          | false =>
              rw [← Option.some.inj (Except.ok.inj h)]
              exact ⟨rfl, by simpa using hexempt, by rw [hdeclared]; rfl⟩

lemma entryViolations_cons_eq_ok_iff :
    entryViolations schema ((property, v) :: entries) = .ok found ↔
      ∃ first rest, checkProperty schema property v = .ok first ∧
        entryViolations schema entries = .ok rest ∧ first.toList ++ rest = found := by
  rw [entryViolations]
  constructor
  · intro h
    obtain ⟨first, hfirst, h⟩ := Fault.bind_eq_ok_iff.mp h
    obtain ⟨rest, hrest, h⟩ := Fault.bind_eq_ok_iff.mp h
    exact ⟨first, rest, hfirst, hrest, Except.ok.inj h⟩
  · rintro ⟨first, rest, hfirst, hrest, rfl⟩
    rw [hfirst, hrest]
    rfl

/-- What the check of an entry reports is among the violations. -/
lemma mem_entryViolations (h : entryViolations schema entries = .ok found)
    (hentry : (property, v) ∈ entries) {x : Violation}
    (hx : checkProperty schema property v = .ok (some x)) : x ∈ found := by
  induction entries generalizing found with
  | nil => cases hentry
  | cons entry entries ih =>
      obtain ⟨first, rest, hfirst, hrest, rfl⟩ := entryViolations_cons_eq_ok_iff.mp h
      rcases List.mem_cons.mp hentry with rfl | hentry
      · rw [← Except.ok.inj (hx.symm.trans hfirst)]
        exact List.mem_append_left _ (Option.mem_toList.mpr rfl)
      · exact List.mem_append_right _ (ih hrest hentry)

/-- **Violations of some properties** come from the entries of these properties alone. -/
lemma entryViolations_filter (p : Value → Bool) (h : entryViolations schema entries = .ok found) :
    entryViolations schema (entries.filter fun e => p e.1)
      = .ok (found.filter fun x => p x.property) := by
  induction entries generalizing found with
  | nil =>
      rw [← Except.ok.inj h]
      rfl
  | cons entry entries ih =>
      obtain ⟨property, v⟩ := entry
      obtain ⟨first, rest, hfirst, hrest, rfl⟩ := entryViolations_cons_eq_ok_iff.mp h
      have hall : first.toList.filter (fun x => p x.property) =
          if p property then first.toList else [] := by
        cases first with
        | none => simp
        | some x =>
            rw [Option.toList_some, List.filter_singleton, (property_of_checkProperty hfirst).1]
            cases p property <;> rfl
      rw [List.filter_cons, List.filter_append, hall]
      split
      · exact entryViolations_cons_eq_ok_iff.mpr ⟨first, _, hfirst, ih hrest, rfl⟩
      · exact ih hrest

/-- Only properties that are checked have violations. -/
lemma isChecked_of_mem (h : entryViolations schema entries = .ok found) {x : Violation}
    (hx : x ∈ found) : IsChecked schema x.property := by
  induction entries generalizing found with
  | nil =>
      rw [← Except.ok.inj h] at hx
      cases hx
  | cons entry entries ih =>
      obtain ⟨property, v⟩ := entry
      obtain ⟨first, rest, hfirst, hrest, rfl⟩ := entryViolations_cons_eq_ok_iff.mp h
      rcases List.mem_append.mp hx with hx | hx
      · rw [Option.mem_toList.mp hx] at hfirst
        obtain ⟨hproperty, hchecked⟩ := property_of_checkProperty hfirst
        rwa [hproperty]
      · exact ih hrest hx

end NoteCheck
