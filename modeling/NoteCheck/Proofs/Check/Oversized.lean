import NoteCheck.Check.Violation
import NoteCheck.Proofs.Number.Range
import NoteCheck.Proofs.Outcome

/-!
# When a check fails

To check a property is to look at its value, and there is one kind of value that cannot be looked
at: an integer so large that it has no place among the doubles (`Value.IsOversized`).  It makes the
check fail whatever type is declared, even one that has no rule, but only where something is
declared at all and the property is not exempt (`IsChecked`).  Nothing else makes a check fail
(`violations_eq_error_iff`).
-/

namespace NoteCheck

namespace Value

/-- Whether a value is an integer beyond the range of the doubles. -/
def IsOversized (v : Value) : Prop :=
  ∃ i : Int, v = .int i ∧ Binary64.overflow ≤ i.natAbs

variable {v : Value} {cause : Fault}

lemma isFiniteNumber_eq_error_iff :
    v.isFiniteNumber = .error cause ↔ v.IsOversized ∧ cause = .beyondDouble := by
  cases v with
  | int i =>
      rw [isFiniteNumber]
      have hrange := Binary64.ofInt?_eq_none_iff i
      cases h : Binary64.ofInt? i with
      | none =>
          rw [h] at hrange
          have hbig := hrange.mp rfl
          simp only [IsOversized, Value.int.injEq, exists_eq_left', hbig, true_and]
          simp [eq_comm]
      | some x =>
          rw [h] at hrange
          have hsmall : ¬ Binary64.overflow ≤ i.natAbs := fun hbig =>
            absurd (hrange.mpr hbig) (by simp)
          simp only [IsOversized, Value.int.injEq, exists_eq_left', hsmall, false_and]
          simp
  | _ => simp [isFiniteNumber, IsOversized]

/-- What a value looks like cannot be told of an oversized integer, and can be of all else. -/
lemma shape_eq_error_iff : v.shape = .error cause ↔ v.IsOversized ∧ cause = .beyondDouble := by
  cases v with
  | int i =>
      rw [← isFiniteNumber_eq_error_iff, shape, Fault.bind_eq_error_iff]
      simp
  | text s =>
      rw [shape]
      split <;> simp [IsOversized]
  | _ => simp [shape, IsOversized]

end Value

lemma PropertyType.accepts_eq_ok {t : PropertyType} {v : Value} (h : ¬ v.IsOversized) :
    ∃ yes, t.accepts v = .ok yes := by
  cases t with
  | number =>
      cases hnumber : v.isFiniteNumber with
      | error cause => exact absurd (Value.isFiniteNumber_eq_error_iff.mp hnumber).1 h
      | ok yes => exact ⟨yes, hnumber⟩
  | _ => exact ⟨_, rfl⟩

lemma conforms_eq_ok {v : Value} (declared : Value) (h : ¬ v.IsOversized) :
    ∃ yes, conforms v declared = .ok yes := by
  rw [conforms]
  split
  · exact ⟨true, rfl⟩
  · split
    · exact PropertyType.accepts_eq_ok h
    · exact ⟨true, rfl⟩

/-- Whether a schema has a property checked. -/
def IsChecked (schema property : Value) : Prop :=
  isExempt property = false ∧ (declared? schema property).isSome = true

variable {schema : Value} {cause : Fault}

/-- A check of one property fails on oversized integers, for every declared type. -/
lemma checkProperty_eq_error_iff {property v : Value} :
    checkProperty schema property v = .error cause ↔
      cause = .beyondDouble ∧ IsChecked schema property ∧ v.IsOversized := by
  rw [checkProperty, IsChecked]
  cases hexempt : isExempt property with
  | true => simp
  | false =>
      cases hdeclared : declared? schema property with
      | none => simp
      | some expected =>
          simp only [Bool.false_eq_true, if_false, Option.isSome_some, and_self, true_and]
          rw [Fault.bind_eq_error_iff, Value.shape_eq_error_iff]
          constructor
          · rintro (⟨hbig, rfl⟩ | ⟨actual, hactual, h⟩)
            · exact ⟨rfl, hbig⟩
            · by_cases hbig : v.IsOversized
              · have hshape := Value.shape_eq_error_iff.mpr ⟨hbig, rfl⟩
                exact absurd (hshape.symm.trans hactual) (by simp)
              · obtain ⟨yes, hyes⟩ := conforms_eq_ok (.text expected) hbig
                rw [hyes] at h
                exact absurd h (by simp)
          · rintro ⟨rfl, hbig⟩
            exact Or.inl ⟨hbig, rfl⟩

lemma entryViolations_eq_error_iff {entries : List (Value × Value)} :
    entryViolations schema entries = .error cause ↔
      cause = .beyondDouble ∧
        ∃ entry ∈ entries, IsChecked schema entry.1 ∧ entry.2.IsOversized := by
  induction entries with
  | nil => simp [entryViolations]
  | cons entry rest ih =>
      obtain ⟨property, v⟩ := entry
      rw [entryViolations, Fault.bind_eq_error_iff, checkProperty_eq_error_iff]
      constructor
      · rintro (⟨rfl, hchecked⟩ | ⟨first, -, h⟩)
        · exact ⟨rfl, _, List.mem_cons_self, hchecked⟩
        · rcases Fault.bind_eq_error_iff.mp h with h | ⟨others, -, h⟩
          · obtain ⟨rfl, entry, hentry, hchecked⟩ := ih.mp h
            exact ⟨rfl, entry, List.mem_cons_of_mem _ hentry, hchecked⟩
          · exact absurd h (by simp)
      · rintro ⟨rfl, entry, hentry, hchecked⟩
        rcases List.mem_cons.mp hentry with rfl | hentry
        · exact Or.inl ⟨rfl, hchecked⟩
        · cases hfirst : checkProperty schema property v with
          | error cause =>
              obtain ⟨-, hfirst⟩ := checkProperty_eq_error_iff.mp hfirst
              exact Or.inl ⟨rfl, hfirst⟩
          | ok first =>
              refine Or.inr ⟨first, rfl, Fault.bind_eq_error_iff.mpr (Or.inl ?_)⟩
              exact ih.mpr ⟨rfl, entry, hentry, hchecked⟩

/-- **When a check fails.**  A frontmatter cannot be checked if and only if one of its properties is
an oversized integer and is checked. -/
theorem violations_eq_error_iff {frontmatter : Value} :
    violations schema frontmatter = .error cause ↔
      cause = .beyondDouble ∧
        ∃ entry ∈ frontmatter.entries?.getD [],
          IsChecked schema entry.1 ∧ entry.2.IsOversized :=
  entryViolations_eq_error_iff

end NoteCheck
