import NoteCheck.Proofs.Cache.Fetch
import NoteCheck.Proofs.Check.Oversized

/-!
# Checks that give no answer

A check of a note is meant to answer whatever the note and the schema hold: what cannot be judged
counts as valid.  There is one thing that it cannot get past, an oversized integer under a declared
property, and that is met only when the note is really looked at.  So a check fails exactly if the
note is not remembered, or is looked at by force, and such an integer is there
(`check_eq_error_iff`); every other check gives a list of violations.

To ask what a value looks like fails for oversized integers under every declared type.  To ask
whether it conforms fails under one type only, since no other rule asks for the size of a number
(`conforms_eq_error_iff`).
-/

namespace NoteCheck

variable {v : Value} {cause : Fault}

lemma PropertyType.accepts_eq_error_iff {t : PropertyType} :
    t.accepts v = .error cause ↔ cause = .beyondDouble ∧ t = .number ∧ v.IsOversized := by
  cases t with
  | number =>
      rw [accepts, Value.isFiniteNumber_eq_error_iff]
      constructor
      · rintro ⟨hbig, rfl⟩
        exact ⟨rfl, rfl, hbig⟩
      · rintro ⟨rfl, -, hbig⟩
        exact ⟨hbig, rfl⟩
  | _ => simp [accepts]

/-- The name of a type declares that type, and no other value does. -/
lemma PropertyType.ofValue?_eq_some_iff {declared : Value} {t : PropertyType} :
    ofValue? declared = some t ↔ declared = .text t.name := by
  constructor
  · intro h
    cases declared with
    | text name => rw [name_of_ofName? h]
    | _ => exact absurd h (by simp [ofValue?])
  · rintro rfl
    exact ofName?_name t

/-- Only the rule for numbers asks how large a number is. -/
lemma conforms_eq_error_iff {declared : Value} :
    conforms v declared = .error cause ↔
      cause = .beyondDouble ∧ declared = .text PropertyType.number.name ∧ v.IsOversized := by
  rw [conforms, ← PropertyType.ofValue?_eq_some_iff]
  split
  · next hkind =>
      constructor
      · intro h
        exact absurd h (by simp)
      · rintro ⟨-, -, i, rfl, -⟩
        cases hkind
  · split
    · next t hdeclared =>
        rw [PropertyType.accepts_eq_error_iff, hdeclared, Option.some.injEq]
    · next hfree => simp [hfree]

/-- A computation is found to fail only if its result is not remembered, or is computed by force. -/
lemma Cache.fetch_eq_error_iff {α : Type} (c : Cache α) (path : String) (mtime : Value)
    (force : Bool) (compute : Except Fault (List α)) :
    (c.fetch path mtime force compute).result = .error cause ↔
      (force = true ∨ c.current? path mtime = none) ∧ compute = .error cause := by
  cases force with
  | true => simp [fetch_forced]
  | false =>
      rw [fetch_result_eq]
      cases c.current? path mtime <;> simp

/-- **When a check gives no answer.**  A check of a frontmatter against a schema, whatever both of
them are and whatever is remembered, gives a list of violations, unless the frontmatter is looked at
and holds an oversized integer for a property that the schema has checked; then it fails for that
reason.  What a value looks like can be told of every other value, and whether it conforms is told
of these too, unless it is a number that is asked for. -/
theorem check_eq_error_iff (c : Cache Violation) (path : String) (mtime : Value) (force : Bool)
    (schema frontmatter v declared : Value) (cause : Fault) :
    ((c.fetch path mtime force (violations schema frontmatter)).result = .error cause ↔
        cause = .beyondDouble ∧ (force = true ∨ c.current? path mtime = none) ∧
          ∃ entry ∈ frontmatter.entries?.getD [],
            IsChecked schema entry.1 ∧ entry.2.IsOversized) ∧
      (v.shape = .error cause ↔ cause = .beyondDouble ∧ v.IsOversized) ∧
      (conforms v declared = .error cause ↔
        cause = .beyondDouble ∧ declared = .text "number" ∧ v.IsOversized) := by
  refine ⟨?_, ?_, conforms_eq_error_iff⟩
  · rw [Cache.fetch_eq_error_iff, violations_eq_error_iff]
    constructor
    · rintro ⟨hlooked, hcause, hentry⟩
      exact ⟨hcause, hlooked, hentry⟩
    · rintro ⟨hcause, hlooked, hentry⟩
      exact ⟨hlooked, hcause, hentry⟩
  · rw [Value.shape_eq_error_iff, and_comm]

/-- An integer of four hundred zeros keeps the check of its note from giving a list, although the
property is declared to be a text and the integer is none. -/
theorem check_oversized :
    (Cache.empty.fetch "note.md" (.int 1) false
        (violations (.map [(.text "n", .text "text")])
          (.map [(.text "n", .int (10 ^ 400))]))).result = .error .beyondDouble := by
  have hchecked : IsChecked (.map [(.text "n", .text "text")]) (.text "n") :=
    ⟨by decide, by cbv⟩
  have hbig : (Value.int (10 ^ 400)).IsOversized := ⟨10 ^ 400, rfl, by decide +kernel⟩
  rw [Cache.fetch_eq_error_iff]
  exact ⟨Or.inr rfl,
    violations_eq_error_iff.mpr ⟨rfl, _, List.mem_singleton_self _, hchecked, hbig⟩⟩

end NoteCheck
