import NoteCheck.Checker.Checking
import NoteCheck.Proofs.Outcome

/-!
# What is found in a list of notes

To check a list of notes is to look at each of them and to keep those that have violations.  How a
note is looked at does not matter here: it may be in the note itself or in what is remembered of it.
The list is checked if each of its notes can be looked at, and then what is found in one note does
not depend on the others (`findingsBy_eq_ok_iff`).
-/

namespace NoteCheck

open Act (Finding)

/-- What a look at a note contributes to the findings. -/
def findingOf (n : Note) : Except Fault (List Violation) → Option Finding
  | .ok found => if found.isEmpty then none else some (n, found)
  | .error _ => none

/-- The notes that have violations, with these, when each note is looked at in turn. -/
def findingsBy (look : Note → Except Fault (List Violation)) :
    List Note → Except Fault (List Finding)
  | [] => .ok []
  | n :: rest => do
      let found ← look n
      let others ← findingsBy look rest
      return if found.isEmpty then others else (n, found) :: others

variable {look look' : Note → Except Fault (List Violation)} {notes : List Note}

lemma findingsBy_congr (h : ∀ n ∈ notes, look n = look' n) :
    findingsBy look notes = findingsBy look' notes := by
  induction notes with
  | nil => rfl
  | cons n rest ih =>
      rw [findingsBy, findingsBy, h n List.mem_cons_self,
        ih fun m hm => h m (List.mem_cons_of_mem _ hm)]

/-- Notes are checked if each of them can be looked at, and what is found in them is what is found
in each. -/
lemma findingsBy_eq_ok_iff {findings : List Finding} :
    findingsBy look notes = .ok findings ↔
      (∀ n ∈ notes, ∃ found, look n = .ok found) ∧
        findings = notes.filterMap fun n => findingOf n (look n) := by
  induction notes generalizing findings with
  | nil => simp [findingsBy, eq_comm]
  | cons n rest ih =>
      rw [findingsBy, Fault.bind_eq_ok_iff]
      constructor
      · rintro ⟨found, hfound, h⟩
        obtain ⟨others, hothers, h⟩ := Fault.bind_eq_ok_iff.mp h
        obtain ⟨hall, rfl⟩ := ih.mp hothers
        refine ⟨List.forall_mem_cons.mpr ⟨⟨found, hfound⟩, hall⟩, ?_⟩
        rw [← Except.ok.inj h, List.filterMap_cons, hfound, findingOf]
        cases found.isEmpty <;> rfl
      · rintro ⟨hall, rfl⟩
        obtain ⟨⟨found, hfound⟩, hrest⟩ := List.forall_mem_cons.mp hall
        refine ⟨found, hfound, Fault.bind_eq_ok_iff.mpr ⟨_, ih.mpr ⟨hrest, rfl⟩, ?_⟩⟩
        rw [List.filterMap_cons, hfound, findingOf]
        cases found.isEmpty <;> rfl

/-- If notes are not checked, then one of them cannot be looked at. -/
lemma exists_of_findingsBy_eq_error {cause : Fault} (h : findingsBy look notes = .error cause) :
    ∃ n ∈ notes, look n = .error cause := by
  induction notes with
  | nil => exact absurd h (by simp [findingsBy])
  | cons n rest ih =>
      rw [findingsBy] at h
      rcases Fault.bind_eq_error_iff.mp h with h | ⟨found, -, h⟩
      · exact ⟨n, List.mem_cons_self, h⟩
      · rcases Fault.bind_eq_error_iff.mp h with h | ⟨others, -, h⟩
        · obtain ⟨m, hm, hcause⟩ := ih h
          exact ⟨m, List.mem_cons_of_mem _ hm, hcause⟩
        · exact absurd h (by simp)

end NoteCheck
