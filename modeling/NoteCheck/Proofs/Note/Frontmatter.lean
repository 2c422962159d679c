import NoteCheck.Note.Frontmatter
import NoteCheck.Proofs.Yaml.Building
import NoteCheck.Proofs.Yaml.Keys

/-!
# What reading a note can run into

Whatever a note holds, its frontmatter is read, or the reading ends in one of the faults that YAML
knows: there is no other reason.  Naming the properties adds none, since no key is a collection and
an integer that is too long to be written out is a fault that is known already.

* **`read_eq_error`**: the faults of reading a note.
-/

namespace NoteCheck

lemma Value.keyText_eq_error {v : Value} {cause : Fault} (hv : v.isAtom = true)
    (h : v.keyText = .error cause) : cause = .numeralTooLong := by
  cases v with
  | int i =>
      rw [keyText] at h
      split at h
      · cases h
      · exact (Except.error.inj h).symm
  | null => cases h
  | bool b => cases h
  | float x => cases h
  | text s => cases h
  | bytes octets => cases h
  | date d => cases h
  | timestamp t => cases h
  | list items => cases hv
  | tuple items => cases hv
  | set members => cases hv
  | map entries => cases hv
  | cycle up => cases hv

namespace Frontmatter

/-- The faults that the text of a note can hold. -/
def faults : List Fault :=
  Yaml.cuttingFaults ++ Yaml.buildingFaults

lemma ofEntries_eq_error {entries : List (Value × Value)} {cause : Fault}
    (hkeys : ∀ e ∈ entries, e.1.isAtom = true) (h : ofEntries entries = .error cause) :
    cause = .numeralTooLong := by
  rw [ofEntries] at h
  generalize ([] : Properties) = found at h
  induction entries generalizing found with
  | nil => cases h
  | cons e rest ih =>
      rw [List.foldlM_cons] at h
      rcases Fault.bind_eq_error_iff.mp h with h | ⟨more, -, h⟩
      · rcases Fault.bind_eq_error_iff.mp h with h | ⟨name, -, h⟩
        · exact Value.keyText_eq_error (hkeys e List.mem_cons_self) h
        · cases h
      · exact ih (fun e he => hkeys e (List.mem_cons_of_mem _ he)) more h

lemma ofBlock?_eq_error {block : List Char} {cause : Fault} (h : ofBlock? block = .error cause) :
    cause ∈ faults := by
  rw [ofBlock?] at h
  split at h
  · next es hload =>
      cases hes : ofEntries es with
      | ok properties =>
          rw [hes] at h
          cases h
      | error met =>
          rw [hes] at h
          rw [← Except.error.inj h, ofEntries_eq_error (Yaml.isAtom_of_load hload) hes]
          decide
  · cases h
  · next met hload =>
      rw [← Except.error.inj h]
      exact List.mem_append.mpr (Yaml.load_trouble hload)
  · cases h

/-- **Reading a note** succeeds, or it ends in one of these faults, whatever the note holds. -/
theorem read_eq_error {content : List Char} {cause : Fault} (h : read content = .error cause) :
    cause ∈ faults := by
  rw [read] at h
  split at h
  · cases h
  · rcases Fault.bind_eq_error_iff.mp h with h | ⟨found, -, h⟩
    · exact ofBlock?_eq_error h
    · cases found with
      | none => cases h
      | some properties => cases h

end Frontmatter

end NoteCheck
