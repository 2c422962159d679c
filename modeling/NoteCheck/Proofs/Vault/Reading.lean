import NoteCheck.Proofs.Disk.Nesting
import NoteCheck.Vault.Notes

/-!
# The two halves of reading a note

To read a note is to find the text of its file, and then to read the frontmatter in that text.  The
first half is about paths and files only, the second about texts only; what can go wrong in the one
has nothing to do with what can go wrong in the other.
-/

namespace NoteCheck

/-- The note at a path whose file has this text and was last changed at this time. -/
def Note.ofText (path : String) (text : List Char) (mtime : Int) : Except Fault Note := do
  let f ← Frontmatter.read text
  return ⟨path, .int mtime, f.properties.toValue⟩

lemma Note.path_of_ofText {path : String} {text : List Char} {mtime : Int} {n : Note}
    (h : Note.ofText path text mtime = .ok n) : n.path = path := by
  obtain ⟨f, -, h⟩ := Fault.bind_eq_ok_iff.mp h
  rw [← Except.ok.inj h]

namespace Disk

/-- The text and the time of last change of the note at a path below the vault, if it can be
read. -/
def noteText? (d : Disk) (path vault : String) : Except Fault (Option (List Char × Int)) :=
  if Vault.isNoteName path then do
    let (real, within) ← d.safePath path vault
    if !within then return none
    match d.tree.openFile real.text with
    | .error _ => return none
    | .ok (octets, mtime) =>
        return (Text.Utf8.decode? octets).map fun cs => (Text.unifyLines cs, mtime)
  else return none

variable {d : Disk} {path vault : String}

/-- Reading a note, in two halves. -/
lemma readNote_eq (d : Disk) (path vault : String) :
    d.readNote path vault = do
      match ← d.noteText? path vault with
      | none => return none
      | some (text, mtime) => return some (← Note.ofText path text mtime) := by
  rw [readNote, noteText?]
  split
  · rcases d.safePath path vault with cause | ⟨real, within⟩
    · rfl
    · simp only [Fault.ok_bind]
      cases within with
      | false => rfl
      | true =>
          simp only [Bool.not_true, Bool.false_eq_true, if_false]
          rcases d.tree.openFile real.text with cause | ⟨octets, mtime⟩
          · rfl
          · cases hcs : Text.Utf8.decode? octets with
            | none => simp [hcs]
            | some cs =>
                simp only [hcs, Option.map_some, Fault.pure_eq_ok, Fault.ok_bind, Note.ofText]
                cases Frontmatter.read (Text.unifyLines cs) <;> rfl
  · rfl

lemma readNote_eq_some_iff {n : Note} :
    d.readNote path vault = .ok (some n) ↔
      ∃ text mtime, d.noteText? path vault = .ok (some (text, mtime)) ∧
        Note.ofText path text mtime = .ok n := by
  rw [readNote_eq, Fault.bind_eq_ok_iff]
  constructor
  · rintro ⟨_ | ⟨text, mtime⟩, htext, h⟩
    · exact absurd h (by simp)
    · obtain ⟨m, hm, h⟩ := Fault.bind_eq_ok_iff.mp h
      rw [← Option.some.inj (Except.ok.inj h)]
      exact ⟨text, mtime, htext, hm⟩
  · rintro ⟨text, mtime, htext, hn⟩
    exact ⟨some (text, mtime), htext, Fault.bind_eq_ok_iff.mpr ⟨n, hn, rfl⟩⟩

/-- What it takes for the text of a note to be found. -/
lemma noteText?_eq_some_iff {text : List Char} {mtime : Int} :
    d.noteText? path vault = .ok (some (text, mtime)) ↔
      Vault.isNoteName path = true ∧
        ∃ real octets cs, d.safePath path vault = .ok (real, true) ∧
          d.tree.openFile real.text = .ok (octets, mtime) ∧
          Text.Utf8.decode? octets = some cs ∧ text = Text.unifyLines cs := by
  rw [noteText?]
  split
  · next hname =>
      rw [Fault.bind_eq_ok_iff]
      constructor
      · rintro ⟨⟨real, within⟩, hsafe, h⟩
        cases within with
        | false => exact absurd h (by simp)
        | true =>
            simp only [Bool.not_true, Bool.false_eq_true, if_false] at h
            split at h
            · exact absurd h (by simp)
            · next octets found hopen =>
                obtain ⟨cs, hcs, heq⟩ := Option.map_eq_some_iff.mp (Except.ok.inj h)
                obtain ⟨rfl, rfl⟩ := Prod.mk.inj heq
                exact ⟨hname, real, octets, cs, hsafe, hopen, hcs, rfl⟩
      · rintro ⟨-, real, octets, cs, hsafe, hopen, hcs, rfl⟩
        refine ⟨(real, true), hsafe, ?_⟩
        simp [hopen, hcs]
  · next hname => simp [hname]

/-- The text of a note is looked for without fault unless a character zero is met. -/
lemma noteText?_eq_error {cause : Fault} (h : d.noteText? path vault = .error cause) :
    cause = .zeroInPath := by
  rw [noteText?] at h
  split at h
  · rcases Fault.bind_eq_error_iff.mp h with h | ⟨⟨real, within⟩, -, h⟩
    · rcases Fault.bind_eq_error_iff.mp h with h | ⟨real, -, h⟩
      · exact Tree.realPath_eq_error h
      · rcases Fault.bind_eq_error_iff.mp h with h | ⟨outer, -, h⟩
        · exact Tree.realPath_eq_error h
        · exact absurd h (by simp)
    · dsimp only at h
      split at h
      · exact absurd h (by simp)
      · split at h <;> exact absurd h (by simp)
  · exact absurd h (by simp)

/-- A note is not read for a fault in finding its text, or in the frontmatter that stands in it. -/
lemma readNote_eq_error_iff {cause : Fault} :
    d.readNote path vault = .error cause ↔
      d.noteText? path vault = .error cause ∨
        ∃ text mtime, d.noteText? path vault = .ok (some (text, mtime)) ∧
          Frontmatter.read text = .error cause := by
  rw [readNote_eq, Fault.bind_eq_error_iff]
  refine or_congr_right ?_
  constructor
  · rintro ⟨_ | ⟨text, mtime⟩, htext, h⟩
    · exact absurd h (by simp)
    · refine ⟨text, mtime, htext, ?_⟩
      rcases Fault.bind_eq_error_iff.mp h with h | ⟨n, -, h⟩
      · rcases Fault.bind_eq_error_iff.mp h with h | ⟨f, -, h⟩
        · exact h
        · exact absurd h (by simp)
      · exact absurd h (by simp)
  · rintro ⟨text, mtime, htext, h⟩
    refine ⟨some (text, mtime), htext, Fault.bind_eq_error_iff.mpr (Or.inl ?_)⟩
    exact Fault.bind_eq_error_iff.mpr (Or.inl h)

lemma path_of_readNote {n : Note} (h : d.readNote path vault = .ok (some n)) : n.path = path := by
  obtain ⟨text, mtime, -, hn⟩ := readNote_eq_some_iff.mp h
  exact Note.path_of_ofText hn

/-- The time of a note that is read from a file is an integer. -/
lemma mtime_of_readNote {n : Note} (h : d.readNote path vault = .ok (some n)) :
    ∃ mtime, n.mtime = .int mtime := by
  obtain ⟨text, mtime, -, hn⟩ := readNote_eq_some_iff.mp h
  obtain ⟨f, -, hn⟩ := Fault.bind_eq_ok_iff.mp hn
  rw [← Except.ok.inj hn]
  exact ⟨mtime, rfl⟩

/-! ## Reading many notes -/

/-- A vault is listed without fault unless its name holds a character zero. -/
lemma notePaths_eq_error {cause : Fault} (h : d.notePaths vault = .error cause) :
    cause = .zeroInPath ∧ '\x00' ∈ (d.vaultDir vault).toList := by
  rw [notePaths] at h
  split at h
  · next hzero => exact ⟨(Except.error.inj h).symm, by simpa using hzero⟩
  · split at h
    · exact absurd h (by simp)
    · split at h <;> exact absurd h (by simp)

/-- The listing of a vault that has no directory to go down into. -/
lemma notePaths_flat {here : Place} {children : List (String × Entry)} {names : List String}
    (hzero : (d.vaultDir vault).toList.contains '\x00' = false)
    (hplace : d.tree.locate true (d.vaultDir vault) = .ok here)
    (hat : d.tree.at? here = some (.dir children))
    (hbelow : Vault.notesBelow d.tree here children = [])
    (hnames : (children.filter fun e =>
      Vault.isNoteName e.1 && !Vault.leadsToDir d.tree here e.1 e.2).map (·.1) = names)
    (hsorted : names.Pairwise fun a b => decide (a ≤ b) = true) :
    d.notePaths vault = .ok names := by
  rw [notePaths, if_neg (by rw [hzero]; exact Bool.false_ne_true), hplace]
  dsimp only
  rw [hat]
  dsimp only
  rw [Vault.notesIn, Vault.noteNames, hnames, hbelow, List.mergeSort_of_pairwise hsorted,
    List.mergeSort_nil, List.flatMap_nil, List.append_nil]

/-- The note at a path of a vault, if it can be read. -/
def noteAt (d : Disk) (path vault : String) : List Note :=
  match d.readNote path vault with
  | .ok (some n) => [n]
  | _ => []

/-- The notes of a vault, if all of them can be read. -/
def notesOf (d : Disk) (vault : String) : List Note :=
  match d.notes vault with
  | .ok notes => notes
  | .error _ => []

lemma mem_noteAt_iff {n : Note} :
    n ∈ d.noteAt path vault ↔ d.readNote path vault = .ok (some n) := by
  rw [noteAt]
  split
  · next m h => simp [h, eq_comm]
  · next h => simp only [List.not_mem_nil, false_iff]; exact h n

/-- Several notes are read if each of them can be, and then each is what it is when read alone. -/
lemma readNotes_eq_ok_iff {paths : List String} {notes : List Note} :
    d.readNotes vault paths = .ok notes ↔
      (∀ path ∈ paths, ∃ found, d.readNote path vault = .ok found) ∧
        notes = paths.flatMap fun path => d.noteAt path vault := by
  induction paths generalizing notes with
  | nil => simp [readNotes, eq_comm]
  | cons path rest ih =>
      rw [readNotes, Fault.bind_eq_ok_iff]
      constructor
      · rintro ⟨first, hfirst, h⟩
        obtain ⟨others, hothers, h⟩ := Fault.bind_eq_ok_iff.mp h
        obtain ⟨hall, rfl⟩ := ih.mp hothers
        refine ⟨List.forall_mem_cons.mpr ⟨⟨first, hfirst⟩, hall⟩, ?_⟩
        rw [← Except.ok.inj h, List.flatMap_cons, noteAt, hfirst]
        cases first <;> rfl
      · rintro ⟨hall, rfl⟩
        obtain ⟨⟨first, hfirst⟩, hrest⟩ := List.forall_mem_cons.mp hall
        refine ⟨first, hfirst, Fault.bind_eq_ok_iff.mpr ⟨_, ih.mpr ⟨hrest, rfl⟩, ?_⟩⟩
        rw [List.flatMap_cons, noteAt, hfirst]
        cases first <;> rfl

/-- If several notes are not read, then one of them is not. -/
lemma exists_of_readNotes_eq_error {paths : List String} {cause : Fault}
    (h : d.readNotes vault paths = .error cause) :
    ∃ path ∈ paths, d.readNote path vault = .error cause := by
  induction paths with
  | nil => exact absurd h (by simp [readNotes])
  | cons path rest ih =>
      rw [readNotes] at h
      rcases Fault.bind_eq_error_iff.mp h with h | ⟨first, -, h⟩
      · exact ⟨path, List.mem_cons_self, h⟩
      · rcases Fault.bind_eq_error_iff.mp h with h | ⟨others, -, h⟩
        · obtain ⟨p, hp, hcause⟩ := ih h
          exact ⟨p, List.mem_cons_of_mem _ hp, hcause⟩
        · exact absurd h (by simp)

end Disk

end NoteCheck
