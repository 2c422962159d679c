import NoteCheck.Proofs.Cache.Fetch
import NoteCheck.Proofs.Check.Oversized
import NoteCheck.Proofs.Checker.Acts
import NoteCheck.Proofs.Checker.Findings
import NoteCheck.Proofs.Note.Frontmatter
import NoteCheck.Proofs.Vault.Reading

/-!
# Checking a whole vault

What is found in a vault is what is found in each of its notes alone: checking one note changes
nothing for the next one, since no two notes of a listing that have one path are different
(`checkNote_again`).

But a vault is checked only if each of its notes can be checked.  A note that is missing, that lies
outside or that is no text is left out, and malformed YAML counts as no frontmatter; still there are
notes that cannot be checked by themselves, and one of them is enough to *spoil* the whole vault
(`Checker.Spoils`): a frontmatter that is well-formed but holds a value that cannot be made, such as
a day that does not exist, and an oversized integer where a type is declared.  What a note holds can
spoil a vault in no other way (`spoilingFaults`).

* **`checkAll_alone`**: when a vault is checked, and what is found then.
* `checkAll_spoiled`: one odd note keeps the violations of another from being found.
-/

namespace NoteCheck

open Act (Finding)

/-! ## Notes that spoil a vault -/

/-- Why the note at a path keeps a vault from being checked, if it does. -/
inductive Checker.Spoils (c : Checker) (d : Disk) (path : String) : Fault → Prop
  /-- There is a character zero on the way to its file. -/
  | zero (h : d.noteText? path c.vault.path = .error .zeroInPath) : Spoils c d path .zeroInPath
  /-- Its frontmatter holds a value that cannot be made. -/
  | frontmatter {text : List Char} {mtime : Int} {cause : Fault}
      (htext : d.noteText? path c.vault.path = .ok (some (text, mtime)))
      (h : Frontmatter.read text = .error cause) : Spoils c d path cause
  /-- It is not remembered, and an oversized integer stands where a type is declared. -/
  | number {n : Note} {entry : Value × Value}
      (hread : d.readNote path c.vault.path = .ok (some n))
      (hnew : c.cache.current? n.path n.mtime = none)
      (hentry : entry ∈ n.frontmatter.entries?.getD [])
      (hchecked : IsChecked (.map c.schema) entry.1) (h : entry.2.IsOversized) :
      Spoils c d path .beyondDouble

/-- The faults by which notes spoil a vault. -/
def spoilingFaults : List Fault :=
  .zeroInPath :: Frontmatter.faults

lemma Checker.Spoils.mem_spoilingFaults {c : Checker} {d : Disk} {path : String} {cause : Fault}
    (h : c.Spoils d path cause) : cause ∈ spoilingFaults := by
  cases h with
  | zero htext => decide
  | frontmatter htext hfault =>
      exact List.mem_cons_of_mem _ (Frontmatter.read_eq_error hfault)
  | number hread hnew hentry hchecked hbig => decide

namespace Act

variable {d : Disk} {desk : Desk} {n : Note} {path : String} {cause : Fault}

/-- The violations of a note are those that are remembered, or else those that are there. -/
lemma checkNote_result (n : Note) (desk : Desk) :
    ((checkNote n false).runAt desk).1 =
      (desk.checker.cache.current? n.path n.mtime).elim
        (violations (.map desk.checker.schema) n.frontmatter) .ok := by
  rw [result_checkNote, Cache.fetch_result_eq]

/-- **A note alone.**  The notes that cannot be checked alone are those that spoil a vault. -/
lemma checkFile_eq_error_iff :
    ((checkFile d path false).runAt desk).1 = .error cause ↔ desk.checker.Spoils d path cause := by
  rw [runAt_checkFile]
  constructor
  · intro h
    split at h
    · next hread =>
        rw [Except.error.inj h] at hread
        rcases Disk.readNote_eq_error_iff.mp hread with htext | ⟨text, mtime, htext, hfault⟩
        · obtain rfl := Disk.noteText?_eq_error htext
          exact .zero htext
        · exact .frontmatter htext hfault
    · exact absurd h (by simp)
    · next n hread =>
        have hresult := checkNote_result n desk
        split at h
        · exact absurd h (by simp)
        · next hcheck =>
            rw [hcheck, Except.error.inj h] at hresult
            cases hnew : desk.checker.cache.current? n.path n.mtime with
            | some found =>
                rw [hnew] at hresult
                exact absurd hresult (by simp)
            | none =>
                rw [hnew] at hresult
                obtain ⟨rfl, entry, hentry, hchecked, hbig⟩ :=
                  violations_eq_error_iff.mp hresult.symm
                exact .number hread hnew hentry hchecked hbig
  · intro h
    cases h with
    | zero htext =>
        rw [Disk.readNote_eq_error_iff.mpr (Or.inl htext)]
    | frontmatter htext hfault =>
        rw [Disk.readNote_eq_error_iff.mpr (Or.inr ⟨_, _, htext, hfault⟩)]
    | number hread hnew hentry hchecked hbig =>
        rename_i n entry
        have hresult := checkNote_result n desk
        rw [hnew, Option.elim_none,
          violations_eq_error_iff.mpr ⟨rfl, entry, hentry, hchecked, hbig⟩] at hresult
        rw [hread]
        dsimp only
        generalize (checkNote n false).runAt desk = checked at hresult ⊢
        obtain ⟨result, left⟩ := checked
        obtain rfl : result = .error .beyondDouble := hresult
        rfl

/-! ## Checking one note after another -/

/-- Checking a note does not change what is found in a note of another path. -/
lemma checkNote_of_ne {m : Note} {found : List Violation} {left : Desk}
    (h : (checkNote n false).runAt desk = (.ok found, left)) (hpath : m.path ≠ n.path) :
    ((checkNote m false).runAt left).1 = ((checkNote m false).runAt desk).1 := by
  have hschema := (alike_checkNote n false desk).schema_eq
  have hcache := cache_checkNote n false desk
  rw [h] at hschema hcache
  rw [checkNote_result m left, checkNote_result m desk, hcache, hschema,
    Cache.current?_fetch_of_ne _ hpath]

/-- **One note after another.**  Checking a note does not change what is found in any note, unless
another one is known by the same path. -/
lemma checkNote_again {m : Note} {found : List Violation} {left : Desk}
    (hself : n.mtime.same n.mtime = true)
    (h : (checkNote n false).runAt desk = (.ok found, left)) (hm : m.path = n.path → m = n) :
    ((checkNote m false).runAt left).1 = ((checkNote m false).runAt desk).1 := by
  by_cases hpath : m.path = n.path
  · obtain rfl := hm hpath
    have hcache := cache_checkNote m false desk
    rw [h] at hcache
    have hresult := checkNote_result m desk
    rw [h, ← Cache.fetch_result_eq] at hresult
    rw [checkNote_result m left, hcache, Cache.current?_fetch_self hself hresult.symm, h]
    rfl
  · exact checkNote_of_ne h hpath

/-- Notes as they are read from the files at one moment: no two notes of one path are different, and
their times can be compared. -/
structure Coherent (notes : List Note) : Prop where
  one : ∀ a ∈ notes, ∀ b ∈ notes, a.path = b.path → a = b
  timed : ∀ a ∈ notes, a.mtime.same a.mtime = true

lemma Coherent.tail {rest : List Note} (h : Coherent (n :: rest)) : Coherent rest :=
  ⟨fun a ha b hb => h.one a (List.mem_cons_of_mem _ ha) b (List.mem_cons_of_mem _ hb),
    fun a ha => h.timed a (List.mem_cons_of_mem _ ha)⟩

/-- **Checking several notes** comes to looking at each of them alone, from where all of them
started. -/
lemma checkNotes_result {notes : List Note} (h : Coherent notes) (desk : Desk) :
    ((checkNotes notes).runAt desk).1 =
      findingsBy (fun n => ((checkNote n false).runAt desk).1) notes := by
  induction notes generalizing desk with
  | nil => rfl
  | cons n rest ih =>
      rw [runAt_checkNotes_cons, findingsBy]
      rcases hn : (checkNote n false).runAt desk with ⟨cause | found, left⟩
      · rfl
      · have hagain : ∀ m ∈ rest,
            ((checkNote m false).runAt left).1 = ((checkNote m false).runAt desk).1 := fun m hm =>
          checkNote_again (h.timed n List.mem_cons_self) hn
            (h.one m (List.mem_cons_of_mem _ hm) n List.mem_cons_self)
        have hrest := ih h.tail left
        rw [findingsBy_congr hagain] at hrest
        rw [Fault.ok_bind, ← hrest]
        dsimp only
        rcases (checkNotes rest).runAt left with ⟨cause | others, last⟩ <;> rfl

/-! ## The notes of a vault -/

lemma coherent_flatMap_noteAt (d : Disk) (vault : String) (paths : List String) :
    Coherent (paths.flatMap fun path => d.noteAt path vault) := by
  have hread : ∀ n ∈ paths.flatMap fun path => d.noteAt path vault,
      d.readNote n.path vault = .ok (some n) := by
    intro n hn
    obtain ⟨path, -, hn⟩ := List.mem_flatMap.mp hn
    have h := Disk.mem_noteAt_iff.mp hn
    rwa [Disk.path_of_readNote h]
  constructor
  · intro a ha b hb hpath
    have h := hread a ha
    rw [hpath, hread b hb] at h
    exact (Option.some.inj (Except.ok.inj h)).symm
  · intro a ha
    obtain ⟨mtime, hmtime⟩ := Disk.mtime_of_readNote (hread a ha)
    rw [hmtime]
    simp [Value.same, Value.sameAtom, Value.number?, Value.sameNumber]

/-- The note at a path with its violations, if it can be read and has any: what checking this note
alone finds. -/
def findingAlone (d : Disk) (desk : Desk) (path : String) : Option Finding :=
  match d.readNote path desk.checker.vault.path, ((checkFile d path false).runAt desk).1 with
  | .ok (some n), .ok (some found) => if found.isEmpty then none else some (n, found)
  | _, _ => none

lemma checkFile_result (hread : d.readNote path desk.checker.vault.path = .ok (some n)) :
    ((checkFile d path false).runAt desk).1 = ((checkNote n false).runAt desk).1.map some := by
  rw [runAt_checkFile, hread]
  dsimp only
  rcases (checkNote n false).runAt desk with ⟨cause | found, left⟩ <;> rfl

lemma filterMap_noteAt (d : Disk) (desk : Desk) (path : String) :
    ((d.noteAt path desk.checker.vault.path).filterMap fun n =>
      findingOf n ((checkNote n false).runAt desk).1) = (findingAlone d desk path).toList := by
  rw [Disk.noteAt, findingAlone]
  rcases hread : d.readNote path desk.checker.vault.path with cause | _ | n
  · rfl
  · rfl
  · rw [checkFile_result hread]
    dsimp only
    rw [List.filterMap_cons, List.filterMap_nil]
    rcases ((checkNote n false).runAt desk).1 with cause | found
    · rfl
    · rw [findingOf, Except.map]
      dsimp only
      cases found.isEmpty <;> rfl

/-- **Checking a vault** comes to reading all of its notes and then looking at each of them alone,
from where the check began. -/
lemma checkAll_result (d : Disk) (desk : Desk) :
    ((checkAll d).runAt desk).1 = (do
      let paths ← d.notePaths desk.checker.vault.path
      let notes ← d.readNotes desk.checker.vault.path paths
      findingsBy (fun n => ((checkNote n false).runAt desk).1) notes) := by
  rw [runAt_checkAll, Disk.notes]
  cases hpaths : d.notePaths desk.checker.vault.path with
  | error cause => rfl
  | ok paths =>
      rw [Fault.ok_bind, Fault.ok_bind]
      cases hread : d.readNotes desk.checker.vault.path paths with
      | error cause => rfl
      | ok notes =>
          have hnotes := (Disk.readNotes_eq_ok_iff.mp hread).2
          have hcoherent := coherent_flatMap_noteAt d desk.checker.vault.path paths
          rw [← hnotes] at hcoherent
          rw [Fault.ok_bind, ← checkNotes_result hcoherent desk]
          dsimp only
          rcases (checkNotes notes).runAt desk with ⟨cause | findings, left⟩ <;> rfl

/-- A vault that is checked has notes that can all be checked alone, and what is found in the vault
is what is found in each of them. -/
lemma checkAll_eq_ok {findings : List Finding}
    (h : ((checkAll d).runAt desk).1 = .ok findings) :
    ∃ paths, d.notePaths desk.checker.vault.path = .ok paths ∧
      (∀ path ∈ paths, ∃ found, ((checkFile d path false).runAt desk).1 = .ok found) ∧
      findings = paths.filterMap (findingAlone d desk) := by
  rw [checkAll_result] at h
  obtain ⟨paths, hpaths, h⟩ := Fault.bind_eq_ok_iff.mp h
  obtain ⟨notes, hread, h⟩ := Fault.bind_eq_ok_iff.mp h
  obtain ⟨hreadable, rfl⟩ := Disk.readNotes_eq_ok_iff.mp hread
  obtain ⟨hall, hfindings⟩ := findingsBy_eq_ok_iff.mp h
  refine ⟨paths, hpaths, fun path hpath => ?_, ?_⟩
  · obtain ⟨read, hread⟩ := hreadable path hpath
    cases read with
    | none =>
        rw [runAt_checkFile, hread]
        exact ⟨none, rfl⟩
    | some n =>
        have hmem : n ∈ paths.flatMap fun path => d.noteAt path desk.checker.vault.path :=
          List.mem_flatMap.mpr ⟨path, hpath, Disk.mem_noteAt_iff.mpr hread⟩
        obtain ⟨found, hn⟩ := hall n hmem
        rw [checkFile_result hread, hn]
        exact ⟨some found, rfl⟩
  · rw [hfindings, List.filterMap_flatMap, List.filterMap_eq_flatMap_toList]
    simp only [filterMap_noteAt]

/-- A vault that is not checked cannot be listed, or has a note that cannot be checked alone, and
for the same reason. -/
lemma checkAll_eq_error (h : ((checkAll d).runAt desk).1 = .error cause) :
    d.notePaths desk.checker.vault.path = .error cause ∨
      ∃ paths, d.notePaths desk.checker.vault.path = .ok paths ∧
        ∃ path ∈ paths, ((checkFile d path false).runAt desk).1 = .error cause := by
  rw [checkAll_result] at h
  rcases Fault.bind_eq_error_iff.mp h with hpaths | ⟨paths, hpaths, h⟩
  · exact Or.inl hpaths
  · rcases Fault.bind_eq_error_iff.mp h with hread | ⟨notes, hread, h⟩
    · obtain ⟨path, hpath, hfault⟩ := Disk.exists_of_readNotes_eq_error hread
      refine Or.inr ⟨paths, hpaths, path, hpath, ?_⟩
      rw [runAt_checkFile, hfault]
    · obtain ⟨-, rfl⟩ := Disk.readNotes_eq_ok_iff.mp hread
      obtain ⟨n, hn, hfault⟩ := exists_of_findingsBy_eq_error h
      obtain ⟨path, hpath, hn⟩ := List.mem_flatMap.mp hn
      refine Or.inr ⟨paths, hpaths, path, hpath, ?_⟩
      rw [checkFile_result (Disk.mem_noteAt_iff.mp hn), hfault]
      rfl

/-- **When a vault is checked, and what is found.**  A vault is checked if and only if it can be
listed and no note of the listing spoils it.  Then the findings are those notes, in the order of the
listing, for which checking the note alone finds violations, each with what it finds.  If the vault
is not checked, the reason is one of the faults by which notes spoil a vault: that of a note that
does, unless the name of the vault holds a character zero. -/
theorem checkAll_alone (d : Disk) (desk : Desk) :
    ((∃ findings, ((checkAll d).runAt desk).1 = .ok findings) ↔
      ∃ paths, d.notePaths desk.checker.vault.path = .ok paths ∧
        ∀ path ∈ paths, ∀ cause, ¬ desk.checker.Spoils d path cause) ∧
    (∀ findings, ((checkAll d).runAt desk).1 = .ok findings →
      ∃ paths, d.notePaths desk.checker.vault.path = .ok paths ∧
        findings = paths.filterMap (findingAlone d desk)) ∧
    (∀ cause, ((checkAll d).runAt desk).1 = .error cause → cause ∈ spoilingFaults ∧
      ((cause = .zeroInPath ∧ '\x00' ∈ (d.vaultDir desk.checker.vault.path).toList) ∨
        ∃ paths, d.notePaths desk.checker.vault.path = .ok paths ∧
          ∃ path ∈ paths, desk.checker.Spoils d path cause)) := by
  refine ⟨⟨?_, ?_⟩, ?_, ?_⟩
  · rintro ⟨findings, h⟩
    obtain ⟨paths, hpaths, hall, -⟩ := checkAll_eq_ok h
    refine ⟨paths, hpaths, fun path hpath cause hspoils => ?_⟩
    obtain ⟨found, hfound⟩ := hall path hpath
    exact absurd (hfound.symm.trans (checkFile_eq_error_iff.mpr hspoils)) (by simp)
  · rintro ⟨paths, hpaths, hnone⟩
    cases h : ((checkAll d).runAt desk).1 with
    | ok findings => exact ⟨findings, rfl⟩
    | error cause =>
        rcases checkAll_eq_error h with hlisting | ⟨paths', hpaths', path, hpath, hfault⟩
        · exact absurd (hpaths.symm.trans hlisting) (by simp)
        · obtain rfl := Except.ok.inj (hpaths.symm.trans hpaths')
          exact absurd (checkFile_eq_error_iff.mp hfault) (hnone path hpath cause)
  · intro findings h
    obtain ⟨paths, hpaths, -, hfindings⟩ := checkAll_eq_ok h
    exact ⟨paths, hpaths, hfindings⟩
  · intro cause h
    rcases checkAll_eq_error h with hlisting | ⟨paths, hpaths, path, hpath, hfault⟩
    · have hzero := Disk.notePaths_eq_error hlisting
      refine ⟨?_, Or.inl hzero⟩
      rw [hzero.1]
      decide
    · have hspoils := checkFile_eq_error_iff.mp hfault
      exact ⟨hspoils.mem_spoilingFaults, Or.inr ⟨paths, hpaths, path, hpath, hspoils⟩⟩

/-! ## One odd note -/

/-- Two notes: in one a number is declared and a word stands, in the other stands a day of a
thirteenth month, and nothing is declared. -/
def oddNotes : Tree :=
  [("bad.md", .file [45, 45, 45, 10, 110, 58, 32, 120, 10, 45, 45, 45, 10] 1),
    ("odd.md", .file [45, 45, 45, 10, 100, 58, 32, 50, 48, 50, 52, 45, 49, 51, 45, 48, 49, 10, 45,
      45, 45, 10] 1)]

/-- The vault that holds them. -/
def oddVault : Disk where
  tree := [("home", .dir [("v", .dir oddNotes)])]
  defaultVault := "/home/v"
  settingsFile := "/home/settings.json"

/-- A checker of that vault that has checked nothing so far. -/
def oddDesk : Desk where
  checker := {
    vault := .directory "/home/v"
    schema := [(.text "n", .text "number")]
    debouncer := { delay := some 100000 } }

lemma notePaths_oddVault : oddVault.notePaths "/home/v" = .ok ["bad.md", "odd.md"] := by
  have hplace : oddVault.tree.locate true (oddVault.vaultDir "/home/v") = .ok ["home", "v"] := by
    decide +kernel
  have hat : oddVault.tree.at? ["home", "v"] = some (.dir oddNotes) := rfl
  exact Disk.notePaths_flat (by decide) hplace hat (by decide +kernel) (by decide +kernel)
    (by decide)

/-- **One odd note.**  Checked alone, the first note has a violation; but the vault is not checked,
because of the day in the second. -/
theorem checkAll_spoiled :
    (∃ found, ((checkFile oddVault "bad.md" false).runAt oddDesk).1 = .ok (some found) ∧
      found ≠ []) ∧
    ((checkAll oddVault).runAt oddDesk).1 = .error .noSuchMoment := by
  constructor
  · have hbad : (((checkFile oddVault "bad.md" false).runAt oddDesk).1.toOption.bind id).any
        (fun found => !found.isEmpty) = true := by decide +kernel
    rcases h : ((checkFile oddVault "bad.md" false).runAt oddDesk).1 with cause | _ | found
    · rw [h] at hbad
      exact absurd hbad (by simp [Except.toOption])
    · rw [h] at hbad
      exact absurd hbad (by simp [Except.toOption])
    · rw [h] at hbad
      exact ⟨found, rfl, by simpa [Except.toOption] using hbad⟩
  · have hodd : Fault.of? (oddVault.readNotes "/home/v" ["bad.md", "odd.md"])
        = some .noSuchMoment := by decide +kernel
    rw [checkAll_result, show oddDesk.checker.vault.path = "/home/v" from rfl, notePaths_oddVault,
      Fault.ok_bind, Fault.of?_eq_some_iff.mp hodd]
    rfl

end Act

end NoteCheck
