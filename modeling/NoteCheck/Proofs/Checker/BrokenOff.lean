import NoteCheck.Proofs.Checker.Inventory
import NoteCheck.Proofs.Check.Totality

/-!
# Checks that are broken off

A check that fails has still been made at a desk, and what it did before it failed stays done.  This
file says what that is, for every way in which checking a vault can fail.

For one note it is next to nothing: the lookup is counted, unless the check was forced, and the cache
holds what it held (`Cache.fetch_failed`).  Checking notes in turn breaks off at the first note whose
check fails, and the notes before it are checked as if they were all there are
(`runAt_checkNotes_eq_error_iff`).  So no more is lost than the check itself: what the notes before
have brought stays remembered, and since notes are forgotten only after the last check, nothing is
forgotten.

* **`checkAll_brokenOff`** — when the check of a vault is broken off, where, and what it leaves.
-/

namespace NoteCheck

namespace Cache

variable {α : Type} {c : Cache α} {path : String} {mtime : Value} {force : Bool}
  {compute : Except Fault (List α)} {cause : Fault}

/-- The cache after a lookup that found nothing; one that is forced is not counted. -/
def missed (c : Cache α) (force : Bool) : Cache α :=
  { c with misses := c.misses + if force then 0 else 1 }

@[simp] lemma entries_missed (c : Cache α) (force : Bool) : (c.missed force).entries = c.entries :=
  rfl

@[simp] lemma contains_missed (c : Cache α) (force : Bool) (p : String) :
    (c.missed force).contains p = c.contains p := rfl

/-- **A failed check of one note** counts the lookup and changes nothing else. -/
lemma fetch_failed (h : (c.fetch path mtime force compute).result = .error cause) :
    (c.fetch path mtime force compute).cache = c.missed force := by
  obtain ⟨hlooked, rfl⟩ := (fetch_eq_error_iff c path mtime force compute).mp h
  cases force with
  | true => rw [fetch_forced]; rfl
  | false =>
      rw [fetch_unknown (hlooked.resolve_left Bool.false_ne_true)]
      rfl

/-- What is remembered for a path is at most replaced by looking a path up. -/
lemma contains_fetch {p : String} (h : c.contains p = true) :
    (c.fetch path mtime force compute).cache.contains p = true := by
  rw [contains] at h ⊢
  rcases c.find?_fetch path mtime force compute p with hold | ⟨_, -, -, hnew⟩
  · rwa [hold]
  · rw [hnew]
    rfl

end Cache

namespace Act

variable {d : Disk} {desk left : Desk} {n : Note} {notes : List Note} {cause : Fault}

lemma runAt_checkNote_eq_error_iff {force : Bool} :
    (checkNote n force).runAt desk = (.error cause, left) ↔
      (force = true ∨ desk.checker.cache.current? n.path n.mtime = none) ∧
        desk.checker.schema.violationsOf n = .error cause ∧
        left = desk.withCache (desk.checker.cache.missed force) := by
  rw [SchemaEntries.violationsOf, ← and_assoc, ← Cache.fetch_eq_error_iff, runAt_checkNote]
  dsimp only
  split
  · next found hresult => simp [hresult]
  · next cause' hresult =>
      rw [hresult, Cache.fetch_failed hresult, Prod.mk.injEq, eq_comm (a := left)]

lemma runAt_checkNotes_cons_eq_error_iff :
    (checkNotes (n :: notes)).runAt desk = (.error cause, left) ↔
      (checkNote n false).runAt desk = (.error cause, left) ∨
        ∃ found next, (checkNote n false).runAt desk = (.ok found, next) ∧
          (checkNotes notes).runAt next = (.error cause, left) := by
  rw [runAt_checkNotes_cons]
  rcases (checkNote n false).runAt desk with ⟨cause' | found, next⟩
  · simp
  · dsimp only
    rcases hothers : (checkNotes notes).runAt next with ⟨cause' | others, last⟩ <;> simp [hothers]

/-- **Where checking notes breaks off:** at a note whose check fails after those of all the notes
before it have succeeded. -/
lemma runAt_checkNotes_eq_error_iff :
    (checkNotes notes).runAt desk = (.error cause, left) ↔
      ∃ before n after, notes = before ++ n :: after ∧
        ∃ between, (∃ findings, (checkNotes before).runAt desk = (.ok findings, between)) ∧
          (checkNote n false).runAt between = (.error cause, left) := by
  induction notes generalizing desk with
  | nil => simp [checkNotes]
  | cons m rest ih =>
      rw [runAt_checkNotes_cons_eq_error_iff]
      constructor
      · rintro (hm | ⟨found, next, hm, hrest⟩)
        · exact ⟨[], m, rest, rfl, desk, ⟨[], rfl⟩, hm⟩
        · obtain ⟨before, n, after, rfl, between, hbefore, hn⟩ := ih.mp hrest
          exact ⟨m :: before, n, after, rfl, between,
            runAt_checkNotes_cons_succeeds.mpr ⟨found, next, hm, hbefore⟩, hn⟩
      · rintro ⟨before, n, after, hnotes, between, hbefore, hn⟩
        cases before with
        | nil =>
            obtain ⟨rfl, -⟩ := List.cons.inj hnotes
            obtain ⟨findings, hbefore⟩ := hbefore
            obtain ⟨-, rfl⟩ := Prod.mk.inj hbefore
            exact Or.inl hn
        | cons first before =>
            obtain ⟨rfl, rfl⟩ := List.cons.inj hnotes
            obtain ⟨found, next, hm, hbefore⟩ := runAt_checkNotes_cons_succeeds.mp hbefore
            exact Or.inr ⟨found, next, hm, ih.mpr ⟨before, n, after, rfl, between, hbefore, hn⟩⟩

lemma contains_checkNotes {p : String} (notes : List Note)
    (h : desk.checker.cache.contains p = true) :
    ((checkNotes notes).runAt desk).2.checker.cache.contains p = true := by
  induction notes generalizing desk with
  | nil => exact h
  | cons n rest ih =>
      have hn : ((checkNote n false).runAt desk).2.checker.cache.contains p = true := by
        rw [cache_checkNote]
        exact Cache.contains_fetch h
      rw [runAt_checkNotes_cons]
      generalize (checkNote n false).runAt desk = checked at hn ⊢
      rcases checked with ⟨cause | found, next⟩
      · exact hn
      · have hrest := ih hn
        dsimp only
        generalize (checkNotes rest).runAt next = others at hrest ⊢
        rcases others with ⟨cause | others, last⟩ <;> exact hrest

lemma runAt_checkAll_eq_error_iff :
    (checkAll d).runAt desk = (.error cause, left) ↔
      (d.notes desk.checker.vault.path = .error cause ∧ left = desk) ∨
        ∃ notes, d.notes desk.checker.vault.path = .ok notes ∧
          (checkNotes notes).runAt desk = (.error cause, left) := by
  rw [runAt_checkAll]
  rcases d.notes desk.checker.vault.path with cause' | notes
  · simp [eq_comm]
  · dsimp only
    rcases hnotes : (checkNotes notes).runAt desk with ⟨cause' | findings, last⟩
    · simp [hnotes]
    · simp [hnotes]

/-- **When the check of a vault is broken off, and what it leaves.**  Either a note cannot be read;
then nothing has been checked, and the desk is left as it was.  Or all notes have been read, and the
check of one of them fails: those before it were checked in turn, its violations are not remembered,
and to look for them has come to a fault.  Then the desk is left as the notes before have left it,
with one lookup more that found nothing.  In either case every path that was remembered still is.

The check of a single note, whatever it was asked for and whatever is remembered, leaves the same:
when it fails, all entries are as they were, that of the note included, and a lookup is counted
unless the check was forced. -/
theorem checkAll_brokenOff (d : Disk) (desk left : Desk) (cause : Fault) :
    ((checkAll d).runAt desk = (.error cause, left) ↔
      (d.notes desk.checker.vault.path = .error cause ∧ left = desk) ∨
        ∃ before n after, d.notes desk.checker.vault.path = .ok (before ++ n :: after) ∧
          ∃ between, (∃ findings, (checkNotes before).runAt desk = (.ok findings, between)) ∧
            between.checker.cache.current? n.path n.mtime = none ∧
            desk.checker.schema.violationsOf n = .error cause ∧
            left = between.withCache (between.checker.cache.missed false)) ∧
    ((checkAll d).runAt desk = (.error cause, left) →
      ∀ path, desk.checker.cache.contains path = true → left.checker.cache.contains path = true) ∧
    ∀ (c : Cache Violation) (path : String) (mtime : Value) (force : Bool)
      (schema frontmatter : Value),
      (c.fetch path mtime force (violations schema frontmatter)).result = .error cause →
        (c.fetch path mtime force (violations schema frontmatter)).cache = c.missed force := by
  refine ⟨?_, fun h path hpath => ?_, fun c path mtime force schema frontmatter =>
    Cache.fetch_failed⟩
  · have hschema : ∀ {before between},
        (∃ findings, (checkNotes before).runAt desk = (.ok findings, between)) →
        between.checker.schema = desk.checker.schema := by
      rintro before between ⟨findings, hbefore⟩
      have halike := (alike_checkNotes before desk).schema_eq
      rwa [hbefore] at halike
    rw [runAt_checkAll_eq_error_iff]
    refine or_congr_right ⟨?_, ?_⟩
    · rintro ⟨notes, hnotes, h⟩
      obtain ⟨before, n, after, rfl, between, hbefore, hn⟩ :=
        runAt_checkNotes_eq_error_iff.mp h
      obtain ⟨hnew, hfault, hleft⟩ := runAt_checkNote_eq_error_iff.mp hn
      rw [hschema hbefore] at hfault
      exact ⟨before, n, after, hnotes, between, hbefore,
        hnew.resolve_left Bool.false_ne_true, hfault, hleft⟩
    · rintro ⟨before, n, after, hnotes, between, hbefore, hnew, hfault, hleft⟩
      rw [← hschema hbefore] at hfault
      exact ⟨_, hnotes, runAt_checkNotes_eq_error_iff.mpr ⟨before, n, after, rfl, between,
        hbefore, runAt_checkNote_eq_error_iff.mpr ⟨Or.inr hnew, hfault, hleft⟩⟩⟩
  · rcases runAt_checkAll_eq_error_iff.mp h with ⟨-, rfl⟩ | ⟨notes, -, hnotes⟩
    · exact hpath
    · have hkept := contains_checkNotes notes hpath
      rwa [hnotes] at hkept

/-! ### An oversized integer -/

/-- Two notes: a number is declared, a word stands in the first and an oversized integer in the
second. -/
def largeNotes : Tree :=
  [("a.md", .file [45, 45, 45, 10, 110, 58, 32, 120, 10, 45, 45, 45, 10] 1),
    ("b.md", .file ([45, 45, 45, 10, 110, 58, 32] ++ List.replicate 310 57 ++
      [10, 45, 45, 45, 10]) 1)]

/-- The vault that holds them. -/
def largeVault : Disk where
  tree := [("v", .dir largeNotes)]
  defaultVault := "/v"
  settingsFile := "/s"

/-- A checker of that vault that remembers an earlier version of the second note, and a note that is
gone. -/
def largeDesk : Desk where
  checker := {
    vault := .directory "/v"
    schema := [(.text "n", .text "number")]
    cache := (Cache.empty.put "b.md" (.int 0) []).put "gone.md" (.int 1) []
    debouncer := { delay := some 100000 } }

lemma notePaths_largeVault : largeVault.notePaths "/v" = .ok ["a.md", "b.md"] := by
  have hplace : largeVault.tree.locate true (largeVault.vaultDir "/v") = .ok ["v"] := by
    decide +kernel
  have hat : largeVault.tree.at? ["v"] = some (.dir largeNotes) := rfl
  exact Disk.notePaths_flat (by decide) hplace hat (by decide +kernel) (by decide +kernel)
    (by decide)

/-- The check is broken off at the second note.  The violation in the first is remembered, two
lookups have found nothing, and neither the note that is gone nor the earlier version is
forgotten. -/
theorem checkAll_brokenOff_large :
    ∃ left, (checkAll largeVault).runAt largeDesk = (.error .beyondDouble, left) ∧
      (∃ before n after, largeVault.notes "/v" = .ok (before ++ n :: after) ∧
        ∃ between, (∃ findings, (checkNotes before).runAt largeDesk = (.ok findings, between)) ∧
          left = between.withCache (between.checker.cache.missed false)) ∧
      left.checker.cache.contains "gone.md" = true ∧
      left.checker.cache.entries.map (fun e => (e.path, e.found.length))
        = [("b.md", 0), ("gone.md", 0), ("a.md", 1)] ∧
      left.checker.cache.hits = 0 ∧ left.checker.cache.misses = 2 ∧
      (largeDesk.checker.cache.fetch "b.md" (.int 1) true
        (violations (.map largeDesk.checker.schema)
          (.map [(.text "n", .int (10 ^ 400))]))).cache = largeDesk.checker.cache.missed true := by
  have hread : (largeVault.readNotes "/v" ["a.md", "b.md"]).isOk = true := by decide +kernel
  have hfault : Fault.of? ((checkNotes (["a.md", "b.md"].flatMap fun path =>
      largeVault.noteAt path "/v")).runAt largeDesk).1 = some .beyondDouble := by decide +kernel
  have hleft : let cache := ((checkNotes (["a.md", "b.md"].flatMap fun path =>
      largeVault.noteAt path "/v")).runAt largeDesk).2.checker.cache
      cache.entries.map (fun e => (e.path, e.found.length))
          = [("b.md", 0), ("gone.md", 0), ("a.md", 1)] ∧ cache.hits = 0 ∧ cache.misses = 2 := by
    decide +kernel
  obtain ⟨notes, hnotes⟩ := Fault.isOk_iff.mp hread
  have hvault : largeVault.notes "/v" = .ok notes := by
    rw [Disk.notes, notePaths_largeVault, Fault.ok_bind, hnotes]
  rw [← (Disk.readNotes_eq_ok_iff.mp hnotes).2] at hfault hleft
  have hrun : (checkAll largeVault).runAt largeDesk
      = (.error .beyondDouble, ((checkNotes notes).runAt largeDesk).2) :=
    runAt_checkAll_eq_error_iff.mpr (Or.inr ⟨notes, hvault,
      Prod.ext (Fault.of?_eq_some_iff.mp hfault) rfl⟩)
  have hlarge : violations (.map largeDesk.checker.schema)
      (.map [(.text "n", .int (10 ^ 400))]) = .error .beyondDouble :=
    violations_eq_error_iff.mpr ⟨rfl, _, List.mem_singleton_self _,
      ⟨by decide +kernel, by decide +kernel⟩, 10 ^ 400, rfl, by decide +kernel⟩
  obtain ⟨hwhere, hkept, hone⟩ := checkAll_brokenOff largeVault largeDesk
    ((checkNotes notes).runAt largeDesk).2 .beyondDouble
  refine ⟨_, hrun, ?_, hkept hrun "gone.md" (by decide), hleft.1, hleft.2.1, hleft.2.2,
    hone _ _ _ true _ _ (by rw [Cache.fetch_forced, hlarge])⟩
  rcases hwhere.mp hrun with ⟨hunread, -⟩ | ⟨before, n, after, hall, between, hbefore, -, -, hlast⟩
  · exact absurd (hvault.symm.trans hunread) (by simp)
  · exact ⟨before, n, after, hall, between, hbefore, hlast⟩

end Act

end NoteCheck
