import NoteCheck.Proofs.Checker.Publication
import NoteCheck.Proofs.Checker.SchemaFile
import NoteCheck.Proofs.Vault.Reading

/-!
# Turning to a vault that has no schema to give

To turn to a vault takes four steps: what waits is given up, the vault becomes the other one, no note
is shown any more, and the schema of the vault is loaded.  Only the last step can fail.  A schema that
is not there, or is malformed, counts as none; two faults are let through, a character zero in the
path of its file and a numeral with more digits than are read (`Disk.loadSchema_eq_error_iff`).

When it fails, the three steps before it are done and stay done, while the schema and all that is
remembered are those of the old vault.  So the checker is left halfway: it has the notes of one vault
and judges them by the other, and for a note that has the path and the time of a note of the old vault
it tells what was found in that one.

* **`switchVault_halfway`** — when turning to a vault fails, what is left then, and what a later check
  gives.
* `switchVault_not_atomic` — a run in which nothing that was there before is as it was.
-/

namespace NoteCheck

namespace Act

variable {d : Disk} {vault : VaultName} {desk left : Desk} {cause : Fault}

/-! ## What is left when turning to a vault fails -/

/-- **When turning to a vault fails:** when its schema cannot be loaded, and then all that comes
before is done. -/
lemma runAt_switchVault_eq_error_iff :
    (switchVault d vault).runAt desk = (.error cause, left) ↔
      d.loadSchema vault.path = .error cause ∧ left = turned vault desk := by
  rw [runAt_switchVault]
  rcases d.loadSchema vault.path with fault | loaded
  · simp [eq_comm]
  · simp

lemma checker_turned (vault : VaultName) (desk : Desk) :
    (turned vault desk).checker = { desk.checker with
      vault, shown := none, shownResult := none,
      debouncer := { desk.checker.debouncer with waiting := .nothing } } := by
  have hcancel : (desk.checker.debouncer.cancel desk.schedule).1
      = { desk.checker.debouncer with waiting := .nothing } := by
    rw [Debouncer.cancel]
    split <;> rfl
  rw [← hcancel]
  rfl

/-- A turned desk is the same as before only if there was nothing to turn. -/
lemma turned_eq_self_iff :
    turned vault desk = desk ↔
      desk.checker.vault = vault ∧ desk.checker.shown = none ∧ desk.checker.shownResult = none ∧
        desk.checker.debouncer.waiting = .nothing := by
  constructor
  · intro h
    have hchecker := checker_turned vault desk
    rw [h] at hchecker
    rw [hchecker]
    exact ⟨rfl, rfl, rfl, rfl⟩
  · rintro ⟨rfl, hshown, hresult, hwaiting⟩
    obtain ⟨⟨number, vault, schema, cache, ⟨delay, waiting⟩, shown, shownResult⟩, schedule, journal⟩
      := desk
    dsimp only at hshown hresult hwaiting
    subst hshown hresult hwaiting
    rfl

/-- What a check of a note in the vault comes to. -/
lemma result_checkFile {path : String} {n : Note} (force : Bool)
    (hread : d.readNote path desk.checker.vault.path = .ok (some n)) :
    ((checkFile d path force).runAt desk).1 =
      (desk.checker.cache.fetch n.path n.mtime force
        (violations (.map desk.checker.schema) n.frontmatter)).result.map some := by
  rw [← result_checkNote, runAt_checkFile, hread]
  dsimp only
  rcases (checkNote n force).runAt desk with ⟨cause | found, last⟩ <;> rfl

/-- **Turning to a vault that fails.**  It fails only for a character zero in the path of the vault's
schema, or for a numeral in the schema that has too many digits.  Then the checker has the new vault,
no note is shown, and nothing waits; the schema, the cache, the delay, the number and the journal are
those from before.  So nothing has changed only if the vault was the same, no note and no result was
shown and nothing waited.  And whatever becomes of the files, a later check of a note that the new
vault holds gives what the old schema and the old cache have to say of it. -/
theorem switchVault_halfway (d : Disk) (vault : VaultName) (desk left : Desk) (cause : Fault) :
    ((switchVault d vault).runAt desk = (.error cause, left) ↔
      ((cause = .zeroInPath ∧ '\x00' ∈ (d.typesFile vault.path).toList) ∨
        (cause = .numeralTooLong ∧ ∃ cs, d.tree.readText (d.typesFile vault.path) = .ok cs ∧
          Json.read cs = .error .numeralTooLong)) ∧
      left = {
        checker := { desk.checker with
          vault, shown := none, shownResult := none,
          debouncer := { desk.checker.debouncer with waiting := .nothing } }
        schedule := (desk.checker.debouncer.cancel desk.schedule).2
        journal := desk.journal }) ∧
    ((switchVault d vault).runAt desk = (.error cause, left) →
      (left = desk ↔
        desk.checker.vault = vault ∧ desk.checker.shown = none ∧ desk.checker.shownResult = none ∧
          desk.checker.debouncer.waiting = .nothing) ∧
      ∀ (later : Disk) (path : String) (force : Bool) (n : Note),
        later.readNote path vault.path = .ok (some n) →
        ((checkFile later path force).runAt left).1 =
          (desk.checker.cache.fetch n.path n.mtime force
            (violations (.map desk.checker.schema) n.frontmatter)).result.map some) := by
  have hturned : turned vault desk = {
      checker := { desk.checker with
        vault, shown := none, shownResult := none,
        debouncer := { desk.checker.debouncer with waiting := .nothing } }
      schedule := (desk.checker.debouncer.cancel desk.schedule).2
      journal := desk.journal } := by
    rw [← checker_turned]
    rfl
  refine ⟨?_, fun h => ?_⟩
  · rw [runAt_switchVault_eq_error_iff, Disk.loadSchema_eq_error_iff, hturned]
  · obtain ⟨-, rfl⟩ := runAt_switchVault_eq_error_iff.mp h
    refine ⟨turned_eq_self_iff, fun later path force n hread => ?_⟩
    have hvault : (turned vault desk).checker.vault = vault := rfl
    rw [result_checkFile force (by rw [hvault]; exact hread), checker_turned]

end Act

/-! ### A numeral that is too long -/

namespace Session

lemma take_switchVault_of_error {s : Session} {vault : VaultName} {cause : Fault} {left : Desk}
    (h : (Act.switchVault s.disk vault).runAt s.desk = (.error cause, left)) :
    s.take (.request (.switchVault vault)) = (.error cause, { s with desk := left }) := by
  rw [take_request, Checker.Request.act, Act.runAt_bind, h]

/-- Two vaults.  The first declares a number, and in its note stands a word.  The schema of the second
is a numeral that is too long; in one of its notes stands a number, in the other a word. -/
def longNumeral : Disk where
  tree := [
    ("v", .dir [
      (".obsidian", .dir [("types.json", .file [123, 34, 116, 121, 112, 101, 115, 34, 58, 123, 34,
        110, 34, 58, 34, 110, 117, 109, 98, 101, 114, 34, 125, 125] 1)]),
      ("a.md", .file [45, 45, 45, 10, 110, 58, 32, 120, 10, 45, 45, 45, 10] 1)]),
    ("w", .dir [
      (".obsidian", .dir [("types.json", .file
        (Text.Utf8.encode (String.ofList (List.replicate (Text.maxDigits + 1) '1'))) 1)]),
      ("a.md", .file [45, 45, 45, 10, 110, 58, 32, 49, 10, 45, 45, 45, 10] 1),
      ("b.md", .file [45, 45, 45, 10, 110, 58, 32, 120, 10, 45, 45, 45, 10] 1)])]
  defaultVault := "/v"
  settingsFile := "/s"

lemma loadSchema_longNumeral : longNumeral.loadSchema "/w" = .error .numeralTooLong := by
  have hplace : longNumeral.tree.locate true (longNumeral.typesFile "/w")
      = .ok ["w", ".obsidian", "types.json"] := by
    decide +kernel
  exact Disk.loadSchema_of_ones (Nat.lt_succ_self _) (by decide +kernel) hplace rfl

/-- The checker of the first vault has checked its note and shows it. -/
def beforeSwitch : Session :=
  run ⟨longNumeral, (Desk.open? longNumeral 0 "/v" (some 100000) {}).2, []⟩
    [.request (.checkFile "a.md" false), .request (.activate (some "a.md") true)]

/-- It is told to turn to the second vault. -/
def afterSwitch : Except Fault Checker.Reply × Session :=
  beforeSwitch.take (.request (.switchVault (.directory "/w")))

lemma runAt_switchVault_longNumeral :
    (Act.switchVault longNumeral (.directory "/w")).runAt beforeSwitch.desk
      = (.error .numeralTooLong, Act.turned (.directory "/w") beforeSwitch.desk) :=
  Act.runAt_switchVault_eq_error_iff.mpr ⟨loadSchema_longNumeral, rfl⟩

lemma afterSwitch_eq :
    afterSwitch = (.error .numeralTooLong,
      { beforeSwitch with desk := Act.turned (.directory "/w") beforeSwitch.desk }) := by
  have hdisk : beforeSwitch.disk = longNumeral := rfl
  exact take_switchVault_of_error (by rw [hdisk, runAt_switchVault_longNumeral])

/-- Whether a reply says that the note at a path has violations. -/
def saysSome : Except Fault Checker.Reply → Bool
  | .ok (.ofPath (some (_ :: _))) => true
  | _ => false

lemma exists_of_saysSome {reply : Except Fault Checker.Reply} (h : saysSome reply = true) :
    ∃ found, found ≠ [] ∧ reply = .ok (.ofPath (some found)) := by
  unfold saysSome at h
  split at h
  · exact ⟨_, List.cons_ne_nil _ _, rfl⟩
  · exact absurd h (by simp)

/-- **Halfway.**  Turning to the second vault fails.  Before it, the checker had the first vault, its
note was shown, and a check of it waited; after it, the checker has the second vault, no note is shown
and nothing waits.  It finds violations in both notes of the second vault, which declares nothing: in
the one that holds a word, as the first vault declares a number, and even in the one that holds a
number, since its path and time are those of the note that was checked in the first vault. -/
theorem switchVault_not_atomic :
    (Desk.open? longNumeral 0 "/v" (some 100000) {}).1.isOk = true ∧
      afterSwitch.1 = .error .numeralTooLong ∧
      (beforeSwitch.desk.checker.vault = .directory "/v" ∧
        beforeSwitch.desk.checker.shown = some "a.md" ∧
        beforeSwitch.desk.checker.debouncer.isPending = true) ∧
      (afterSwitch.2.desk.checker.vault = .directory "/w" ∧
        afterSwitch.2.desk.checker.shown = none ∧
        afterSwitch.2.desk.checker.debouncer.isPending = false) ∧
      ∀ path ∈ ["a.md", "b.md"], ∃ found, found ≠ [] ∧
        (afterSwitch.2.take (.request (.checkFile path false))).1 = .ok (.ofPath (some found)) := by
  rw [afterSwitch_eq]
  refine ⟨by decide +kernel, rfl, by decide +kernel, by decide +kernel, fun path hpath => ?_⟩
  apply exists_of_saysSome
  revert path
  decide +kernel

/-- The check of the note that only the second vault holds comes to what the first vault's schema has to
say of it. -/
theorem switchVault_halfway_longNumeral :
    (Act.switchVault longNumeral (.directory "/w")).runAt beforeSwitch.desk
        = (.error .numeralTooLong, afterSwitch.2.desk) ∧
      afterSwitch.2.desk ≠ beforeSwitch.desk ∧
      ∃ n, longNumeral.readNote "b.md" "/w" = .ok (some n) ∧
        ((Act.checkFile longNumeral "b.md" false).runAt afterSwitch.2.desk).1 =
          (beforeSwitch.desk.checker.cache.fetch n.path n.mtime false
            (violations (.map beforeSwitch.desk.checker.schema) n.frontmatter)).result.map some := by
  have hrun : (Act.switchVault longNumeral (.directory "/w")).runAt beforeSwitch.desk
      = (.error .numeralTooLong, afterSwitch.2.desk) := by
    rw [runAt_switchVault_longNumeral, afterSwitch_eq]
  have hnote : (longNumeral.noteAt "b.md" "/w").isEmpty = false := by decide +kernel
  obtain ⟨n, hn⟩ := List.exists_mem_of_ne_nil _ (List.isEmpty_eq_false_iff.mp hnote)
  obtain ⟨hsame, hlater⟩ := (Act.switchVault_halfway longNumeral (.directory "/w")
    beforeSwitch.desk afterSwitch.2.desk .numeralTooLong).2 hrun
  refine ⟨hrun, fun h => ?_, n, Disk.mem_noteAt_iff.mp hn,
    hlater longNumeral "b.md" false n (Disk.mem_noteAt_iff.mp hn)⟩
  exact absurd (hsame.mp h).1 (by decide +kernel)

end Session

end NoteCheck
