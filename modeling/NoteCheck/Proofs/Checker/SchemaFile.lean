import NoteCheck.Proofs.Checker.Acts
import NoteCheck.Proofs.Disk.DataFile
import NoteCheck.Proofs.Disk.StoredText
import NoteCheck.Proofs.Value.Lookup

/-!
# Which schema a file gives

The schema of a vault is what its data file declares, and a file that declares none counts as one
that declares nothing.  So do a file that is not there, cannot be opened, is not UTF-8 or holds no
JSON.  Two causes are let through: a character zero in the path of the file, and a numeral in it that
is too long (`loadSchema_eq_error_iff`).  The second is the only content of a file for which no schema
is loaded.

* **`loadSchema_absorbs`** — when a schema is loaded and which, and that a checker that is set up, that
  reloads its schema or that turns to the vault comes to the same.
* `loadSchema_overlong` — a file for which a checker cannot even be set up.
-/

namespace NoteCheck

namespace Disk

variable {d : Disk} {vault : String} {cause : Fault} {loaded : LoadedSchema}

/-! ## When a schema is loaded -/

/-- Of what is withheld only a character zero and a numeral that is too long are let through. -/
lemma loadSchema_eq_error_iff_withholds : d.loadSchema vault = .error cause ↔
    d.tree.Withholds (d.typesFile vault) cause ∧
      (cause = .zeroInPath ∨ cause = .numeralTooLong) := by
  rw [← Tree.readData_eq_other_iff]
  unfold loadSchema
  rcases hread : d.tree.readData (d.typesFile vault) with (_ | _ | fault) | v
  · simp
  · simp
  · have hcause : ∀ {fault : Fault}, fault ≠ .zeroInPath → fault ≠ .numeralTooLong →
        ¬ ((.error (.other fault) : Except DataFault Value) = .error (.other cause) ∧
          (cause = .zeroInPath ∨ cause = .numeralTooLong)) := by
      rintro fault hzero hlong ⟨h, rfl | rfl⟩
      · exact hzero (DataFault.other.inj (Except.error.inj h))
      · exact hlong (DataFault.other.inj (Except.error.inj h))
    cases Tree.readData_eq_other_iff.mp hread with
    | textless htext =>
        cases htext with
        | zero => simp +contextual [eq_comm]
        | closed => exact iff_of_false (by simp) (hcause (by simp) (by simp))
        | octets => exact iff_of_false (by simp) (hcause (by simp) (by simp))
    | numeral => simp +contextual [eq_comm]
  · simp

/-- **Which schemas cannot be loaded.**  All other faults are absorbed. -/
lemma loadSchema_eq_error_iff :
    d.loadSchema vault = .error cause ↔
      (cause = .zeroInPath ∧ '\x00' ∈ (d.typesFile vault).toList) ∨
        (cause = .numeralTooLong ∧ ∃ cs, d.tree.readText (d.typesFile vault) = .ok cs ∧
          Json.read cs = .error .numeralTooLong) := by
  simp only [loadSchema_eq_error_iff_withholds, Tree.readText_eq_ok_iff]
  constructor
  · rintro ⟨hwithholds, rfl | rfl⟩
    · cases hwithholds with
      | textless htext =>
          cases htext with
          | zero hpath => exact Or.inl ⟨rfl, hpath⟩
    · cases hwithholds with
      | textless htext => cases htext
      | numeral htext hlong => exact Or.inr ⟨rfl, _, htext, hlong⟩
  · rintro (⟨rfl, hpath⟩ | ⟨rfl, cs, htext, hlong⟩)
    · exact ⟨.textless (.zero hpath) (by simp), Or.inl rfl⟩
    · exact ⟨.numeral htext hlong, Or.inr rfl⟩

/-- A file with more ones than a numeral may have digits. -/
lemma loadSchema_of_ones {n : Nat} {place : Place} {mtime : Int} (hn : Text.maxDigits < n)
    (hzero : '\x00' ∉ (d.typesFile vault).toList)
    (hplace : d.tree.locate true (d.typesFile vault) = .ok place)
    (hfile : d.tree.at? place =
      some (.file (Text.Utf8.encode (String.ofList (List.replicate n '1'))) mtime)) :
    d.loadSchema vault = .error .numeralTooLong :=
  loadSchema_eq_error_iff.mpr (Or.inr ⟨rfl, _,
    Tree.readText_of_openFile hzero (isPlainText_replicate (by decide) n)
      (Tree.openFile_eq_ok_iff.mpr ⟨place, hplace, hfile⟩),
    Json.read_ones hn⟩)

/-! ## Which schema is loaded -/

/-- Whether the text of the schema's file is an object whose member `types` is an object with these
entries. -/
def Declares (d : Disk) (vault : String) (entries : SchemaEntries) : Prop :=
  ∃ cs members, d.tree.HasText (d.typesFile vault) cs ∧ Json.read cs = .ok (.map members) ∧
    Value.lookup (.text "types") members = some (.map entries)

lemma Declares.loadSchema {entries : SchemaEntries} (h : d.Declares vault entries) :
    d.loadSchema vault = .ok ⟨entries, none⟩ := by
  obtain ⟨cs, members, htext, hread, htypes⟩ := h
  have hdata : d.tree.readData (d.typesFile vault) = .ok (.map members) :=
    Tree.readData_eq_ok_iff.mpr ⟨cs, htext, hread⟩
  have hschema : schemaOf (.map members) = entries := by
    simp only [schemaOf, Value.entries?, Option.bind_some, htypes]
  unfold Disk.loadSchema
  rw [hdata, ← hschema]

/-- What is loaded from a file that declares nothing. -/
lemma entries_of_not_declares (hload : d.loadSchema vault = .ok loaded)
    (h : ∀ entries, ¬ d.Declares vault entries) : loaded.entries = [] := by
  unfold Disk.loadSchema at hload
  split at hload
  · next v hdata =>
      rw [← Except.ok.inj hload]
      dsimp only
      obtain ⟨cs, htext, hread⟩ := Tree.readData_eq_ok_iff.mp hdata
      rw [schemaOf]
      split
      · next entries hentries =>
          obtain ⟨w, hw, hmap⟩ := Option.bind_eq_some_iff.mp hentries
          obtain ⟨members, hmembers, htypes⟩ := Option.bind_eq_some_iff.mp hw
          obtain rfl : w = .map entries := Value.entries?_eq_some_iff.mp hmap
          obtain rfl : v = .map members := Value.entries?_eq_some_iff.mp hmembers
          exact absurd ⟨cs, members, htext, hread, htypes⟩ (h entries)
      · rfl
  · rw [← Except.ok.inj hload]
  · rw [← Except.ok.inj hload]
  · rw [← Except.ok.inj hload]
  · rw [← Except.ok.inj hload]
  · cases hload

/-! ## Who loads a schema -/

lemma vaultDir_vaultDir (d : Disk) (vault : String) :
    d.vaultDir (d.vaultDir vault) = d.vaultDir vault := by
  by_cases hempty : vault.isEmpty = true
  · have hdefault : d.vaultDir vault = d.defaultVault := if_pos hempty
    rw [hdefault, vaultDir, ite_self]
  · have hsame : d.vaultDir vault = vault := if_neg hempty
    rw [hsame, hsame]

/-- A vault has the schema of its directory. -/
lemma loadSchema_vaultDir (d : Disk) (vault : String) :
    d.loadSchema (d.vaultDir vault) = d.loadSchema vault := by
  have htypes : d.typesFile (d.vaultDir vault) = d.typesFile vault := by
    rw [typesFile, typesFile, configDir, configDir, vaultDir_vaultDir]
  unfold loadSchema
  rw [htypes]

end Disk

/-- What it means that something done at a desk comes to the schema that was loaded: it fails with
the same cause if none was, and else it succeeds and the checker has the entries. -/
structure TakesSchema {α : Type} (loading : Except Fault LoadedSchema)
    (outcome : Except Fault α × Desk) : Prop where
  failed : ∀ cause, loading = .error cause → outcome.1 = .error cause
  taken : ∀ loaded, loading = .ok loaded →
    outcome.1.isOk = true ∧ outcome.2.checker.schema = loaded.entries

section

variable {α : Type} {outcome : Except Fault α × Desk} {cause : Fault} {loaded : LoadedSchema}

lemma TakesSchema.of_error (h : outcome.1 = .error cause) : TakesSchema (.error cause) outcome where
  failed _ hcause := by rw [h, Except.error.inj hcause]
  taken _ hloaded := by cases hloaded

lemma TakesSchema.of_ok (hok : outcome.1.isOk = true)
    (hschema : outcome.2.checker.schema = loaded.entries) : TakesSchema (.ok loaded) outcome where
  failed _ hcause := by cases hcause
  taken _ hloaded := by
    rw [← Except.ok.inj hloaded]
    exact ⟨hok, hschema⟩

end

namespace Act

variable (d : Disk) (desk : Desk)

lemma takesSchema_loadSchema :
    TakesSchema (d.loadSchema desk.checker.vault.path) ((loadSchema d).runAt desk) := by
  rw [runAt_loadSchema]
  rcases d.loadSchema desk.checker.vault.path with cause | loaded
  · exact .of_error rfl
  · exact .of_ok rfl rfl

lemma takesSchema_open? (vault : String) (number : Nat) (delay : Delay)
    (schedule : Schedule Activation) :
    TakesSchema (d.loadSchema vault) (Desk.open? d number vault delay schedule) := by
  rw [Desk.open?]
  generalize hdesk : ({
      checker :=
        { number, vault := .directory (d.vaultDir vault), debouncer := ⟨delay, .nothing⟩ }
      schedule } : Desk) = desk
  have hvault : desk.checker.vault.path = d.vaultDir vault := by
    rw [← hdesk]
    rfl
  rw [← d.loadSchema_vaultDir, ← hvault]
  exact takesSchema_loadSchema d desk

lemma takesSchema_reloadSchema :
    TakesSchema (d.loadSchema desk.checker.vault.path) ((reloadSchema d).runAt desk) := by
  rw [runAt_reloadSchema]
  rcases d.loadSchema desk.checker.vault.path with cause | loaded
  · exact .of_error rfl
  · exact .of_ok rfl (by rw [checker_renewed])

lemma takesSchema_switchVault (vault : VaultName) :
    TakesSchema (d.loadSchema vault.path) ((switchVault d vault).runAt desk) := by
  rw [runAt_switchVault]
  rcases d.loadSchema vault.path with cause | loaded
  · exact .of_error rfl
  · exact .of_ok rfl (by rw [checker_renewed])

end Act

/-! ## The schema and its file -/

namespace Disk

/-- **Loading a schema absorbs what is wrong with its file,** but for one thing: it fails just for a
character zero in the path of the file, or if the reader of its text comes upon a numeral that is too
long, which then stands in the text outside its strings.  Whenever it does not fail, the schema is what
the file declares, and empty if it declares none.  Setting up a checker, reloading its schema and
turning to the vault fail and succeed with the loading, and give the checker the schema that was
loaded. -/
theorem loadSchema_absorbs (d : Disk) (vault : String) :
    (∀ cause, d.loadSchema vault = .error cause ↔
      (cause = .zeroInPath ∧ '\x00' ∈ (d.typesFile vault).toList) ∨
        (cause = .numeralTooLong ∧ ∃ cs, d.tree.HasText (d.typesFile vault) cs ∧
          Json.read cs = .error .numeralTooLong ∧ Json.HasLongNumeral (.outside 0) cs)) ∧
    (∀ loaded, d.loadSchema vault = .ok loaded →
      (∀ entries, d.Declares vault entries → loaded.entries = entries) ∧
        ((∀ entries, ¬ d.Declares vault entries) → loaded.entries = [])) ∧
    (∀ number delay schedule,
      TakesSchema (d.loadSchema vault) (Desk.open? d number vault delay schedule)) ∧
    (∀ desk : Desk, desk.checker.vault.path = vault →
      TakesSchema (d.loadSchema vault) ((Act.reloadSchema d).runAt desk)) ∧
    ∀ (desk : Desk) (name : VaultName), name.path = vault →
      TakesSchema (d.loadSchema vault) ((Act.switchVault d name).runAt desk) := by
  refine ⟨fun cause => ?_, fun loaded hload => ⟨fun entries hdeclares => ?_,
    entries_of_not_declares hload⟩, fun number delay schedule => ?_, ?_, ?_⟩
  · rw [loadSchema_eq_error_iff]
    refine or_congr_right (and_congr_right fun _ => exists_congr fun cs => ?_)
    rw [Tree.readText_eq_ok_iff]
    exact and_congr_right fun _ => (and_iff_left_of_imp Json.hasLongNumeral_of_read).symm
  · rw [hdeclares.loadSchema] at hload
    rw [← Except.ok.inj hload]
  · exact Act.takesSchema_open? d vault number delay schedule
  · rintro desk rfl
    exact Act.takesSchema_reloadSchema d desk
  · rintro desk name rfl
    exact Act.takesSchema_switchVault d desk name

/-- Three vaults: in the first a directory stands in place of the schema's file, the second declares a
number, and in the third the file holds a numeral that is too long. -/
def threeVaults : Disk where
  tree := [
    ("u", .dir [(".obsidian", .dir [("types.json", .dir [])])]),
    ("v", .dir [(".obsidian", .dir [("types.json", .file [123, 34, 116, 121, 112, 101, 115, 34, 58,
      123, 34, 110, 34, 58, 34, 110, 117, 109, 98, 101, 114, 34, 125, 125] 1)])]),
    ("w", .dir [(".obsidian", .dir [("types.json", .file
      (Text.Utf8.encode (String.ofList (List.replicate (Text.maxDigits + 1) '1'))) 1)])])]
  defaultVault := "/v"
  settingsFile := "/s"

lemma declares_threeVaults : threeVaults.Declares "/v" [(.text "n", .text "number")] := by
  have htext : (threeVaults.tree.readText (threeVaults.typesFile "/v")).toOption =
      some "\x7b\"types\":\x7b\"n\":\"number\"\x7d\x7d".toList := by decide +kernel
  have hread : Json.read "\x7b\"types\":\x7b\"n\":\"number\"\x7d\x7d".toList =
      .ok (.map [(.text "types", .map [(.text "n", .text "number")])]) := by cbv
  have htypes : Value.lookup (.text "types") [(.text "types", .map [(.text "n", .text "number")])] =
      some (.map [(.text "n", .text "number")]) := by
    simp [Value.lookup_cons, Value.text_same_iff]
  exact ⟨_, _, .of_toOption htext, hread, htypes⟩

/-- A checker of the second vault, with its schema. -/
def secondDesk : Desk where
  checker :=
    { vault := .directory "/v", schema := [(.text "n", .text "number")],
      debouncer := { delay := some 100000 } }

/-- The second vault has the schema that its file declares, and a checker that turns from it to the
first has an empty one. -/
theorem loadSchema_absorbs_threeVaults :
    (∃ loaded, threeVaults.loadSchema "/v" = .ok loaded ∧
      loaded.entries = [(.text "n", .text "number")]) ∧
    ((Act.switchVault threeVaults (.directory "/u")).runAt secondDesk).1.isOk = true ∧
    ((Act.switchVault threeVaults (.directory "/u")).runAt secondDesk).2.checker.schema = [] := by
  obtain ⟨-, hsecond, -⟩ := loadSchema_absorbs threeVaults "/v"
  obtain ⟨-, hfirst, -, -, hswitch⟩ := loadSchema_absorbs threeVaults "/u"
  have hclosed : (threeVaults.tree.readText (threeVaults.typesFile "/u")).toOption = none := by
    decide +kernel
  have hnone : ∀ entries, ¬ threeVaults.Declares "/u" entries := by
    rintro entries ⟨cs, members, htext, -⟩
    rw [Tree.readText_eq_ok_iff.mpr htext] at hclosed
    cases hclosed
  have hok : (threeVaults.loadSchema "/u").isOk = true := by decide +kernel
  obtain ⟨loaded, hload⟩ := Fault.isOk_iff.mp hok
  obtain ⟨hdone, hschema⟩ := (hswitch secondDesk (.directory "/u") rfl).taken loaded hload
  have hdeclared := (hsecond _ declares_threeVaults.loadSchema).1 _ declares_threeVaults
  refine ⟨⟨_, declares_threeVaults.loadSchema, hdeclared⟩, hdone, ?_⟩
  rw [hschema, (hfirst loaded hload).2 hnone]

/-- **The third vault has no schema,** and no checker of it can be set up. -/
theorem loadSchema_overlong :
    threeVaults.loadSchema "/w" = .error .numeralTooLong ∧
      (Desk.open? threeVaults 0 "/w" (some 100000) {}).1 = .error .numeralTooLong := by
  have hplace : threeVaults.tree.locate true (threeVaults.typesFile "/w")
      = .ok ["w", ".obsidian", "types.json"] := by
    decide +kernel
  have hload : threeVaults.loadSchema "/w" = .error .numeralTooLong :=
    loadSchema_of_ones (Nat.lt_succ_self _) (by decide +kernel) hplace rfl
  exact ⟨hload, (Act.takesSchema_open? threeVaults "/w" 0 (some 100000) {}).failed _ hload⟩

end Disk

end NoteCheck
