import NoteCheck.Proofs.Disk.DataFile
import NoteCheck.Proofs.Disk.StoredText
import NoteCheck.Proofs.Settings.Overlay

/-!
# Settings that are saved are the settings

Saving lays what is given over the members of the settings file, writes them, and comes to its end
if they can be written (`saveSettings_eq_ok_iff`).  The file then holds them, if reading JSON undoes
writing it.

* `storedSettings_save` — all three settings can be saved: what was read from a file can be written.
* **`saveSettings_changes`** — whatever is saved, just the keys of settings that are given change.
-/

namespace NoteCheck

open NoteCheck.Json (AreStorable)

/-- Whether reading undoes writing for a value. -/
def Json.IsReadBack (v : Value) : Prop :=
  read (write 0 v).text = .ok v

namespace Settings

variable {s : Settings} {stored : List (Value × Value)}

lemma overlay_toEntries (s : Settings) (stored : List (Value × Value)) :
    overlay s.toEntries stored =
      Value.insert (.text "debounce_ms") (.int s.debounceMillis)
        (Value.insert (.text "show_inline_warnings") (.bool s.inlineWarnings)
          (Value.insert (.text "enable_auto_check") (.bool s.autoCheck) stored)) := by
  obtain ⟨hauto, hinline, hdelay⟩ := lookup_toEntries s
  simp only [overlay, keys, List.foldl_cons, List.foldl_nil, hauto, hinline, hdelay]

/-- The key of a setting leads to the setting that was laid over. -/
lemma lookup_overlay {k : String} (hk : k ∈ keys) :
    Value.lookup (.text k) (overlay s.toEntries stored) = Value.lookup (.text k) s.toEntries := by
  obtain ⟨hauto, hinline, hdelay⟩ := lookup_toEntries s
  rw [(isLaidOver_overlay s.toEntries stored).settled k hk]
  simp only [keys, List.mem_cons, List.not_mem_nil, or_false] at hk
  rcases hk with rfl | rfl | rfl
  · rw [hauto, Option.some_or]
  · rw [hinline, Option.some_or]
  · rw [hdelay, Option.some_or]

/-- Settings that were laid over are read back. -/
lemma ofEntries_overlay : ofEntries (overlay s.toEntries stored) = s := by
  obtain ⟨hauto, hinline, hdelay⟩ := lookup_toEntries s
  rw [ofEntries, boolAt, boolAt, intAt, lookup_overlay (by decide), lookup_overlay (by decide),
    lookup_overlay (by decide), hauto, hinline, hdelay]

lemma areStorable_overlay (h : AreStorable stored)
    (hdelay : (Text.intText? s.debounceMillis).isSome = true) :
    AreStorable (overlay s.toEntries stored) := by
  rw [overlay_toEntries]
  exact ((h.insert _ (.bool _)).insert _ (.bool _)).insert _ (.int hdelay)

/-- A wait that is read from a file can be written again. -/
lemma intText?_isSome_of_ofEntries (h : AreStorable stored) :
    (Text.intText? (ofEntries stored).debounceMillis).isSome = true := by
  rw [ofEntries]
  dsimp only
  rw [intAt]
  split
  · next i hlookup =>
      obtain ⟨k, hmem⟩ := Value.mem_of_lookup hlookup
      cases h.values _ hmem with
      | int hi => exact hi
  · decide

end Settings

namespace Disk

variable {d d' : Disk} {given stored : List (Value × Value)} {s : Settings}

lemma settings_eq_ok_iff :
    d.settings = .ok s ↔ ∃ stored, d.storedSettings = .ok stored ∧ Settings.ofEntries stored = s :=
  Fault.map_eq_ok_iff

lemma storedSettings_of_readData (h : d.tree.readData d.settingsFile = .ok (.map stored)) :
    d.storedSettings = .ok stored := by
  rw [storedSettings, h]
  rfl

/-- Just what is withheld from the readers of the settings file keeps the settings from being read. -/
lemma storedSettings_eq_error_iff {cause : Fault} :
    d.storedSettings = .error cause ↔ d.tree.Withholds d.settingsFile cause := by
  rw [← Tree.readData_eq_other_iff, storedSettings]
  rcases d.tree.readData d.settingsFile with (_ | _ | fault) | v <;> simp

/-- What is read of the settings file, if it holds a value. -/
lemma storedSettings_eq_ok (h : d.storedSettings = .ok stored) :
    (∃ v, d.tree.readData d.settingsFile = .ok v ∧ v.entries?.getD [] = stored) ∨ stored = [] := by
  rw [storedSettings] at h
  split at h
  · next v hread => exact Or.inl ⟨v, hread, Except.ok.inj h⟩
  · exact Or.inr (Except.ok.inj h).symm
  · exact Or.inr (Except.ok.inj h).symm
  · cases h

/-- What stands in the settings file can be stored. -/
lemma areStorable_of_storedSettings (h : d.storedSettings = .ok stored) : AreStorable stored := by
  rcases storedSettings_eq_ok h with ⟨v, hdata, rfl⟩ | rfl
  · obtain ⟨cs, -, hread⟩ := Tree.readData_eq_ok_iff.mp hdata
    cases Json.isStorable_of_read hread with
    | map hkeys hvalues => exact ⟨hkeys, hvalues⟩
    | _ => exact .nil
  · exact .nil

/-- A path with a null character names no file. -/
lemma settingsFile_of_storedSettings (h : d.storedSettings = .ok stored) :
    '\x00' ∉ d.settingsFile.toList := by
  intro hzero
  have hclosed := storedSettings_eq_error_iff.mpr (.textless (.zero hzero) (by simp))
  rw [h] at hclosed
  cases hclosed

/-- Whether the settings file can be made, if it is not there. -/
structure IsReady (d : Disk) : Prop where
  start : d.tree.IsDirAt (Tree.targetStart Tree.workingPlace d.settingsFile)
  free : d.tree.openFile d.settingsFile = .error .missing → d.tree.IsVacant d.settingsFile

/-- A settings file that is read as absent is not there. -/
lemma IsReady.stores (hready : d.IsReady) (h : d.storedSettings = .ok stored) :
    d.tree.Stores d.settingsFile := by
  refine ⟨hready.start, ?_⟩
  cases hopen : d.tree.openFile d.settingsFile with
  | ok found => exact Or.inl ⟨found, rfl⟩
  | error cause =>
      have htext : d.tree.readText d.settingsFile = .error (.access cause) := by
        rw [Tree.readText, if_neg (by simpa using settingsFile_of_storedSettings h), hopen]
      rw [storedSettings, Tree.readData, htext] at h
      cases cause with
      | missing => exact Or.inr (hready.free hopen)
      | _ => cases h

/-- A file whose text was written from a value holds the value. -/
lemma readData_of_readText {t : Tree} {path : String} {v : Value}
    (htext : t.readText path = .ok (Json.write 0 v).text) (hjson : Json.IsReadBack v) :
    t.readData path = .ok v :=
  Tree.readData_eq_ok_iff.mpr ⟨_, Tree.readText_eq_ok_iff.mp htext, hjson⟩

/-- What it takes to save settings. -/
lemma saveSettings_eq_ok_iff (hstored : d.storedSettings = .ok stored) :
    d.saveSettings given = (.ok (), d') ↔
      (Json.write 0 (.map (Settings.overlay given stored))).fault = none ∧
        ∃ tree, d.tree.write d.settingsFile (Text.Utf8.encode (String.ofList
            (Json.write 0 (.map (Settings.overlay given stored))).text)) 0 = .ok tree ∧
          d' = { d with tree } := by
  rw [saveSettings, hstored]
  dsimp only
  split
  · next cause hwrite => simp [hwrite]
  · next tree hwrite =>
      split
      · next cause hfault => simp [hfault]
      · next hfault => simp [hfault, hwrite, eq_comm (a := d')]

/-- **All settings can be saved:** they are written over the members of the settings file, which then
holds what was saved. -/
theorem storedSettings_save (hstored : d.storedSettings = .ok stored) (hready : d.IsReady)
    (hdelay : (Text.intText? s.debounceMillis).isSome = true)
    (hjson : Json.IsReadBack (.map (Settings.overlay s.toEntries stored))) :
    ∃ tree, d.saveSettings s.toEntries = (.ok (), { d with tree }) ∧
      Disk.storedSettings { d with tree } = .ok (Settings.overlay s.toEntries stored) := by
  have hall := Settings.areStorable_overlay (s := s) (areStorable_of_storedSettings hstored) hdelay
  have hsound := Json.write_sound (.map hall.keys hall.values) 0
  obtain ⟨tree, hwrite, htext⟩ := Tree.readText_write (hready.stores hstored)
    (settingsFile_of_storedSettings hstored) hsound.plain 0
  exact ⟨tree, (saveSettings_eq_ok_iff hstored).mpr ⟨hsound.complete, tree, hwrite, rfl⟩,
    storedSettings_of_readData (readData_of_readText htext hjson)⟩

/-! ## What saving changes -/

/-- What it means that a disk is another one with the settings among `given` saved over the members
`stored` of its settings file. -/
structure IsSaved (given stored : List (Value × Value)) (d d' : Disk) : Prop where
  file : d'.settingsFile = d.settingsFile
  /-- The file holds an object: the old one with what is given laid over it. -/
  held : ∃ members, d'.tree.readData d'.settingsFile = .ok (.map members) ∧
    Settings.IsLaidOver given stored members
  /-- A setting that is given is read as what is given, or the default in its place; and any other
  one is read as before. -/
  read : ∃ old new, d.settings = .ok old ∧ d'.settings = .ok new ∧ ∀ k ∈ Settings.keys,
    new.value? k = match Value.lookup (.text k) given with
      | some v => (Settings.value? {} k).map (Settings.orDefault · (some v))
      | none => old.value? k
  /-- To save the same again changes nothing. -/
  again : d'.saveSettings given = (.ok (), d')

/-- The file holds what was saved. -/
lemma readData_of_saveSettings (hstored : d.storedSettings = .ok stored)
    (hsave : d.saveSettings given = (.ok (), d'))
    (hjson : Json.IsReadBack (.map (Settings.overlay given stored))) :
    d'.tree.readData d'.settingsFile = .ok (.map (Settings.overlay given stored)) := by
  have hfile := settingsFile_of_storedSettings hstored
  -- What is read back from a text can be stored, so it was written as a plain text.
  have hsound := Json.write_sound (Json.isStorable_of_read hjson) 0
  obtain ⟨-, tree, hwrite, rfl⟩ := (saveSettings_eq_ok_iff hstored).mp hsave
  have hopen := Tree.openFile_of_write hwrite
  exact readData_of_readText (Tree.readText_of_openFile hfile hsound.plain hopen) hjson

/-- What was laid over the members is read as it is given, or as the default. -/
lemma value?_overlay {k : String} (hk : k ∈ Settings.keys) :
    (Settings.ofEntries (Settings.overlay given stored)).value? k =
      match Value.lookup (.text k) given with
      | some v => (Settings.value? {} k).map (Settings.orDefault · (some v))
      | none => (Settings.ofEntries stored).value? k := by
  rw [Settings.value?_ofEntries hk, Settings.value?_ofEntries hk,
    (Settings.isLaidOver_overlay given stored).settled k hk]
  split
  · next v hgiven => rw [hgiven, Option.some_or]
  · next hgiven => rw [hgiven, Option.none_or]

/-- **Saving changes just what is given:** whatever is given, and whatever was in the settings file
before. -/
theorem saveSettings_changes (hstored : d.storedSettings = .ok stored)
    (hsave : d.saveSettings given = (.ok (), d'))
    (hjson : Json.IsReadBack (.map (Settings.overlay given stored))) :
    IsSaved given stored d d' := by
  have hread := readData_of_saveSettings hstored hsave hjson
  have hnew := storedSettings_of_readData hread
  obtain ⟨hfault, tree, hwrite, rfl⟩ := (saveSettings_eq_ok_iff hstored).mp hsave
  exact {
    file := rfl
    held := ⟨_, hread, Settings.isLaidOver_overlay given stored⟩
    read := ⟨_, _, settings_eq_ok_iff.mpr ⟨_, hstored, rfl⟩, settings_eq_ok_iff.mpr ⟨_, hnew, rfl⟩,
      fun _ hk => value?_overlay hk⟩
    again := by
      rw [saveSettings_eq_ok_iff hnew, Settings.overlay_overlay]
      exact ⟨hfault, tree, Tree.write_again hwrite, rfl⟩ }

/-- A disk whose settings file holds two settings and something of another program. -/
def homeDisk : Disk where
  tree := [("home", .dir [("settings.json", .file (Text.Utf8.encode
    "\x7b\"vault_dir\": \"notes\", \"debounce_ms\": 300, \"show_inline_warnings\": false\x7d") 0)])]
  defaultVault := "/home"
  settingsFile := "/home/settings.json"

/-- A truth value for the wait, one for a flag, and something that is no setting. -/
def oddSettings : List (Value × Value) :=
  [(.text "debounce_ms", .bool true), (.text "port", .int 80),
    (.text "enable_auto_check", .bool false)]

/-- The wait that is a truth value is saved, but the default is read for it; the flag that is not
there comes last, and the other program finds the vault where it left it. -/
theorem saveSettings_changes_odd : ∃ d' members,
    homeDisk.saveSettings oddSettings = (.ok (), d') ∧
      d'.tree.readData "/home/settings.json" = .ok (.map members) ∧
      members.map (·.1) = [.text "vault_dir", .text "debounce_ms", .text "show_inline_warnings",
        .text "enable_auto_check"] ∧
      Value.lookup (.text "vault_dir") members = some (.text "notes") ∧
      Value.lookup (.text "debounce_ms") members = some (.bool true) ∧
      (∃ new, d'.settings = .ok new ∧ new.value? "debounce_ms" = some (.int 100) ∧
        new.value? "show_inline_warnings" = some (.bool false)) ∧
      d'.saveSettings oddSettings = (.ok (), d') := by
  have hstored : homeDisk.storedSettings = .ok
      [(.text "vault_dir", .text "notes"), (.text "debounce_ms", .int 300),
        (.text "show_inline_warnings", .bool false)] :=
    storedSettings_of_readData (Value.eq_ok_map (by decide +kernel))
  have hsave : homeDisk.saveSettings oddSettings =
      (.ok (), (homeDisk.saveSettings oddSettings).2) :=
    Prod.ext (by decide +kernel) rfl
  have hsaved := saveSettings_changes hstored hsave (Value.eq_ok_map (by decide +kernel))
  obtain ⟨members, hmembers, hlaid⟩ := hsaved.held
  rw [hsaved.file] at hmembers
  obtain ⟨old, new, hold, hnew, hvalues⟩ := hsaved.read
  obtain rfl : Settings.ofEntries _ = old := Except.ok.inj ((settings_eq_ok_iff.mpr
    ⟨_, hstored, rfl⟩).symm.trans hold)
  refine ⟨_, members, hsave, hmembers, ?_, ?_, ?_, ⟨new, hnew, ?_, ?_⟩, hsaved.again⟩
  · rw [hlaid.order]
    simp [Settings.keys, Settings.isNew, oddSettings, Value.lookup_cons, Value.lookup_nil,
      Value.text_same_iff]
  · rw [hlaid.kept _ (by simp [Settings.IsForeign, Settings.keys])]
    simp [Value.lookup_cons, Value.text_same_iff]
  · rw [hlaid.settled _ (by decide)]
    simp [oddSettings, Value.lookup_cons, Value.text_same_iff]
  · rw [hvalues _ (by decide)]
    simp [oddSettings, Value.lookup_cons, Value.text_same_iff, Settings.value?, Settings.toEntries,
      Settings.orDefault, Settings.isLike]
  · rw [hvalues _ (by decide)]
    simp [oddSettings, Value.lookup_cons, Value.lookup_nil, Value.text_same_iff, Settings.value?,
      Settings.toEntries, Settings.ofEntries, Settings.boolAt]

end Disk

end NoteCheck
