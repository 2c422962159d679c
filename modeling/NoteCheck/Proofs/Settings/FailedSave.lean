import NoteCheck.Proofs.Settings.Saving

/-!
# When saving settings fails

Saving reads the settings file, opens it for writing and then writes the members, one after another.
If it cannot be read or not be opened, nothing was touched.  But if a value that is given cannot be
written, the file has been emptied before, and it is left cut off at that value: no value can be read
from it any more, and what other programs kept in it is lost.

* **`saveSettings_failed`** — when saving fails, what is left then, and that either nothing has changed
  or everything is lost.
* `saveSettings_lost` — a wait that is no number loses the vault of another program.
-/

namespace NoteCheck

open NoteCheck.Json (AreStorable)

variable {given stored : List (Value × Value)}

/-- Whether one of the values that are given for settings cannot be written. -/
def Settings.HasUnwritable (given : List (Value × Value)) : Prop :=
  ∃ k ∈ Settings.keys, ∃ v, Value.lookup (.text k) given = some v ∧ ¬ v.IsWritable

/-- Of the members that are to be written only those can break off the writing that are given. -/
lemma Settings.exists_unwritable (hstored : AreStorable stored)
    (hfault : (Json.write 0 (.map (overlay given stored))).fault ≠ none) :
    ∃ front k v back, overlay given stored = front ++ (.text k, v) :: back ∧
      (∀ e ∈ front, e.1.IsWritableKey ∧ e.2.IsWritable) ∧ k ∈ keys ∧
      Value.lookup (.text k) given = some v ∧ ¬ v.IsWritable := by
  have hkeys : ∀ e ∈ overlay given stored, ∃ key, e.1 = .text key := by
    intro e he
    rcases mem_foldl_lay he with he | ⟨k, -, hk, -⟩
    · exact hstored.keys e he
    · exact ⟨k, hk⟩
  have hwritableKey : ∀ e ∈ overlay given stored, e.1.IsWritableKey := by
    intro e he
    obtain ⟨key, hkey⟩ := hkeys e he
    rw [hkey]
    trivial
  classical
  cases hfind : (overlay given stored).find? fun e => ¬ e.2.IsWritable with
  | none =>
      refine absurd ((Json.fault_write_eq_none_iff 0 _).mpr (.map hwritableKey fun e he => ?_)) hfault
      simpa using List.find?_eq_none.mp hfind e he
  | some e =>
      obtain ⟨hbroken, front, back, hsplit, hfront⟩ := List.find?_eq_some_iff_append.mp hfind
      obtain ⟨k, v⟩ := e
      have hv : ¬ v.IsWritable := of_decide_eq_true hbroken
      rcases mem_foldl_lay (List.mem_of_find?_eq_some hfind) with hold | ⟨key, hkey, rfl, hgiven⟩
      · exact absurd (hstored.values _ hold).isWritable hv
      · refine ⟨front, key, v, back, hsplit, fun e he => ?_, hkey, hgiven, hv⟩
        have hin : e ∈ overlay given stored := by
          rw [hsplit]
          exact List.mem_append_left _ he
        exact ⟨hwritableKey e hin, by simpa using hfront e he⟩

/-- Whether a file can be written does not depend on what is written. -/
lemma Tree.write_eq_error {t : Tree} {path : String} {octets : List UInt8} {mtime : Int}
    {cause : AccessFault} (h : t.write path octets mtime = .error cause) (octets' : List UInt8) :
    t.write path octets' mtime = .error cause := by
  rw [write] at h ⊢
  rcases Fault.bind_eq_error_iff.mp h with h | ⟨⟨made, mid⟩, hmade, h⟩
  · rw [h, Fault.error_bind]
  · rw [hmade, Fault.ok_bind]
    rcases Fault.bind_eq_error_iff.mp h with h | ⟨place, -, h⟩
    · dsimp only
      rw [h, Fault.error_bind]
    · cases h

namespace Disk

variable {d d' : Disk} {cause : Fault}

/-- What a save that fails for a cause leaves behind. -/
inductive FailsToSave (d : Disk) (given : List (Value × Value)) : Fault → Disk → Prop where
  /-- The settings file cannot be read. -/
  | unread {cause : Fault} (h : d.tree.Withholds d.settingsFile cause) : FailsToSave d given cause d
  /-- The settings file cannot be opened for writing. -/
  | unopened {stored : List (Value × Value)} {access : AccessFault}
      (hstored : d.storedSettings = .ok stored)
      (hwrite : ∀ octets, d.tree.write d.settingsFile octets 0 = .error access) :
      FailsToSave d given (.access access) d
  /-- The settings file is cut off at the first value that cannot be written. -/
  | cutOff {stored front back : List (Value × Value)} {k : String} {v : Value} {cause : Fault}
      {tree : Tree} (hstored : d.storedSettings = .ok stored)
      (hsplit : Settings.overlay given stored = front ++ (.text k, v) :: back)
      (hfront : ∀ e ∈ front, e.1.IsWritableKey ∧ e.2.IsWritable)
      (hkey : k ∈ Settings.keys) (hgiven : Value.lookup (.text k) given = some v)
      (hv : (Json.write 1 v).fault = some cause)
      (hwrite : d.tree.write d.settingsFile (Text.Utf8.encode (String.ofList
        ('\x7b' :: Json.newLine 1 ++ Json.brokenText 1 [] front k v))) 0 = .ok tree) :
      FailsToSave d given cause { d with tree }

/-- **When saving fails.** -/
lemma saveSettings_eq_error_iff :
    d.saveSettings given = (.error cause, d') ↔ d.FailsToSave given cause d' := by
  constructor
  · intro h
    rw [saveSettings] at h
    split at h
    · next fault hstored =>
        obtain ⟨hfault, rfl⟩ := Prod.mk.inj h
        rw [← Except.error.inj hfault]
        exact .unread (storedSettings_eq_error_iff.mp hstored)
    · next stored hstored =>
        dsimp only at h
        split at h
        · next access hwrite =>
            obtain ⟨hfault, rfl⟩ := Prod.mk.inj h
            rw [← Except.error.inj hfault]
            exact .unopened hstored (Tree.write_eq_error hwrite)
        · next tree hwrite =>
            obtain ⟨houtcome, rfl⟩ := Prod.mk.inj h
            split at houtcome
            · next fault hfault =>
                obtain rfl := Except.error.inj houtcome
                obtain ⟨front, k, v, back, hsplit, hfront, hkey, hgiven, hv⟩ :=
                  Settings.exists_unwritable (areStorable_of_storedSettings hstored)
                    (by rw [hfault]; simp)
                rw [hsplit, Json.write_map_broken 0 hfront hv] at hwrite hfault
                exact .cutOff hstored hsplit hfront hkey hgiven hfault hwrite
            · cases houtcome
  · rintro (h | ⟨hstored, hwrite⟩ | ⟨hstored, hsplit, hfront, hkey, hgiven, hv, hwrite⟩)
    · rw [saveSettings, storedSettings_eq_error_iff.mpr h]
    · rw [saveSettings, hstored]
      dsimp only
      rw [hwrite]
    · rw [saveSettings, hstored]
      dsimp only
      rw [hsplit, Json.write_map_broken 0 hfront (Json.not_isWritable_of_fault hv), hwrite]
      dsimp only
      rw [hv]

/-- No value is read from a settings file that was cut off. -/
lemma readData_of_cutOff {stored front : List (Value × Value)} {k : String} {v : Value}
    {tree : Tree} (hstored : d.storedSettings = .ok stored)
    (hfront : ∀ e ∈ front, e.1.IsWritableKey ∧ e.2.IsWritable) (hv : ¬ v.IsWritable)
    (hwrite : d.tree.write d.settingsFile (Text.Utf8.encode (String.ofList
      ('\x7b' :: Json.newLine 1 ++ Json.brokenText 1 [] front k v))) 0 = .ok tree) (w : Value) :
    tree.readData d.settingsFile ≠ .ok w := by
  have hmap := @Json.write_map_broken front [] k v 0 hfront hv
  have hfault : (Json.write 0 (.map (front ++ [(.text k, v)]))).fault ≠ none := by
    rw [hmap]
    exact mt (Json.fault_write_eq_none_iff 1 v).mp hv
  have hplain := (Json.runs_write 0 0 (.map (front ++ [(.text k, v)]))).plain
  have hnone := Json.read_write_ne_ok hfault w
  rw [hmap] at hplain hnone
  have htext := Tree.readText_of_openFile (settingsFile_of_storedSettings hstored) hplain
    (Tree.openFile_of_write hwrite)
  intro hdata
  obtain ⟨cs, hcs, hread⟩ := Tree.readData_eq_ok_iff.mp hdata
  obtain rfl := Except.ok.inj (htext.symm.trans (Tree.readText_eq_ok_iff.mpr hcs))
  exact hnone hread

/-- **A save that fails.**  It fails if the settings file cannot be read or opened, and then everything
is as before; or if a value that is given for a setting cannot be written, and then the file holds the
members in front of that value and no more.  So either nothing has changed, or one of the values could
not be written and everything that stood in the file is lost. -/
theorem saveSettings_failed (d d' : Disk) (given : List (Value × Value)) (cause : Fault) :
    (d.saveSettings given = (.error cause, d') ↔ d.FailsToSave given cause d') ∧
    (d.saveSettings given = (.error cause, d') →
      d' = d ∨
        (Settings.HasUnwritable given ∧ (∀ v, d'.tree.readData d'.settingsFile ≠ .ok v) ∧
          ∀ members, d'.storedSettings = .ok members → members = [])) := by
  refine ⟨saveSettings_eq_error_iff, fun h => ?_⟩
  rcases saveSettings_eq_error_iff.mp h with
    h | ⟨hstored, hwrite⟩ | ⟨hstored, hsplit, hfront, hkey, hgiven, hv, hwrite⟩
  · exact Or.inl rfl
  · exact Or.inl rfl
  · have hbroken := Json.not_isWritable_of_fault hv
    have hlost := readData_of_cutOff hstored hfront hbroken hwrite
    refine Or.inr ⟨⟨_, hkey, _, hgiven, hbroken⟩, hlost, fun members hmembers => ?_⟩
    rcases storedSettings_eq_ok hmembers with ⟨w, hdata, -⟩ | hnone
    · exact absurd hdata (hlost w)
    · exact hnone

/-- Octets where there should be a wait. -/
def octetsForWait : List (Value × Value) :=
  [(.text "debounce_ms", .bytes [0])]

/-- They cannot be written, and nothing can be read from the file any more. -/
theorem saveSettings_failed_octets :
    homeDisk.FailsToSave octetsForWait .notStorable (homeDisk.saveSettings octetsForWait).2 ∧
      (homeDisk.saveSettings octetsForWait).2 ≠ homeDisk ∧
      ∀ v, (homeDisk.saveSettings octetsForWait).2.tree.readData
        (homeDisk.saveSettings octetsForWait).2.settingsFile ≠ .ok v := by
  have hsave : homeDisk.saveSettings octetsForWait =
      (.error .notStorable, (homeDisk.saveSettings octetsForWait).2) :=
    Prod.ext (by decide +kernel) rfl
  obtain ⟨hfails, hleft⟩ := saveSettings_failed homeDisk _ octetsForWait .notStorable
  have hchanged : (homeDisk.saveSettings octetsForWait).2 ≠ homeDisk := by
    intro hsame
    have hopen : (homeDisk.saveSettings octetsForWait).2.tree.openFile "/home/settings.json" ≠
        homeDisk.tree.openFile "/home/settings.json" := by decide +kernel
    exact hopen (by rw [hsame])
  refine ⟨hfails.mp hsave, hchanged, ?_⟩
  rcases hleft hsave with hsame | ⟨-, hlost, -⟩
  · exact absurd hsame hchanged
  · exact hlost

/-- **The vault of the other program is lost** with the save that fails. -/
theorem saveSettings_lost :
    (homeDisk.saveSettings octetsForWait).1 = .error .notStorable ∧
      (∃ stored, homeDisk.storedSettings = .ok stored ∧
        Value.lookup (.text "vault_dir") stored = some (.text "notes")) ∧
      (homeDisk.saveSettings octetsForWait).2.storedSettings = .ok [] := by
  have hstored : homeDisk.storedSettings = .ok
      [(.text "vault_dir", .text "notes"), (.text "debounce_ms", .int 300),
        (.text "show_inline_warnings", .bool false)] :=
    storedSettings_of_readData (Value.eq_ok_map (by decide +kernel))
  have hleft : ((homeDisk.saveSettings octetsForWait).2.storedSettings.toOption.map
      List.isEmpty) = some true := by decide +kernel
  refine ⟨by decide +kernel, ⟨_, hstored, by simp [Value.lookup_cons, Value.text_same_iff]⟩, ?_⟩
  rcases hread : (homeDisk.saveSettings octetsForWait).2.storedSettings with cause | members
  · rw [hread] at hleft
    cases hleft
  · rw [hread] at hleft
    rw [List.isEmpty_iff.mp (Option.some.inj hleft)]

end Disk

end NoteCheck
