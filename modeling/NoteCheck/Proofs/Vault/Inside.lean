import NoteCheck.Proofs.Disk.Opening
import NoteCheck.Proofs.Disk.Within
import NoteCheck.Proofs.Vault.Containment
import NoteCheck.Proofs.Vault.Listing

/-!
# Which notes count as inside the vault

A path is in the vault if with its links resolved it is the vault or lies below it.  This is decided on
texts, and the text of the root is one below which there is nothing.  So of a vault other than the root
each listed path that leads to a file in the vault is read: it is resolved to where it leads, and there
the file is found once more, unless the resolved path has become too long.  If the vault is the root, no
such path is read, and nothing says so.

* **`Disk.notes_inside`** — which paths are in a vault, and which listed ones are read.
* `Disk.notes_root` — a note in the root is not.
-/

namespace NoteCheck

namespace Path

lemma not_mem_join {path below : String} {c : Char} (hc : c ≠ '/') (hpath : c ∉ path.toList)
    (hbelow : c ∉ below.toList) : c ∉ (join path below).toList := by
  rw [join]
  split
  · exact hbelow
  · split <;> simp [String.toList_append, hpath, hbelow, hc]

end Path

/-! ## Listed paths -/

namespace Vault

variable {t : Tree} {path : String}

lemma isNoteName_iff : isNoteName path = true ↔ ".md".toList <:+ path.toList := by
  rw [isNoteName, ← String.endsWith_toSlice, String.Slice.endsWith_string_iff, String.copy_toSlice]

lemma isNoteName_append (above : String) (h : isNoteName path = true) :
    isNoteName (above ++ path) = true := by
  rw [isNoteName_iff, String.toList_append] at *
  exact h.trans (List.suffix_append _ _)

/-- What is listed is named like a note, and with no character zero. -/
lemma of_mem_notesIn : ∀ {e : Entry} {here : Place} {path : String}, e.isZeroFree = true →
    path ∈ notesIn t here e → isNoteName path = true ∧ '\x00' ∉ path.toList
  | .dir children, here, path, hfree, hmem => by
      have hchildren : Tree.ZeroFree children := by
        rwa [Entry.isZeroFree] at hfree
      rcases mem_notesIn_dir.mp hmem with hnote | ⟨name, e, hchild, -, -, below, hbelow, rfl⟩
      · obtain ⟨e, hchild, hname, -⟩ := mem_noteNames.mp hnote
        exact ⟨hname, (hchildren.of_mem hchild).1⟩
      · obtain ⟨hname, he⟩ := hchildren.of_mem hchild
        obtain ⟨hnote, hzero⟩ := of_mem_notesIn he hbelow
        exact ⟨isNoteName_append _ hnote, by simp [String.toList_append, hname, hzero]⟩
  | .file _ _, _, _, _, hmem => by simp [notesIn] at hmem
  | .link _, _, _, _, hmem => by simp [notesIn] at hmem
termination_by e => sizeOf e
decreasing_by
  have hlt := List.sizeOf_lt_of_mem hchild
  simp only [Prod.mk.sizeOf_spec, Entry.dir.sizeOf_spec] at hlt ⊢
  omega

end Vault

namespace Disk

variable {d : Disk} {path vault : String} {paths : List String} {outer real : RealPath} {place : Place}

lemma of_mem_notePaths (htree : d.tree.ZeroFree) (h : d.notePaths vault = .ok paths)
    (hmem : path ∈ paths) :
    Vault.isNoteName path = true ∧ '\x00' ∉ path.toList ∧
      ∃ here, d.tree.locate true (d.vaultDir vault) = .ok here := by
  rw [notePaths] at h
  split at h
  · cases h
  split at h
  · rw [← Except.ok.inj h] at hmem
    cases hmem
  · next here hhere =>
      split at h
      · next e he =>
          rw [← Except.ok.inj h] at hmem
          obtain ⟨hname, hzero⟩ := Vault.of_mem_notesIn (htree.at? he).2 hmem
          exact ⟨hname, hzero, here, hhere⟩
      · rw [← Except.ok.inj h] at hmem
        cases hmem

/-! ## Whether a path is in the vault -/

/-- Where neither holds a character zero, the path of a note and that of the vault are resolved and
compared. -/
lemma exists_safePath (hzero : '\x00' ∉ (d.vaultDir vault).toList) (htree : d.tree.ZeroFree)
    (houter : d.tree.realPath (d.vaultDir vault) = .ok outer) (hpath : '\x00' ∉ path.toList) :
    ∃ real, d.tree.realPath (Path.join (d.vaultDir vault) path) = .ok real ∧
      d.safePath path vault = .ok (real, real.isWithin outer) := by
  obtain ⟨real, hreal⟩ := Tree.exists_realPath htree (Path.not_mem_join (by decide) hzero hpath)
  refine ⟨real, hreal, ?_⟩
  rw [safePath, hreal, houter]
  rfl

/-- Whether a path below a vault leads to a file in the vault, given what the vault is resolved to, and
whether the file is UTF-8. -/
structure LeadsInside (d : Disk) (vault : String) (outer : RealPath) (path : String)
    (place : Place) : Prop where
  leads : d.tree.LeadsTo (Path.join (d.vaultDir vault) path) place
  file : ∃ octets mtime cs, d.tree.at? place = some (.file octets mtime) ∧
    Text.Utf8.decode? octets = some cs
  below : outer.names <+: place

lemma LeadsInside.ne_nil (h : d.LeadsInside vault outer path place) : place ≠ [] := by
  rintro rfl
  obtain ⟨octets, mtime, cs, hat, -⟩ := h.file
  rw [Tree.at?_nil] at hat
  cases hat

/-- If there is a vault, then a path that leads to a file in it counts as inside just if the vault is
not the root. -/
lemma LeadsInside.safePath (h : d.LeadsInside vault outer path place)
    (hzero : '\x00' ∉ (d.vaultDir vault).toList) (htree : d.tree.ZeroFree)
    (houter : d.tree.realPath (d.vaultDir vault) = .ok outer) (hpath : '\x00' ∉ path.toList)
    {here : Place} (hhere : d.tree.locate true (d.vaultDir vault) = .ok here) :
    d.safePath path vault = .ok (⟨false, place⟩, decide (outer.names ≠ [])) := by
  have hjoin := Path.not_mem_join (by decide : '\x00' ≠ '/') hzero hpath
  obtain ⟨real, hreal, hsafe⟩ := exists_safePath hzero htree houter hpath
  have hplace := Tree.realPath_of_leadsTo htree hjoin h.leads
  obtain rfl := Except.ok.inj (hreal.symm.trans hplace)
  have hvault := Tree.realPath_of_leadsTo htree hzero (.of_locate hhere)
  obtain rfl := Except.ok.inj (houter.symm.trans hvault)
  have hnames := Tree.isName_of_realPath hreal
  have hwithin : RealPath.isWithin ⟨false, place⟩ ⟨false, here⟩ = true ↔ here ≠ [] := by
    by_cases hroot : here = []
    · rw [RealPath.isWithin_root_iff hnames hroot, RealPath.mk.injEq]
      simp [hroot, h.ne_nil]
    · rw [RealPath.isWithin_iff_isBelow hnames (Tree.isName_of_realPath houter) hroot]
      exact ⟨fun _ => hroot, fun _ => ⟨rfl, h.below⟩⟩
  rw [hsafe, Bool.eq_iff_iff.mpr (hwithin.trans decide_eq_true_iff.symm)]

/-- Such a path is read where the vault is not the root, by the resolved path. -/
lemma LeadsInside.exists_noteAt (h : d.LeadsInside vault outer path place)
    (hzero : '\x00' ∉ (d.vaultDir vault).toList) (htree : d.tree.ZeroFree)
    (hname : Vault.isNoteName path = true) (hpath : '\x00' ∉ path.toList)
    (hsafe : d.safePath path vault = .ok (⟨false, place⟩, true))
    (hlong : (RealPath.text ⟨false, place⟩).utf8ByteSize ≤ Tree.maxPath)
    (hread : ∀ text mtime, d.noteText? path vault = .ok (some (text, mtime)) →
      ∃ f, Frontmatter.read text = .ok f) :
    ∃ n, d.noteAt path vault = [n] ∧ n.path = path ∧ d.tree.Holds place n := by
  obtain ⟨octets, mtime, cs, hat, hcs⟩ := h.file
  have hlocate := Tree.locate_text_of_leadsTo htree
    (Path.not_mem_join (by decide) hzero hpath) h.leads hat hlong
  have hopen := Tree.openFile_eq_ok_iff.mpr ⟨place, hlocate, hat⟩
  have htext := noteText?_eq_some_iff.mpr ⟨hname, _, octets, cs, hsafe, hopen, hcs, rfl⟩
  obtain ⟨f, hf⟩ := hread _ _ htext
  have hn : Note.ofText path (Text.unifyLines cs) mtime
      = .ok ⟨path, .int mtime, f.properties.toValue⟩ := by
    rw [Note.ofText, hf]
    rfl
  have hnote := readNote_eq_some_iff.mpr ⟨_, mtime, htext, hn⟩
  exact ⟨_, by rw [noteAt, hnote], rfl, octets, mtime, cs, hat, hcs, hn⟩

/-- What does not count as inside is not read, nor what cannot be opened for its length. -/
lemma noteAt_eq_nil {within : Bool} (hsafe : d.safePath path vault = .ok (real, within))
    (h : within = false ∨ Tree.maxPath < real.text.utf8ByteSize) : d.noteAt path vault = [] := by
  refine List.eq_nil_iff_forall_not_mem.mpr fun n hn => ?_
  obtain ⟨text, mtime, htext, -⟩ := readNote_eq_some_iff.mp (mem_noteAt_iff.mp hn)
  obtain ⟨-, real', octets, cs, hsafe', hopen, -⟩ := noteText?_eq_some_iff.mp htext
  obtain ⟨rfl, rfl⟩ := Prod.mk.inj (Except.ok.inj (hsafe.symm.trans hsafe'))
  obtain ⟨place, hlocate, -⟩ := Tree.openFile_eq_ok_iff.mp hopen
  obtain ⟨-, hshort, -⟩ := Tree.locate_eq_ok_iff.mp hlocate
  rcases h with hfalse | hlong
  · cases hfalse
  · exact absurd hshort (Nat.not_le.mpr hlong)

/-- A text is looked for without fault where the path is resolved. -/
lemma exists_noteText? {within : Bool} (hsafe : d.safePath path vault = .ok (real, within)) :
    ∃ found, d.noteText? path vault = .ok found := by
  rw [noteText?, hsafe]
  split
  · rw [Fault.ok_bind]
    dsimp only
    split
    · exact ⟨_, rfl⟩
    · split <;> exact ⟨_, rfl⟩
  · exact ⟨none, rfl⟩

/-- The notes of a vault are those that its listed paths give, each for itself, as long as the
frontmatter can be read wherever a text is found. -/
lemma notes_eq_flatMap (hzero : '\x00' ∉ (d.vaultDir vault).toList) (htree : d.tree.ZeroFree)
    (hpaths : d.notePaths vault = .ok paths)
    (hread : ∀ path ∈ paths, ∀ text mtime, d.noteText? path vault = .ok (some (text, mtime)) →
      ∃ f, Frontmatter.read text = .ok f) :
    d.notes vault = .ok (paths.flatMap fun path => d.noteAt path vault) := by
  obtain ⟨outer, houter⟩ := Tree.exists_realPath htree hzero
  have hfound : ∀ path ∈ paths, ∃ found, d.readNote path vault = .ok found := by
    intro path hmem
    rcases hnote : d.readNote path vault with cause | found
    · rcases readNote_eq_error_iff.mp hnote with htext | ⟨text, mtime, htext, hcause⟩
      · obtain ⟨-, hpath, -⟩ := of_mem_notePaths htree hpaths hmem
        obtain ⟨real, -, hsafe⟩ := exists_safePath hzero htree houter hpath
        obtain ⟨found, hfound⟩ := exists_noteText? hsafe
        cases htext.symm.trans hfound
      · obtain ⟨f, hf⟩ := hread path hmem text mtime htext
        cases hcause.symm.trans hf
    · exact ⟨found, rfl⟩
  rw [notes, hpaths]
  exact readNotes_eq_ok_iff.mpr ⟨hfound, rfl⟩

/-- **Notes inside a vault.**  No character zero is in the name of the vault or in the tree.  Then the
vault is resolved, and each path below it that has none either.  In a vault other than the root are just
those paths that are resolved to the vault or to below it; in the root there is only the root, and what
is left with two slashes at the start.

If the frontmatter can be read wherever a text is found, the notes of the vault are those of its listed
paths, in this order.  A listed path that leads to a file in the vault gives the one note that this file
holds, unless the vault is the root or the resolved path is too long, and then it gives none. -/
theorem notes_inside (d : Disk) (vault : String) (hzero : '\x00' ∉ (d.vaultDir vault).toList)
    (htree : d.tree.ZeroFree) :
    ∃ outer, d.tree.realPath (d.vaultDir vault) = .ok outer ∧
      (∀ path : String, '\x00' ∉ path.toList → ∃ real within,
        d.tree.realPath (Path.join (d.vaultDir vault) path) = .ok real ∧
        d.safePath path vault = .ok (real, within) ∧
        (outer.names ≠ [] → (within = true ↔ real.IsBelow outer)) ∧
        (outer.names = [] →
          (within = true ↔ real = outer ∨ outer.doubled = false ∧ real.doubled = true))) ∧
      ∃ paths, d.notePaths vault = .ok paths ∧
        ((∀ path ∈ paths, ∀ text mtime, d.noteText? path vault = .ok (some (text, mtime)) →
            ∃ f, Frontmatter.read text = .ok f) →
          d.notes vault = .ok (paths.flatMap fun path => d.noteAt path vault) ∧
          ∀ path ∈ paths, ∀ place, d.LeadsInside vault outer path place →
            (outer.names ≠ [] ∧ (RealPath.text ⟨false, place⟩).utf8ByteSize ≤ Tree.maxPath →
              ∃ n, d.noteAt path vault = [n] ∧ n.path = path ∧ d.tree.Holds place n) ∧
            (outer.names = [] ∨ Tree.maxPath < (RealPath.text ⟨false, place⟩).utf8ByteSize →
              d.noteAt path vault = [])) := by
  obtain ⟨outer, houter⟩ := Tree.exists_realPath htree hzero
  obtain ⟨paths, hpaths⟩ : ∃ paths, d.notePaths vault = .ok paths := by
    rcases h : d.notePaths vault with cause | paths
    · exact absurd (notePaths_eq_error h).2 hzero
    · exact ⟨paths, rfl⟩
  refine ⟨outer, houter, fun path hpath => ?_, paths, hpaths, fun hread => ⟨?_, ?_⟩⟩
  · obtain ⟨real, hreal, hsafe⟩ := exists_safePath hzero htree houter hpath
    have hnames := Tree.isName_of_realPath hreal
    exact ⟨real, _, hreal, hsafe,
      RealPath.isWithin_iff_isBelow hnames (Tree.isName_of_realPath houter),
      RealPath.isWithin_root_iff hnames⟩
  · exact notes_eq_flatMap hzero htree hpaths hread
  · intro path hmem place hleads
    obtain ⟨hname, hpath, here, hhere⟩ := of_mem_notePaths htree hpaths hmem
    have hsafe := hleads.safePath hzero htree houter hpath hhere
    constructor
    · rintro ⟨hne, hlong⟩
      rw [decide_eq_true hne] at hsafe
      exact hleads.exists_noteAt hzero htree hname hpath hsafe hlong (hread path hmem)
    · intro h
      exact noteAt_eq_nil hsafe (h.imp_left fun hroot => decide_eq_false (not_not_intro hroot))

/-- A vault with a note and a link to that note. -/
def withLink : Disk where
  tree := [("v", .dir [("a.md", .file [] 1), ("b.md", .link ".//a.md")])]
  defaultVault := "/v"
  settingsFile := "/s"

/-- The link gives a note, too. -/
theorem notes_inside_link : '\x00' ∉ (withLink.vaultDir "/v").toList ∧ withLink.tree.ZeroFree ∧
    ∃ notes n, withLink.notes "/v" = .ok notes ∧ n ∈ notes ∧ n.path = "b.md" ∧
      withLink.tree.Holds ["v", "a.md"] n := by
  have hzero : '\x00' ∉ (withLink.vaultDir "/v").toList := by decide
  have htree : withLink.tree.ZeroFree := by decide +kernel
  obtain ⟨outer, houter, -, paths, hpaths, h⟩ := notes_inside withLink "/v" hzero htree
  have hvault : withLink.tree.realPath (withLink.vaultDir "/v") = .ok ⟨false, ["v"]⟩ := by
    decide +kernel
  obtain rfl := Except.ok.inj (houter.symm.trans hvault)
  have hlocate : withLink.tree.locate true (withLink.vaultDir "/v") = .ok ["v"] := by
    decide +kernel
  have hlisted : withLink.notePaths "/v" = .ok ["a.md", "b.md"] :=
    notePaths_flat (by decide) hlocate rfl (by decide +kernel) (by decide +kernel)
      (by decide +kernel)
  obtain rfl := Except.ok.inj (hpaths.symm.trans hlisted)
  have htexts : ∀ path ∈ ["a.md", "b.md"], withLink.noteText? path "/v" = .ok (some ([], 1)) := by
    decide +kernel
  obtain ⟨hnotes, hread⟩ := h fun path hmem text mtime htext => by
    obtain ⟨rfl, -⟩ := Prod.mk.inj
      (Option.some.inj (Except.ok.inj (htext.symm.trans (htexts path hmem))))
    exact ⟨_, rfl⟩
  have hleads : withLink.LeadsInside "/v" ⟨false, ["v"]⟩ "b.md" ["v", "a.md"] :=
    ⟨.of_locate (by decide +kernel), ⟨[], 1, [], rfl, rfl⟩, ⟨["a.md"], rfl⟩⟩
  obtain ⟨n, hn, hpath, hholds⟩ := (hread "b.md" (by decide) _ hleads).1 ⟨by decide, by decide⟩
  refine ⟨hzero, htree, _, n, hnotes, ?_, hpath, hholds⟩
  exact List.mem_flatMap.mpr ⟨"b.md", by decide, hn ▸ List.mem_singleton_self n⟩

/-- A note in the root, which is the vault. -/
def inRoot : Disk where
  tree := [("a.md", .file [] 1)]
  defaultVault := "/"
  settingsFile := "/s"

/-- **The root as a vault.**  The note in the root is listed, and the path to it is resolved to below the
root; but it counts as outside, and no note is read. -/
theorem notes_root :
    inRoot.tree.realPath (inRoot.vaultDir "/") = .ok ⟨false, []⟩ ∧
      RealPath.IsBelow ⟨false, ["a.md"]⟩ ⟨false, []⟩ ∧
      inRoot.safePath "a.md" "/" = .ok (⟨false, ["a.md"]⟩, false) ∧
      inRoot.tree.at? ["a.md"] = some (.file [] 1) ∧
      inRoot.notePaths "/" = .ok ["a.md"] ∧ inRoot.notes "/" = .ok [] := by
  have hlocate : inRoot.tree.locate true (inRoot.vaultDir "/") = .ok [] := by decide +kernel
  have hlisted : inRoot.notePaths "/" = .ok ["a.md"] :=
    notePaths_flat (by decide) hlocate rfl (by decide +kernel) (by decide +kernel)
      (by decide +kernel)
  have hsafe : inRoot.safePath "a.md" "/" = .ok (⟨false, ["a.md"]⟩, false) := by decide +kernel
  have htext : inRoot.noteText? "a.md" "/" = .ok none := by decide +kernel
  refine ⟨by decide +kernel, ⟨rfl, ["a.md"], rfl⟩, hsafe, rfl, hlisted, ?_⟩
  rw [notes_eq_flatMap (by decide) (by decide +kernel) hlisted fun path hmem text mtime hfound => ?_]
  · rw [List.flatMap_singleton, noteAt_eq_nil hsafe (Or.inl rfl)]
  · rw [List.mem_singleton.mp hmem, htext] at hfound
    cases hfound

end Disk

end NoteCheck
