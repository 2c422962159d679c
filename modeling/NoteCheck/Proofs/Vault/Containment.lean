import Mathlib.Control.Monad.Basic
import NoteCheck.Proofs.Disk.Resolution
import NoteCheck.Proofs.Disk.Walk
import NoteCheck.Proofs.Vault.Reading

/-!
# Where the notes of a vault are read from

A note is read if its path, with all links resolved, does not lead out of the vault.  The file is
then opened by the resolved path, and it lies where that path says, unless links are left in it.
This happens in one case only: a loop of links was met, from which on the path stayed as it was
written.  If the rest of the path leads back out of the loop by `..`, the loop is gone from the path
but the links behind it are not, and opening the file follows them wherever they lead.

* **`readNote_contained`**: the file lies in the vault, or a loop was met and a link left over.
* `readNote_outside`: the second case does happen, and it leads out of the vault.
-/

namespace NoteCheck

namespace Tree

/-- Whether a note is what the file at a place holds. -/
def Holds (t : Tree) (place : Place) (n : Note) : Prop :=
  ∃ octets mtime cs, t.at? place = some (.file octets mtime) ∧
    Text.Utf8.decode? octets = some cs ∧ Note.ofText n.path (Text.unifyLines cs) mtime = .ok n

end Tree

namespace Disk

variable {d : Disk} {path vault : String} {n : Note}

lemma safePath_eq_ok_iff {real : RealPath} {within : Bool} :
    d.safePath path vault = .ok (real, within) ↔
      ∃ r outer, d.tree.resolution (Path.join (d.vaultDir vault) path) = .ok r ∧ r.path = real ∧
        d.tree.realPath (d.vaultDir vault) = .ok outer ∧ r.path.isWithin outer = within := by
  rw [safePath, Fault.bind_eq_ok_iff]
  constructor
  · rintro ⟨_, hreal, h⟩
    obtain ⟨outer, houter, h⟩ := Fault.bind_eq_ok_iff.mp h
    obtain ⟨r, hr, rfl⟩ := Tree.realPath_eq_ok_iff.mp hreal
    obtain ⟨rfl, rfl⟩ := Prod.mk.inj (Except.ok.inj h)
    exact ⟨r, outer, hr, rfl, houter, rfl⟩
  · rintro ⟨r, outer, hr, rfl, houter, rfl⟩
    exact ⟨r.path, Tree.realPath_eq_ok_iff.mpr ⟨r, hr, rfl⟩,
      Fault.bind_eq_ok_iff.mpr ⟨outer, houter, rfl⟩⟩

/-- How a note is read: what its path and the directory of the vault resolve to, and the place of
the file that is opened by the resolved path. -/
structure ReadThrough (d : Disk) (path vault : String) (n : Note) (r : Resolution)
    (outer : RealPath) (place : Place) : Prop where
  path_eq : n.path = path
  resolution : d.tree.resolution (Path.join (d.vaultDir vault) path) = .ok r
  realVault : d.tree.realPath (d.vaultDir vault) = .ok outer
  within : r.path.isWithin outer = true
  opened : d.tree.locate true r.path.text = .ok place
  holds : d.tree.Holds place n

/-- A note that is read is read in this way, and each note that can be read in this way is. -/
lemma readNote_iff_readThrough :
    d.readNote path vault = .ok (some n) ↔
      Vault.isNoteName path = true ∧ ∃ r outer place, d.ReadThrough path vault n r outer place := by
  rw [readNote_eq_some_iff]
  constructor
  · rintro ⟨text, mtime, htext, hn⟩
    obtain ⟨hname, real, octets, cs, hsafe, hopen, hcs, rfl⟩ := noteText?_eq_some_iff.mp htext
    obtain ⟨r, outer, hr, rfl, houter, hwithin⟩ := safePath_eq_ok_iff.mp hsafe
    obtain ⟨place, hplace, hfile⟩ := Tree.openFile_eq_ok_iff.mp hopen
    have hpath := Note.path_of_ofText hn
    refine ⟨hname, r, outer, place, hpath, hr, houter, hwithin, hplace, octets, mtime, cs, hfile,
      hcs, ?_⟩
    rwa [hpath]
  · rintro ⟨hname, r, outer, place, h⟩
    obtain ⟨octets, mtime, cs, hfile, hcs, hn⟩ := h.holds
    have hopen := Tree.openFile_eq_ok_iff.mpr ⟨place, h.opened, hfile⟩
    have hsafe := safePath_eq_ok_iff.mpr ⟨r, outer, h.resolution, rfl, h.realVault, h.within⟩
    rw [h.path_eq] at hn
    exact ⟨_, mtime, noteText?_eq_some_iff.mpr ⟨hname, r.path, octets, cs, hsafe, hopen, hcs, rfl⟩,
      hn⟩

lemma ReadThrough.sound {r : Resolution} {outer : RealPath} {place : Place}
    (h : d.ReadThrough path vault n r outer place)
    (hstart : Path.isAbsolute (d.vaultDir vault) = true ∨
      d.tree.linkAt? Tree.workingPlace = none) : r.Sound d.tree :=
  Tree.resolution_sound (hstart.imp_left fun h => Path.isAbsolute_join h path) h.resolution

/-- Where no link is left in the path by which a file is opened, the file lies where the path says,
and that is in the vault. -/
lemma ReadThrough.inside {r : Resolution} {outer : RealPath} {place : Place}
    (h : d.ReadThrough path vault n r outer place)
    (hstart : Path.isAbsolute (d.vaultDir vault) = true ∨
      d.tree.linkAt? Tree.workingPlace = none)
    (hfree : ∀ upper, upper <+: r.path.names → d.tree.linkAt? upper = none) :
    place = r.path.names ∧ outer.names <+: place := by
  have hnamed := (h.sound hstart).named
  obtain ⟨o, ho, rfl⟩ := Tree.realPath_eq_ok_iff.mp h.realVault
  have hvault := (Tree.resolution_sound hstart ho).named
  have hplace := Tree.locate_text_of_linkFree hnamed hfree h.opened
  refine ⟨hplace, ?_⟩
  rw [hplace]
  exact RealPath.names_prefix_of_isWithin hnamed hvault h.within

/-- **Containment.**  A note that is read is what some file holds.  The file lies strictly below the
real place of the vault; or the vault is not a directory but is itself that file; or, third, a loop
of links was met when the path was resolved, and the path by which the file was opened still had a
link in it.  Of the working directory it is only asked that it is no link where it counts, that is,
where the vault is not named from the root. -/
theorem readNote_contained (d : Disk) (path vault : String) (n : Note)
    (hstart : Path.isAbsolute (d.vaultDir vault) = true ∨
      d.tree.linkAt? Tree.workingPlace = none)
    (h : d.readNote path vault = .ok (some n)) :
    ∃ r outer place, d.ReadThrough path vault n r outer place ∧
      ((∃ name below, place = outer.names ++ name :: below) ∨ place = outer.names ∨
        (r.settled = false ∧
          ∃ upper, upper <+: r.path.names ∧ (d.tree.linkAt? upper).isSome = true)) := by
  obtain ⟨-, r, outer, place, hread⟩ := readNote_iff_readThrough.mp h
  refine ⟨r, outer, place, hread, ?_⟩
  by_cases hleft : ∃ upper, upper <+: r.path.names ∧ (d.tree.linkAt? upper).isSome = true
  · refine Or.inr (Or.inr ⟨?_, hleft⟩)
    cases hsettled : r.settled with
    | false => rfl
    | true =>
        obtain ⟨upper, hupper, hlink⟩ := hleft
        have hplain := (hread.sound hstart).plain hsettled
        rw [hplain.linkFree upper hupper] at hlink
        exact absurd hlink (by simp)
  · obtain ⟨-, below, rfl⟩ := hread.inside hstart fun upper hupper =>
      Option.not_isSome_iff_eq_none.mp fun hlink => hleft ⟨upper, hupper, hlink⟩
    cases below with
    | nil => exact Or.inr (Or.inl (List.append_nil _))
    | cons name below => exact Or.inl ⟨name, below, rfl⟩

/-- A vault with one note, which can also be reached through a link. -/
def linked : Disk where
  tree := [("home", .dir [("v", .dir [
    ("sub", .dir [("a.md", .file [] 1)]),
    ("b.md", .link "./sub//a.md")])])]
  defaultVault := "/home/v"
  settingsFile := "/home/settings.json"

lemma readNote_linked :
    linked.readNote "sub/../b.md" "" = .ok (some ⟨"sub/../b.md", .int 1, .map []⟩) := by
  refine readNote_iff_readThrough.mpr ⟨by decide +kernel,
    ⟨⟨false, ["home", "v", "sub", "a.md"]⟩, true,
      [(["home", "v", "b.md"], some ["home", "v", "sub", "a.md"]), (["home", "v", "b.md"], none)]⟩,
    ⟨false, ["home", "v"]⟩, ["home", "v", "sub", "a.md"], ?_⟩
  exact {
    path_eq := rfl
    resolution := by decide +kernel
    realVault := by decide +kernel
    within := by decide +kernel
    opened := by decide +kernel
    holds := ⟨[], 1, [], rfl, rfl, rfl⟩ }

theorem readNote_contained_linked :
    Path.isAbsolute (linked.vaultDir "") = true ∧
      linked.readNote "sub/../b.md" "" = .ok (some ⟨"sub/../b.md", .int 1, .map []⟩) ∧
      ∃ r outer place,
        linked.ReadThrough "sub/../b.md" "" ⟨"sub/../b.md", .int 1, .map []⟩ r outer place ∧
        ((∃ name below, place = outer.names ++ name :: below) ∨ place = outer.names ∨
          (r.settled = false ∧
            ∃ upper, upper <+: r.path.names ∧ (linked.tree.linkAt? upper).isSome = true)) :=
  ⟨rfl, readNote_linked, readNote_contained linked _ _ _ (Or.inl rfl) readNote_linked⟩

/-! ## A loop leads out -/

/-- A vault that holds two links and nothing else: one leads to itself, the other to a note that
lies outside. -/
def looping : Disk where
  tree := [("home", .dir [
    ("out.md", .file [] 1),
    ("v", .dir [("loop", .link "loop"), ("b.md", .link "../out.md")])])]
  defaultVault := "/home/v"
  settingsFile := "/home/settings.json"

lemma readThrough_looping :
    looping.ReadThrough "loop/../b.md" "" ⟨"loop/../b.md", .int 1, .map []⟩
      ⟨⟨false, ["home", "v", "b.md"]⟩, false, [(["home", "v", "loop"], none)]⟩
      ⟨false, ["home", "v"]⟩ ["home", "out.md"] where
  path_eq := rfl
  resolution := by decide +kernel
  realVault := by decide +kernel
  within := by decide +kernel
  opened := by decide +kernel
  holds := ⟨[], 1, [], rfl, rfl, rfl⟩

/-- A directory of links holds no file. -/
lemma at?_ne_file {children : Tree} (hlinks : ∀ e ∈ children, ∃ target, e.2 = .link target)
    (below : Place) (octets : List UInt8) (mtime : Int) :
    children.at? below ≠ some (.file octets mtime) := by
  have hchild : ∀ name e, children.child? name = some e → ∃ target, e = .link target := by
    intro name e h
    obtain ⟨entry, hentry, rfl⟩ := Option.map_eq_some_iff.mp h
    exact hlinks entry (List.mem_of_find?_eq_some hentry)
  intro h
  match below with
  | [] => exact absurd h (by simp [Tree.at?])
  | [name] =>
      obtain ⟨target, htarget⟩ := hchild name _ h
      exact absurd htarget (by simp)
  | name :: next :: rest =>
      simp only [Tree.at?] at h
      split at h
      · next hdir =>
          obtain ⟨target, htarget⟩ := hchild name _ hdir
          exact absurd htarget (by simp)
      · exact absurd h (by simp)

/-- **A note from outside.**  There is no file at all below the real place of the vault, and yet a
note of it is read: after the loop the path is taken as it is written, and the link that is left in
it leads to a file next to the vault. -/
theorem readNote_outside :
    Path.isAbsolute (looping.vaultDir "") = true ∧
      looping.readNote "loop/../b.md" "" = .ok (some ⟨"loop/../b.md", .int 1, .map []⟩) ∧
      looping.tree.realPath (looping.vaultDir "") = .ok ⟨false, ["home", "v"]⟩ ∧
      ∀ below octets mtime,
        looping.tree.at? (["home", "v"] ++ below) ≠ some (.file octets mtime) := by
  have hread := readNote_iff_readThrough.mpr
    ⟨by decide +kernel, _, _, _, readThrough_looping⟩
  refine ⟨rfl, hread, readThrough_looping.realVault, fun below octets mtime => ?_⟩
  have hvault : looping.tree.at? (["home", "v"] ++ below)
      = Tree.at? [("loop", .link "loop"), ("b.md", .link "../out.md")] below := by
    cases below <;> simp [Tree.at?, Tree.child?, looping]
  rw [hvault]
  exact at?_ne_file (by simp) below octets mtime

end Disk

end NoteCheck
