import NoteCheck.Proofs.Disk.Directories
import NoteCheck.Proofs.Disk.PathPieces

/-!
# A file that is written is found again

To write a file, its directory is made as far as it is not there, and then the place of the file is
looked for behind all links.  Such a search is a walk, too, but its last step leads to a file or to a
name that is not there yet (`WritesTo`).  Once the file is there, the same walk writes to it again
(`WritesTo.again`), and opens it (`WritesTo.walk`).

* **`openFile_of_write`** — the path of a file that has been written opens what was written.
* **`write_again`** — to write the same once more changes nothing.
* `openFile_write` — a file can be written wherever there is one, and wherever the path goes from some
  point on through names that are not there.
-/

namespace NoteCheck

namespace Tree

/-- The walks from a place along pieces of a path to a place that can be written to: to a file, or to
a name that is not there in a directory that is.  At most so many links are followed. -/
inductive WritesTo (t : Tree) : (links : Nat) → (here : Place) → List String → Place → Prop where
  | blank {links here name rest place} (hname : name = "" ∨ name = ".")
      (h : WritesTo t links here rest place) : WritesTo t links here (name :: rest) place
  | up {links here rest place} (h : WritesTo t links here.dropLast rest place) :
      WritesTo t links here (".." :: rest) place
  | dir {links here name rest place} (hname : IsLookedUp name)
      (hdir : t.IsDirAt (here ++ [name])) (h : WritesTo t links (here ++ [name]) rest place) :
      WritesTo t links here (name :: rest) place
  | file {links here name octets mtime} (hname : IsLookedUp name)
      (hfile : t.at? (here ++ [name]) = some (.file octets mtime)) :
      WritesTo t links here [name] (here ++ [name])
  | new {links here name} (hname : IsLookedUp name) (hhere : t.IsDirAt here)
      (hnew : t.at? (here ++ [name]) = none) : WritesTo t links here [name] (here ++ [name])
  | link {links here name rest place target} (hname : IsLookedUp name)
      (hlink : t.at? (here ++ [name]) = some (.link target))
      (h : WritesTo t links (targetStart here target) (Path.pieces target ++ rest) place) :
      WritesTo t (links + 1) here (name :: rest) place

variable {t t' : Tree} {links : Nat} {here place mid : Place} {pieces rest : List String}
  {name : String}

/-! ## The search for the place of a file -/

/-- Where the search goes on behind a link. -/
def writeOnward (t : Tree) : (links : Nat) → Place → List String → Except AccessFault Place
  | 0 => fun _ _ => .error .tooManyLinks
  | links + 1 => writePlaceFrom t links

lemma writePlaceFrom_eq (t : Tree) (links : Nat) :
    t.writePlaceFrom links = t.writePlaceVia (t.writeOnward links) := by
  cases links <;> rfl

section

variable {follow : Place → List String → Except AccessFault Place}

lemma writePlaceVia_blank (hname : name = "" ∨ name = ".") :
    t.writePlaceVia follow here (name :: rest) = t.writePlaceVia follow here rest := by
  rw [writePlaceVia, if_pos (by simpa using hname)]

lemma writePlaceVia_up :
    t.writePlaceVia follow here (".." :: rest) = t.writePlaceVia follow here.dropLast rest := by
  rw [writePlaceVia, if_neg (by decide), if_pos rfl]

lemma writePlaceVia_lookedUp (hname : IsLookedUp name) :
    t.writePlaceVia follow here (name :: rest) =
      match t.at? (here ++ [name]) with
      | none =>
          if !(t.at? here).any Entry.isDir || rest.any (· ≠ "") then .error .missing
          else if rest.isEmpty then .ok (here ++ [name])
          else .error .isDirectory
      | some (.dir _) => t.writePlaceVia follow (here ++ [name]) rest
      | some (.file _ _) =>
          if rest.isEmpty then .ok (here ++ [name])
          else .error (if rest.all (· = "") then .isDirectory else .notDirectory)
      | some (.link target) => follow (targetStart here target) (Path.pieces target ++ rest) := by
  have hblank : ¬ (name = "" || name = ".") = true := by simp [hname.ne_empty, hname.ne_here]
  rw [writePlaceVia]
  exact (if_neg hblank).trans ((if_neg hname.ne_up).trans (if_neg (Nat.not_lt.mpr hname.short)))

lemma writePlaceVia_tooLong (hblank : ¬ (name = "" ∨ name = ".")) (hup : name ≠ "..")
    (hlong : maxName < name.utf8ByteSize) :
    t.writePlaceVia follow here (name :: rest) = .error .tooLong := by
  rw [writePlaceVia, if_neg (by simpa using hblank), if_neg hup, if_pos hlong]

lemma writesTo_of_writePlaceVia (hfollow : ∀ {here pieces place},
      follow here pieces = .ok place → ∃ fewer, links = fewer + 1 ∧ t.WritesTo fewer here pieces place)
    (h : t.writePlaceVia follow here pieces = .ok place) : t.WritesTo links here pieces place := by
  induction pieces generalizing here with
  | nil =>
      rw [writePlaceVia] at h
      cases h
  | cons name rest ih =>
      rcases piece_cases name with hblank | rfl | hname | ⟨hblank, hup, hlong⟩
      · rw [writePlaceVia_blank hblank] at h
        exact .blank hblank (ih h)
      · rw [writePlaceVia_up] at h
        exact .up (ih h)
      · rw [writePlaceVia_lookedUp hname] at h
        split at h
        · next hnew =>
            split at h
            · cases h
            · next hhere =>
                rw [Bool.or_eq_true, not_or, Bool.not_eq_true', Bool.not_eq_false] at hhere
                split at h
                · next hlast =>
                    rw [← Except.ok.inj h, List.isEmpty_iff.mp hlast]
                    exact .new hname (any_isDir_iff.mp hhere.1) hnew
                · cases h
        · next children hdir => exact .dir hname ⟨children, hdir⟩ (ih h)
        · next hfile =>
            split at h
            · next hlast =>
                rw [← Except.ok.inj h, List.isEmpty_iff.mp hlast]
                exact .file hname hfile
            · cases h
        · next target hlink =>
            obtain ⟨fewer, rfl, hwrites⟩ := hfollow h
            exact .link hname hlink hwrites
      · rw [writePlaceVia_tooLong hblank hup hlong] at h
        cases h

end

lemma writePlaceFrom_of_writesTo (h : t.WritesTo links here pieces place) :
    t.writePlaceFrom links here pieces = .ok place := by
  induction h with
  | blank hname _ ih =>
      rw [writePlaceFrom_eq, writePlaceVia_blank hname, ← writePlaceFrom_eq, ih]
  | up _ ih => rw [writePlaceFrom_eq, writePlaceVia_up, ← writePlaceFrom_eq, ih]
  | dir hname hdir _ ih =>
      obtain ⟨children, hdir⟩ := hdir
      rw [writePlaceFrom_eq, writePlaceVia_lookedUp hname, hdir]
      dsimp only
      rw [← writePlaceFrom_eq, ih]
  | file hname hfile =>
      rw [writePlaceFrom_eq, writePlaceVia_lookedUp hname, hfile]
      rfl
  | new hname hhere hnew =>
      rw [writePlaceFrom_eq, writePlaceVia_lookedUp hname, hnew]
      simp [any_isDir_iff.mpr hhere]
  | link hname hlink _ ih =>
      rw [writePlaceFrom_eq, writePlaceVia_lookedUp hname, hlink]
      exact ih

/-- **The places that are found** are those that a walk leads to. -/
theorem writesTo_iff : t.writePlaceFrom links here pieces = .ok place ↔
    t.WritesTo links here pieces place := by
  refine ⟨fun h => ?_, writePlaceFrom_of_writesTo⟩
  induction links generalizing here pieces place with
  | zero => exact writesTo_of_writePlaceVia (fun hfollow => by cases hfollow) h
  | succ links ih => exact writesTo_of_writePlaceVia (fun hfollow => ⟨links, rfl, ih hfollow⟩) h

lemma writePlace_eq_ok_iff {path : String} : t.writePlace path = .ok place ↔
    path ≠ "" ∧ path.utf8ByteSize ≤ maxPath ∧
      t.WritesTo maxLinks (targetStart workingPlace path) (Path.pieces path) place := by
  rw [writePlace, ← writesTo_iff, targetStart]
  by_cases hempty : path = ""
  · simp [hempty]
  · rw [if_neg (by simpa using hempty)]
    split
    · next hlong => simp [Nat.not_le.mpr hlong]
    · next hshort => simp [hempty, Nat.not_lt.mp hshort]

namespace WritesTo

/-- What is written to is a file, or a name that is not there in a directory that is. -/
lemma exists_concat (h : t.WritesTo links here pieces place) : ∃ dir name,
    place = dir ++ [name] ∧ t.IsDirAt dir ∧
      ∀ octets mtime, t.Fits place (.file octets mtime) := by
  induction h with
  | blank _ _ ih => exact ih
  | up _ ih => exact ih
  | dir _ _ _ ih => exact ih
  | @file links here name octets mtime hname hfile =>
      refine ⟨here, name, rfl, isDirAt_of_at?_concat hfile, fun _ _ old hold => ?_⟩
      rw [hfile] at hold
      rw [← Option.some.inj hold]
      exact ⟨rfl, rfl⟩
  | @new links here name hname hhere hnew =>
      refine ⟨here, name, rfl, hhere, fun _ _ old hold => ?_⟩
      rw [hnew] at hold
      cases hold
  | link _ _ _ ih => exact ih

/-- Once there is a file, it is written to again. -/
lemma again (h : t.WritesTo links here pieces place) (ht : t.Extends t') {octets : List UInt8}
    {mtime : Int} (hfile : t'.at? place = some (.file octets mtime)) :
    t'.WritesTo links here pieces place := by
  induction h with
  | blank hname _ ih => exact .blank hname (ih hfile)
  | up _ ih => exact .up (ih hfile)
  | dir hname hdir _ ih => exact .dir hname (ht.isDirAt hdir) (ih hfile)
  | file hname _ => exact .file hname hfile
  | new hname _ _ => exact .file hname hfile
  | link hname hlink _ ih => exact .link hname (ht.exists_link hlink) (ih hfile)

/-- What writes to a file that is there is a walk to it. -/
lemma walk (h : t.WritesTo links here pieces place) {octets : List UInt8} {mtime : Int}
    (hfile : t.at? place = some (.file octets mtime)) : t.Walk links here pieces place := by
  induction h with
  | blank hname _ ih => exact .blank hname (ih hfile)
  | up _ ih => exact .up (ih hfile)
  | dir hname hdir _ ih => exact .dir hname hdir (ih hfile)
  | file hname hat => exact .file hname hat
  | new hname _ _ => exact .file hname hfile
  | link hname hlink _ ih => exact .link hname hlink (ih hfile)

end WritesTo

/-- A walk to a file is one that writes to it. -/
lemma Walk.writesTo (h : t.Walk links here pieces place) (hhere : t.IsDirAt here)
    {octets : List UInt8} {mtime : Int} (hfile : t.at? place = some (.file octets mtime)) :
    t.WritesTo links here pieces place := by
  induction h with
  | done =>
      obtain ⟨children, hdir⟩ := hhere
      cases hdir.symm.trans hfile
  | blank hname _ ih => exact .blank hname (ih hhere hfile)
  | up _ ih => exact .up (ih hhere.dropLast hfile)
  | dir hname hdir _ ih => exact .dir hname hdir (ih hdir hfile)
  | file hname hat => exact .file hname hat
  | link hname hlink _ ih => exact .link hname hlink (ih (isDirAt_targetStart hlink) hfile)

/-- Behind a walk to a directory the search goes on from there. -/
lemma Walk.appendWritesTo (h : t.Walk links here pieces mid) (hmid : t.IsDirAt mid)
    (hmore : ∀ links, t.WritesTo links mid rest place) :
    t.WritesTo links here (pieces ++ rest) place := by
  induction h with
  | done => exact hmore _
  | blank hname _ ih => exact .blank hname (ih hmid hmore)
  | up _ ih => exact .up (ih hmid hmore)
  | dir hname hdir _ ih => exact .dir hname hdir (ih hmid hmore)
  | file hname hfile =>
      obtain ⟨children, hdir⟩ := hmid
      cases hdir.symm.trans hfile
  | link hname hlink _ ih =>
      refine .link hname hlink ?_
      have hwrites := ih hmid hmore
      rwa [List.append_assoc] at hwrites

/-! ## Writing and opening -/

section

variable {path : String} {octets : List UInt8} {mtime : Int}

/-- What it takes to write a file. -/
lemma write_eq_ok_iff : t.write path octets mtime = .ok t' ↔
    ∃ made mid place, t.makeDirs (Path.parent path) = .ok (made, mid) ∧
      made.writePlace path = .ok place ∧ t' = made.set (some (.file octets mtime)) place := by
  rw [write, Fault.bind_eq_ok_iff]
  constructor
  · rintro ⟨⟨made, mid⟩, hmade, h⟩
    obtain ⟨place, hplace, h⟩ := Fault.bind_eq_ok_iff.mp h
    exact ⟨made, mid, place, hmade, hplace, (Except.ok.inj h).symm⟩
  · rintro ⟨made, mid, place, hmade, hplace, rfl⟩
    exact ⟨(made, mid), hmade, Fault.bind_eq_ok_iff.mpr ⟨place, hplace, rfl⟩⟩

/-- **What has been written** under a path is what the path opens. -/
theorem openFile_of_write (h : t.write path octets mtime = .ok t') :
    t'.openFile path = .ok (octets, mtime) := by
  obtain ⟨made, mid, place, -, hplace, rfl⟩ := write_eq_ok_iff.mp h
  obtain ⟨hpath, hshort, hwrites⟩ := writePlace_eq_ok_iff.mp hplace
  obtain ⟨dir, name, rfl, hdir, hfits⟩ := hwrites.exists_concat
  have hset := at?_set_self hdir name (.file octets mtime)
  have hwalk := (hwrites.again (extends_set (hfits octets mtime)) hset).walk hset
  exact openFile_eq_ok_iff.mpr ⟨_, locate_eq_ok_iff.mpr ⟨hpath, hshort, hwalk⟩, hset⟩

/-- **To write the same again** changes nothing. -/
theorem write_again (h : t.write path octets mtime = .ok t') :
    t'.write path octets mtime = .ok t' := by
  obtain ⟨made, mid, place, hmade, hplace, rfl⟩ := write_eq_ok_iff.mp h
  obtain ⟨hpath, hshort, hwrites⟩ := writePlace_eq_ok_iff.mp hplace
  obtain ⟨dir, name, rfl, hdir, hfits⟩ := hwrites.exists_concat
  have hset := at?_set_self hdir name (.file octets mtime)
  have hext := extends_set (hfits octets mtime)
  exact write_eq_ok_iff.mpr ⟨_, mid, _, (makeDirsFrom_again hmade).2 _ hext,
    writePlace_eq_ok_iff.mpr ⟨hpath, hshort, hwrites.again hext hset⟩, (set_set _ _ _).symm⟩

end

/-! ## Where a file can be written -/

/-- Pieces that are empty lead nowhere. -/
lemma walk_blanks_iff {blanks : List String} (h : ∀ b ∈ blanks, b = "") :
    t.Walk links here blanks place ↔ here = place := by
  induction blanks with
  | nil =>
      constructor
      · intro hwalk
        cases hwalk
        rfl
      · rintro rfl
        exact .done
  | cons b blanks ih =>
      obtain ⟨hb, hblanks⟩ := List.forall_mem_cons.mp h
      rw [← ih hblanks]
      constructor
      · intro hwalk
        cases hwalk with
        | blank _ hwalk => exact hwalk
        | up _ => exact absurd hb (by decide)
        | dir hname _ _ => exact absurd hb hname.ne_empty
        | file hname _ => exact absurd hb hname.ne_empty
        | link hname _ _ => exact absurd hb hname.ne_empty
      · exact .blank (Or.inl hb)

/-- A walk to a directory does not depend on empty pieces at its end. -/
lemma Walk.parent {above blanks pieces : List String} (hblanks : ∀ b ∈ blanks, b = "")
    (habove : above = pieces ++ blanks ∨ pieces = above ++ blanks) (hhere : t.IsDirAt here)
    (hmid : t.IsDirAt mid) (h : t.Walk links here above mid) : t.Walk links here pieces mid := by
  rcases habove with rfl | rfl
  · obtain ⟨place, fewer, -, -, hfirst, hsecond⟩ := h.split hhere (Or.inr hmid)
    rwa [(walk_blanks_iff hblanks).mp hsecond] at hfirst
  · exact h.append hmid fun links => (walk_blanks_iff hblanks).mpr rfl

/-- Whether a path goes from some point on through names that are not there, in a directory that
is. -/
def IsVacant (t : Tree) (path : String) : Prop :=
  path.utf8ByteSize ≤ maxPath ∧ ∃ present names name base,
    Path.pieces path = present ++ (names ++ [name]) ∧
    t.locateFrom true maxLinks (targetStart workingPlace path) present = .ok base ∧
    t.IsDirAt base ∧ (∀ n ∈ names ++ [name], IsLookedUp n) ∧
    ∀ n ∈ (names ++ [name]).head?, t.at? (base ++ [n]) = none

/-- Whether a path leads to a file, or to where one can be made. -/
def Stores (t : Tree) (path : String) : Prop :=
  t.IsDirAt (targetStart workingPlace path) ∧
    ((∃ found, t.openFile path = .ok found) ∨ t.IsVacant path)

lemma makeDirs_parent {path : String} {above blanks : List String} {made : Tree}
    (hblanks : ∀ b ∈ blanks, b = "")
    (habove : above = Path.pieces (Path.parent path) ++ blanks ∨
      Path.pieces (Path.parent path) = above ++ blanks)
    (h : t.makeDirsFrom (targetStart workingPlace path) above = .ok (made, mid)) :
    t.makeDirs (Path.parent path) = .ok (made, mid) := by
  rw [makeDirs, Path.isAbsolute_parent]
  rcases habove with hparent | hparent
  · rw [hparent] at h
    obtain ⟨made', mid', hmade, hblank⟩ := makeDirsFrom_append.mp h
    rw [makeDirsFrom_blanks hblanks] at hblank
    rw [← hblank]
    exact hmade
  · rw [hparent]
    exact makeDirsFrom_append.mpr ⟨made, mid, h, makeDirsFrom_blanks hblanks⟩

section

variable {path : String} {octets : List UInt8} {mtime : Int}

/-- Writing to a file that is there changes just that file. -/
lemma openFile_write_file {found : List UInt8 × Int}
    (hstart : t.IsDirAt (targetStart workingPlace path)) (hopen : t.openFile path = .ok found) :
    ∃ tree, t.write path octets mtime = .ok tree ∧
      tree.openFile path = .ok (octets, mtime) := by
  obtain ⟨above, blanks, hpieces, hblanks, habove⟩ := Path.pieces_eq path
  obtain ⟨place, hplace, hfile⟩ := openFile_eq_ok_iff.mp hopen
  obtain ⟨hpath, hshort, hwalk⟩ := locate_eq_ok_iff.mp hplace
  have hwrites := hwalk.writesTo hstart hfile
  rw [hpieces] at hwalk
  obtain ⟨dir, left, -, hdir, hfirst, -⟩ := hwalk.split hstart (Or.inl (by simp))
  have hmade := makeDirs_parent hblanks habove (makeDirsFrom_of_walk hfirst hdir (Nat.le_refl _))
  have hwrite : t.write path octets mtime = .ok (t.set (some (.file octets mtime)) place) :=
    write_eq_ok_iff.mpr ⟨t, dir, place, hmade,
      writePlace_eq_ok_iff.mpr ⟨hpath, hshort, hwrites⟩, rfl⟩
  exact ⟨_, hwrite, openFile_of_write hwrite⟩

/-- Writing to where there is nothing makes the directories and the file. -/
lemma openFile_write_vacant (hvacant : t.IsVacant path) :
    ∃ tree, t.write path octets mtime = .ok tree ∧
      tree.openFile path = .ok (octets, mtime) := by
  obtain ⟨above, blanks, hpieces, hblanks, habove⟩ := Path.pieces_eq path
  obtain ⟨hshort, present, names, name, base, hparts, hbase, hdir, hnames, hnew⟩ := hvacant
  have hlast := hparts.symm.trans hpieces
  rw [← List.append_assoc] at hlast
  obtain ⟨habove', hname'⟩ := List.append_inj' hlast rfl
  have hname : IsLookedUp name := hnames name (by simp)
  have hpath : path ≠ "" := by
    rintro rfl
    exact hname.ne_empty ((List.cons.inj hname').1.trans (by decide))
  have hwalk := walk_iff.mp hbase
  obtain ⟨made, hmade, hext, hend, hfree, hbelow⟩ := makeDirsFrom_new hdir hnames hnew
  have hdirs := makeDirs_parent hblanks habove (habove' ▸ makeDirsFrom_append.mpr
    ⟨t, base, makeDirsFrom_of_walk hwalk hdir (Nat.le_refl _), hmade⟩)
  have hwrites : made.WritesTo maxLinks (targetStart workingPlace path) (Path.pieces path)
      (base ++ names ++ [name]) := by
    rw [hparts]
    exact (hwalk.mono hext (Nat.le_refl _)).appendWritesTo (hext.isDirAt hdir) fun links =>
      (hbelow links).appendWritesTo hend fun _ => .new hname hend hfree
  have hwrite : t.write path octets mtime
      = .ok (made.set (some (.file octets mtime)) (base ++ names ++ [name])) :=
    write_eq_ok_iff.mpr ⟨made, _, _, hdirs,
      writePlace_eq_ok_iff.mpr ⟨hpath, hshort, hwrites⟩, rfl⟩
  exact ⟨_, hwrite, openFile_of_write hwrite⟩

/-- **A file can be written** wherever a path leads to a file or to where one can be made, and then the
path opens it. -/
theorem openFile_write (h : t.Stores path) (octets : List UInt8) (mtime : Int) :
    ∃ tree, t.write path octets mtime = .ok tree ∧
      tree.openFile path = .ok (octets, mtime) := by
  obtain ⟨hstart, ⟨found, hopen⟩ | hvacant⟩ := h
  · exact openFile_write_file hstart hopen
  · exact openFile_write_vacant hvacant

end

end Tree

end NoteCheck
