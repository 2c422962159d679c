import NoteCheck.Disk.Locate
import NoteCheck.Proofs.Disk.Entries

/-!
# Walks along a path

Looking up a path is a walk through the tree, piece by piece, and at a link it goes on along the
link's target.  `Walk` describes the walks that come to an end, with a bound on the links that are
followed; those are just the lookups that succeed (`walk_iff`).  A walk stays one in a tree that
extends the old one (`Walk.mono`), it can be cut anywhere (`Walk.split`) and gone on with
(`Walk.append`).
-/

namespace NoteCheck.Tree

/-- Whether a piece of a path is looked up in a directory, and not too long for that. -/
structure IsLookedUp (name : String) : Prop where
  ne_empty : name ≠ ""
  ne_here : name ≠ "."
  ne_up : name ≠ ".."
  short : name.utf8ByteSize ≤ maxName

/-- Where the target of a link starts that lies in a directory. -/
def targetStart (here : Place) (target : String) : Place :=
  if Path.isAbsolute target then [] else here

/-- The walks from a place along pieces of a path to a place, following at most so many links. -/
inductive Walk (t : Tree) : (links : Nat) → (here : Place) → List String → Place → Prop where
  | done {links here} : Walk t links here [] here
  | blank {links here name rest place} (hname : name = "" ∨ name = ".")
      (h : Walk t links here rest place) : Walk t links here (name :: rest) place
  | up {links here rest place} (h : Walk t links here.dropLast rest place) :
      Walk t links here (".." :: rest) place
  | dir {links here name rest place} (hname : IsLookedUp name)
      (hdir : t.IsDirAt (here ++ [name])) (h : Walk t links (here ++ [name]) rest place) :
      Walk t links here (name :: rest) place
  | file {links here name octets mtime} (hname : IsLookedUp name)
      (hfile : t.at? (here ++ [name]) = some (.file octets mtime)) :
      Walk t links here [name] (here ++ [name])
  | link {links here name rest place target} (hname : IsLookedUp name)
      (hlink : t.at? (here ++ [name]) = some (.link target))
      (h : Walk t links (targetStart here target) (Path.pieces target ++ rest) place) :
      Walk t (links + 1) here (name :: rest) place

variable {t : Tree} {links : Nat} {here place : Place} {pieces rest : List String} {name : String}

/-! ## Walks are lookups -/

/-- Where a lookup goes on behind a link. -/
def onward (t : Tree) : (links : Nat) → Place → List String → Except AccessFault Place
  | 0 => fun _ _ => .error .tooManyLinks
  | links + 1 => locateFrom t true links

lemma locateFrom_eq (t : Tree) (links : Nat) :
    t.locateFrom true links = t.locateVia true (t.onward links) := by
  cases links <;> rfl

section

variable {follow : Place → List String → Except AccessFault Place}

lemma locateVia_blank (hname : name = "" ∨ name = ".") :
    t.locateVia true follow here (name :: rest) = t.locateVia true follow here rest := by
  rw [locateVia, if_pos (by simpa using hname)]

lemma locateVia_up :
    t.locateVia true follow here (".." :: rest) = t.locateVia true follow here.dropLast rest := by
  rw [locateVia, if_neg (by decide), if_pos rfl]

lemma locateVia_lookedUp (hname : IsLookedUp name) :
    t.locateVia true follow here (name :: rest) =
      match t.at? (here ++ [name]) with
      | none => .error .missing
      | some (.dir _) => t.locateVia true follow (here ++ [name]) rest
      | some (.file _ _) => if rest.isEmpty then .ok (here ++ [name]) else .error .notDirectory
      | some (.link target) => follow (targetStart here target) (Path.pieces target ++ rest) := by
  have hblank : ¬ (name = "" || name = ".") = true := by simp [hname.ne_empty, hname.ne_here]
  rw [locateVia]
  refine (if_neg hblank).trans ((if_neg hname.ne_up).trans
    ((if_neg (Nat.not_lt.mpr hname.short)).trans ?_))
  cases t.at? (here ++ [name]) with
  | none => rfl
  | some e => cases e <;> simp [targetStart]

end

lemma locateFrom_of_walk (h : t.Walk links here pieces place) :
    t.locateFrom true links here pieces = .ok place := by
  induction h with
  | done => rw [locateFrom_eq, locateVia]
  | blank hname _ ih => rw [locateFrom_eq, locateVia_blank hname, ← locateFrom_eq, ih]
  | up _ ih => rw [locateFrom_eq, locateVia_up, ← locateFrom_eq, ih]
  | dir hname hdir _ ih =>
      obtain ⟨children, hdir⟩ := hdir
      rw [locateFrom_eq, locateVia_lookedUp hname, hdir]
      dsimp only
      rw [← locateFrom_eq, ih]
  | file hname hfile =>
      rw [locateFrom_eq, locateVia_lookedUp hname, hfile]
      rfl
  | link hname hlink _ ih =>
      rw [locateFrom_eq, locateVia_lookedUp hname, hlink]
      exact ih

lemma walk_of_locateVia {follow : Place → List String → Except AccessFault Place}
    (hfollow : ∀ {here pieces place}, follow here pieces = .ok place →
      ∃ fewer, links = fewer + 1 ∧ t.Walk fewer here pieces place)
    (h : t.locateVia true follow here pieces = .ok place) : t.Walk links here pieces place := by
  induction pieces generalizing here with
  | nil =>
      rw [locateVia] at h
      rw [← Except.ok.inj h]
      exact .done
  | cons name rest ih =>
      by_cases hblank : name = "" ∨ name = "."
      · rw [locateVia_blank hblank] at h
        exact .blank hblank (ih h)
      by_cases hup : name = ".."
      · subst hup
        rw [locateVia_up] at h
        exact .up (ih h)
      rw [not_or] at hblank
      by_cases hshort : name.utf8ByteSize ≤ maxName
      · have hname : IsLookedUp name := ⟨hblank.1, hblank.2, hup, hshort⟩
        rw [locateVia_lookedUp hname] at h
        split at h
        · cases h
        · next children hdir => exact .dir hname ⟨children, hdir⟩ (ih h)
        · next hfile =>
            split at h
            · next hlast =>
                rw [← Except.ok.inj h, List.isEmpty_iff.mp hlast]
                exact .file hname hfile
            · cases h
        · next target hlink =>
            obtain ⟨fewer, rfl, hwalk⟩ := hfollow h
            exact .link hname hlink hwalk
      · rw [locateVia, if_neg (by simp [hblank.1, hblank.2]), if_neg hup,
          if_pos (Nat.lt_of_not_le hshort)] at h
        cases h

/-- **Walks are the lookups that succeed.** -/
theorem walk_iff : t.locateFrom true links here pieces = .ok place ↔
    t.Walk links here pieces place := by
  refine ⟨fun h => ?_, locateFrom_of_walk⟩
  induction links generalizing here pieces place with
  | zero => exact walk_of_locateVia (fun hfollow => by cases hfollow) h
  | succ links ih => exact walk_of_locateVia (fun hfollow => ⟨links, rfl, ih hfollow⟩) h

/-! ## Changing, cutting and joining walks -/

/-- A walk can be walked in every tree that extends this one, and with more links. -/
lemma Walk.mono {t' : Tree} {more : Nat} (h : t.Walk links here pieces place) (ht : t.Extends t')
    (hlinks : links ≤ more) : t'.Walk more here pieces place := by
  induction h generalizing more with
  | done => exact .done
  | blank hname _ ih => exact .blank hname (ih hlinks)
  | up _ ih => exact .up (ih hlinks)
  | dir hname hdir _ ih => exact .dir hname (ht.isDirAt hdir) (ih hlinks)
  | file hname hfile =>
      obtain ⟨e, he, hkind⟩ := ht _ _ hfile
      cases e with
      | file octets mtime => exact .file hname he
      | link _ => cases hkind
      | dir _ => cases hkind
  | @link links here name rest place target hname hlink _ ih =>
      obtain ⟨e, he, hkind⟩ := ht _ _ hlink
      obtain ⟨more, rfl⟩ := Nat.exists_eq_add_of_le' (Nat.le_trans (Nat.succ_pos links) hlinks)
      cases e with
      | link target' =>
          obtain rfl : target' = target := Entry.Kind.link.inj hkind
          exact .link hname he (ih (Nat.le_of_succ_le_succ hlinks))
      | file _ _ => cases hkind
      | dir _ => cases hkind

/-- A walk to a directory can be gone on with. -/
lemma Walk.append {mid : Place} {more : List String} (h : t.Walk links here pieces mid)
    (hmid : t.IsDirAt mid) (hmore : ∀ links, t.Walk links mid more place) :
    t.Walk links here (pieces ++ more) place := by
  induction h with
  | done => exact hmore _
  | blank hname _ ih => exact .blank hname (ih hmid hmore)
  | up _ ih => exact .up (ih hmid hmore)
  | dir hname hdir _ ih => exact .dir hname hdir (ih hmid hmore)
  | file hname hfile =>
      obtain ⟨children, hdir⟩ := hmid
      rw [hfile] at hdir
      cases hdir
  | link hname hlink _ ih =>
      refine .link hname hlink ?_
      have hwalk := ih hmid hmore
      rwa [List.append_assoc] at hwalk

lemma isDirAt_targetStart {target : String} (h : t.at? (here ++ [name]) = some (.link target)) :
    t.IsDirAt (targetStart here target) := by
  rw [targetStart]
  split
  · exact isDirAt_nil t
  · exact isDirAt_of_at?_concat h

/-- A walk that goes on behind some of its pieces has come to a directory there. -/
lemma Walk.split {first second : List String} (h : t.Walk links here (first ++ second) place)
    (hhere : t.IsDirAt here) (hend : second ≠ [] ∨ t.IsDirAt place) :
    ∃ mid fewer, fewer ≤ links ∧ t.IsDirAt mid ∧ t.Walk links here first mid ∧
      t.Walk fewer mid second place := by
  generalize hpieces : first ++ second = pieces at h
  induction h generalizing first with
  | @done links here =>
      obtain ⟨rfl, rfl⟩ := List.append_eq_nil_iff.mp hpieces
      exact ⟨here, links, Nat.le_refl _, hhere, .done, .done⟩
  | @blank links here name rest place hname h ih =>
      cases first with
      | nil =>
          obtain rfl : second = name :: rest := hpieces
          exact ⟨here, links, Nat.le_refl _, hhere, .done, .blank hname h⟩
      | cons _ first =>
          obtain ⟨rfl, hrest⟩ := List.cons.inj hpieces
          obtain ⟨mid, fewer, hle, hmid, hfirst, hsecond⟩ := ih hhere hend hrest
          exact ⟨mid, fewer, hle, hmid, .blank hname hfirst, hsecond⟩
  | @up links here rest place h ih =>
      cases first with
      | nil =>
          obtain rfl : second = ".." :: rest := hpieces
          exact ⟨here, links, Nat.le_refl _, hhere, .done, .up h⟩
      | cons _ first =>
          obtain ⟨rfl, hrest⟩ := List.cons.inj hpieces
          obtain ⟨mid, fewer, hle, hmid, hfirst, hsecond⟩ := ih hhere.dropLast hend hrest
          exact ⟨mid, fewer, hle, hmid, .up hfirst, hsecond⟩
  | @dir links here name rest place hname hdir h ih =>
      cases first with
      | nil =>
          obtain rfl : second = name :: rest := hpieces
          exact ⟨here, links, Nat.le_refl _, hhere, .done, .dir hname hdir h⟩
      | cons _ first =>
          obtain ⟨rfl, hrest⟩ := List.cons.inj hpieces
          obtain ⟨mid, fewer, hle, hmid, hfirst, hsecond⟩ := ih hdir hend hrest
          exact ⟨mid, fewer, hle, hmid, .dir hname hdir hfirst, hsecond⟩
  | @file links here name octets mtime hname hfile =>
      cases first with
      | nil =>
          obtain rfl : second = [name] := hpieces
          exact ⟨here, links, Nat.le_refl _, hhere, .done, .file hname hfile⟩
      | cons _ first =>
          obtain ⟨rfl, hrest⟩ := List.cons.inj hpieces
          obtain ⟨rfl, rfl⟩ := List.append_eq_nil_iff.mp hrest
          obtain ⟨children, hdir⟩ := hend.resolve_left (by simp)
          rw [hfile] at hdir
          cases hdir
  | @link links here name rest place target hname hlink h ih =>
      cases first with
      | nil =>
          obtain rfl : second = name :: rest := hpieces
          exact ⟨here, links + 1, Nat.le_refl _, hhere, .done, .link hname hlink h⟩
      | cons _ first =>
          obtain ⟨rfl, rfl⟩ := List.cons.inj hpieces
          obtain ⟨mid, fewer, hle, hmid, hfirst, hsecond⟩ :=
            ih (isDirAt_targetStart hlink) hend (List.append_assoc _ _ _)
          exact ⟨mid, fewer, Nat.le_succ_of_le hle, hmid, .link hname hlink hfirst, hsecond⟩

/-! ## Opening a file -/

lemma openFile_eq_ok_iff {t : Tree} {path : String} {octets : List UInt8} {mtime : Int} :
    t.openFile path = .ok (octets, mtime) ↔
      ∃ place, t.locate true path = .ok place ∧ t.at? place = some (.file octets mtime) := by
  rw [openFile]
  cases t.locate true path with
  | error cause => simp
  | ok place =>
      simp only [Except.ok.injEq, exists_eq_left']
      split <;> simp_all

/-- A file is opened along a walk from where its path starts. -/
lemma locate_eq_ok_iff {path : String} : t.locate true path = .ok place ↔
    path ≠ "" ∧ path.utf8ByteSize ≤ maxPath ∧
      t.Walk maxLinks (targetStart workingPlace path) (Path.pieces path) place := by
  rw [locate, ← walk_iff, targetStart]
  by_cases hempty : path = ""
  · simp [hempty]
  · rw [if_neg (by simpa using hempty)]
    split
    · next hlong => simp [Nat.not_le.mpr hlong]
    · next hshort => simp [hempty, Nat.not_lt.mp hshort]

end NoteCheck.Tree
