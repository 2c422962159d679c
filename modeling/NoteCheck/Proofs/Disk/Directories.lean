import NoteCheck.Disk.Edit
import NoteCheck.Proofs.Disk.Walk

/-!
# Making directories

The directories on a path are made piece by piece: a directory that is there is gone into, a link is
followed to a directory, and a name that is not there becomes an empty directory.  So along a walk there
is nothing to make (`makeDirsFrom_of_walk`), and names of which the first is not there give a directory
each (`makeDirsFrom_new`).

What is made extends the tree, and there is nothing more to make in it (`makeDirsFrom_again`).
-/

namespace NoteCheck

namespace Tree

variable {t : Tree} {links : Nat} {here place mid : Place} {pieces rest : List String}
  {name : String}

/-! ## Piece by piece -/

lemma any_isDir_iff : (t.at? place).any Entry.isDir = true ↔ t.IsDirAt place := by
  rw [IsDirAt]
  cases t.at? place with
  | none => simp
  | some e => cases e <;> simp [Entry.isDir]

lemma makeDirsFrom_nil : t.makeDirsFrom here [] = .ok (t, here) :=
  rfl

lemma makeDirsFrom_blank (hname : name = "" ∨ name = ".") :
    t.makeDirsFrom here (name :: rest) = t.makeDirsFrom here rest := by
  rw [makeDirsFrom, if_pos (by simpa using hname)]

lemma makeDirsFrom_up : t.makeDirsFrom here (".." :: rest) = t.makeDirsFrom here.dropLast rest := by
  rw [makeDirsFrom, if_neg (by decide), if_pos rfl]

lemma makeDirsFrom_lookedUp (hname : IsLookedUp name) :
    t.makeDirsFrom here (name :: rest) =
      match t.at? (here ++ [name]) with
      | none =>
          if (t.at? here).any Entry.isDir then
            makeDirsFrom (t.set (some (.dir [])) (here ++ [name])) (here ++ [name]) rest
          else .error .missing
      | some (.dir _) => makeDirsFrom t (here ++ [name]) rest
      | some (.file _ _) => .error (if rest.isEmpty then .occupied else .notDirectory)
      | some (.link _) =>
          match t.locateFrom true maxLinks here [name] with
          | .ok real =>
              if (t.at? real).any Entry.isDir then makeDirsFrom t real rest
              else .error (if rest.isEmpty then .occupied else .notDirectory)
          | .error cause => .error (if rest.isEmpty then .occupied else cause) := by
  have hblank : ¬ (name = "" || name = ".") = true := by simp [hname.ne_empty, hname.ne_here]
  rw [makeDirsFrom]
  exact (if_neg hblank).trans ((if_neg hname.ne_up).trans (if_neg (Nat.not_lt.mpr hname.short)))

lemma makeDirsFrom_tooLong (hblank : ¬ (name = "" ∨ name = ".")) (hup : name ≠ "..")
    (hlong : maxName < name.utf8ByteSize) :
    t.makeDirsFrom here (name :: rest) = .error .tooLong := by
  rw [makeDirsFrom, if_neg (by simpa using hblank), if_neg hup, if_pos hlong]

/-- What a piece of a path can be. -/
lemma piece_cases (name : String) : (name = "" ∨ name = ".") ∨ name = ".." ∨ IsLookedUp name ∨
    ¬ (name = "" ∨ name = ".") ∧ name ≠ ".." ∧ maxName < name.utf8ByteSize := by
  by_cases hblank : name = "" ∨ name = "."
  · exact Or.inl hblank
  · by_cases hup : name = ".."
    · exact Or.inr (Or.inl hup)
    · rcases Nat.lt_or_ge maxName name.utf8ByteSize with hlong | hshort
      · exact Or.inr (Or.inr (Or.inr ⟨hblank, hup, hlong⟩))
      · rw [not_or] at hblank
        exact Or.inr (Or.inr (Or.inl ⟨hblank.1, hblank.2, hup, hshort⟩))

/-- Directories are made along one part of a path and then along the other. -/
lemma makeDirsFrom_append {t t' : Tree} {first second : List String} :
    t.makeDirsFrom here (first ++ second) = .ok (t', place) ↔
      ∃ made mid, t.makeDirsFrom here first = .ok (made, mid) ∧
        made.makeDirsFrom mid second = .ok (t', place) := by
  induction first generalizing t here with
  | nil =>
      rw [List.nil_append, makeDirsFrom_nil]
      constructor
      · exact fun h => ⟨t, here, rfl, h⟩
      · rintro ⟨made, mid, hmade, h⟩
        obtain ⟨rfl, rfl⟩ := Prod.mk.inj (Except.ok.inj hmade)
        exact h
  | cons name first ih =>
      rw [List.cons_append]
      rcases piece_cases name with hblank | rfl | hname | ⟨hblank, hup, hlong⟩
      · rw [makeDirsFrom_blank hblank, makeDirsFrom_blank hblank, ih]
      · rw [makeDirsFrom_up, makeDirsFrom_up, ih]
      · rw [makeDirsFrom_lookedUp hname, makeDirsFrom_lookedUp hname]
        split
        · split
          · exact ih
          · simp
        · exact ih
        · simp
        · split
          · split
            · exact ih
            · simp
          · simp
      · rw [makeDirsFrom_tooLong hblank hup hlong, makeDirsFrom_tooLong hblank hup hlong]
        simp

lemma makeDirsFrom_blanks {blanks : List String} (h : ∀ b ∈ blanks, b = "") :
    t.makeDirsFrom here blanks = .ok (t, here) := by
  induction blanks with
  | nil => exact makeDirsFrom_nil
  | cons b blanks ih =>
      obtain ⟨hb, hblanks⟩ := List.forall_mem_cons.mp h
      rw [makeDirsFrom_blank (Or.inl hb), ih hblanks]

/-- Along a walk to a directory there is nothing to make. -/
lemma makeDirsFrom_of_walk (h : t.Walk links here pieces mid) (hmid : t.IsDirAt mid)
    (hlinks : links ≤ maxLinks) : t.makeDirsFrom here pieces = .ok (t, mid) := by
  induction pieces generalizing here links with
  | nil =>
      cases h
      exact makeDirsFrom_nil
  | cons name rest ih =>
      cases h with
      | blank hname h => rw [makeDirsFrom_blank hname, ih h hlinks]
      | up h => rw [makeDirsFrom_up, ih h hlinks]
      | dir hname hdir h =>
          have hrest := ih h hlinks
          obtain ⟨children, hdir⟩ := hdir
          rw [makeDirsFrom_lookedUp hname, hdir]
          exact hrest
      | file hname hfile =>
          obtain ⟨children, hdir⟩ := hmid
          rw [hfile] at hdir
          cases hdir
      | @link fewer _ _ _ _ target hname hlink h =>
          -- Behind the link the path goes on from the directory that the link leads to.
          obtain ⟨real, left, hleft, hreal, hfirst, hrest⟩ :=
            h.split (isDirAt_targetStart hlink) (Or.inr hmid)
          have hstep : t.Walk (fewer + 1) here [name] real :=
            .link hname hlink (by rwa [List.append_nil])
          have hone := walk_iff.mpr (hstep.mono (Extends.refl t) hlinks)
          have hmore := ih hrest (by omega)
          obtain ⟨children, hreal⟩ := hreal
          rw [makeDirsFrom_lookedUp hname, hlink]
          dsimp only
          rw [hone]
          dsimp only
          rw [hreal]
          exact (if_pos rfl).trans hmore

/-! ## Directories that are new -/

lemma extends_set_dir (h : t.at? place = none) : t.Extends (t.set (some (.dir [])) place) := by
  refine extends_set fun old hold => ?_
  rw [h] at hold
  cases hold

/-- A directory that is made is empty. -/
lemma at?_set_dir (h : t.IsDirAt here) (next : String) :
    (t.set (some (.dir [])) (here ++ [name])).at? (here ++ [name] ++ [next]) = none := by
  rw [at?_append, at?_set_self h name]
  rfl

/-- **Making directories** for names of which the first is not there makes one for each. -/
lemma makeDirsFrom_new {names : List String} (hhere : t.IsDirAt here)
    (hnames : ∀ n ∈ names ++ [name], IsLookedUp n)
    (hnew : ∀ n ∈ (names ++ [name]).head?, t.at? (here ++ [n]) = none) :
    ∃ made, t.makeDirsFrom here names = .ok (made, here ++ names) ∧ t.Extends made ∧
      made.IsDirAt (here ++ names) ∧ made.at? (here ++ names ++ [name]) = none ∧
      ∀ links, made.Walk links here names (here ++ names) := by
  induction names generalizing t here with
  | nil =>
      rw [List.append_nil]
      exact ⟨t, makeDirsFrom_nil, Extends.refl t, hhere, hnew name rfl, fun _ => .done⟩
  | cons first names ih =>
      obtain ⟨hfirst, hrest⟩ := List.forall_mem_cons.mp hnames
      have hnone : t.at? (here ++ [first]) = none := hnew first rfl
      have hset := at?_set_self hhere first (.dir [])
      have hext := extends_set_dir hnone
      obtain ⟨made, hmade, hmore, hdir, hfree, hwalk⟩ :=
        ih ⟨[], hset⟩ hrest fun n _ => at?_set_dir hhere n
      have hplace : here ++ [first] ++ names = here ++ first :: names := by simp
      rw [hplace] at hmade hdir hfree hwalk
      refine ⟨made, ?_, hext.trans hmore, hdir, hfree, fun links => ?_⟩
      · rw [makeDirsFrom_lookedUp hfirst, hnone]
        exact (if_pos (any_isDir_iff.mpr hhere)).trans hmade
      · exact .dir hfirst (hmore.isDirAt ⟨[], hset⟩) (hwalk links)

/-! ## Making them again -/

lemma Extends.exists_link {t' : Tree} {target : String} (ht : t.Extends t')
    (h : t.at? place = some (.link target)) : t'.at? place = some (.link target) := by
  obtain ⟨e, he, hkind⟩ := ht place _ h
  cases e with
  | link target' => rw [he, Entry.Kind.link.inj hkind]
  | file _ _ => cases hkind
  | dir _ => cases hkind

/-- **What has been made** is more than there was, and it need not be made again, even when more has
been added since. -/
lemma makeDirsFrom_again {made : Tree} (h : t.makeDirsFrom here pieces = .ok (made, mid)) :
    t.Extends made ∧
      ∀ t' : Tree, made.Extends t' → t'.makeDirsFrom here pieces = .ok (t', mid) := by
  induction pieces generalizing t here with
  | nil =>
      rw [makeDirsFrom_nil] at h
      obtain ⟨rfl, rfl⟩ := Prod.mk.inj (Except.ok.inj h)
      exact ⟨Extends.refl t, fun _ _ => makeDirsFrom_nil⟩
  | cons name rest ih =>
      rcases piece_cases name with hblank | rfl | hname | ⟨hblank, hup, hlong⟩
      · rw [makeDirsFrom_blank hblank] at h
        obtain ⟨hext, hagain⟩ := ih h
        exact ⟨hext, fun t' ht' => by rw [makeDirsFrom_blank hblank, hagain t' ht']⟩
      · rw [makeDirsFrom_up] at h
        obtain ⟨hext, hagain⟩ := ih h
        exact ⟨hext, fun t' ht' => by rw [makeDirsFrom_up, hagain t' ht']⟩
      · rw [makeDirsFrom_lookedUp hname] at h
        split at h
        · next hnone =>
            split at h
            · next hhere =>
                obtain ⟨hext, hagain⟩ := ih h
                refine ⟨(extends_set_dir hnone).trans hext, fun t' ht' => ?_⟩
                have hset := at?_set_self (any_isDir_iff.mp hhere) name (.dir [])
                obtain ⟨children, hdir⟩ := (hext.trans ht').isDirAt ⟨[], hset⟩
                rw [makeDirsFrom_lookedUp hname, hdir]
                exact hagain t' ht'
            · cases h
        · next children hdir =>
            obtain ⟨hext, hagain⟩ := ih h
            refine ⟨hext, fun t' ht' => ?_⟩
            obtain ⟨children', hdir'⟩ := (hext.trans ht').isDirAt ⟨children, hdir⟩
            rw [makeDirsFrom_lookedUp hname, hdir']
            exact hagain t' ht'
        · cases h
        · next target hlink =>
            split at h
            · next real hreal =>
                split at h
                · next hdir =>
                    obtain ⟨hext, hagain⟩ := ih h
                    refine ⟨hext, fun t' ht' => ?_⟩
                    have hstep := (walk_iff.mp hreal).mono (hext.trans ht') (Nat.le_refl _)
                    have hdir' := (hext.trans ht').isDirAt (any_isDir_iff.mp hdir)
                    rw [makeDirsFrom_lookedUp hname, (hext.trans ht').exists_link hlink]
                    dsimp only
                    rw [walk_iff.mpr hstep]
                    exact (if_pos (any_isDir_iff.mpr hdir')).trans (hagain t' ht')
                · cases h
            · cases h
      · rw [makeDirsFrom_tooLong hblank hup hlong] at h
        cases h

end Tree

end NoteCheck
