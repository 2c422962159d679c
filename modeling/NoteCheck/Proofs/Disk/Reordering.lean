import Mathlib.Data.List.Nodup
import NoteCheck.Proofs.Disk.Nesting
import NoteCheck.Proofs.Disk.Walk

/-!
# The order of the children does not matter

A directory holds at most one entry of each name, and a name has no slash and is not blank or a
reference (`WellNamed`).  The order in which a file system gives the children of a directory means
nothing: it may be another one the next time, in any directory of the tree (`Reordered`).

Where names are unique an entry is found by its name, wherever it stands (`child?_eq_some_iff`).  So a
tree with reordered children extends the old one and is extended by it, and whatever is looked up in
the one is found in the other (`extends_of_reordered`).
-/

namespace NoteCheck

/-- Whether all children have names, and no two in one directory have the same. -/
inductive Tree.WellNamed : Tree → Prop where
  | intro {t : Tree} (nodup : (t.map (·.1)).Nodup) (names : ∀ child ∈ t, Path.IsName child.1)
      (children : ∀ name cs, (name, .dir cs) ∈ t → WellNamed cs) : WellNamed t

/-- Whether a tree is another one with the children of some of its directories in another order. -/
inductive Tree.Reordered : Tree → Tree → Prop where
  | nil : Reordered [] []
  /-- The first child stays as it is. -/
  | keep (child : String × Entry) {t t' : Tree} (h : Reordered t t') :
      Reordered (child :: t) (child :: t')
  /-- The first child is a directory, and its children are reordered. -/
  | dir (name : String) {cs cs' t t' : Tree} (hcs : Reordered cs cs') (h : Reordered t t') :
      Reordered ((name, .dir cs) :: t) ((name, .dir cs') :: t')
  | swap (a b : String × Entry) (t : Tree) : Reordered (a :: b :: t) (b :: a :: t)
  | trans {t t' t'' : Tree} (h : Reordered t t') (h' : Reordered t' t'') : Reordered t t''

/-- Whether an entry is another one, or a directory with the children of the other one reordered. -/
inductive Entry.Reordered : Entry → Entry → Prop where
  | same (e : Entry) : Reordered e e
  | dir {cs cs' : Tree} (h : cs.Reordered cs') : Reordered (.dir cs) (.dir cs')

lemma Entry.Reordered.trans {e e' e'' : Entry} (h : e.Reordered e') (h' : e'.Reordered e'') :
    e.Reordered e'' := by
  cases h with
  | same => exact h'
  | dir h =>
      cases h' with
      | same => exact .dir h
      | dir h' => exact .dir (h.trans h')

namespace Tree

variable {t t' : Tree} {name : String} {e : Entry} {place : Place}

/-! ## Names -/

lemma WellNamed.nodup (h : t.WellNamed) : (t.map (·.1)).Nodup := by
  cases h with
  | intro nodup _ _ => exact nodup

lemma WellNamed.isName (h : t.WellNamed) (hmem : (name, e) ∈ t) : Path.IsName name := by
  cases h with
  | intro _ names _ => exact names _ hmem

lemma WellNamed.of_mem (h : t.WellNamed) {cs : Tree} (hmem : (name, .dir cs) ∈ t) :
    WellNamed cs := by
  cases h with
  | intro _ _ children => exact children name cs hmem

/-- A directory in which there are no further directories needs good names only. -/
lemma wellNamed_of_isDir_eq_false (nodup : (t.map (·.1)).Nodup)
    (names : ∀ child ∈ t, Path.IsName child.1) (hflat : ∀ child ∈ t, child.2.isDir = false) :
    t.WellNamed :=
  .intro nodup names fun _ _ hmem => absurd (hflat _ hmem) (by simp [Entry.isDir])

/-- Where names are unique, the child of a name is the one that has it. -/
lemma child?_eq_some_iff (h : (t.map (·.1)).Nodup) : t.child? name = some e ↔ (name, e) ∈ t := by
  refine ⟨mem_of_child?, fun hmem => ?_⟩
  induction t with
  | nil => exact absurd hmem (by simp)
  | cons child rest ih =>
      obtain ⟨hchild, hrest⟩ := List.nodup_cons.mp h
      rw [child?]
      rcases List.mem_cons.mp hmem with rfl | hmem
      · rw [List.find?_cons_of_pos (by simp)]
        rfl
      · have hne : child.1 ≠ name := by
          rintro rfl
          exact hchild (List.mem_map.mpr ⟨_, hmem, rfl⟩)
        rw [List.find?_cons_of_neg (by simpa using hne)]
        exact ih hrest hmem

/-- The directories of a well-named tree are well-named. -/
lemma WellNamed.at? (h : t.WellNamed) {cs : Tree} (hat : t.at? place = some (.dir cs)) :
    WellNamed cs := by
  induction place generalizing t with
  | nil =>
      obtain rfl := Entry.dir.inj (Option.some.inj ((at?_nil t).symm.trans hat))
      exact h
  | cons name rest ih =>
      rw [at?_cons] at hat
      obtain ⟨child, hchild, hat⟩ := Option.bind_eq_some_iff.mp hat
      cases child with
      | dir below => exact ih (h.of_mem (mem_of_child? hchild)) hat
      | file _ _ => cases rest <;> cases hat
      | link _ => cases rest <;> cases hat

/-! ## Reordering -/

namespace Reordered

lemma symm (h : t.Reordered t') : t'.Reordered t := by
  induction h with
  | nil => exact .nil
  | keep child _ ih => exact .keep child ih
  | dir name _ _ ihcs ih => exact .dir name ihcs ih
  | swap a b rest => exact .swap b a rest
  | trans _ _ ih ih' => exact .trans ih' ih

/-- Every order of the children is one. -/
lemma of_perm (h : List.Perm t t') : t.Reordered t' := by
  induction h with
  | nil => exact .nil
  | cons child _ ih => exact .keep child ih
  | swap a b rest => exact .swap b a rest
  | trans _ _ ih ih' => exact .trans ih ih'

lemma names_perm (h : t.Reordered t') : (t.map (·.1)).Perm (t'.map (·.1)) := by
  induction h with
  | nil => exact .nil
  | keep child _ ih => exact ih.cons child.1
  | dir name _ _ _ ih => exact ih.cons name
  | swap a b rest => exact .swap b.1 a.1 (rest.map (·.1))
  | trans _ _ ih ih' => exact ih.trans ih'

/-- Every child is found again. -/
lemma exists_mem (h : t.Reordered t') (hmem : (name, e) ∈ t) :
    ∃ e', e.Reordered e' ∧ (name, e') ∈ t' := by
  induction h generalizing e with
  | nil => exact absurd hmem (by simp)
  | keep child _ ih =>
      rcases List.mem_cons.mp hmem with rfl | hmem
      · exact ⟨e, .same e, List.mem_cons_self⟩
      · obtain ⟨e', he, hmem'⟩ := ih hmem
        exact ⟨e', he, List.mem_cons_of_mem _ hmem'⟩
  | dir n hcs _ _ ih =>
      rcases List.mem_cons.mp hmem with heq | hmem
      · obtain ⟨rfl, rfl⟩ := Prod.mk.inj heq
        exact ⟨_, .dir hcs, List.mem_cons_self⟩
      · obtain ⟨e', he, hmem'⟩ := ih hmem
        exact ⟨e', he, List.mem_cons_of_mem _ hmem'⟩
  | swap a b rest => exact ⟨e, .same e, (List.Perm.swap b a rest).mem_iff.mp hmem⟩
  | trans _ _ ih ih' =>
      obtain ⟨e', he, hmem'⟩ := ih hmem
      obtain ⟨e'', he', hmem''⟩ := ih' hmem'
      exact ⟨e'', he.trans he', hmem''⟩

lemma wellNamed (h : t.WellNamed) (ht : t.Reordered t') : t'.WellNamed := by
  induction h generalizing t' with
  | intro nodup names children ih =>
      refine .intro (ht.names_perm.nodup_iff.mp nodup) ?_ ?_
      · rintro ⟨name, e'⟩ hmem
        obtain ⟨e, -, hmem⟩ := ht.symm.exists_mem hmem
        exact names (name, e) hmem
      · intro name cs' hmem
        obtain ⟨e, he, hmem⟩ := ht.symm.exists_mem hmem
        cases he with
        | same => exact children name cs' hmem
        | dir hcs => exact ih name _ hmem hcs.symm

end Reordered

/-- **Reordering** changes nothing about what is at which place. -/
theorem extends_of_reordered (h : t.WellNamed) (ht : t.Reordered t') : t.Extends t' := by
  intro place
  induction place generalizing t t' with
  | nil =>
      intro e he
      rw [at?_nil] at he
      obtain rfl := Option.some.inj he
      exact ⟨_, at?_nil t', rfl⟩
  | cons name rest ih =>
      intro e he
      rw [at?_cons] at he
      obtain ⟨child, hchild, he⟩ := Option.bind_eq_some_iff.mp he
      have hmem := mem_of_child? hchild
      obtain ⟨child', hchild', hmem'⟩ := ht.exists_mem hmem
      rw [at?_cons, (child?_eq_some_iff (ht.wellNamed h).nodup).mpr hmem']
      cases hchild' with
      | same => exact ⟨e, he, rfl⟩
      | dir hcs => exact ih (h.of_mem hmem) hcs e he

end Tree

end NoteCheck
