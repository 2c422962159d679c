import NoteCheck.Disk.Tree
import NoteCheck.Proofs.Outcome

/-!
# Setting an entry of a tree

What is set at a place is found there, and a tree in which something new was set *extends* the old
one: wherever there was an entry before, there is one of the same kind now (`extends_set`).
-/

namespace NoteCheck

/-- What kind of entry there is: a file, a link to a path or a directory. -/
inductive Entry.Kind where
  | file
  | link (target : String)
  | dir
deriving DecidableEq

/-- The kind of an entry. -/
def Entry.kind : Entry → Kind
  | file _ _ => .file
  | link target => .link target
  | dir _ => .dir

/-- The entry at a place below an entry. -/
def Entry.at? : Entry → Place → Option Entry
  | dir children, place => Tree.at? children place
  | e, [] => some e
  | _, _ :: _ => none

namespace Tree

variable {t : Tree} {name : String} {e : Entry} {place rest : Place}

lemma at?_nil (t : Tree) : t.at? [] = some (.dir t) := by
  rw [at?]

/-- An entry is found name by name. -/
lemma at?_cons (t : Tree) (name : String) (rest : Place) :
    t.at? (name :: rest) = (t.child? name).bind (·.at? rest) := by
  cases rest with
  | nil =>
      rw [at?]
      cases t.child? name with
      | none => rfl
      | some e => cases e <;> simp [Entry.at?, at?_nil]
  | cons next rest =>
      rw [at?]
      · cases t.child? name with
        | none => rfl
        | some e => cases e <;> rfl
      · simp

lemma at?_append (t : Tree) (place rest : Place) :
    t.at? (place ++ rest) = (t.at? place).bind (·.at? rest) := by
  induction place generalizing t with
  | nil =>
      rw [at?_nil]
      rfl
  | cons name place ih =>
      rw [List.cons_append, at?_cons, at?_cons]
      cases t.child? name with
      | none => rfl
      | some e =>
          cases e with
          | dir children => exact ih children
          | file octets mtime =>
              cases place with
              | nil => cases rest <;> rfl
              | cons _ _ => rfl
          | link target =>
              cases place with
              | nil => cases rest <;> rfl
              | cons _ _ => rfl

/-- Whether there is a directory at a place. -/
def IsDirAt (t : Tree) (place : Place) : Prop :=
  ∃ children, t.at? place = some (.dir children)

lemma isDirAt_nil (t : Tree) : t.IsDirAt [] :=
  ⟨t, at?_nil t⟩

/-- Only a directory holds something. -/
lemma isDirAt_of_at?_concat (h : t.at? (place ++ [name]) = some e) : t.IsDirAt place := by
  rw [at?_append] at h
  obtain ⟨above, habove, h⟩ := Option.bind_eq_some_iff.mp h
  cases above with
  | dir children => exact ⟨children, habove⟩
  | file _ _ => cases h
  | link _ => cases h

lemma IsDirAt.dropLast (h : t.IsDirAt place) : t.IsDirAt place.dropLast := by
  rcases List.eq_nil_or_concat place with rfl | ⟨above, name, rfl⟩
  · exact h
  · rw [List.concat_eq_append] at h ⊢
    rw [List.dropLast_concat]
    obtain ⟨children, hat⟩ := h
    exact isDirAt_of_at?_concat hat

/-! ## Setting -/

lemma child?_setChild (name n : String) (e : Option Entry) (t : Tree) :
    (t.setChild name e).child? n = if n = name then e else t.child? n := by
  have hfilter : (t.filter (·.1 ≠ name)).find? (·.1 = n) =
      if n = name then none else t.find? (·.1 = n) := by
    induction t with
    | nil => simp
    | cons child t ih =>
        rw [List.filter_cons]
        by_cases hchild : child.1 = name
        · rw [if_neg (by simp [hchild]), ih]
          split
          · rfl
          · next hn => rw [List.find?_cons_of_neg (by simpa [hchild] using Ne.symm hn)]
        · rw [if_pos (by simp [hchild])]
          by_cases hn : child.1 = n
          · rw [List.find?_cons_of_pos (by simpa using hn), if_neg (by rw [← hn]; exact hchild),
              List.find?_cons_of_pos (by simpa using hn)]
          · rw [List.find?_cons_of_neg (by simpa using hn), ih,
              List.find?_cons_of_neg (by simpa using hn)]
  rw [child?, setChild, List.find?_append, hfilter, child?]
  split
  · next hn => cases e <;> simp [hn]
  · next hn => cases e <;> simp [Ne.symm hn]

/-- An entry that is set at a place further down is set in a directory, if there is one. -/
lemma set_cons_cons (e : Option Entry) (name next : String) (rest : Place) (t : Tree) :
    t.set e (name :: next :: rest) =
      match t.child? name with
      | some (.dir children) => t.setChild name (some (.dir (set e (next :: rest) children)))
      | _ => t :=
  (set.eq_def e (name :: next :: rest) t).trans rfl

/-- What is set in a directory is found there. -/
lemma at?_set_self (h : t.IsDirAt place) (name : String) (e : Entry) :
    (t.set (some e) (place ++ [name])).at? (place ++ [name]) = some e := by
  induction place generalizing t with
  | nil =>
      rw [List.nil_append, set, at?, child?_setChild, if_pos rfl]
  | cons first place ih =>
      obtain ⟨children, hat⟩ := h
      rw [at?_cons] at hat
      obtain ⟨child, hchild, hat⟩ := Option.bind_eq_some_iff.mp hat
      cases child with
      | dir below =>
          obtain ⟨next, more, hmore⟩ : ∃ next more, place ++ [name] = next :: more :=
            List.exists_cons_of_ne_nil (by simp)
          have hset := ih ⟨children, hat⟩
          rw [List.cons_append, hmore, set_cons_cons, hchild]
          rw [hmore] at hset
          rw [at?_cons, child?_setChild, if_pos rfl]
          exact hset
      | file _ _ => cases place <;> cases hat
      | link _ => cases place <;> cases hat

lemma setChild_setChild (name : String) (e e' : Option Entry) (t : Tree) :
    (t.setChild name e).setChild name e' = t.setChild name e' := by
  rw [setChild, setChild, setChild, List.filter_append, List.filter_filter]
  cases e <;> simp

/-- To set an entry twice is to set it once. -/
lemma set_set (e : Option Entry) (place : Place) (t : Tree) :
    (t.set e place).set e place = t.set e place := by
  induction place generalizing t with
  | nil => rfl
  | cons name rest ih =>
      cases rest with
      | nil => rw [set, set, setChild_setChild]
      | cons next rest =>
          have hset := set_cons_cons e name next rest t
          rw [hset]
          split
          · next children hdir =>
              rw [set_cons_cons, child?_setChild, if_pos rfl]
              dsimp only
              rw [setChild_setChild, ih]
          · next hne =>
              rw [hset]
              split
              · next children hdir => exact absurd hdir (hne children)
              · rfl

/-- Whether a tree has an entry of the same kind wherever another tree has one. -/
def Extends (t t' : Tree) : Prop :=
  ∀ place e, t.at? place = some e → ∃ e', t'.at? place = some e' ∧ e'.kind = e.kind

lemma Extends.refl (t : Tree) : t.Extends t :=
  fun _ e h => ⟨e, h, rfl⟩

lemma Extends.trans {t' t'' : Tree} (h : t.Extends t') (h' : t'.Extends t'') : t.Extends t'' := by
  intro place e he
  obtain ⟨e', he', hkind'⟩ := h place e he
  obtain ⟨e'', he'', hkind''⟩ := h' place e' he'
  exact ⟨e'', he'', hkind''.trans hkind'⟩

lemma Extends.isDirAt {t' : Tree} (h : t.Extends t') (hdir : t.IsDirAt place) :
    t'.IsDirAt place := by
  obtain ⟨children, hat⟩ := hdir
  obtain ⟨e, he, hkind⟩ := h place _ hat
  cases e with
  | dir children' => exact ⟨children', he⟩
  | file _ _ => cases hkind
  | link _ => cases hkind

/-- What may be set at a place where there is nothing: anything. Where there is a file: a file. -/
def Fits (t : Tree) (place : Place) (e : Entry) : Prop :=
  ∀ old, t.at? place = some old → old.kind = .file ∧ e.kind = .file

/-- **Setting something new** extends a tree. -/
theorem extends_set (h : t.Fits place e) : t.Extends (t.set (some e) place) := by
  induction place generalizing t with
  | nil => exact Extends.refl t
  | cons name rest ih =>
      intro p old hold
      cases p with
      | nil => exact ⟨_, at?_nil _, by rw [← Option.some.inj ((at?_nil t).symm.trans hold)]; rfl⟩
      | cons n q =>
          rw [at?_cons] at hold
          obtain ⟨child, hchild, hold⟩ := Option.bind_eq_some_iff.mp hold
          cases rest with
          | nil =>
              rw [set, at?_cons, child?_setChild]
              split
              · next hn =>
                  rw [hn] at hchild
                  obtain ⟨hfile, hkind⟩ := h child (by rw [at?, hchild])
                  cases child with
                  | file octets mtime =>
                      cases q with
                      | nil =>
                          rw [← Option.some.inj hold]
                          cases e with
                          | file o m => exact ⟨_, rfl, rfl⟩
                          | link _ => cases hkind
                          | dir _ => cases hkind
                      | cons _ _ => cases hold
                  | link _ => cases hfile
                  | dir _ => cases hfile
              · rw [hchild]
                exact ⟨old, hold, rfl⟩
          | cons next rest =>
              rw [set_cons_cons]
              split
              · next children hdir =>
                  rw [at?_cons, child?_setChild]
                  split
                  · next hn =>
                      rw [hn, hdir] at hchild
                      obtain rfl := Option.some.inj hchild
                      have hfits : Fits children (next :: rest) e := fun o ho =>
                        h o (by rw [at?_cons, hdir]; exact ho)
                      exact ih hfits q old hold
                  · rw [hchild]
                    exact ⟨old, hold, rfl⟩
              · rw [at?_cons, hchild]
                exact ⟨old, hold, rfl⟩

end Tree

end NoteCheck
