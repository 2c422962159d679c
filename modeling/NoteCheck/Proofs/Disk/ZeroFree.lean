import NoteCheck.Proofs.Disk.Entries
import NoteCheck.Proofs.Disk.Nesting
import NoteCheck.Proofs.Text.Pieces

/-!
# Trees without the character zero

No file system has the character zero in a name or in the target of a link.  In a tree that keeps to
this (`Tree.ZeroFree`) every path without that character is resolved (`Tree.exists_realPath`), since
there is nothing else that a resolution fails for.
-/

namespace NoteCheck

/-! ## Names and targets -/

namespace Entry

mutual

/-- Whether no name and no target of a link holds a character zero, in an entry. -/
def isZeroFree : Entry → Bool
  | .file _ _ => true
  | .link target => !target.toList.contains '\x00'
  | .dir children => areZeroFree children

/-- Whether no name and no target of a link holds a character zero, in a directory. -/
def areZeroFree : List (String × Entry) → Bool
  | [] => true
  | (name, e) :: rest => !name.toList.contains '\x00' && isZeroFree e && areZeroFree rest

end

end Entry

namespace Tree

/-- Whether no name and no target of a link in a tree holds a character zero. -/
def ZeroFree (t : Tree) : Prop :=
  Entry.areZeroFree t = true

instance (t : Tree) : Decidable t.ZeroFree :=
  inferInstanceAs (Decidable (_ = true))

variable {t : Tree} {name target : String} {e : Entry} {place here : Place}

lemma ZeroFree.of_mem (h : t.ZeroFree) (hmem : (name, e) ∈ t) :
    '\x00' ∉ name.toList ∧ e.isZeroFree = true := by
  induction t with
  | nil => cases hmem
  | cons child rest ih =>
      obtain ⟨n, e'⟩ := child
      rw [ZeroFree, Entry.areZeroFree, Bool.and_eq_true, Bool.and_eq_true, Bool.not_eq_true'] at h
      obtain ⟨⟨hname, hentry⟩, hrest⟩ := h
      rcases List.mem_cons.mp hmem with heq | hmem
      · obtain ⟨rfl, rfl⟩ := Prod.mk.inj heq
        exact ⟨by simpa using hname, hentry⟩
      · exact ih hrest hmem

lemma ZeroFree.at? (h : t.ZeroFree) (hat : t.at? place = some e) :
    (∀ name ∈ place, '\x00' ∉ name.toList) ∧ e.isZeroFree = true := by
  induction place generalizing t with
  | nil =>
      rw [at?_nil] at hat
      obtain rfl := Option.some.inj hat
      refine ⟨by simp, ?_⟩
      rw [Entry.isZeroFree]
      exact h
  | cons name rest ih =>
      rw [at?_cons] at hat
      obtain ⟨child, hchild, hat⟩ := Option.bind_eq_some_iff.mp hat
      obtain ⟨hname, hfree⟩ := h.of_mem (mem_of_child? hchild)
      cases child with
      | dir children =>
          rw [Entry.isZeroFree] at hfree
          obtain ⟨hrest, he⟩ := ih hfree hat
          exact ⟨List.forall_mem_cons.mpr ⟨hname, hrest⟩, he⟩
      | _ =>
          cases rest with
          | nil =>
              obtain rfl := Option.some.inj hat
              exact ⟨by simpa using hname, hfree⟩
          | cons _ _ => cases hat

lemma ZeroFree.of_linkAt? (h : t.ZeroFree) (hlink : t.linkAt? place = some target) :
    '\x00' ∉ target.toList := by
  have hat : t.at? place = some (.link target) := by
    rw [linkAt?] at hlink
    split at hlink
    · next hat => rw [hat, Option.some.inj hlink]
    · cases hlink
  have hfree := (h.at? hat).2
  rw [Entry.isZeroFree, Bool.not_eq_true'] at hfree
  simpa using hfree

end Tree

/-! ## Resolving -/

/-- The pieces of a path hold nothing that the path does not. -/
lemma Path.zeroFree_of_mem_pieces {path piece : String} (h : '\x00' ∉ path.toList)
    (hpiece : piece ∈ Path.pieces path) : '\x00' ∉ piece.toList := by
  obtain ⟨cs, hcs, rfl⟩ := List.mem_map.mp hpiece
  rw [String.toList_ofList]
  exact fun hzero => h (Text.mem_of_mem_cut hcs hzero)

namespace Tree

variable {t : Tree} {here : Place} {pieces : List String} {links : List (Place × Option Place)}

/-- Where no piece and no target of a link holds a character zero, none is met. -/
lemma realPathVia_ne_zeroInPath (ht : t.ZeroFree)
    {resolve : Place → List String → List (Place × Option Place) → Except Fault Resolution}
    (hresolve : ∀ {here pieces links}, (∀ piece ∈ pieces, '\x00' ∉ piece.toList) →
      resolve here pieces links ≠ .error .zeroInPath)
    (hpieces : ∀ piece ∈ pieces, '\x00' ∉ piece.toList) :
    t.realPathVia resolve here pieces links ≠ .error .zeroInPath := by
  induction pieces generalizing here links with
  | nil => simp [realPathVia]
  | cons piece rest ih =>
      obtain ⟨hpiece, hrest⟩ := List.forall_mem_cons.mp hpieces
      rw [realPathVia]
      split
      · exact ih hrest
      split
      · exact ih hrest
      split
      · next hzero => exact absurd (by simpa using hzero) hpiece
      dsimp only
      split
      · exact ih hrest
      · next target hlink =>
          split
          · exact ih hrest
          · simp
          · intro hfault
            rcases Fault.bind_eq_error_iff.mp hfault with hfault | ⟨r, -, hfault⟩
            · exact hresolve (fun p hp => Path.zeroFree_of_mem_pieces (ht.of_linkAt? hlink) hp) hfault
            · split at hfault
              · exact ih hrest hfault
              · cases hfault

lemma realPathFrom_ne_zeroInPath (ht : t.ZeroFree) : ∀ depth {here pieces links},
    (∀ piece ∈ pieces, '\x00' ∉ piece.toList) →
      t.realPathFrom depth here pieces links ≠ .error .zeroInPath
  | 0, _, _, _, hpieces => realPathVia_ne_zeroInPath ht (by simp) hpieces
  | depth + 1, _, _, _, hpieces =>
      realPathVia_ne_zeroInPath ht (fun h => realPathFrom_ne_zeroInPath ht depth h) hpieces

/-- **A path without the character zero is resolved.** -/
theorem exists_realPath (ht : t.ZeroFree) {path : String} (hpath : '\x00' ∉ path.toList) :
    ∃ p, t.realPath path = .ok p := by
  rcases h : t.realPath path with cause | p
  · obtain rfl := realPath_eq_error h
    rw [realPath, Fault.bind_eq_error_iff] at h
    rcases h with h | ⟨r, -, h⟩
    · exact absurd h (realPathFrom_ne_zeroInPath ht _ fun _ hp =>
        Path.zeroFree_of_mem_pieces hpath hp)
    · cases h
  · exact ⟨p, rfl⟩

end Tree

end NoteCheck
