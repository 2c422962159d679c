import Mathlib.Data.List.Basic
import Mathlib.Data.List.Induction
import NoteCheck.Note.Frontmatter
import NoteCheck.Proofs.Outcome

/-!
# The properties that a mapping gives

Every entry of a mapping sets a property, and setting one leaves all others as they are.  So of the
entries whose keys have the same text the last one counts, and the property has its value as it is
written (`mem_ofEntries_iff`).  A name that only one key of the mapping has comes out once, with the
value of that key's entry (`ofName_ofEntries`).
-/

namespace NoteCheck.Frontmatter

variable {name n : String} {v w : Value} {found last : Properties}

/-! ## Setting a property -/

lemma mem_names_setProperty_iff :
    n ∈ (setProperty name v found).map (·.1) ↔ n = name ∨ n ∈ found.map (·.1) := by
  induction found with
  | nil => simp [setProperty]
  | cons first rest ih =>
      rw [setProperty]
      split
      · next hfirst => simp [hfirst]
      · simp only [List.map_cons, List.mem_cons, ih]
        exact or_left_comm

lemma nodup_setProperty (h : (found.map (·.1)).Nodup) :
    ((setProperty name v found).map (·.1)).Nodup := by
  induction found with
  | nil => simp [setProperty]
  | cons first rest ih =>
      rw [List.map_cons, List.nodup_cons] at h
      rw [setProperty]
      split
      · next hfirst =>
          subst hfirst
          exact List.nodup_cons.mpr h
      · next hfirst =>
          rw [List.map_cons, List.nodup_cons, mem_names_setProperty_iff, not_or]
          exact ⟨⟨hfirst, h.1⟩, ih h.2⟩

/-- Setting a property replaces it and leaves the others. -/
lemma mem_setProperty_iff (h : (found.map (·.1)).Nodup) :
    (n, w) ∈ setProperty name v found ↔ n = name ∧ w = v ∨ n ≠ name ∧ (n, w) ∈ found := by
  induction found with
  | nil =>
      rw [setProperty]
      simp
  | cons first rest ih =>
      obtain ⟨m, u⟩ := first
      rw [List.map_cons, List.nodup_cons] at h
      rw [setProperty]
      split
      · next hfirst =>
          have hrest : ∀ x, (name, x) ∉ rest := fun x hx =>
            h.1 (List.mem_map.mpr ⟨_, hx, hfirst.symm⟩)
          simp only [List.mem_cons, Prod.mk.injEq]
          by_cases hn : n = name
          · subst hn
            simp [hrest, hfirst]
          · simp [hn, hfirst]
      · next hfirst =>
          simp only [List.mem_cons, Prod.mk.injEq, ih h.2]
          by_cases hn : n = name
          · subst hn
            simp [Ne.symm hfirst]
          · simp [hn]

/-! ## Which entry of a name counts -/

/-- Sets the property of an entry. -/
def enter (found : Properties) (entry : Value × Value) : Except Fault Properties := do
  return setProperty (← entry.1.keyText) (asWritten entry.2) found

lemma ofEntries_eq (entries : List (Value × Value)) : ofEntries entries = entries.foldlM enter [] :=
  rfl

/-- Whether an entry of a mapping gives the property of a name: its key has this text, and no key
after it does. -/
def Counts (entries : List (Value × Value)) (entry : Value × Value) (name : String) : Prop :=
  ∃ before after, entries = before ++ entry :: after ∧ entry.1.keyText = .ok name ∧
    ∀ e ∈ after, e.1.keyText ≠ .ok name

/-- An entry at the end counts for its name, and the others count for other names as before. -/
lemma counts_concat_iff {entries : List (Value × Value)} {e entry : Value × Value} :
    Counts (entries ++ [entry]) e n ↔
      e = entry ∧ entry.1.keyText = .ok n ∨ entry.1.keyText ≠ .ok n ∧ Counts entries e n := by
  constructor
  · rintro ⟨before, after, hsplit, hkey, hafter⟩
    rcases List.eq_nil_or_concat' after with rfl | ⟨middle, d, rfl⟩
    · obtain ⟨-, hlast⟩ := List.append_inj' hsplit rfl
      obtain rfl : entry = e := List.singleton_inj.mp hlast
      exact Or.inl ⟨rfl, hkey⟩
    · rw [← List.cons_append, ← List.append_assoc] at hsplit
      obtain ⟨rfl, hlast⟩ := List.append_inj' hsplit rfl
      obtain rfl : entry = d := List.singleton_inj.mp hlast
      exact Or.inr ⟨hafter entry (by simp), before, middle, rfl, hkey,
        fun x hx => hafter x (List.mem_append_left _ hx)⟩
  · rintro (⟨rfl, hkey⟩ | ⟨hne, before, after, rfl, hkey, hafter⟩)
    · exact ⟨entries, [], rfl, hkey, by simp⟩
    · refine ⟨before, after ++ [entry], by simp, hkey, fun x hx => ?_⟩
      rcases List.mem_append.mp hx with hx | hx
      · exact hafter x hx
      · rw [List.mem_singleton.mp hx]
        exact hne

/-- **The properties of a mapping** have different names, and each is the last entry of its name. -/
lemma mem_ofEntries_iff {entries : List (Value × Value)} (h : ofEntries entries = .ok last) :
    (last.map (·.1)).Nodup ∧ ∀ n w, (n, w) ∈ last ↔
      ∃ entry, Counts entries entry n ∧ asWritten entry.2 = w := by
  rw [ofEntries_eq] at h
  induction entries using List.reverseRecOn generalizing last with
  | nil =>
      rw [← Except.ok.inj h]
      simp [Counts]
  | append_singleton entries entry ih =>
      rw [List.foldlM_append] at h
      obtain ⟨early, hearly, h⟩ := Fault.bind_eq_ok_iff.mp h
      rw [List.foldlM_cons] at h
      obtain ⟨next, hnext, h⟩ := Fault.bind_eq_ok_iff.mp h
      obtain ⟨name, hname, hset⟩ := Fault.bind_eq_ok_iff.mp hnext
      obtain rfl : next = last := Except.ok.inj h
      obtain rfl := Except.ok.inj hset
      obtain ⟨hnodup, hmem⟩ := ih hearly
      refine ⟨nodup_setProperty hnodup, fun n w => ?_⟩
      rw [mem_setProperty_iff hnodup, hmem]
      simp only [counts_concat_iff, hname, ne_eq, Except.ok.injEq]
      constructor
      · rintro (⟨rfl, rfl⟩ | ⟨hne, e, hcounts, rfl⟩)
        · exact ⟨entry, Or.inl ⟨rfl, rfl⟩, rfl⟩
        · exact ⟨e, Or.inr ⟨fun heq => hne heq.symm, hcounts⟩, rfl⟩
      · rintro ⟨e, ⟨rfl, rfl⟩ | ⟨hne, hcounts⟩, rfl⟩
        · exact Or.inl ⟨rfl, rfl⟩
        · exact Or.inr ⟨fun heq => hne heq.symm, e, hcounts, rfl⟩

/-! ## The properties of a name -/

/-- The properties of a name. -/
def ofName (name : String) (found : Properties) : Properties :=
  found.filter (·.1 = name)

lemma ofName_of_mem (h : (found.map (·.1)).Nodup) (hmem : (name, w) ∈ found) :
    ofName name found = [(name, w)] := by
  induction found with
  | nil => cases hmem
  | cons first rest ih =>
      rw [List.map_cons, List.nodup_cons] at h
      obtain ⟨hfirst, hrest⟩ := h
      rw [ofName, List.filter_cons]
      rcases List.mem_cons.mp hmem with rfl | hmem
      · have hnone : rest.filter (·.1 = name) = [] := List.filter_eq_nil_iff.mpr fun e he heq =>
          hfirst (List.mem_map.mpr ⟨e, he, by simpa using heq⟩)
        simp [hnone]
      · have hne : first.1 ≠ name := fun heq =>
          hfirst (heq ▸ List.mem_map.mpr ⟨(name, w), hmem, rfl⟩)
        rw [if_neg (by simpa using hne)]
        exact ih hrest hmem

/-- **A name that only one key has** comes out once, with the value of its entry. -/
lemma ofName_ofEntries {before after : List (Value × Value)} {key : Value}
    (hkey : key.keyText = .ok name) (hothers : ∀ e ∈ before ++ after, e.1.keyText ≠ .ok name)
    (h : ofEntries (before ++ (key, v) :: after) = .ok last) :
    ofName name last = [(name, asWritten v)] := by
  obtain ⟨hnodup, hmem⟩ := mem_ofEntries_iff h
  have hcounts : Counts (before ++ (key, v) :: after) (key, v) name :=
    ⟨before, after, rfl, hkey, (List.forall_mem_append.mp hothers).2⟩
  exact ofName_of_mem hnodup ((hmem name _).mpr ⟨(key, v), hcounts, rfl⟩)

/-- What is read from a note with a block whose value is a mapping. -/
lemma ofEntries_of_read {content block body : List Char} {f : Frontmatter}
    {entries : List (Value × Value)} (hcut : cutBlock? content = some (block, body))
    (hload : Yaml.load block = .ok (.entries entries)) (h : read content = .ok f) :
    ofEntries entries = .ok f.properties := by
  rw [read, hcut] at h
  obtain ⟨found, hfound, h⟩ := Fault.bind_eq_ok_iff.mp h
  rw [ofBlock?, hload] at hfound
  obtain ⟨properties, hproperties, rfl⟩ := Fault.map_eq_ok_iff.mp hfound
  rw [← Except.ok.inj h]
  exact hproperties

end NoteCheck.Frontmatter
