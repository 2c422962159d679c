import Mathlib.Data.List.Dedup
import Mathlib.Data.List.Forall2
import NoteCheck.Proofs.Note.Moments
import NoteCheck.Proofs.Value.KeyText
import NoteCheck.Proofs.Yaml.Keys

/-!
# Properties whose keys have one text

The properties of a note are named by the texts of the keys that YAML read, and different keys may
have the same text.  They do exactly if they clash (`Value.clash_iff`): YAML reads `1` and `"1"` as
two keys, and what is not a number is a new key each time that it is tagged so.

* **`properties_exact`** — without such keys the properties are the entries of the mapping, one for
  one; with them there are fewer properties than entries, and of the entries that clash the last one
  counts.
* **`properties_collapse`** — the key `1` and the key `"1"` give one property, and what stands under
  the first of them is not checked.
-/

namespace NoteCheck.Frontmatter

variable {name n : String} {v : Value} {found last own : Properties}
  {entries : List (Value × Value)}

/-! ## Setting properties one after the other -/

/-- The properties that are left when some are set one after the other. -/
def settle (own : Properties) : Properties :=
  own.foldl (fun found p => setProperty p.1 p.2 found) []

lemma settle_concat (own : Properties) (p : String × Value) :
    settle (own ++ [p]) = setProperty p.1 p.2 (settle own) := by
  rw [settle, List.foldl_append]
  rfl

lemma setProperty_of_notMem (h : name ∉ found.map (·.1)) :
    setProperty name v found = found ++ [(name, v)] := by
  induction found with
  | nil => rfl
  | cons first rest ih =>
      rw [List.map_cons, List.mem_cons, not_or] at h
      rw [setProperty, if_neg (Ne.symm h.1), ih h.2, List.cons_append]

lemma names_setProperty_of_mem (h : name ∈ found.map (·.1)) :
    (setProperty name v found).map (·.1) = found.map (·.1) := by
  induction found with
  | nil => cases h
  | cons first rest ih =>
      rw [setProperty]
      split
      · next hfirst => rfl
      · next hfirst =>
          rw [List.map_cons, List.map_cons,
            ih ((List.mem_cons.mp h).resolve_left (Ne.symm hfirst))]

/-- A name stands where it stood first. -/
lemma names_settle (own : Properties) :
    (settle own).map (·.1) = (own.map (·.1)).eraseDups := by
  induction own using List.reverseRecOn with
  | nil => rfl
  | append_singleton own p ih =>
      rw [settle_concat, List.map_append, List.map_singleton, List.eraseDups_append, ← ih]
      by_cases hp : p.1 ∈ own.map (·.1)
      · have hsettled : p.1 ∈ (settle own).map (·.1) := by rwa [ih, List.mem_eraseDups]
        rw [names_setProperty_of_mem hsettled]
        simp [List.removeAll, hp]
      · have hsettled : p.1 ∉ (settle own).map (·.1) := by rwa [ih, List.mem_eraseDups]
        rw [setProperty_of_notMem hsettled]
        simp [List.removeAll, hp, List.eraseDups_cons]

lemma settle_of_nodup (h : (own.map (·.1)).Nodup) : settle own = own := by
  induction own using List.reverseRecOn with
  | nil => rfl
  | append_singleton own p ih =>
      rw [List.map_append, List.map_singleton, List.nodup_append] at h
      obtain ⟨hown, -, hdisjoint⟩ := h
      rw [settle_concat, ih hown, setProperty_of_notMem]
      exact fun hp => hdisjoint p.1 hp p.1 (List.mem_singleton_self _) rfl

lemma nodup_settle (own : Properties) : ((settle own).map (·.1)).Nodup := by
  induction own using List.reverseRecOn with
  | nil => exact List.nodup_nil
  | append_singleton own p ih =>
      rw [settle_concat]
      exact nodup_setProperty ih

/-- Where a name is set twice, a property is lost. -/
lemma length_settle_lt (h : ¬ (own.map (·.1)).Nodup) : (settle own).length < own.length := by
  have hperm : ((settle own).map (·.1)).Perm (own.map (·.1)).dedup := by
    refine (List.perm_ext_iff_of_nodup (nodup_settle own) (List.nodup_dedup _)).mpr fun n => ?_
    rw [names_settle, List.mem_eraseDups, List.mem_dedup]
  have hlength := hperm.length_eq
  have hown : own.length = (own.map (·.1)).length := (List.length_map _).symm
  rw [List.length_map] at hlength
  rw [hlength, hown]
  refine lt_of_le_of_ne (List.dedup_sublist _).length_le fun heq => h ?_
  rw [← (List.dedup_sublist _).eq_of_length heq]
  exact List.nodup_dedup _

/-! ## What the entries give -/

/-- Whether an entry of a mapping gives a property: under the text of its key, as it is written. -/
def Gives (entry : Value × Value) (p : String × Value) : Prop :=
  entry.1.keyText = .ok p.1 ∧ asWritten entry.2 = p.2

lemma exists_own (h : ofEntries entries = .ok last) :
    ∃ own, List.Forall₂ Gives entries own ∧ last = settle own := by
  have hfrom : ∀ {found}, entries.foldlM enter found = .ok last →
      ∃ own, List.Forall₂ Gives entries own ∧
        last = own.foldl (fun found p => setProperty p.1 p.2 found) found := by
    clear h
    induction entries with
    | nil =>
        intro found h
        exact ⟨[], .nil, (Except.ok.inj h).symm⟩
    | cons entry entries ih =>
        intro found h
        rw [List.foldlM_cons] at h
        obtain ⟨next, hnext, h⟩ := Fault.bind_eq_ok_iff.mp h
        obtain ⟨name, hname, hset⟩ := Fault.bind_eq_ok_iff.mp hnext
        obtain ⟨own, hown, hlast⟩ := ih h
        refine ⟨(name, asWritten entry.2) :: own, .cons ⟨hname, rfl⟩ hown, ?_⟩
        rw [hlast, List.foldl_cons, ← Except.ok.inj hset]
  exact hfrom h

lemma mem_names_iff (hown : List.Forall₂ Gives entries own) :
    n ∈ own.map (·.1) ↔ ∃ entry ∈ entries, entry.1.keyText = .ok n := by
  induction hown with
  | nil => simp
  | cons hgives _ ih => simp [ih, hgives.1, eq_comm]

lemma exists_keyText (hown : List.Forall₂ Gives entries own) :
    ∀ entry ∈ entries, ∃ name, entry.1.keyText = .ok name := by
  induction hown with
  | nil => simp
  | cons hgives _ ih => exact List.forall_mem_cons.mpr ⟨⟨_, hgives.1⟩, ih⟩

/-- A key clashes with none of some others exactly if its text is not that of any. -/
lemma clashes_none_iff {key : Value} (hkey : key.keyText = .ok n)
    (hkeys : ∀ entry ∈ entries, ∃ name, entry.1.keyText = .ok name)
    (happart : ∀ entry ∈ entries, key.same entry.1 = false) :
    (∀ entry ∈ entries, ¬ key.Clash entry.1) ↔ ∀ entry ∈ entries, entry.1.keyText ≠ .ok n := by
  refine forall₂_congr fun entry hentry => not_congr ?_
  obtain ⟨m, hm⟩ := hkeys entry hentry
  rw [Value.clash_iff hkey hm (happart entry hentry), hm, Except.ok.injEq, eq_comm]

/-- Whether no two keys clash. -/
def Clashless (entries : List (Value × Value)) : Prop :=
  entries.Pairwise fun e d => ¬ e.1.Clash d.1

/-- The names are different exactly if no keys clash. -/
lemma nodup_iff_clashless (hown : List.Forall₂ Gives entries own)
    (happart : entries.Pairwise fun e d => e.1.same d.1 = false) :
    (own.map (·.1)).Nodup ↔ Clashless entries := by
  induction hown with
  | nil => simp [Clashless]
  | cons hgives hrest ih =>
      obtain ⟨hfirst, hlater⟩ := List.pairwise_cons.mp happart
      rw [List.map_cons, List.nodup_cons, Clashless, List.pairwise_cons, ih hlater, Clashless,
        clashes_none_iff hgives.1 (exists_keyText hrest) hfirst, mem_names_iff hrest]
      simp

/-! ## The properties of a note -/

/-- **The properties of a note** whose block is a mapping.  If no two keys clash, then they are the
entries in their order, each under the text of its key and with its own value as it is written.  If
two keys clash, then there are fewer properties than entries: each name stands where it stood first.
In any case an entry with which no later key clashes gives the only property of its name, and a
check that gives an answer reports about this name what it finds for the value of the entry. -/
theorem properties_exact {content block body : List Char} {f : Frontmatter}
    {entries : List (Value × Value)} (hread : read content = .ok f)
    (hcut : cutBlock? content = some (block, body))
    (hload : Yaml.load block = .ok (.entries entries)) :
    ∃ own : Properties, List.Forall₂ Gives entries own ∧
      (Clashless entries → f.properties = own) ∧
      (¬ Clashless entries → f.properties.length < entries.length) ∧
      f.properties.map (·.1) = (own.map (·.1)).eraseDups ∧
      ∀ before entry after, entries = before ++ entry :: after →
        (∀ later ∈ after, ¬ entry.1.Clash later.1) →
        ∀ name, entry.1.keyText = .ok name →
          ofName name f.properties = [(name, asWritten entry.2)] ∧
          ∀ schema found, violations schema f.properties.toValue = .ok found →
            ∃ first, checkProperty schema (.text name) (asWritten entry.2) = .ok first ∧
              found.filter (fun x => isNamed name x.property) = first.toList := by
  have hentries := ofEntries_of_read hcut hload hread
  have happart := Yaml.apart_of_load hload
  obtain ⟨own, hown, hsettle⟩ := exists_own hentries
  refine ⟨own, hown, fun hclashless => ?_, fun hclash => ?_, ?_, ?_⟩
  · rw [hsettle, settle_of_nodup ((nodup_iff_clashless hown happart).mpr hclashless)]
  · rw [hsettle, hown.length_eq]
    exact length_settle_lt (mt (nodup_iff_clashless hown happart).mp hclash)
  · rw [hsettle, names_settle]
  · rintro before entry after rfl hlater name hname
    have hafter : ∀ e ∈ after, e.1.keyText ≠ .ok name := by
      have hkeys : ∀ e ∈ after, ∃ m, e.1.keyText = .ok m := fun e he =>
        exists_keyText hown e (by simp [he])
      have hothers := (List.pairwise_cons.mp (List.pairwise_append.mp happart).2.1).1
      exact (clashes_none_iff hname hkeys hothers).mp hlater
    obtain ⟨hnodup, hmem⟩ := mem_ofEntries_iff hentries
    have hone : ofName name f.properties = [(name, asWritten entry.2)] :=
      ofName_of_mem hnodup
        ((hmem name _).mpr ⟨entry, ⟨before, after, rfl, hname, hafter⟩, rfl⟩)
    exact ⟨hone, fun schema found h => filter_violations_of_ofName hone h⟩

/-- The mapping of two keys, the first to the text `a` and the second to a truth value. -/
def pairOf (first second : Value) : List (Value × Value) :=
  [(first, .text "a"), (second, .bool true)]

/-- Whether what was loaded is such a mapping of a whole number and a text. -/
def isMixedPair (i : Int) (name : String) : Except Yaml.Trouble Yaml.Loaded → Bool
  | .ok (.entries [(.int j, .text s), (.text t, .bool b)]) =>
      j == i && s == "a" && t == name && b
  | _ => false

lemma eq_of_isMixedPair {i : Int} {loaded : Except Yaml.Trouble Yaml.Loaded}
    (h : isMixedPair i name loaded = true) :
    loaded = .ok (.entries (pairOf (.int i) (.text name))) := by
  unfold isMixedPair at h
  split at h
  · next j s t b =>
      simp only [Bool.and_eq_true, beq_iff_eq] at h
      obtain ⟨⟨⟨rfl, rfl⟩, rfl⟩, rfl⟩ := h
      rfl
  · cases h

/-- Whether what was loaded is such a mapping of what is not a number, twice. -/
def isNaNPair : Except Yaml.Trouble Yaml.Loaded → Bool
  | .ok (.entries [(.float x, .text s), (.float y, .bool b)]) =>
      x == Binary64.nan && s == "a" && y == Binary64.nan && b
  | _ => false

lemma eq_of_isNaNPair {loaded : Except Yaml.Trouble Yaml.Loaded} (h : isNaNPair loaded = true) :
    loaded = .ok (.entries (pairOf (.float Binary64.nan) (.float Binary64.nan))) := by
  unfold isNaNPair at h
  split at h
  · next x s y b =>
      simp only [Bool.and_eq_true, beq_iff_eq] at h
      obtain ⟨⟨⟨rfl, rfl⟩, rfl⟩, rfl⟩ := h
      rfl
  · cases h

/-- A note with two keys and these values. -/
lemma read_pairOf {content block body : List Char} {first second : Value} {m : String}
    (hread : (read content).isOk = true) (hcut : cutBlock? content = some (block, body))
    (hload : Yaml.load block = .ok (.entries (pairOf first second)))
    (hfirst : first.keyText = .ok m) (hsecond : second.keyText = .ok n) :
    ∃ f, read content = .ok f ∧ f.properties = setProperty n (.bool true) [(m, .text "a")] := by
  obtain ⟨f, hf⟩ := Fault.isOk_iff.mp hread
  refine ⟨f, hf, ?_⟩
  have hentries := ofEntries_of_read hcut hload hf
  simp only [ofEntries_eq, pairOf, enter, List.foldlM_cons, List.foldlM_nil, hfirst, hsecond,
    Fault.ok_bind, Fault.pure_eq_ok, asWritten] at hentries
  exact (Except.ok.inj hentries).symm

/-- A note with a number and a text for its keys. -/
theorem properties_exact_mixed :
    ∃ f, read "---\n1: a\ndue: true\n---\n".toList = .ok f ∧
      f.properties = [("1", .text "a"), ("due", .bool true)] := by
  have hread : (read "---\n1: a\ndue: true\n---\n".toList).isOk = true := by decide +kernel
  obtain ⟨f, hf⟩ := Fault.isOk_iff.mp hread
  have hcut : cutBlock? "---\n1: a\ndue: true\n---\n".toList =
      some ("1: a\ndue: true".toList, []) := by decide +kernel
  have hload : Yaml.load "1: a\ndue: true".toList =
      .ok (.entries (pairOf (.int 1) (.text "due"))) := eq_of_isMixedPair (by decide +kernel)
  have hone : Value.keyText (.int 1) = .ok "1" := rfl
  have hclashless : Clashless (pairOf (.int 1) (.text "due")) := by
    simp [Clashless, pairOf, Value.Clash, hone, Value.isNaN]
  obtain ⟨own, hown, hall, -⟩ := properties_exact hf hcut hload
  refine ⟨f, hf, (hall hclashless).trans ?_⟩
  cases hown with
  | @cons _ p _ _ hfirst hrest =>
      cases hrest with
      | @cons _ q _ _ hsecond hnil =>
          cases hnil
          obtain ⟨m, v⟩ := p
          obtain ⟨n, w⟩ := q
          obtain ⟨hm, rfl⟩ := hfirst
          obtain ⟨hn, rfl⟩ := hsecond
          obtain rfl := Except.ok.inj (hone.symm.trans hm)
          obtain rfl := Except.ok.inj hn
          rfl

/-- **Keys with one text.**  YAML reads two keys, but one property is left. -/
theorem properties_collapse :
    (∃ f, read "---\n1: a\n\"1\": true\n---\n".toList = .ok f ∧
      cutBlock? "---\n1: a\n\"1\": true\n---\n".toList = some ("1: a\n\"1\": true".toList, []) ∧
      Yaml.load "1: a\n\"1\": true".toList = .ok (.entries (pairOf (.int 1) (.text "1"))) ∧
      f.properties = [("1", .bool true)] ∧
      violations (soleSchema "1" "checkbox") f.properties.toValue = .ok [] ∧
      checkProperty (soleSchema "1" "checkbox") (.text "1") (.text "a") =
        .ok (some ⟨.text "1", "checkbox", .text⟩)) ∧
    ∃ f, read "---\n!!float nan: a\n!!float nan: true\n---\n".toList = .ok f ∧
      cutBlock? "---\n!!float nan: a\n!!float nan: true\n---\n".toList =
        some ("!!float nan: a\n!!float nan: true".toList, []) ∧
      Yaml.load "!!float nan: a\n!!float nan: true".toList =
        .ok (.entries (pairOf (.float Binary64.nan) (.float Binary64.nan))) ∧
      f.properties = [("nan", .bool true)] := by
  constructor
  · have hcut : cutBlock? "---\n1: a\n\"1\": true\n---\n".toList =
        some ("1: a\n\"1\": true".toList, []) := by decide +kernel
    have hload : Yaml.load "1: a\n\"1\": true".toList =
        .ok (.entries (pairOf (.int 1) (.text "1"))) := eq_of_isMixedPair (by decide +kernel)
    obtain ⟨f, hf, hproperties⟩ := read_pairOf (by decide +kernel) hcut hload rfl rfl
    refine ⟨f, hf, hcut, hload, hproperties, ?_, ?_⟩
    · rw [hproperties]
      cbv
    · have hshape : (Value.text "a").shape = .ok .text := by
        rw [Value.shape, if_neg (by decide +kernel)]
      have hexempt : isExempt (.text "1") = false := by decide
      rw [checkProperty, hexempt, if_neg Bool.false_ne_true, declared?_soleSchema (by decide)]
      dsimp only
      rw [hshape]
      rfl
  · have hcut : cutBlock? "---\n!!float nan: a\n!!float nan: true\n---\n".toList =
        some ("!!float nan: a\n!!float nan: true".toList, []) := by decide +kernel
    have hload : Yaml.load "!!float nan: a\n!!float nan: true".toList =
        .ok (.entries (pairOf (.float Binary64.nan) (.float Binary64.nan))) :=
      eq_of_isNaNPair (by decide +kernel)
    obtain ⟨f, hf, hproperties⟩ := read_pairOf (by decide +kernel) hcut hload
      (Value.keyText_of_isNaN (by decide)) (Value.keyText_of_isNaN (by decide))
    exact ⟨f, hf, hcut, hload, hproperties⟩

end NoteCheck.Frontmatter
