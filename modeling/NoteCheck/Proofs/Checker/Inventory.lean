import Mathlib.Data.List.Dedup
import NoteCheck.Proofs.Cache.History
import NoteCheck.Proofs.Checker.Entries
import NoteCheck.Proofs.Checker.WholeVault

/-!
# The inventory of a vault

When all notes of a vault have been checked, the cache is an inventory of the vault: it holds one
entry for each note that can be read, made for the time at which the note was last changed, and
nothing else (`IsInventory`).  Entries that were there before may be of notes that are gone, or of
earlier versions; they may not be wrong, that is, what they say of a note as it is now must be what
is found in it (`Agrees`).

The notes are checked one after the other.  Each check keeps the cache from being wrong
(`Agrees.fetch`), keeps what is known of the notes before (`Knows.fetch`), and makes one more note
known (`knows_fetch`).  Only then the other paths are forgotten, so that no note is lost.

* **`checkAll_inventory`** — what a check of a vault gives, leaves in the cache and counts.
-/

namespace NoteCheck

namespace Cache

/-! ## Looking up a note -/

variable {c : Cache Violation} {schema : SchemaEntries} {notes : List Note} {m n : Note}

/-- Whether what is remembered of these notes, as they are, is what is found in them. -/
def Agrees (c : Cache Violation) (schema : SchemaEntries) (notes : List Note) : Prop :=
  ∀ n ∈ notes, ∀ found,
    c.current? n.path n.mtime = some found → schema.violationsOf n = .ok found

/-- Whether the violations of a note, as it is, are remembered. -/
def Knows (c : Cache Violation) (n : Note) : Prop :=
  ∃ found, c.current? n.path n.mtime = some found

/-- Whether a cache holds one entry for each path of these notes and no other, and the entry was made
for the time at which the note was last changed and says what is found in it. -/
structure IsInventory (c : Cache Violation) (schema : SchemaEntries) (notes : List Note) : Prop where
  paths : (c.entries.map Remembered.path).Perm (notes.map (·.path)).dedup
  entry : ∀ n ∈ notes, ∃ e, c.find? n.path = some e ∧ e.mtime.same n.mtime = true ∧
    schema.violationsOf n = .ok e.found

lemma Agrees.fetch_result (h : c.Agrees schema notes) (hn : n ∈ notes) :
    (c.fetch n.path n.mtime false (schema.violationsOf n)).result = schema.violationsOf n := by
  rcases Cache.fetch_result c n.path n.mtime false (schema.violationsOf n) with
    hr | ⟨found, hfound, hr⟩
  · exact hr
  · rw [hr, h n hn found hfound]

lemma Agrees.fetch (h : c.Agrees schema notes) (hone : ∀ m ∈ notes, m.path = n.path → m = n) :
    (c.fetch n.path n.mtime false (schema.violationsOf n)).cache.Agrees schema notes := by
  intro m hm found hfound
  rcases c.find?_fetch n.path n.mtime false (schema.violationsOf n) m.path with
    hold | ⟨new, hnew, hpath, hentry⟩
  · rw [current?, hold] at hfound
    exact h m hm found hfound
  · obtain ⟨e, he, -, rfl⟩ := (current?_eq_some_iff _ _ _ _).mp hfound
    obtain rfl := Option.some.inj (he.symm.trans hentry)
    rw [hone m hm hpath]
    exact hnew

lemma Knows.fetch (h : c.Knows m) (hone : m.path = n.path → m = n) :
    (c.fetch n.path n.mtime false (schema.violationsOf n)).cache.Knows m := by
  by_cases hpath : m.path = n.path
  · obtain rfl := hone hpath
    obtain ⟨found, hfound⟩ := h
    rw [fetch_remembered hfound]
    exact ⟨found, hfound⟩
  · rw [Knows, current?_fetch_of_ne _ hpath]
    exact h

/-- A lookup counts as one, whether it found something or not. -/
lemma lookups_fetch (c : Cache Violation) (path : String) (mtime : Value)
    (compute : Except Fault (List Violation)) :
    (c.fetch path mtime false compute).cache.hits + (c.fetch path mtime false compute).cache.misses
      = c.hits + c.misses + 1 := by
  obtain ⟨hhits, hmisses⟩ := c.counts_fetch path mtime compute
  rw [hhits, hmisses]
  split <;> omega

/-- What becomes of a cache when these notes are checked, each of which is one of all notes. -/
structure Surveyed (schema : SchemaEntries) (all notes : List Note) (before after : Cache Violation) :
    Prop where
  agrees : after.Agrees schema all
  kept : ∀ n ∈ all, before.Knows n → after.Knows n
  known : ∀ n ∈ notes, after.Knows n
  counts : after.hits + after.misses = before.hits + before.misses + notes.length

lemma surveyed_nil (h : c.Agrees schema notes) : Surveyed schema notes [] c c :=
  ⟨h, fun _ _ hknows => hknows, by simp, rfl⟩

/-- One check surveys one note. -/
lemma surveyed_fetch (h : c.Agrees schema notes) (hn : n ∈ notes)
    (hone : ∀ m ∈ notes, m.path = n.path → m = n) (hself : n.mtime.same n.mtime = true)
    {found : List Violation} (hfound : schema.violationsOf n = .ok found) :
    Surveyed schema notes [n] c
      (c.fetch n.path n.mtime false (schema.violationsOf n)).cache := by
  refine ⟨h.fetch hone, fun m hm hknows => hknows.fetch (hone m hm), fun m hm => ?_,
    c.lookups_fetch _ _ _⟩
  obtain rfl := List.mem_singleton.mp hm
  exact ⟨found, current?_fetch_self hself ((h.fetch_result hn).trans hfound)⟩

lemma Surveyed.cons {rest : List Note} {before between after : Cache Violation} (hn : n ∈ notes)
    (hfirst : Surveyed schema notes [n] before between)
    (hrest : Surveyed schema notes rest between after) :
    Surveyed schema notes (n :: rest) before after := by
  refine ⟨hrest.agrees, fun m hm h => hrest.kept m hm (hfirst.kept m hm h), ?_, ?_⟩
  · have hknown := hrest.kept n hn (hfirst.known n List.mem_cons_self)
    exact List.forall_mem_cons.mpr ⟨hknown, hrest.known⟩
  · have hfirstCounts := hfirst.counts
    have hrestCounts := hrest.counts
    simp only [List.length_cons, List.length_nil] at hfirstCounts ⊢
    omega

/-- When everything but these notes is forgotten, a cache that knows them is an inventory. -/
lemma isInventory_prune (hagrees : c.Agrees schema notes) (hknows : ∀ n ∈ notes, c.Knows n) :
    (c.prune (notes.map (·.path))).IsInventory schema notes := by
  have hentry : ∀ n ∈ notes, ∃ e, (c.prune (notes.map (·.path))).find? n.path = some e ∧
      e.mtime.same n.mtime = true ∧ schema.violationsOf n = .ok e.found := by
    intro n hn
    obtain ⟨found, hfound⟩ := hknows n hn
    have hviolations := hagrees n hn found hfound
    obtain ⟨e, he, hmtime, rfl⟩ := (current?_eq_some_iff _ _ _ _).mp hfound
    refine ⟨e, ?_, hmtime, hviolations⟩
    rw [find?_prune, if_pos (List.mem_map_of_mem hn), he]
  refine ⟨?_, hentry⟩
  rw [List.perm_ext_iff_of_nodup (c.prune _).one_per_path (List.nodup_dedup _)]
  intro p
  rw [List.mem_dedup, ← contains_iff_mem_paths]
  constructor
  · intro hp
    by_contra hnot
    rw [contains, find?_prune, if_neg hnot] at hp
    exact absurd hp (by simp)
  · intro hp
    obtain ⟨n, hn, rfl⟩ := List.mem_map.mp hp
    obtain ⟨e, he, -⟩ := hentry n hn
    rw [contains, he]
    rfl

end Cache

/-! ## Checking one note after another -/

namespace Act

open Cache (Surveyed)

variable {desk : Desk} {all notes : List Note}

/-- **Checking notes** makes each of them known, and counts each of them once. -/
lemma surveyed_checkNotes (hcoherent : Coherent all) (hsub : notes ⊆ all)
    (hagrees : desk.checker.cache.Agrees desk.checker.schema all)
    (hcheck : ∀ n ∈ notes, ∃ found, desk.checker.schema.violationsOf n = .ok found) :
    Surveyed desk.checker.schema all notes desk.checker.cache
      ((checkNotes notes).runAt desk).2.checker.cache := by
  induction notes generalizing desk with
  | nil => exact Cache.surveyed_nil hagrees
  | cons n rest ih =>
      obtain ⟨hn, hrest⟩ := List.cons_subset.mp hsub
      obtain ⟨⟨found, hfound⟩, hcheckRest⟩ := List.forall_mem_cons.mp hcheck
      have hfirst := Cache.surveyed_fetch hagrees hn (fun m hm => hcoherent.one m hm n hn)
        (hcoherent.timed n hn) hfound
      have hresult : ((checkNote n false).runAt desk).1 = .ok found :=
        (result_checkNote n false desk).trans ((hagrees.fetch_result hn).trans hfound)
      have hschema := (alike_checkNote n false desk).schema_eq
      rw [SchemaEntries.violationsOf, ← cache_checkNote] at hfirst
      rw [runAt_checkNotes_cons]
      generalize (checkNote n false).runAt desk = checked at hfirst hresult hschema ⊢
      obtain ⟨result, left⟩ := checked
      obtain rfl : result = .ok found := hresult
      have hothers : Surveyed desk.checker.schema all rest left.checker.cache
          ((checkNotes rest).runAt left).2.checker.cache := by
        rw [← hschema] at hfirst hcheckRest ⊢
        exact ih hrest hfirst.agrees hcheckRest
      dsimp only
      generalize (checkNotes rest).runAt left = others at hothers ⊢
      rcases others with ⟨cause | others, last⟩ <;> exact hfirst.cons hn hothers

lemma cache_pruneTo (paths : List String) (desk : Desk) :
    ((pruneTo paths).runAt desk).2.checker.cache = desk.checker.cache.prune paths := by
  rw [runAt_pruneTo]
  dsimp only
  split <;> rfl

/-- A vault that is checked keeps what its notes left in the cache. -/
lemma cache_checkAll {d : Disk} {findings : List Finding}
    (hnotes : d.notes desk.checker.vault.path = .ok notes)
    (h : ((checkAll d).runAt desk).1 = .ok findings) :
    ((checkAll d).runAt desk).2.checker.cache
      = ((checkNotes notes).runAt desk).2.checker.cache.prune (notes.map (·.path)) := by
  rw [runAt_checkAll, hnotes] at h ⊢
  dsimp only at h ⊢
  generalize (checkNotes notes).runAt desk = checked at h ⊢
  rcases checked with ⟨cause | findings, left⟩
  · exact absurd h (by simp)
  · exact cache_pruneTo _ left

/-- The entries that are there after checking notes were there before, or are of these notes as they
are. -/
lemma each_checkNotes_mtime (notes : List Note) (desk : Desk) :
    ((checkNotes notes).runAt desk).2.checker.cache.Each fun e =>
      desk.checker.cache.find? e.path = some e ∨
        ∃ n ∈ notes, e.path = n.path ∧ e.mtime = n.mtime := by
  refine (each_checkNotes notes ?_ ?_).1
  · intro p e he
    have hpath : e.path = p := by simpa using List.find?_some he
    exact Or.inl (hpath.symm ▸ he)
  · exact fun n hn found _ => Or.inr ⟨n, hn, rfl, rfl⟩

/-! ## Checking a vault -/

/-- **The inventory of a vault.**  Suppose that each note of a vault can be read, as far as it is one,
and checked, and that what a checker remembers of these notes, as they are, is what is found in them;
it may remember anything of other notes and of other times.  Then the vault is checked.  The findings
are the notes in which violations are found, in the order of the listing, each with these violations.
The cache that is left is an inventory of the notes; an entry is made for the time of the note itself,
unless it was there before.  And each note was looked up once. -/
theorem checkAll_inventory {d : Disk} {desk : Desk} {paths : List String}
    (hpaths : d.notePaths desk.checker.vault.path = .ok paths)
    (hread : ∀ path ∈ paths, ∃ read, d.readNote path desk.checker.vault.path = .ok read)
    (hcheck : ∀ path ∈ paths, ∀ n ∈ d.noteAt path desk.checker.vault.path,
      ∃ found, desk.checker.schema.violationsOf n = .ok found)
    (hagrees : ∀ path ∈ paths, desk.checker.cache.Agrees desk.checker.schema
      (d.noteAt path desk.checker.vault.path)) :
    let notes := paths.flatMap fun path => d.noteAt path desk.checker.vault.path
    let checked := (checkAll d).runAt desk
    let cache := checked.2.checker.cache
    checked.1 = .ok (notes.filterMap fun n => findingOf n (desk.checker.schema.violationsOf n))
      ∧ cache.IsInventory desk.checker.schema notes
      ∧ (∀ n ∈ notes, ∀ e, cache.find? n.path = some e →
          e.mtime = n.mtime ∨ desk.checker.cache.find? n.path = some e)
      ∧ cache.hits + cache.misses
        = desk.checker.cache.hits + desk.checker.cache.misses + notes.length := by
  intro notes checked cache
  have hnotes : d.readNotes desk.checker.vault.path paths = .ok notes :=
    Disk.readNotes_eq_ok_iff.mpr ⟨hread, rfl⟩
  have hcoherent : Coherent notes := coherent_flatMap_noteAt d _ paths
  have hcheck : ∀ n ∈ notes, ∃ found, desk.checker.schema.violationsOf n = .ok found := by
    intro n hn
    obtain ⟨path, hpath, hn⟩ := List.mem_flatMap.mp hn
    exact hcheck path hpath n hn
  have hagrees : desk.checker.cache.Agrees desk.checker.schema notes := by
    intro n hn
    obtain ⟨path, hpath, hn⟩ := List.mem_flatMap.mp hn
    exact hagrees path hpath n hn
  have hsurveyed := surveyed_checkNotes hcoherent (List.Subset.refl notes) hagrees hcheck
  -- Each note alone gives what is found in it, remembered or not.
  have halone : ∀ n ∈ notes,
      ((checkNote n false).runAt desk).1 = desk.checker.schema.violationsOf n := fun n hn =>
    (result_checkNote n false desk).trans (hagrees.fetch_result hn)
  have hresult : checked.1
      = .ok (notes.filterMap fun n => findingOf n (desk.checker.schema.violationsOf n)) := by
    rw [checkAll_result, hpaths, Fault.ok_bind, hnotes, Fault.ok_bind, findingsBy_congr halone]
    exact findingsBy_eq_ok_iff.mpr ⟨hcheck, rfl⟩
  have hcache : cache
      = ((checkNotes notes).runAt desk).2.checker.cache.prune (notes.map (·.path)) := by
    refine cache_checkAll ?_ hresult
    rw [Disk.notes, hpaths, Fault.ok_bind, hnotes]
  refine ⟨hresult, ?_, ?_, ?_⟩
  · rw [hcache]
    exact Cache.isInventory_prune hsurveyed.agrees hsurveyed.known
  · intro n hn e he
    rw [hcache, Cache.find?_prune, if_pos (List.mem_map_of_mem hn)] at he
    have hpath : e.path = n.path := by simpa using List.find?_some he
    rcases each_checkNotes_mtime notes desk n.path e he with hold | ⟨m, hm, hpath', hmtime⟩
    · exact Or.inr (hpath ▸ hold)
    · rw [hcoherent.one m hm n hn (hpath'.symm.trans hpath)] at hmtime
      exact Or.inl hmtime
  · rw [hcache]
    exact hsurveyed.counts

/-! ### A vault that has changed -/

open Session (oneWordDisk)

/-- A checker of the vault with one note that remembers an earlier version of the note, and a note
that is gone. -/
def staleDesk : Desk where
  checker := {
    vault := .directory "/v"
    schema := [(.text "p", .text "number")]
    cache := (Cache.empty.put "a.md" (.int 0) []).put "gone.md" (.int 1) []
    debouncer := { delay := some 100000 } }

lemma notePaths_oneWord : oneWordDisk.notePaths "/v" = .ok ["a.md"] := by
  have hplace : oneWordDisk.tree.locate true (oneWordDisk.vaultDir "/v") = .ok ["v"] := by
    decide +kernel
  have hat : oneWordDisk.tree.at? ["v"] = some (.dir _) := rfl
  exact Disk.notePaths_flat (by decide) hplace hat (by decide +kernel) (by decide +kernel)
    (List.pairwise_singleton _ _)

/-- The note has changed, so it is checked again, and its violation is found; the note that is gone is
forgotten. -/
theorem checkAll_inventory_stale :
    let checked := (checkAll oneWordDisk).runAt staleDesk
    (∃ findings, checked.1 = .ok findings ∧
        findings.map (fun (n, found) => (n.path, found.length)) = [("a.md", 1)])
      ∧ checked.2.checker.cache.entries.map Remembered.path = ["a.md"]
      ∧ checked.2.checker.cache.hits + checked.2.checker.cache.misses = 1 := by
  have hread : (oneWordDisk.readNote "a.md" "/v").isOk = true := by decide +kernel
  have hcheck : ((oneWordDisk.noteAt "a.md" "/v").all fun n =>
      (staleDesk.checker.schema.violationsOf n).isOk) = true := by decide +kernel
  have hnew : ((oneWordDisk.noteAt "a.md" "/v").all fun n =>
      (staleDesk.checker.cache.current? n.path n.mtime).isNone) = true := by decide +kernel
  have hnotes : ((["a.md"].flatMap fun path => oneWordDisk.noteAt path "/v").map (·.path))
      = ["a.md"] := by decide +kernel
  have hfindings : ((["a.md"].flatMap fun path => oneWordDisk.noteAt path "/v").filterMap fun n =>
      findingOf n (staleDesk.checker.schema.violationsOf n)).map
        (fun (n, found) => (n.path, found.length)) = [("a.md", 1)] := by decide +kernel
  have hinventory := checkAll_inventory (show oneWordDisk.notePaths
      staleDesk.checker.vault.path = .ok ["a.md"] from notePaths_oneWord)
    (by
      rw [List.forall_mem_singleton]
      exact Fault.isOk_iff.mp hread)
    (by
      rw [List.forall_mem_singleton]
      exact fun n hn => Fault.isOk_iff.mp (List.all_eq_true.mp hcheck n hn))
    (by
      rw [List.forall_mem_singleton]
      intro n hn found hfound
      exact absurd (List.all_eq_true.mp hnew n hn) (by simp [hfound]))
  obtain ⟨hresult, ⟨hpaths, -⟩, -, hcounts⟩ := hinventory
  refine ⟨⟨_, hresult, hfindings⟩, ?_, ?_⟩
  · rw [show VaultName.path staleDesk.checker.vault = "/v" from rfl, hnotes] at hpaths
    exact List.perm_singleton.mp hpaths
  · rw [hcounts, show VaultName.path staleDesk.checker.vault = "/v" from rfl,
      ← List.length_map (·.path), hnotes]
    rfl

end Act

end NoteCheck
