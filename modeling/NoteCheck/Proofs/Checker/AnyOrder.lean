import Mathlib.Data.List.Dedup
import NoteCheck.Proofs.Checker.Entries
import NoteCheck.Proofs.Checker.WholeVault

/-!
# The order of checks does not matter

Checking a note reads and writes the entry of its path in the cache, and no other.  So when notes of
different paths are checked in turn, each of them is looked up as if it were the first one: it finds the
entry that was there at the start, up to date, out of date or missing, and what it leaves there is still
there at the end (`Cache.Traces`).  What that comes to does not depend on the order.

The cache at the start may hold anything, also violations that are not those of the notes.

* **`checkNotes_anyOrder`** — two orders of the same notes give the same violations for each note, and
  leave the same entries and the same counts.
-/

namespace NoteCheck

namespace Remembered

variable {α : Type} {entries : List (Remembered α)} {e : Remembered α}

/-- Where no path has two entries, every entry is the one of its path. -/
lemma find?_eq_some_iff (h : (entries.map path).Nodup) :
    entries.find? (fun x => x.path = e.path) = some e ↔ e ∈ entries := by
  induction entries with
  | nil => simp
  | cons x rest ih =>
      obtain ⟨hx, hrest⟩ := List.nodup_cons.mp h
      by_cases hpath : x.path = e.path
      · have hnot : e ∉ rest := fun he => hx (hpath ▸ List.mem_map_of_mem he)
        rw [List.find?_cons_of_pos (by simpa using hpath), List.mem_cons, Option.some_inj, eq_comm]
        exact (or_iff_left hnot).symm
      · have hne : e ≠ x := fun heq => hpath (by rw [heq])
        rw [List.find?_cons_of_neg (by simpa using hpath), ih hrest, List.mem_cons]
        exact (or_iff_right hne).symm

end Remembered

namespace Cache

section

variable {α : Type} {c c' : Cache α} {path : String} {mtime : Value}
  {compute : Except Fault (List α)}

/-- Whether two caches hold the same entries, in any order, and have counted the same. -/
structure Matches (c c' : Cache α) : Prop where
  entries : c.entries.Perm c'.entries
  hits : c.hits = c'.hits
  misses : c.misses = c'.misses

/-- Caches hold the same entries if the same is found for every path. -/
lemma entries_perm (h : ∀ p, c.find? p = c'.find? p) : c.entries.Perm c'.entries := by
  rw [List.perm_ext_iff_of_nodup (c.one_per_path.of_map _) (c'.one_per_path.of_map _)]
  intro e
  rw [← Remembered.find?_eq_some_iff c.one_per_path,
    ← Remembered.find?_eq_some_iff c'.one_per_path]
  exact iff_of_eq (congrArg (· = some e) (h e.path))

/-- What a lookup leaves for a path depends on nothing but what was there for it. -/
lemma find?_fetch_congr (h : c.find? path = c'.find? path) :
    (c.fetch path mtime false compute).cache.find? path =
      (c'.fetch path mtime false compute).cache.find? path := by
  have hcurrent : c.current? path mtime = c'.current? path mtime := by
    rw [current?, current?, h]
  cases hc : c'.current? path mtime with
  | some found =>
      rw [fetch_remembered hc, fetch_remembered (hcurrent.trans hc)]
      exact h
  | none =>
      rw [fetch_unknown hc, fetch_unknown (hcurrent.trans hc)]
      cases compute with
      | error cause => exact h
      | ok found => rw [learn, learn, find?_put, find?_put, if_pos rfl, if_pos rfl]

end

/-! ## Looking up notes in turn -/

section

variable {c before between after after' : Cache Violation} {schema : SchemaEntries}
  {notes notes' : List Note} {n : Note}

/-- Whether what is remembered of a note is of use for it. -/
def isOfUse (c : Cache Violation) (n : Note) : Bool :=
  (c.current? n.path n.mtime).isSome

/-- What it means that notes were looked up, each of them as if it were the first one: for its path
stands what the lookup of this note alone leaves, other paths are as they were, and each lookup was
counted as what it alone would be. -/
structure Traces (schema : SchemaEntries) (notes : List Note) (before after : Cache Violation) :
    Prop where
  own : ∀ n ∈ notes, after.find? n.path =
    (before.fetch n.path n.mtime false (schema.violationsOf n)).cache.find? n.path
  others : ∀ p, p ∉ notes.map (·.path) → after.find? p = before.find? p
  hits : after.hits = before.hits + notes.countP before.isOfUse
  misses : after.misses = before.misses + notes.countP (!before.isOfUse ·)

lemma traces_nil (c : Cache Violation) : Traces schema [] c c :=
  ⟨by simp, fun _ _ => rfl, rfl, rfl⟩

/-- **One more note in front**, of a path of its own: the notes behind it find what they would have
found without it. -/
lemma Traces.cons (hpath : n.path ∉ notes.map (·.path))
    (h : Traces schema notes
      (before.fetch n.path n.mtime false (schema.violationsOf n)).cache after) :
    Traces schema (n :: notes) before after := by
  have hne : ∀ m ∈ notes, m.path ≠ n.path := fun m hm heq =>
    hpath (heq ▸ List.mem_map_of_mem hm)
  have hsame : ∀ m ∈ notes,
      (before.fetch n.path n.mtime false (schema.violationsOf n)).cache.isOfUse m
        = before.isOfUse m := fun m hm => by
    rw [isOfUse, isOfUse, current?_fetch_of_ne _ (hne m hm)]
  constructor
  · intro m hm
    rcases List.mem_cons.mp hm with rfl | hm
    · exact h.others _ hpath
    · rw [h.own m hm]
      exact find?_fetch_congr (find?_fetch_of_ne _ (hne m hm) _ _ _)
  · intro p hp
    rw [List.map_cons, List.mem_cons, not_or] at hp
    rw [h.others p hp.2, find?_fetch_of_ne _ hp.1]
  · have hcount : notes.countP (before.fetch n.path n.mtime false
        (schema.violationsOf n)).cache.isOfUse = notes.countP before.isOfUse :=
      List.countP_congr fun m hm => by rw [hsame m hm]
    rw [h.hits, hcount, (counts_fetch ..).1, List.countP_cons]
    show before.hits + (if before.isOfUse n then 1 else 0) + _ = _
    omega
  · have hcount : notes.countP (!(before.fetch n.path n.mtime false
        (schema.violationsOf n)).cache.isOfUse ·) = notes.countP (!before.isOfUse ·) :=
      List.countP_congr fun m hm => by rw [hsame m hm]
    rw [h.misses, hcount, (counts_fetch ..).2, List.countP_cons]
    show before.misses + (if before.isOfUse n then 0 else 1) + _ = _
    cases before.isOfUse n with
    | true => simp
    | false =>
        simp only [Bool.not_false, if_true, if_false, Bool.false_eq_true]
        omega

/-- **The order does not matter** for what is left. -/
lemma Traces.matches (hperm : notes.Perm notes') (h : Traces schema notes before after)
    (h' : Traces schema notes' before after') : after.Matches after' := by
  refine ⟨entries_perm fun p => ?_, ?_, ?_⟩
  · by_cases hp : p ∈ notes.map (·.path)
    · obtain ⟨n, hn, rfl⟩ := List.mem_map.mp hp
      rw [h.own n hn, h'.own n (hperm.mem_iff.mp hn)]
    · rw [h.others p hp, h'.others p fun hp' => hp ((hperm.map _).mem_iff.mpr hp')]
  · rw [h.hits, h'.hits, hperm.countP_eq]
  · rw [h.misses, h'.misses, hperm.countP_eq]

end

end Cache

/-! ## Checking notes in turn -/

namespace Act

open Cache (Traces)

variable {desk left : Desk} {notes notes' : List Note} {n : Note}

/-- If notes of different paths are checked to the end, each of them alone is. -/
lemma checkNote_of_checkNotes {findings : List Finding} (hpaths : (notes.map (·.path)).Nodup)
    (h : (checkNotes notes).runAt desk = (.ok findings, left)) :
    ∀ n ∈ notes, ∃ found, ((checkNote n false).runAt desk).1 = .ok found := by
  induction notes generalizing desk findings with
  | nil => simp
  | cons n rest ih =>
      obtain ⟨hn, hrest⟩ := List.nodup_cons.mp hpaths
      obtain ⟨found, next, hnext, others, hothers⟩ :=
        runAt_checkNotes_cons_succeeds.mp ⟨findings, h⟩
      refine List.forall_mem_cons.mpr ⟨⟨found, by rw [hnext]⟩, fun m hm => ?_⟩
      rw [← checkNote_of_ne hnext fun heq => hn (List.mem_map.mpr ⟨m, hm, heq⟩)]
      exact ih hrest hothers m hm

/-- **Notes of different paths** are checked if each of them alone is, and then what is found in each is
what is found in it alone. -/
lemma runAt_checkNotes_of_nodup (hpaths : (notes.map (·.path)).Nodup)
    (hcheck : ∀ n ∈ notes, ∃ found, ((checkNote n false).runAt desk).1 = .ok found) :
    ∃ left, (checkNotes notes).runAt desk = (.ok (notes.filterMap fun n =>
        findingOf n ((checkNote n false).runAt desk).1), left) ∧
      Traces desk.checker.schema notes desk.checker.cache left.checker.cache := by
  induction notes generalizing desk with
  | nil => exact ⟨desk, rfl, Cache.traces_nil _⟩
  | cons n rest ih =>
      obtain ⟨hn, hrest⟩ := List.nodup_cons.mp hpaths
      obtain ⟨⟨found, hfound⟩, hcheckRest⟩ := List.forall_mem_cons.mp hcheck
      obtain ⟨next, hnext⟩ : ∃ next, (checkNote n false).runAt desk = (.ok found, next) :=
        ⟨_, Prod.ext hfound rfl⟩
      have hcache := cache_checkNote n false desk
      have hschema := (alike_checkNote n false desk).schema_eq
      rw [hnext] at hcache hschema
      have hagain : ∀ m ∈ rest,
          ((checkNote m false).runAt next).1 = ((checkNote m false).runAt desk).1 := fun m hm =>
        checkNote_of_ne hnext fun heq => hn (List.mem_map.mpr ⟨m, hm, heq⟩)
      obtain ⟨last, hlast, htraces⟩ := @ih next hrest fun m hm => by
        rw [hagain m hm]
        exact hcheckRest m hm
      refine ⟨last, ?_, ?_⟩
      · rw [runAt_checkNotes_cons, hnext]
        dsimp only
        rw [hlast]
        dsimp only
        have hothers := List.filterMap_congr fun m hm => congrArg (findingOf m) (hagain m hm)
        rw [hothers, List.filterMap_cons, hfound, findingOf]
        cases found.isEmpty <;> rfl
      · rw [hschema, hcache] at htraces
        exact htraces.cons hn

/-- The notes that have violations, each with these. -/
def withFindings (found : Note → List Violation) (notes : List Note) : List Finding :=
  (notes.map fun n => (n, found n)).filter fun finding => !finding.2.isEmpty

lemma filterMap_findingOf {look : Note → Except Fault (List Violation)}
    {found : Note → List Violation} (h : ∀ n ∈ notes, look n = .ok (found n)) :
    (notes.filterMap fun n => findingOf n (look n)) = withFindings found notes := by
  induction notes with
  | nil => rfl
  | cons n rest ih =>
      obtain ⟨hn, hrest⟩ := List.forall_mem_cons.mp h
      rw [List.filterMap_cons, hn, findingOf, ih hrest, withFindings, withFindings, List.map_cons,
        List.filter_cons]
      cases (found n).isEmpty <;> rfl

lemma lengths_withFindings (found : Note → List Violation) (notes : List Note) :
    (withFindings found notes).map (fun (n, vs) => (n.path, vs.length)) =
      (notes.map fun n => (n.path, (found n).length)).filter (0 < ·.2) := by
  rw [withFindings, List.filter_map, List.filter_map, List.map_map]
  refine congrArg (List.map _) (List.filter_congr fun n _ => ?_)
  cases hn : found n <;> simp [hn]

/-- **The order of checks does not matter.**  Whatever a checker remembers, notes of different paths
are checked to the end just if each of them alone can be checked.  Then they are in any order, what is
found in a note is what is found in it alone, and the findings come in the order of the notes.  The
same entries are left, and the same numbers of lookups that found something and that did not. -/
theorem checkNotes_anyOrder (hperm : notes.Perm notes') (hpaths : (notes.map (·.path)).Nodup) :
    ((∃ findings left, (checkNotes notes).runAt desk = (.ok findings, left)) ↔
      ∀ n ∈ notes, ∃ found, ((checkNote n false).runAt desk).1 = .ok found) ∧
    ((∀ n ∈ notes, ∃ found, ((checkNote n false).runAt desk).1 = .ok found) →
      ∃ (found : Note → List Violation) (left left' : Desk),
        (∀ n ∈ notes, ((checkNote n false).runAt desk).1 = .ok (found n)) ∧
        (checkNotes notes).runAt desk = (.ok (withFindings found notes), left) ∧
        (checkNotes notes').runAt desk = (.ok (withFindings found notes'), left') ∧
        left.checker.cache.Matches left'.checker.cache) := by
  refine ⟨⟨?_, fun hcheck => ?_⟩, fun hcheck => ?_⟩
  · rintro ⟨findings, left, h⟩
    exact checkNote_of_checkNotes hpaths h
  · obtain ⟨left, hleft, -⟩ := runAt_checkNotes_of_nodup hpaths hcheck
    exact ⟨_, left, hleft⟩
  · have hpaths' : (notes'.map (·.path)).Nodup := (hperm.map _).nodup_iff.mp hpaths
    have hcheck' : ∀ n ∈ notes', ∃ found, ((checkNote n false).runAt desk).1 = .ok found :=
      fun n hn => hcheck n (hperm.mem_iff.mpr hn)
    obtain ⟨left, hleft, htraces⟩ := runAt_checkNotes_of_nodup hpaths hcheck
    obtain ⟨left', hleft', htraces'⟩ := runAt_checkNotes_of_nodup hpaths' hcheck'
    let found (n : Note) : List Violation := ((checkNote n false).runAt desk).1.toOption.getD []
    have hfound : ∀ n ∈ notes, ((checkNote n false).runAt desk).1 = .ok (found n) := by
      intro n hn
      obtain ⟨vs, hvs⟩ := hcheck n hn
      simp only [found, hvs, Except.toOption, Option.getD_some]
    refine ⟨found, left, left', hfound, ?_, ?_, htraces.matches hperm htraces'⟩
    · rw [hleft, filterMap_findingOf hfound]
    · rw [hleft', filterMap_findingOf fun n hn => hfound n (hperm.mem_iff.mpr hn)]

/-- Three notes with a word where a number is declared. -/
def threeWords : List Note :=
  [("a.md", 1), ("b.md", 2), ("c.md", 3)].map fun (path, mtime) =>
    ⟨path, .int mtime, .map [(.text "n", .text "x")]⟩

/-- A checker that wrongly remembers of the first of them that nothing is found in it, remembers an
earlier version of the second, and has not seen the third. -/
def mistakenDesk : Desk where
  checker := {
    vault := .directory "/v"
    schema := [(.text "n", .text "number")]
    cache := (Cache.empty.put "a.md" (.int 1) []).put "b.md" (.int 1) []
    debouncer := { delay := some 100000 } }

/-- Forwards and backwards, nothing is found in the first note, and one violation in each of the other
two. -/
theorem checkNotes_anyOrder_backwards : ∃ findings findings' left left',
    (checkNotes threeWords).runAt mistakenDesk = (.ok findings, left) ∧
      (checkNotes threeWords.reverse).runAt mistakenDesk = (.ok findings', left') ∧
      findings.map (fun (n, found) => (n.path, found.length)) = [("b.md", 1), ("c.md", 1)] ∧
      findings'.map (fun (n, found) => (n.path, found.length)) = [("c.md", 1), ("b.md", 1)] ∧
      left.checker.cache.Matches left'.checker.cache := by
  have hcheck : threeWords.all
      (fun n => ((checkNote n false).runAt mistakenDesk).1.isOk) = true := by decide +kernel
  obtain ⟨-, horder⟩ := @checkNotes_anyOrder mistakenDesk threeWords threeWords.reverse
    (List.reverse_perm threeWords).symm (by decide +kernel)
  obtain ⟨found, left, left', hfound, hleft, hleft', hmatches⟩ :=
    horder fun n hn => Fault.isOk_iff.mp (List.all_eq_true.mp hcheck n hn)
  have hlengths : threeWords.map (fun n => (n.path, (found n).length))
      = [("a.md", 0), ("b.md", 1), ("c.md", 1)] := by
    have halone : ∀ n ∈ threeWords, (n.path, (found n).length) = (n.path,
        (((checkNote n false).runAt mistakenDesk).1.toOption.getD []).length) := fun n hn => by
      rw [hfound n hn]
      rfl
    rw [List.map_congr_left halone]
    decide +kernel
  refine ⟨_, _, left, left', hleft, hleft', ?_, ?_, hmatches⟩
  · rw [lengths_withFindings, hlengths]
    decide
  · rw [lengths_withFindings, List.map_reverse, hlengths]
    decide

end Act

end NoteCheck
