import Mathlib.Tactic.Lemma
import NoteCheck.Checker.Activation

/-!
# What each act does

An `Act` is a program that may fail and leaves a desk behind in either case.  This file runs every
act of a checker once and for all: for each there is one equation that gives its result and the desk
that is left, and nothing that is proved about checkers afterwards unfolds an act again.

The equations are put together by `runAt_bind`: an act that fails ends the acts around it, and what
was done before stays done.
-/

namespace NoteCheck

namespace Desk

/-- The desk with another cache. -/
def withCache (desk : Desk) (cache : Cache Violation) : Desk :=
  { desk with checker := { desk.checker with cache } }

/-- The desk with one more event in its journal. -/
def noting (desk : Desk) (e : Event) : Desk :=
  { desk with journal := desk.journal ++ [e] }

@[simp] lemma checker_noting (desk : Desk) (e : Event) : (desk.noting e).checker = desk.checker :=
  rfl

@[simp] lemma schedule_noting (desk : Desk) (e : Event) :
    (desk.noting e).schedule = desk.schedule := rfl

@[simp] lemma checker_withCache (desk : Desk) (cache : Cache Violation) :
    (desk.withCache cache).checker = { desk.checker with cache } := rfl

@[simp] lemma schedule_withCache (desk : Desk) (cache : Cache Violation) :
    (desk.withCache cache).schedule = desk.schedule := rfl

/-- Two desks that differ at most in what is remembered and in what was noted. -/
structure Alike (a b : Desk) : Prop where
  checker : b.checker = { a.checker with cache := b.checker.cache }
  schedule : b.schedule = a.schedule

namespace Alike

variable {a b c : Desk}

lemma refl (a : Desk) : Alike a a := ⟨rfl, rfl⟩

lemma trans (hab : Alike a b) (hbc : Alike b c) : Alike a c := by
  refine ⟨?_, hbc.schedule.trans hab.schedule⟩
  rw [hbc.checker, hab.checker]

lemma withCache (h : Alike a b) (cache : Cache Violation) : Alike a (b.withCache cache) := by
  refine ⟨?_, h.schedule⟩
  rw [checker_withCache, h.checker]

lemma noting (h : Alike a b) (e : Event) : Alike a (b.noting e) :=
  ⟨h.checker, h.schedule⟩

lemma schema_eq (h : Alike a b) : b.checker.schema = a.checker.schema := by
  rw [h.checker]

end Alike

end Desk

namespace Act

variable {α β : Type}

/-! ## Single steps -/

@[simp] lemma runAt_pure (a : α) (desk : Desk) : (pure a : Act α).runAt desk = (.ok a, desk) := rfl

/-- An act that fails ends the acts around it; the desk that it leaves stays. -/
lemma runAt_bind (act : Act α) (next : α → Act β) (desk : Desk) :
    (act >>= next).runAt desk =
      match act.runAt desk with
      | (.ok a, desk) => (next a).runAt desk
      | (.error cause, desk) => (.error cause, desk) := by
  have hbind : (act >>= next).runAt desk = (StateT.bind act (ExceptT.bindCont next)) desk := rfl
  rw [hbind, StateT.bind]
  rcases h : act.runAt desk with ⟨cause | a, left⟩
  · rw [show act desk = (.error cause, left) from h]
    rfl
  · rw [show act desk = (.ok a, left) from h]
    rfl

lemma runAt_bind_pure (act : Act α) (f : α → β) (desk : Desk) :
    (act >>= fun a => pure (f a)).runAt desk = ((act.runAt desk).1.map f, (act.runAt desk).2) := by
  rw [runAt_bind]
  rcases act.runAt desk with ⟨cause | a, left⟩ <;> rfl

@[simp] lemma runAt_checker (desk : Desk) : checker.runAt desk = (.ok desk.checker, desk) := rfl

@[simp] lemma runAt_change (f : Checker → Checker) (desk : Desk) :
    (change f).runAt desk = (.ok (), { desk with checker := f desk.checker }) := rfl

@[simp] lemma runAt_note (e : Event) (desk : Desk) :
    (note e).runAt desk = (.ok (), desk.noting e) := rfl

@[simp] lemma runAt_ofResult (result : Except Fault α) (desk : Desk) :
    (ofResult result).runAt desk = (result, desk) := rfl

@[simp] lemma runAt_withDebouncer
    (f : Debouncer → Schedule Activation → α × Debouncer × Schedule Activation) (desk : Desk) :
    (withDebouncer f).runAt desk =
      let (a, debouncer, schedule) := f desk.checker.debouncer desk.schedule
      (.ok a, { desk with checker := { desk.checker with debouncer }, schedule }) := rfl

/-! ## Checking -/

/-- Checking a note looks it up in the cache.  Only what succeeds is noted. -/
lemma runAt_checkNote (n : Note) (force : Bool) (desk : Desk) :
    (checkNote n force).runAt desk =
      let r := desk.checker.cache.fetch n.path n.mtime force
        (violations (.map desk.checker.schema) n.frontmatter)
      match r.result with
      | .ok found => (.ok found, (desk.withCache r.cache).noting
          (if r.remembered then .recalled n.title else .checked n.title found.length))
      | .error cause => (.error cause, desk.withCache r.cache) := by
  simp only [checkNote, runAt_bind, runAt_checker, runAt_change, runAt_ofResult]
  split <;> rename_i heq
  · obtain ⟨h, rfl⟩ := Prod.mk.inj heq
    rw [h]
    rfl
  · obtain ⟨h, rfl⟩ := Prod.mk.inj heq
    rw [h]
    rfl

lemma result_checkNote (n : Note) (force : Bool) (desk : Desk) :
    ((checkNote n force).runAt desk).1 =
      (desk.checker.cache.fetch n.path n.mtime force
        (violations (.map desk.checker.schema) n.frontmatter)).result := by
  rw [runAt_checkNote]
  dsimp only
  split <;> next h => exact h.symm

lemma cache_checkNote (n : Note) (force : Bool) (desk : Desk) :
    ((checkNote n force).runAt desk).2.checker.cache =
      (desk.checker.cache.fetch n.path n.mtime force
        (violations (.map desk.checker.schema) n.frontmatter)).cache := by
  rw [runAt_checkNote]
  dsimp only
  split <;> rfl

/-- Checking several notes stops at the first one whose check fails. -/
lemma runAt_checkNotes_cons (n : Note) (rest : List Note) (desk : Desk) :
    (checkNotes (n :: rest)).runAt desk =
      match (checkNote n false).runAt desk with
      | (.error cause, left) => (.error cause, left)
      | (.ok found, left) =>
          match (checkNotes rest).runAt left with
          | (.error cause, left) => (.error cause, left)
          | (.ok others, left) =>
              (.ok (if found.isEmpty then others else (n, found) :: others), left) := by
  rw [checkNotes, runAt_bind]
  rcases (checkNote n false).runAt desk with ⟨cause | found, left⟩
  · rfl
  · simp only [runAt_bind]
    rcases (checkNotes rest).runAt left with ⟨cause | others, left⟩ <;> rfl

lemma runAt_checkNotes_cons_succeeds {n : Note} {rest : List Note} {desk left : Desk} :
    (∃ findings, (checkNotes (n :: rest)).runAt desk = (.ok findings, left)) ↔
      ∃ found next, (checkNote n false).runAt desk = (.ok found, next) ∧
        ∃ others, (checkNotes rest).runAt next = (.ok others, left) := by
  rw [runAt_checkNotes_cons]
  rcases (checkNote n false).runAt desk with ⟨cause | found, next⟩
  · simp
  · dsimp only
    constructor
    · rintro ⟨findings, h⟩
      rcases hothers : (checkNotes rest).runAt next with ⟨cause | others, last⟩
      · rw [hothers] at h
        cases h
      · rw [hothers] at h
        obtain ⟨-, rfl⟩ := Prod.mk.inj h
        exact ⟨found, next, rfl, others, hothers⟩
    · rintro ⟨found', next', hfirst, others, hothers⟩
      obtain ⟨-, rfl⟩ := Prod.mk.inj hfirst
      rw [hothers]
      exact ⟨_, rfl⟩

lemma runAt_clearCache (desk : Desk) :
    clearCache.runAt desk
      = (.ok (), (desk.withCache desk.checker.cache.clear).noting .cacheCleared) := by
  rw [clearCache, runAt_bind]
  rfl

/-- The number of notes forgotten is noted only if there are any. -/
lemma runAt_pruneTo (paths : List String) (desk : Desk) :
    (pruneTo paths).runAt desk =
      let cache := desk.checker.cache.prune paths
      let removed := desk.checker.cache.size - cache.size
      let left := desk.withCache cache
      (.ok removed, if removed ≠ 0 then left.noting (.pruned removed) else left) := by
  simp only [pruneTo, runAt_bind, runAt_checker, runAt_change]
  split
  · rfl
  · rfl

lemma runAt_prune (d : Disk) (desk : Desk) :
    (prune d).runAt desk =
      match d.notePaths desk.checker.vault.path with
      | .ok paths => (pruneTo paths).runAt desk
      | .error cause => (.error cause, desk) := by
  simp only [prune, runAt_bind, runAt_checker, runAt_ofResult]
  cases d.notePaths desk.checker.vault.path <;> rfl

lemma runAt_evict (path : String) (desk : Desk) :
    (evict path).runAt desk
      = (.ok (desk.checker.cache.contains path),
          desk.withCache (desk.checker.cache.evict path)) := rfl

lemma runAt_checkFile (d : Disk) (path : String) (force : Bool) (desk : Desk) :
    (checkFile d path force).runAt desk =
      match d.readNote path desk.checker.vault.path with
      | .error cause => (.error cause, desk)
      | .ok none => (.ok none, desk)
      | .ok (some n) =>
          match (checkNote n force).runAt desk with
          | (.ok found, left) => (.ok (some found), left)
          | (.error cause, left) => (.error cause, left) := by
  simp only [checkFile, runAt_bind, runAt_checker, runAt_ofResult]
  rcases d.readNote path desk.checker.vault.path with cause | _ | n
  · rfl
  · rfl
  · simp only [runAt_bind]
    rcases (checkNote n force).runAt desk with ⟨cause | found, left⟩ <;> rfl

/-- Checking a vault reads every note before it checks the first, and prunes only after it has
checked the last. -/
lemma runAt_checkAll (d : Disk) (desk : Desk) :
    (checkAll d).runAt desk =
      match d.notes desk.checker.vault.path with
      | .error cause => (.error cause, desk)
      | .ok notes =>
          match (checkNotes notes).runAt desk with
          | (.error cause, left) => (.error cause, left)
          | (.ok findings, left) =>
              (.ok findings, ((pruneTo (notes.map (·.path))).runAt left).2) := by
  simp only [checkAll, runAt_bind, runAt_checker, runAt_ofResult, runAt_pruneTo]
  rcases d.notes desk.checker.vault.path with cause | notes
  · rfl
  · simp only
    rcases (checkNotes notes).runAt desk with ⟨cause | findings, left⟩ <;> rfl

/-! ### What checking leaves alone -/

open Desk (Alike)

lemma alike_checkNote (n : Note) (force : Bool) (desk : Desk) :
    Alike desk ((checkNote n force).runAt desk).2 := by
  rw [runAt_checkNote]
  dsimp only
  split
  · exact ((Alike.refl desk).withCache _).noting _
  · exact (Alike.refl desk).withCache _

lemma alike_checkNotes (notes : List Note) (desk : Desk) :
    Alike desk ((checkNotes notes).runAt desk).2 := by
  induction notes generalizing desk with
  | nil => exact Alike.refl desk
  | cons n rest ih =>
      rw [runAt_checkNotes_cons]
      have hn := alike_checkNote n false desk
      generalize (checkNote n false).runAt desk = checked at hn ⊢
      rcases checked with ⟨cause | found, left⟩
      · exact hn
      · have hrest := hn.trans (ih left)
        dsimp only
        generalize (checkNotes rest).runAt left = others at hrest ⊢
        rcases others with ⟨cause | others, last⟩ <;> exact hrest

lemma alike_pruneTo (paths : List String) (desk : Desk) :
    Alike desk ((pruneTo paths).runAt desk).2 := by
  rw [runAt_pruneTo]
  dsimp only
  split
  · exact ((Alike.refl desk).withCache _).noting _
  · exact (Alike.refl desk).withCache _

lemma alike_prune (d : Disk) (desk : Desk) : Alike desk ((prune d).runAt desk).2 := by
  rw [runAt_prune]
  split
  · exact alike_pruneTo _ desk
  · exact Alike.refl desk

lemma alike_checkFile (d : Disk) (path : String) (force : Bool) (desk : Desk) :
    Alike desk ((checkFile d path force).runAt desk).2 := by
  rw [runAt_checkFile]
  rcases d.readNote path desk.checker.vault.path with cause | _ | n
  · exact Alike.refl desk
  · exact Alike.refl desk
  · have hn := alike_checkNote n force desk
    dsimp only
    generalize (checkNote n force).runAt desk = checked at hn ⊢
    rcases checked with ⟨cause | found, left⟩ <;> exact hn

lemma alike_checkAll (d : Disk) (desk : Desk) : Alike desk ((checkAll d).runAt desk).2 := by
  rw [runAt_checkAll]
  rcases d.notes desk.checker.vault.path with cause | notes
  · exact Alike.refl desk
  · have hnotes := alike_checkNotes notes desk
    dsimp only
    generalize (checkNotes notes).runAt desk = checked at hnotes ⊢
    rcases checked with ⟨cause | findings, left⟩
    · exact hnotes
    · exact hnotes.trans (alike_pruneTo _ left)

/-! ## Schemas -/

/-- The desk after a schema was read: that it could not be read is noted. -/
def hearing (d : Disk) (vault : String) (loaded : LoadedSchema) (desk : Desk) : Desk :=
  match loaded.unread with
  | some fault => desk.noting (.schemaUnread (d.typesFile vault) fault)
  | none => desk

/-- The desk with a schema that has just been loaded. -/
def holding (d : Disk) (loaded : LoadedSchema) (desk : Desk) : Desk :=
  { hearing d desk.checker.vault.path loaded desk with
    checker := { desk.checker with schema := loaded.entries } }

/-- The desk with a schema that has just been loaded, and with nothing remembered. -/
def renewed (d : Disk) (loaded : LoadedSchema) (desk : Desk) : Desk :=
  (((holding d loaded desk).withCache desk.checker.cache.clear).noting .cacheCleared).noting
    (.schemaReloaded loaded.entries.length)

@[simp] lemma checker_renewed (d : Disk) (loaded : LoadedSchema) (desk : Desk) :
    (renewed d loaded desk).checker
      = { desk.checker with schema := loaded.entries, cache := desk.checker.cache.clear } := rfl

@[simp] lemma schedule_renewed (d : Disk) (loaded : LoadedSchema) (desk : Desk) :
    (renewed d loaded desk).schedule = desk.schedule := by
  show (hearing d desk.checker.vault.path loaded desk).schedule = desk.schedule
  unfold hearing
  split <;> rfl

/-- A schema that cannot be loaded leaves everything as it was. -/
lemma runAt_loadSchema (d : Disk) (desk : Desk) :
    (loadSchema d).runAt desk =
      match d.loadSchema desk.checker.vault.path with
      | .error cause => (.error cause, desk)
      | .ok loaded => (.ok loaded.entries, holding d loaded desk) := by
  simp only [loadSchema, readSchema, runAt_bind, runAt_checker, runAt_ofResult]
  rcases d.loadSchema desk.checker.vault.path with cause | ⟨entries, _ | fault⟩ <;> rfl

lemma runAt_reloadSchema (d : Disk) (desk : Desk) :
    (reloadSchema d).runAt desk =
      match d.loadSchema desk.checker.vault.path with
      | .error cause => (.error cause, desk)
      | .ok loaded => (.ok loaded.entries, renewed d loaded desk) := by
  simp only [reloadSchema, runAt_bind, runAt_loadSchema, runAt_clearCache]
  rcases d.loadSchema desk.checker.vault.path with cause | loaded <;> rfl

/-! ## The note that is shown -/

/-- The desk that shows a note, or none, with no result yet. -/
def showing (path : Option String) (desk : Desk) : Desk :=
  { desk with checker := { desk.checker with shown := path, shownResult := none } }

/-- The desk after a check of a note was submitted. -/
def submitted (path : String) (desk : Desk) : Except Fault Unit × Desk :=
  let (outcome, debouncer, schedule) :=
    desk.checker.debouncer.submit ⟨desk.checker.number, path⟩ desk.schedule
  (outcome, { desk with checker := { desk.checker with debouncer }, schedule })

lemma runAt_activate (path : Option String) (auto : Bool) (desk : Desk) :
    (activate path auto).runAt desk =
      match path with
      | some name =>
          if !name.isEmpty && auto then submitted name (showing path desk)
          else (.ok (), showing path desk)
      | none => (.ok (), showing path desk) := by
  rcases path with _ | name
  · rfl
  · by_cases h : (!name.isEmpty && auto) = true
    · simp only [activate, runAt_bind, runAt_change, runAt_checker, h, if_true,
        runAt_withDebouncer, runAt_ofResult]
      rfl
    · simp only [activate, runAt_bind, runAt_change, runAt_checker, h]
      rfl

/-! ## Turning to a vault -/

/-- The desk that has turned to a vault, before the schema of the vault is loaded: nothing waits and
no note is shown. -/
def turned (vault : VaultName) (desk : Desk) : Desk :=
  let (debouncer, schedule) := desk.checker.debouncer.cancel desk.schedule
  { desk with
    checker := { desk.checker with debouncer, vault, shown := none, shownResult := none }
    schedule }

lemma runAt_switchVault (d : Disk) (vault : VaultName) (desk : Desk) :
    (switchVault d vault).runAt desk =
      match d.loadSchema vault.path with
      | .error cause => (.error cause, turned vault desk)
      | .ok loaded => (.ok (), renewed d loaded (turned vault desk)) := by
  have hreload := runAt_reloadSchema d (turned vault desk)
  simp only [switchVault, shutdown, runAt_bind, runAt_withDebouncer, runAt_change, runAt_activate]
  rw [show showing none _ = turned vault desk from rfl, hreload,
    show (turned vault desk).checker.vault = vault from rfl]
  rcases d.loadSchema vault.path with cause | loaded <;> rfl

/-! ## Checks that were waited for -/

/-- The desk that keeps what the check of a note has found, if the note is still shown. -/
def publishing (path : String) (found : Option (List Violation)) (desk : Desk) : Desk :=
  { desk with
    checker := if desk.checker.shown = some path then { desk.checker with shownResult := found }
      else desk.checker }

lemma runAt_checkShown (d : Disk) (path : String) (desk : Desk) :
    (checkShown d path).runAt desk =
      match (checkFile d path false).runAt desk with
      | (.error cause, left) => (.error cause, left)
      | (.ok found, left) => (.ok (), publishing path found left) := by
  rw [checkShown, runAt_bind]
  rcases (checkFile d path false).runAt desk with ⟨cause | found, left⟩ <;> rfl

/-- The desk at which a timer has come to run; only the one that was waited for is no longer waited
for. -/
def taking (number : Nat) (desk : Desk) : Desk :=
  { desk with
    checker := { desk.checker with debouncer := (desk.checker.debouncer.take number).2 }
    schedule := desk.schedule.finish number }

lemma runAt_fire (d : Disk) (number : Nat) (path : String) (desk : Desk) :
    (fire d number path).runAt desk =
      if desk.checker.debouncer.waiting = .timer number then
        (checkShown d path).runAt (taking number desk)
      else (.ok (), taking number desk) := by
  have htake : (desk.checker.debouncer.take number).1
      = decide (desk.checker.debouncer.waiting = .timer number) := by
    unfold Debouncer.take
    split <;> simp_all
  simp only [fire, runAt_bind, runAt_withDebouncer, htake]
  by_cases h : desk.checker.debouncer.waiting = .timer number
  · simp only [h, decide_true, if_true]
    rfl
  · simp only [h, decide_false]
    rfl

end Act

end NoteCheck
