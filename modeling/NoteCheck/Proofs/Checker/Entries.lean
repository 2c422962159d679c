import Mathlib.Tactic.Lemma
import NoteCheck.Proofs.Cache.Fetch
import NoteCheck.Proofs.Checker.Publication
import NoteCheck.Proofs.Outcome
import NoteCheck.Proofs.Vault.Reading

/-!
# What a checker comes to remember

A checker may be asked for anything, and still there is only one way for something to get into its
cache: a note was presented (`presents`), and its violations were found under the schema that was
loaded then.  So a property of entries that all such findings have is kept by whatever happens
(`each_take`); and since a checker answers with what it has just found or else with an entry, the
lists in its replies come from entries that have the property (`found_request`).

Which property that is, is left open here.  That an entry is what would be found now is one, that it
was found since some moment is another.

The schema itself is the one that was read last (`schema_take`), and reading it by a *renewal* leaves
no entry behind (`renewal_cases`).
-/

namespace NoteCheck

/-! ## Properties of entries -/

namespace Cache

variable {α : Type} {c : Cache α} {P Q : Remembered α → Prop}

/-- Whether every entry of a cache has a property. -/
def Each (c : Cache α) (P : Remembered α → Prop) : Prop :=
  ∀ p e, c.find? p = some e → P e

lemma Each.mono (h : c.Each P) (hPQ : ∀ e, P e → Q e) : c.Each Q :=
  fun p e he => hPQ e (h p e he)

lemma each_clear (c : Cache α) (P : Remembered α → Prop) : c.clear.Each P := by
  intro p e he
  rw [find?_clear] at he
  exact absurd he (by simp)

lemma Each.keep (h : c.Each P) (wanted : String → Bool) : (c.keep wanted).Each P := by
  intro p e he
  rw [find?_keep] at he
  split at he
  · exact h p e he
  · exact absurd he (by simp)

lemma Each.fetch (h : c.Each P) {path : String} {mtime : Value} {compute : Except Fault (List α)}
    (hnew : ∀ found, compute = .ok found → P ⟨path, mtime, found⟩) (force : Bool) :
    (c.fetch path mtime force compute).cache.Each P := by
  intro p e he
  rcases c.find?_fetch path mtime force compute p with hp | ⟨found, hfound, -, hp⟩
  · exact h p e (hp ▸ he)
  · obtain rfl := Option.some.inj (he.symm.trans hp)
    exact hnew found hfound

/-- What is fetched is an entry, or would be one. -/
lemma Each.fetch_result (h : c.Each P) {path : String} {mtime : Value}
    {compute : Except Fault (List α)}
    (hnew : ∀ found, compute = .ok found → P ⟨path, mtime, found⟩) (force : Bool) {found : List α}
    (hfound : (c.fetch path mtime force compute).result = .ok found) : ∃ e, P e ∧ e.found = found := by
  rcases c.fetch_result path mtime force compute with hr | ⟨remembered, hcurrent, hr⟩
  · exact ⟨_, hnew found (hr.symm.trans hfound), rfl⟩
  · obtain ⟨e, he, -, rfl⟩ := (c.current?_eq_some_iff path mtime remembered).mp hcurrent
    exact ⟨e, h path e he, Except.ok.inj (hr.symm.trans hfound)⟩

end Cache

/-- The violations of a note under a schema. -/
def SchemaEntries.violationsOf (schema : SchemaEntries) (n : Note) :
    Except Fault (List Violation) :=
  violations (.map schema) n.frontmatter

/-- Whether what is found in notes under a schema has a property, when it is remembered. -/
def SchemaEntries.Yields (schema : SchemaEntries) (P : Remembered Violation → Prop)
    (notes : List Note) : Prop :=
  ∀ n ∈ notes, ∀ found, schema.violationsOf n = .ok found → P ⟨n.path, n.mtime, found⟩

/-! ## Acts that check -/

namespace Act

variable {desk : Desk} {P : Remembered Violation → Prop}

lemma each_checkNote (h : desk.checker.cache.Each P) {n : Note}
    (hnew : desk.checker.schema.Yields P [n]) (force : Bool) :
    ((checkNote n force).runAt desk).2.checker.cache.Each P ∧
      ∀ found, ((checkNote n force).runAt desk).1 = .ok found → ∃ e, P e ∧ e.found = found := by
  have hn := hnew n List.mem_cons_self
  rw [result_checkNote, cache_checkNote]
  exact ⟨h.fetch hn force, fun found => h.fetch_result hn force⟩

lemma each_checkNotes (notes : List Note) {desk : Desk} (h : desk.checker.cache.Each P)
    (hnew : desk.checker.schema.Yields P notes) :
    ((checkNotes notes).runAt desk).2.checker.cache.Each P ∧
      ∀ findings, ((checkNotes notes).runAt desk).1 = .ok findings →
        ∀ finding ∈ findings, ∃ e, P e ∧ e.found = finding.2 := by
  induction notes generalizing desk with
  | nil =>
      refine ⟨h, fun findings hok => ?_⟩
      obtain rfl := Except.ok.inj hok
      simp
  | cons n rest ih =>
      rw [runAt_checkNotes_cons]
      have hn := each_checkNote h
        (fun m hm => hnew m (List.mem_singleton.mp hm ▸ List.mem_cons_self)) false
      have hschema := (alike_checkNote n false desk).schema_eq
      generalize (checkNote n false).runAt desk = checked at hn hschema ⊢
      rcases checked with ⟨cause | found, left⟩
      · exact ⟨hn.1, fun _ hok => absurd hok (by simp)⟩
      · have hrest := ih hn.1 (by
          rw [hschema]
          exact fun m hm => hnew m (List.mem_cons_of_mem _ hm))
        dsimp only at hn ⊢
        generalize (checkNotes rest).runAt left = others at hrest ⊢
        rcases others with ⟨cause | others, last⟩
        · exact ⟨hrest.1, fun _ hok => absurd hok (by simp)⟩
        · refine ⟨hrest.1, fun findings hok finding hfinding => ?_⟩
          obtain rfl := Except.ok.inj hok
          split at hfinding
          · exact hrest.2 others rfl finding hfinding
          · rcases List.mem_cons.mp hfinding with rfl | hfinding
            · exact hn.2 found rfl
            · exact hrest.2 others rfl finding hfinding

lemma each_pruneTo (h : desk.checker.cache.Each P) (paths : List String) :
    ((pruneTo paths).runAt desk).2.checker.cache.Each P := by
  rw [runAt_pruneTo]
  dsimp only
  split <;> exact h.keep _

lemma each_checkFile (h : desk.checker.cache.Each P) {d : Disk} {path : String}
    (hnew : desk.checker.schema.Yields P (d.noteAt path desk.checker.vault.path)) (force : Bool) :
    ((checkFile d path force).runAt desk).2.checker.cache.Each P ∧
      ∀ found, ((checkFile d path force).runAt desk).1 = .ok (some found) →
        ∃ e, P e ∧ e.found = found := by
  rw [runAt_checkFile]
  rw [Disk.noteAt] at hnew
  rcases hread : d.readNote path desk.checker.vault.path with cause | _ | n
  · exact ⟨h, fun _ hok => absurd hok (by simp)⟩
  · exact ⟨h, fun _ hok => absurd hok (by simp)⟩
  · rw [hread] at hnew
    have hn := each_checkNote h hnew force
    dsimp only
    generalize (checkNote n force).runAt desk = checked at hn ⊢
    rcases checked with ⟨cause | found, left⟩
    · exact ⟨hn.1, fun _ hok => absurd hok (by simp)⟩
    · refine ⟨hn.1, fun result hok => hn.2 result ?_⟩
      rw [Option.some.inj (Except.ok.inj hok)]

lemma each_checkAll (h : desk.checker.cache.Each P) {d : Disk}
    (hnew : desk.checker.schema.Yields P (d.notesOf desk.checker.vault.path)) :
    ((checkAll d).runAt desk).2.checker.cache.Each P ∧
      ∀ findings, ((checkAll d).runAt desk).1 = .ok findings →
        ∀ finding ∈ findings, ∃ e, P e ∧ e.found = finding.2 := by
  rw [runAt_checkAll]
  rw [Disk.notesOf] at hnew
  rcases hread : d.notes desk.checker.vault.path with cause | notes
  · exact ⟨h, fun _ hok => absurd hok (by simp)⟩
  · rw [hread] at hnew
    have hnotes := each_checkNotes notes h hnew
    dsimp only
    generalize (checkNotes notes).runAt desk = checked at hnotes ⊢
    rcases checked with ⟨cause | findings, left⟩
    · exact ⟨hnotes.1, fun _ hok => absurd hok (by simp)⟩
    · exact ⟨each_pruneTo hnotes.1 _, hnotes.2⟩

lemma cache_activate (path : Option String) (auto : Bool) (desk : Desk) :
    ((activate path auto).runAt desk).2.checker.cache = desk.checker.cache := by
  rw [runAt_activate]
  rcases path with _ | name
  · rfl
  · dsimp only
    split <;> rfl

lemma schema_activate (path : Option String) (auto : Bool) (desk : Desk) :
    ((activate path auto).runAt desk).2.checker.schema = desk.checker.schema := by
  rw [runAt_activate]
  rcases path with _ | name
  · rfl
  · dsimp only
    split <;> rfl

/-- A timer may make an entry for the note of its check, if it is waited for. -/
lemma each_fire (h : desk.checker.cache.Each P) {d : Disk} {number : Nat} {path : String}
    (hnew : desk.checker.debouncer.waiting = .timer number →
      desk.checker.schema.Yields P (d.noteAt path desk.checker.vault.path)) :
    ((fire d number path).runAt desk).2.checker.cache.Each P := by
  rw [runAt_fire]
  split
  · next hwaiting =>
      have htaking : (taking number desk).checker.cache.Each P := h
      have hfile := (each_checkFile htaking (hnew hwaiting) false).1
      rw [runAt_checkShown]
      generalize (checkFile d path false).runAt (taking number desk) = checked at hfile ⊢
      rcases checked with ⟨cause | found, left⟩
      · exact hfile
      · dsimp only [publishing]
        split <;> exact hfile
  · exact h

lemma schema_fire (d : Disk) (number : Nat) (path : String) (desk : Desk) :
    ((fire d number path).runAt desk).2.checker.schema = desk.checker.schema := by
  rw [runAt_fire]
  split
  · have halike := alike_checkFile d path false (taking number desk)
    rw [runAt_checkShown]
    generalize (checkFile d path false).runAt (taking number desk) = checked at halike ⊢
    rcases checked with ⟨cause | found, left⟩
    · exact halike.schema_eq
    · dsimp only [publishing]
      split <;> exact halike.schema_eq
  · rfl

end Act

/-! ## Requests -/

namespace Checker

open Act

/-- The notes that a request presents. -/
def Request.presents (d : Disk) (c : Checker) : Request → List Note
  | checkNote n _ => [n]
  | checkNotes notes => notes
  | checkFile path _ => d.noteAt path c.vault.path
  | checkAll => d.notesOf c.vault.path
  | _ => []

/-- Whether a request loads the schema anew and forgets what was found under the old one. -/
def Request.isRenewal : Request → Bool
  | reloadSchema | switchVault _ => true
  | _ => false

/-- The schema that a request reads, if it reads one and succeeds. -/
def Request.reads? (d : Disk) (c : Checker) : Request → Option SchemaEntries
  | loadSchema | reloadSchema => (d.loadSchema c.vault.path).toOption.map (·.entries)
  | switchVault vault => (d.loadSchema vault.path).toOption.map (·.entries)
  | _ => none

/-- The lists of violations in a reply. -/
def Reply.lists : Reply → List (List Violation)
  | .violations found => [found]
  | .ofPath found | .shown _ found => found.toList
  | .findings found => found.map (·.2)
  | .done | .schema _ | .count _ | .held _ => []

/-- A request leaves the schema that it has read, or else the one that was there. -/
lemma schema_request (d : Disk) (r : Request) (desk : Desk) :
    ((r.act d).runAt desk).2.checker.schema
      = (r.reads? d desk.checker).getD desk.checker.schema := by
  cases r with
  | loadSchema =>
      simp only [Request.act, runAt_bind_pure, runAt_loadSchema, Request.reads?]
      cases d.loadSchema desk.checker.vault.path <;> rfl
  | reloadSchema =>
      simp only [Request.act, runAt_bind_pure, runAt_reloadSchema, Request.reads?]
      cases d.loadSchema desk.checker.vault.path <;> rfl
  | switchVault vault =>
      simp only [Request.act, runAt_bind_pure, runAt_switchVault, Request.reads?]
      cases d.loadSchema vault.path <;> rfl
  | activate path auto =>
      simp only [Request.act, runAt_bind_pure]
      exact schema_activate path auto desk
  | current | setDelay delay | shutdown => rfl
  | _ => exact (alike_request d rfl desk).schema_eq

variable {desk : Desk} {P : Remembered Violation → Prop}

/-- A request leaves entries that were there, and what was found in the notes that it presents. -/
lemma each_request (h : desk.checker.cache.Each P) {d : Disk} {r : Request}
    (hnew : desk.checker.schema.Yields P (r.presents d desk.checker)) :
    ((r.act d).runAt desk).2.checker.cache.Each P := by
  cases r with
  | loadSchema =>
      simp only [Request.act, runAt_bind_pure, runAt_loadSchema]
      cases d.loadSchema desk.checker.vault.path <;> exact h
  | reloadSchema =>
      simp only [Request.act, runAt_bind_pure, runAt_reloadSchema]
      cases d.loadSchema desk.checker.vault.path with
      | error cause => exact h
      | ok loaded => exact Cache.each_clear _ P
  | switchVault vault =>
      simp only [Request.act, runAt_bind_pure, runAt_switchVault]
      cases d.loadSchema vault.path with
      | error cause => exact h
      | ok loaded => exact Cache.each_clear _ P
  | checkNote n force =>
      simp only [Request.act, runAt_bind_pure]
      exact (each_checkNote h hnew force).1
  | checkNotes notes =>
      simp only [Request.act, runAt_bind_pure]
      exact (each_checkNotes notes h hnew).1
  | checkFile path force =>
      simp only [Request.act, runAt_bind_pure]
      exact (each_checkFile h hnew force).1
  | checkAll =>
      simp only [Request.act, runAt_bind_pure]
      exact (each_checkAll h hnew).1
  | clearCache => exact Cache.each_clear _ P
  | prune paths =>
      cases paths with
      | some paths =>
          simp only [Request.act, runAt_bind_pure]
          exact each_pruneTo h paths
      | none =>
          simp only [Request.act, runAt_bind_pure, runAt_prune]
          cases d.notePaths desk.checker.vault.path with
          | error cause => exact h
          | ok paths => exact each_pruneTo h paths
  | evict path => exact h.keep _
  | activate path auto =>
      simp only [Request.act, runAt_bind_pure, cache_activate]
      exact h
  | current | setDelay delay | shutdown => exact h

/-- A renewal reads a schema and leaves no entry, or it fails. -/
lemma renewal_cases (d : Disk) {r : Request} (h : r.isRenewal = true) (desk : Desk) :
    (((r.act d).runAt desk).1.isOk = true ∧ (∃ schema, r.reads? d desk.checker = some schema) ∧
        ∀ P, ((r.act d).runAt desk).2.checker.cache.Each P) ∨
      ((r.act d).runAt desk).1.isOk = false ∧ r.reads? d desk.checker = none := by
  cases r with
  | reloadSchema =>
      simp only [Request.act, runAt_bind_pure, runAt_reloadSchema, Request.reads?]
      cases d.loadSchema desk.checker.vault.path with
      | error cause => exact Or.inr ⟨rfl, rfl⟩
      | ok loaded => exact Or.inl ⟨rfl, ⟨loaded.entries, rfl⟩, Cache.each_clear _⟩
  | switchVault vault =>
      simp only [Request.act, runAt_bind_pure, runAt_switchVault, Request.reads?]
      cases d.loadSchema vault.path with
      | error cause => exact Or.inr ⟨rfl, rfl⟩
      | ok loaded => exact Or.inl ⟨rfl, ⟨loaded.entries, rfl⟩, Cache.each_clear _⟩
  | _ => exact absurd h (by simp [Request.isRenewal])

/-- A request replies what was found in the notes that it presents, or else what an entry says.  Only
what is shown can be something else. -/
lemma found_request (h : desk.checker.cache.Each P) {d : Disk} {r : Request}
    (hnew : desk.checker.schema.Yields P (r.presents d desk.checker)) (hr : r ≠ .current)
    {reply : Reply} (hreply : ((r.act d).runAt desk).1 = .ok reply) {found : List Violation}
    (hfound : found ∈ reply.lists) : ∃ e, P e ∧ e.found = found := by
  cases r with
  | checkNote n force =>
      simp only [Request.act, runAt_bind_pure] at hreply
      obtain ⟨result, hresult, rfl⟩ := Fault.map_eq_ok_iff.mp hreply
      obtain rfl := List.mem_singleton.mp hfound
      exact (each_checkNote h hnew force).2 found hresult
  | checkNotes notes =>
      simp only [Request.act, runAt_bind_pure] at hreply
      obtain ⟨findings, hfindings, rfl⟩ := Fault.map_eq_ok_iff.mp hreply
      obtain ⟨finding, hmem, rfl⟩ := List.mem_map.mp hfound
      exact (each_checkNotes notes h hnew).2 findings hfindings finding hmem
  | checkFile path force =>
      simp only [Request.act, runAt_bind_pure] at hreply
      obtain ⟨result, hresult, rfl⟩ := Fault.map_eq_ok_iff.mp hreply
      obtain rfl := Option.mem_toList.mp hfound
      exact (each_checkFile h hnew force).2 found hresult
  | checkAll =>
      simp only [Request.act, runAt_bind_pure] at hreply
      obtain ⟨findings, hfindings, rfl⟩ := Fault.map_eq_ok_iff.mp hreply
      obtain ⟨finding, hmem, rfl⟩ := List.mem_map.mp hfound
      exact (each_checkAll h hnew).2 findings hfindings finding hmem
  | current => exact absurd rfl hr
  | prune paths =>
      cases paths <;>
        · simp only [Request.act, runAt_bind_pure] at hreply
          obtain ⟨_, -, rfl⟩ := Fault.map_eq_ok_iff.mp hreply
          exact absurd hfound (by simp [Reply.lists])
  | _ =>
      simp only [Request.act, runAt_bind_pure] at hreply
      obtain ⟨_, -, rfl⟩ := Fault.map_eq_ok_iff.mp hreply
      exact absurd hfound (by simp [Reply.lists])

end Checker

/-! ## Steps -/

namespace Session

/-- The notes that a step presents: those of a request, and the note of a timer that is waited
for. -/
def presents (s : Session) : Step → List Note
  | .request r => r.presents s.disk s.desk.checker
  | .fire number =>
      if s.desk.checker.debouncer.waiting = .timer number then
        match s.desk.schedule.timer? number with
        | some t => s.disk.noteAt t.task.path s.desk.checker.vault.path
        | none => []
      else []
  | .edit _ | .wait _ => []

/-- Whether a step loads the schema anew and succeeds. -/
def renews (s : Session) : Step → Bool
  | .request r => r.isRenewal && (s.take (.request r)).1.isOk
  | .fire _ | .edit _ | .wait _ => false

/-- The schema that a step reads, if it reads one and succeeds. -/
def reads? (s : Session) : Step → Option SchemaEntries
  | .request r => r.reads? s.disk s.desk.checker
  | .fire _ | .edit _ | .wait _ => none

variable {s : Session} {step : Step} {P : Remembered Violation → Prop}

/-- A step that renews reads a schema and leaves no entry. -/
lemma renews_spec (h : s.renews step = true) :
    (∃ schema, s.reads? step = some schema) ∧
      ∀ P, (s.take step).2.desk.checker.cache.Each P := by
  cases step with
  | request r =>
      obtain ⟨hr, hok⟩ := Bool.and_eq_true_iff.mp h
      rcases Checker.renewal_cases s.disk hr s.desk with ⟨-, hreads, hnone⟩ | ⟨hfails, -⟩
      · exact ⟨hreads, hnone⟩
      · exact absurd (hok.symm.trans hfails) (by simp)
  | _ => exact absurd h (by simp [renews])

/-- Only a renewal reads a schema, or a request to load it. -/
lemma reads?_eq_none (hload : step ≠ .request .loadSchema) (h : s.renews step = false) :
    s.reads? step = none := by
  cases step with
  | request r =>
      cases hr : r.isRenewal with
      | true =>
          rcases Checker.renewal_cases s.disk hr s.desk with ⟨hok, -⟩ | ⟨-, hnone⟩
          · exact absurd h (by simp [renews, hr, take_request, hok])
          · exact hnone
      | false =>
          cases r with
          | loadSchema => exact absurd rfl hload
          | reloadSchema | switchVault vault => exact absurd hr (by simp [Checker.Request.isRenewal])
          | _ => rfl
  | _ => rfl

/-- A step leaves the schema that it has read, or else the one that was there. -/
lemma schema_take (s : Session) (step : Step) :
    (s.take step).2.desk.checker.schema = (s.reads? step).getD s.desk.checker.schema := by
  cases step with
  | request r => exact Checker.schema_request s.disk r s.desk
  | edit tree => rfl
  | wait time => rfl
  | fire number =>
      by_cases h : ∃ t, s.desk.schedule.timer? number = some t ∧ s.retired[t.task.checker]? = none
      · obtain ⟨t, ht, hown⟩ := h
        rw [checker_fire ht hown]
        exact Act.schema_fire s.disk number t.task.path s.desk
      · rw [checker_fire_of_not h]
        rfl

/-- **What a step leaves in the cache**: entries that were there, and what was found in the notes
that it presents. -/
lemma each_take (h : s.desk.checker.cache.Each P)
    (hnew : s.desk.checker.schema.Yields P (s.presents step)) :
    (s.take step).2.desk.checker.cache.Each P := by
  cases step with
  | request r => exact Checker.each_request h hnew
  | edit tree => exact h
  | wait time => exact h
  | fire number =>
      by_cases hmine : ∃ t, s.desk.schedule.timer? number = some t ∧
        s.retired[t.task.checker]? = none
      · obtain ⟨t, ht, hown⟩ := hmine
        rw [checker_fire ht hown]
        refine Act.each_fire h fun hwaiting => ?_
        simpa [presents, hwaiting, ht] using hnew
      · rw [checker_fire_of_not hmine]
        exact h

/-- A result that a step publishes was found in a note that it presents, or else an entry says so. -/
lemma found_of_publishes (h : s.desk.checker.cache.Each P)
    (hnew : s.desk.checker.schema.Yields P (s.presents step)) {found : List Violation}
    (hpublishes : s.Publishes step (some found)) : ∃ e, P e ∧ e.found = found := by
  obtain ⟨number, path, rfl, ⟨⟨t, ht, rfl, -⟩, hwaiting, hresult⟩, -⟩ := hpublishes
  rw [presents, if_pos hwaiting, ht] at hnew
  have htaking : (Act.taking number s.desk).checker.cache.Each P := h
  exact (Act.each_checkFile htaking hnew false).2 found hresult

end Session

end NoteCheck
