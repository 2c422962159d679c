import Mathlib.Tactic.Lemma
import NoteCheck.Proofs.Checker.Entries

/-!
# What a renewal forgets

A checker that loads its schema anew, be it for its own vault or for another one, is not to tell
anything any more that was found under the schema it had before.  Lists of violations are kept in two
places, the cache and the result that is shown.

The cache is emptied, so that from then on each of its entries was found by a step that came after
the renewal, under a schema that was read by the renewal or after it (`FoundAnew`).  A run keeps this
whatever happens in it (`Renewed.run`), and so every reply from the cache was found anew, and every
result that is published.

The result that is shown is emptied only by turning to a vault.  Loading the schema anew leaves it,
and it stays until the next activation or publication (`Quiet`).

* **`lists_after_renewal`** — every list in a reply was found anew, except that the result which was
  shown when the schema of the same vault was loaded anew is told for as long as it stays.
* **`current_outlives_renewal`** — a list that is told although nothing has found it since.
-/

namespace NoteCheck.Session

open Checker (SameView)

variable {s : Session} {past : List Step} {step : Step} {found : List Violation}

/-- The schemas that steps read. -/
def readIn (s : Session) : List Step → List SchemaEntries
  | [] => []
  | step :: rest => (s.reads? step).toList ++ (s.take step).2.readIn rest

lemma readIn_append (s : Session) (before after : List Step) :
    s.readIn (before ++ after) = s.readIn before ++ (s.run before).readIn after := by
  induction before generalizing s with
  | nil => rfl
  | cons step before ih => rw [List.cons_append, readIn, ih, readIn, run, List.append_assoc]

/-- Whether a step finds these violations in a note that it presents, under the schema that is
loaded. -/
def Finds (s : Session) (step : Step) (found : List Violation) : Prop :=
  ∃ n ∈ s.presents step, s.desk.checker.schema.violationsOf n = .ok found

/-- Whether one of the steps finds these violations, under a schema that one before it has read. -/
def FoundAnew (s : Session) (steps : List Step) (found : List Violation) : Prop :=
  ∃ before step after, steps = before ++ step :: after ∧
    (s.run before).desk.checker.schema ∈ s.readIn before ∧ (s.run before).Finds step found

lemma FoundAnew.append (h : s.FoundAnew past found) (more : List Step) :
    s.FoundAnew (past ++ more) found := by
  obtain ⟨before, step, after, rfl, hspec⟩ := h
  exact ⟨before, step, after ++ more, by simp, hspec⟩

/-- Whether everything that a checker goes by after some steps comes from these: the schema was read
by one of them, and the entries were found by one of them under such a schema. -/
structure Renewed (s : Session) (past : List Step) : Prop where
  schema : (s.run past).desk.checker.schema ∈ s.readIn past
  entries : (s.run past).desk.checker.cache.Each fun e => s.FoundAnew past e.found

/-! ## What a renewal starts, and each step keeps -/

lemma renewed_of_renews (h : s.renews step = true) : s.Renewed [step] := by
  obtain ⟨⟨schema, hreads⟩, hnone⟩ := renews_spec h
  refine ⟨?_, by rw [run_singleton]; exact hnone _⟩
  rw [run_singleton, schema_take, readIn, hreads]
  exact List.mem_append_left _ (by simp)

namespace Renewed

/-- What the next step finds is found anew. -/
lemma yields (h : s.Renewed past) (step : Step) :
    (s.run past).desk.checker.schema.Yields (fun e => s.FoundAnew (past ++ [step]) e.found)
      ((s.run past).presents step) :=
  fun n hn _ hfound => ⟨past, step, [], rfl, h.schema, n, hn, hfound⟩

/-- The entries, seen from the next step on. -/
lemma entries_append (h : s.Renewed past) (more : List Step) :
    (s.run past).desk.checker.cache.Each fun e => s.FoundAnew (past ++ more) e.found :=
  h.entries.mono fun _ he => he.append more

lemma take (h : s.Renewed past) (step : Step) : s.Renewed (past ++ [step]) := by
  have hrun : s.run (past ++ [step]) = ((s.run past).take step).2 := by
    rw [run_append, run_singleton]
  constructor
  · rw [hrun, schema_take, readIn_append, readIn]
    cases (s.run past).reads? step with
    | none => exact List.mem_append_left _ h.schema
    | some schema => simp
  · rw [hrun]
    exact each_take (h.entries_append [step]) (h.yields step)

lemma run (h : s.Renewed past) (more : List Step) : s.Renewed (past ++ more) := by
  induction more generalizing past with
  | nil => rwa [List.append_nil]
  | cons step more ih =>
      rw [← List.singleton_append, ← List.append_assoc]
      exact ih (h.take step)

/-- What is replied was found anew, unless it is what is shown. -/
lemma reply (h : s.Renewed past) {q : Checker.Request} (hq : q ≠ .current) {reply : Checker.Reply}
    (hreply : ((s.run past).take (.request q)).1 = .ok reply) (hfound : found ∈ reply.lists) :
    s.FoundAnew (past ++ [.request q]) found := by
  obtain ⟨e, he, rfl⟩ := Checker.found_request (h.entries_append [.request q])
    (h.yields (.request q)) hq hreply hfound
  exact he

/-- What is published was found anew. -/
lemma publishes (h : s.Renewed past) (hpublishes : (s.run past).Publishes step (some found)) :
    s.FoundAnew (past ++ [step]) found := by
  obtain ⟨e, he, rfl⟩ := found_of_publishes (h.entries_append [step]) (h.yields step) hpublishes
  exact he

/-- A result that is shown was found anew, unless nothing was published. -/
lemma shownResult (h : s.Renewed past) {after : List Step}
    (hfound : ((s.run past).run after).desk.checker.shownResult = some found) :
    ((s.run past).Quiet after ∧ (s.run past).desk.checker.shownResult = some found) ∨
      s.FoundAnew (past ++ after) found := by
  rcases shownResult_run hfound with hquiet | ⟨before, step, rest, rfl, hpublishes, -⟩
  · exact Or.inl hquiet
  · rw [← run_append] at hpublishes
    have hanew := ((h.run before).publishes hpublishes).append rest
    exact Or.inr (by simpa using hanew)

end Renewed

/-! ## Replies after a renewal -/

/-- Loading the schema anew changes nothing about what is shown. -/
lemma sameView_reload (s : Session) :
    SameView s.desk.checker (s.take (.request .reloadSchema)).2.desk.checker := by
  refine sameView_of_silent rfl ?_
  rintro found ⟨number, path, hstep, -⟩
  exact absurd hstep (by simp)

/-- Turning to a vault leaves no result to be shown, loading the schema anew leaves the one there
was. -/
lemma shownResult_renewal {r : Checker.Request} (hr : r.isRenewal = true)
    (hfound : (s.take (.request r)).2.desk.checker.shownResult = some found) :
    r = .reloadSchema ∧ s.desk.checker.shownResult = some found := by
  cases r with
  | reloadSchema =>
      rw [(sameView_reload s).shownResult] at hfound
      exact ⟨rfl, hfound⟩
  | switchVault vault =>
      rw [(shown_of_activation rfl).2] at hfound
      exact absurd hfound (by simp)
  | _ => exact absurd hr (by simp [Checker.Request.isRenewal])

/-- **What a renewal forgets.**  Whatever has happened before, let a checker load its schema anew,
for its vault or by turning to one, without a fault; and let anything happen after that.  Every list
of violations in a reply to the next request was found by one of the steps since, under a schema that
was read since, with one exception: loading the schema anew for the vault it has leaves the result
that was shown, and the checker tells it as long as no note is shown and no result published. -/
theorem lists_after_renewal (s : Session) {r : Checker.Request} (hr : r.isRenewal = true)
    (hok : (s.take (.request r)).1.isOk = true) (after : List Step) :
    (∀ q reply found,
        ((s.run (.request r :: after)).take (.request q)).1 = .ok reply → found ∈ reply.lists →
        s.FoundAnew (.request r :: after ++ [.request q]) found ∨
          r = .reloadSchema ∧ q = .current ∧ (s.take (.request r)).2.Quiet after ∧
            s.desk.checker.shownResult = some found)
      ∧ (r = .reloadSchema → (s.take (.request r)).2.Quiet after →
          ((s.run (.request r :: after)).take (.request .current)).1
            = .ok (.shown s.desk.checker.shown s.desk.checker.shownResult)) := by
  have hrenewed : s.Renewed [.request r] := renewed_of_renews (by simp [renews, hr, hok])
  constructor
  · intro q reply found hreply hfound
    by_cases hq : q = .current
    · subst hq
      obtain rfl := Except.ok.inj hreply
      have hshown : (s.run ([.request r] ++ after)).desk.checker.shownResult = some found :=
        Option.mem_toList.mp hfound
      rw [run_append] at hshown
      rcases hrenewed.shownResult hshown with ⟨hquiet, hresult⟩ | hanew
      · rw [run_singleton] at hquiet hresult
        obtain ⟨rfl, hbefore⟩ := shownResult_renewal hr hresult
        exact Or.inr ⟨rfl, rfl, hquiet, hbefore⟩
      · exact Or.inl (hanew.append [.request .current])
    · exact Or.inl ((hrenewed.run after).reply hq hreply hfound)
  · rintro rfl hquiet
    have hview := (sameView_reload s).trans hquiet.sameView
    rw [take_current, run, hview.shown, hview.shownResult]

/-! ### A result that is shown when the schema changes -/

/-- A note is shown and checked, and then the schema declares its property to be a text. -/
def declaredAnew : Session :=
  run ⟨oneWordDisk, oneWordDesk, []⟩ [.request (.activate (some "a.md") true), .fire 0,
    .edit (oneWord [123, 34, 116, 121, 112, 101, 115, 34, 58, 123, 34, 112, 34, 58, 34, 116, 101,
      120, 116, 34, 125, 125])]

/-- Whether a reply says that the note at a path has no violations. -/
def saysNone : Except Fault Checker.Reply → Bool
  | .ok (.ofPath (some [])) => true
  | _ => false

lemma eq_of_saysNone {reply : Except Fault Checker.Reply} (h : saysNone reply = true) :
    reply = .ok (.ofPath (some [])) := by
  unfold saysNone at h
  split at h
  · rfl
  · exact absurd h (by simp)

/-- When the schema is loaded anew and the note is checked, the list in the reply was found by that
check. -/
theorem lists_after_renewal_oneWord :
    ((declaredAnew.run [.request .reloadSchema]).take (.request (.checkFile "a.md" false))).1
        = .ok (.ofPath (some [])) ∧
      declaredAnew.FoundAnew [.request .reloadSchema, .request (.checkFile "a.md" false)] [] := by
  have hok : (declaredAnew.take (.request .reloadSchema)).1.isOk = true := by decide +kernel
  have hreply : ((declaredAnew.run [.request .reloadSchema]).take
      (.request (.checkFile "a.md" false))).1 = .ok (.ofPath (some [])) :=
    eq_of_saysNone (by decide +kernel)
  refine ⟨hreply, ?_⟩
  have hlists := (lists_after_renewal declaredAnew (r := .reloadSchema) rfl hok []).1
    (.checkFile "a.md" false) _ [] hreply (by simp [Checker.Reply.lists])
  rcases hlists with hanew | ⟨-, hcurrent, -⟩
  · exact hanew
  · exact absurd hcurrent (by simp)

/-- But without a check the checker still tells what was found under the old schema: violations that
no step since has found, and that a check of the note would not find. -/
theorem current_outlives_renewal :
    (declaredAnew.take (.request .reloadSchema)).1.isOk = true ∧
      ∃ found, found ≠ [] ∧
        ((declaredAnew.run [.request .reloadSchema]).take (.request .current)).1
          = .ok (.shown (some "a.md") (some found)) ∧
        ¬ declaredAnew.FoundAnew [.request .reloadSchema, .request .current] found ∧
        ((declaredAnew.run [.request .reloadSchema]).take (.request (.checkFile "a.md" true))).1
          = .ok (.ofPath (some [])) := by
  have hresult : ((declaredAnew.run [.request .reloadSchema]).desk.checker.shownResult.any
      fun found => !found.isEmpty) = true := by decide +kernel
  have hshown : (declaredAnew.run [.request .reloadSchema]).desk.checker.shown = some "a.md" := by
    decide +kernel
  refine ⟨by decide +kernel, ?_⟩
  cases hfound : (declaredAnew.run [.request .reloadSchema]).desk.checker.shownResult with
  | none => exact absurd hresult (by simp [hfound])
  | some found =>
      refine ⟨found, by simpa [hfound] using hresult, by rw [take_current, hshown, hfound], ?_,
        eq_of_saysNone (by decide +kernel)⟩
      -- Neither of the two steps presents a note.
      rintro ⟨before, step, after, hsteps, -, n, hn, -⟩
      rcases before with _ | ⟨first, _ | ⟨second, rest⟩⟩
      · obtain rfl := (List.cons.inj hsteps).1
        exact absurd hn (by simp [presents, Checker.Request.presents])
      · obtain rfl := (List.cons.inj (List.cons.inj hsteps).2).1
        exact absurd hn (by simp [presents, Checker.Request.presents])
      · exact absurd (congrArg List.length hsteps) (by simp)

end NoteCheck.Session
