import Mathlib
import NoteCheck.Proofs.Checker.Entries
import NoteCheck.Proofs.Checker.Findings
import NoteCheck.Proofs.Checker.SchemaFile

/-!
# Remembering changes no answer

A checker answers from memory where it can.  This file shows that nobody can tell: as long as a path
and a modification time stand for one frontmatter, every list of violations that a checker gives is
the one it would find if it remembered nothing.

What makes this true is that every entry of the cache can be *justified*: it is what is found, under
the schema that is loaded now, in a note that was presented since that schema was loaded
(`Justified`).  Checking keeps this whatever notes are presented (`Justified.after`); only when an
entry is *used* does it matter that equal times mean equal frontmatter.  Loading the schema anew
forgets all entries together with the notes that justified them, so what was presented before then
does not matter any more (`presentedSince`).

* **`replies_without_memory`** — the statement for every run.
-/

namespace NoteCheck

/-! ## Checking without a memory -/

/-- The notes that have violations under a schema, with these. -/
def SchemaEntries.findingsOf (schema : SchemaEntries) (notes : List Note) :
    Except Fault (List Act.Finding) :=
  findingsBy schema.violationsOf notes

namespace Checker

/-- The violations of the note at a path of the vault, if it can be read. -/
def violationsAt (c : Checker) (d : Disk) (path : String) :
    Except Fault (Option (List Violation)) := do
  match ← d.readNote path c.vault.path with
  | none => return none
  | some n => return some (← c.schema.violationsOf n)

/-- What a checker without a memory replies where violations are asked for. -/
def replyAfresh? (c : Checker) (d : Disk) : Request → Option (Except Fault Reply)
  | .checkNote n _ => some ((c.schema.violationsOf n).map .violations)
  | .checkNotes notes => some ((c.schema.findingsOf notes).map .findings)
  | .checkFile path _ => some ((c.violationsAt d path).map .ofPath)
  | .checkAll => some do
      let notes ← d.notes c.vault.path
      return .findings (← c.schema.findingsOf notes)
  | _ => none

/-! ## Notes that justify what is remembered -/

/-- Whether every entry of the cache is what is found, under the schema that is loaded, in one of
the notes that were seen. -/
def Justified (c : Checker) (seen : List Note) : Prop :=
  ∀ p e, c.cache.find? p = some e →
    ∃ n ∈ seen, n.path = p ∧ n.mtime = e.mtime ∧ c.schema.violationsOf n = .ok e.found

/-- Whether two notes, if they have one path and the second was changed when the first one was, have
one frontmatter. -/
def SameContent (a b : Note) : Prop :=
  a.path = b.path → a.mtime.same b.mtime = true → a.frontmatter = b.frontmatter

variable {c c' : Checker} {seen more : List Note}

/-- Whether an entry is what is found, under a schema, in one of the notes that were seen. -/
def Justifies (schema : SchemaEntries) (seen : List Note) (e : Remembered Violation) : Prop :=
  ∃ n ∈ seen, n.path = e.path ∧ n.mtime = e.mtime ∧ schema.violationsOf n = .ok e.found

lemma justified_iff : c.Justified seen ↔ c.cache.Each (Justifies c.schema seen) := by
  have hpath : ∀ {p e}, c.cache.find? p = some e → e.path = p := fun he => by
    simpa using List.find?_some he
  constructor
  · intro h p e he
    rw [Justifies, hpath he]
    exact h p e he
  · intro h p e he
    rw [← hpath he]
    exact h p e he

lemma Justifies.mono {schema : SchemaEntries} {e : Remembered Violation}
    (h : Justifies schema seen e) (hsub : seen ⊆ more) : Justifies schema more e := by
  obtain ⟨n, hn, hspec⟩ := h
  exact ⟨n, hsub hn, hspec⟩

/-- **Making entries keeps them justified**: what keeps every property of entries that the findings
in some notes have leaves a justified cache, now that these notes were seen too. -/
lemma Justified.after (h : c.Justified seen) (hschema : c'.schema = c.schema)
    (hkeeps : ∀ P, c.cache.Each P → c.schema.Yields P more → c'.cache.Each P) :
    c'.Justified (seen ++ more) := by
  rw [justified_iff, hschema]
  refine hkeeps _ ((justified_iff.mp h).mono fun e he => he.mono (List.subset_append_left seen more))
    fun n hn found hfound => ?_
  exact ⟨n, List.mem_append_right seen hn, rfl, rfl, hfound⟩

/-- **Using a justified entry.**  If no note that was seen has another frontmatter than this one at
its path and time, then what is fetched for it is what is found in it. -/
lemma fetch_of_justified (h : c.Justified seen) {n : Note} (hsame : ∀ a ∈ seen, SameContent a n)
    (force : Bool) :
    (c.cache.fetch n.path n.mtime force (c.schema.violationsOf n)).result
      = c.schema.violationsOf n := by
  rcases c.cache.fetch_result n.path n.mtime force (c.schema.violationsOf n) with
    hr | ⟨found, hf, hr⟩
  · exact hr
  · obtain ⟨e, he, hmtime, rfl⟩ := (c.cache.current?_eq_some_iff _ _ _).mp hf
    obtain ⟨a, ha, hpath, hm, hfound⟩ := h n.path e he
    have hcontent : a.frontmatter = n.frontmatter := hsame a ha hpath (by rw [hm]; exact hmtime)
    rw [hr, ← hfound, SchemaEntries.violationsOf, SchemaEntries.violationsOf, hcontent]

end Checker

/-! ## What acts that check come to -/

namespace Act

open Checker (SameContent Justified)

variable {desk : Desk} {seen : List Note}

lemma justified_checkNote (h : desk.checker.Justified seen) (n : Note) (force : Bool) :
    ((checkNote n force).runAt desk).2.checker.Justified (seen ++ [n]) :=
  h.after (alike_checkNote n force desk).schema_eq fun _ hP hnew => (each_checkNote hP hnew force).1

lemma checkNote_afresh (h : desk.checker.Justified seen) {n : Note}
    (hsame : ∀ a ∈ seen, SameContent a n) (force : Bool) :
    ((checkNote n force).runAt desk).1 = desk.checker.schema.violationsOf n := by
  have hfetch := Checker.fetch_of_justified h hsame force
  rw [runAt_checkNote]
  dsimp only
  rw [← hfetch]
  unfold SchemaEntries.violationsOf
  split <;> next hr => rw [hr]

/-- Each note is checked against what the notes before it, and those seen earlier, have left. -/
lemma checkNotes_afresh (notes : List Note) {desk : Desk} {seen : List Note}
    (h : desk.checker.Justified seen) (hsame : (seen ++ notes).Pairwise SameContent) :
    ((checkNotes notes).runAt desk).1 = desk.checker.schema.findingsOf notes := by
  induction notes generalizing desk seen with
  | nil => rfl
  | cons n rest ih =>
      have hbefore : ∀ a ∈ seen, SameContent a n := fun a ha =>
        (List.pairwise_append.mp hsame).2.2 a ha n List.mem_cons_self
      have hresult := checkNote_afresh h hbefore false
      have hleft := justified_checkNote h n false
      have halike := alike_checkNote n false desk
      rw [runAt_checkNotes_cons, SchemaEntries.findingsOf, findingsBy, ← hresult]
      generalize (checkNote n false).runAt desk = checked at hleft halike ⊢
      rcases checked with ⟨cause | found, left⟩
      · rfl
      · have hrest := ih hleft (by rwa [List.append_assoc, List.singleton_append])
        rw [halike.schema_eq, SchemaEntries.findingsOf] at hrest
        dsimp only at hrest ⊢
        rw [← hrest]
        generalize (checkNotes rest).runAt left = others
        rcases others with ⟨cause | others, last⟩ <;> rfl

lemma checkFile_afresh (h : desk.checker.Justified seen) {d : Disk} {path : String}
    (hsame : (seen ++ d.noteAt path desk.checker.vault.path).Pairwise SameContent) (force : Bool) :
    ((checkFile d path force).runAt desk).1 = desk.checker.violationsAt d path := by
  rw [runAt_checkFile, Checker.violationsAt]
  rw [Disk.noteAt] at hsame
  generalize d.readNote path desk.checker.vault.path = reading at hsame ⊢
  rcases reading with cause | _ | n
  · rfl
  · rfl
  · have hbefore : ∀ a ∈ seen, SameContent a n := fun a ha =>
      (List.pairwise_append.mp hsame).2.2 a ha n List.mem_cons_self
    have hresult := checkNote_afresh h hbefore force
    show _ = (desk.checker.schema.violationsOf n).map some
    rw [← hresult]
    dsimp only
    rcases (checkNote n force).runAt desk with ⟨cause | found, left⟩ <;> rfl

lemma checkAll_afresh (h : desk.checker.Justified seen) {d : Disk}
    (hsame : (seen ++ d.notesOf desk.checker.vault.path).Pairwise SameContent) :
    ((checkAll d).runAt desk).1 = (do
      let notes ← d.notes desk.checker.vault.path
      desk.checker.schema.findingsOf notes) := by
  rw [runAt_checkAll]
  rw [Disk.notesOf] at hsame
  generalize d.notes desk.checker.vault.path = reading at hsame ⊢
  rcases reading with cause | notes
  · rfl
  · have hnotes := checkNotes_afresh notes h hsame
    show _ = desk.checker.schema.findingsOf notes
    rw [← hnotes]
    dsimp only
    rcases (checkNotes notes).runAt desk with ⟨cause | findings, left⟩ <;> rfl

end Act

/-! ## Requests -/

namespace Checker

open Act

variable {desk : Desk} {seen : List Note}

/-- Where violations are asked for, memory changes nothing. -/
lemma request_afresh (h : desk.checker.Justified seen) {d : Disk} {r : Request}
    (hsame : (seen ++ r.presents d desk.checker).Pairwise SameContent)
    {reply : Except Fault Reply} (hreply : desk.checker.replyAfresh? d r = some reply) :
    ((r.act d).runAt desk).1 = reply := by
  cases r with
  | checkNote n force =>
      obtain rfl := Option.some.inj hreply
      have hbefore : ∀ a ∈ seen, SameContent a n := fun a ha =>
        (List.pairwise_append.mp hsame).2.2 a ha n List.mem_cons_self
      simp only [Request.act, runAt_bind_pure, checkNote_afresh h hbefore]
  | checkNotes notes =>
      obtain rfl := Option.some.inj hreply
      simp only [Request.act, runAt_bind_pure, checkNotes_afresh notes h hsame]
  | checkFile path force =>
      obtain rfl := Option.some.inj hreply
      simp only [Request.act, runAt_bind_pure, checkFile_afresh h hsame]
  | checkAll =>
      obtain rfl := Option.some.inj hreply
      simp only [Request.act, runAt_bind_pure, checkAll_afresh h hsame]
      cases d.notes desk.checker.vault.path <;> rfl
  | _ => simp [replyAfresh?] at hreply

end Checker

/-! ## Runs -/

namespace Session

open Checker (SameContent)

/-- The notes that steps present after the last one among them that loads the schema anew; those in
`seen` were presented before. -/
def presentedSince (s : Session) (seen : List Note) : List Step → List Note
  | [] => seen
  | step :: rest =>
      (s.take step).2.presentedSince (if s.renews step then [] else seen ++ s.presents step) rest

variable {s : Session} {seen : List Note}

lemma justified_take (h : s.desk.checker.Justified seen) {step : Step}
    (hload : step ≠ .request .loadSchema) :
    (s.take step).2.desk.checker.Justified
      (if s.renews step then [] else seen ++ s.presents step) := by
  cases hrenews : s.renews step with
  | true => exact Checker.justified_iff.mpr ((renews_spec hrenews).2 _)
  | false =>
      refine h.after ?_ fun _ hP hnew => each_take hP hnew
      rw [schema_take, reads?_eq_none hload hrenews]
      rfl

lemma justified_run (h : s.desk.checker.Justified seen) (steps : List Step)
    (hload : .request .loadSchema ∉ steps) :
    (s.run steps).desk.checker.Justified (s.presentedSince seen steps) := by
  induction steps generalizing s seen with
  | nil => exact h
  | cons step rest ih =>
      rw [List.mem_cons, not_or] at hload
      exact ih (justified_take h (Ne.symm hload.1)) hload.2

/-- A result that is published is that of a check without a memory. -/
lemma shownResult_take (h : s.desk.checker.Justified seen) {step : Step}
    (hsame : (seen ++ s.presents step).Pairwise SameContent) {found : List Violation}
    (hfound : (s.take step).2.desk.checker.shownResult = some found) :
    s.desk.checker.shownResult = some found ∨
      ∃ path, s.desk.checker.shown = some path ∧
        s.desk.checker.violationsAt s.disk path = .ok (some found) := by
  cases hstep : step.activation? with
  | some path => exact absurd ((shown_of_activation hstep).2.symm.trans hfound) (by simp)
  | none =>
      by_cases hpublishes : ∃ result, s.Publishes step result
      · obtain ⟨result, hpublishes⟩ := hpublishes
        obtain rfl : result = some found :=
          (sameView_of_publishes hpublishes).shownResult.symm.trans hfound
        obtain ⟨number, path, rfl, ⟨⟨t, ht, rfl, -⟩, hwaiting, hresult⟩, hshown⟩ := hpublishes
        rw [presents, if_pos hwaiting, ht] at hsame
        have htaking : (Act.taking number s.desk).checker.Justified seen := h
        exact Or.inr ⟨_, hshown, (Act.checkFile_afresh htaking hsame false).symm.trans hresult⟩
      · exact Or.inl ((sameView_of_silent hstep (not_exists.mp hpublishes)).shownResult.symm.trans
          hfound)

lemma justified_open {d : Disk} {number : Nat} {vault : String} {delay : Delay}
    {schedule : Schedule Activation} {entries : SchemaEntries} {desk : Desk}
    (hopen : Desk.open? d number vault delay schedule = (.ok entries, desk)) :
    desk.checker.Justified [] := by
  intro p e he
  rw [Desk.checker_open hopen] at he
  exact absurd he (by simp [Cache.find?, Cache.empty])

/-- **Remembering changes no answer.**  A checker is set up, and then anything happens to it and
around it, except that its schema is loaded without forgetting what was found under the old one.
Suppose that of any two notes that were presented since the schema was last loaded anew, those of
the next step included, the later one has the frontmatter of the earlier one if it has its path and
its modification time.  Then the next step, whatever it is, replies what a checker without a memory
replies wherever violations are asked for, faults included; and if it makes a result the one that is
shown, that is what a checker without a memory finds in the note that is shown. -/
theorem replies_without_memory {d : Disk} {number : Nat} {vault : String} {delay : Delay}
    {schedule : Schedule Activation} {entries : SchemaEntries} {desk : Desk}
    (hopen : Desk.open? d number vault delay schedule = (.ok entries, desk))
    (before : List Step) (step : Step) (hload : .request .loadSchema ∉ before)
    (hsame : (presentedSince ⟨d, desk, []⟩ [] before ++ (run ⟨d, desk, []⟩ before).presents step
      ).Pairwise SameContent) :
    let s := run ⟨d, desk, []⟩ before
    (∀ r reply, step = .request r → s.desk.checker.replyAfresh? s.disk r = some reply →
        (s.take step).1 = reply)
      ∧ ∀ found, (s.take step).2.desk.checker.shownResult = some found →
        s.desk.checker.shownResult = some found ∨
          ∃ path, s.desk.checker.shown = some path ∧
            s.desk.checker.violationsAt s.disk path = .ok (some found) := by
  intro s
  have h : s.desk.checker.Justified (presentedSince ⟨d, desk, []⟩ [] before) :=
    justified_run (justified_open hopen) before hload
  refine ⟨fun r reply hr hreply => ?_, fun found hfound => shownResult_take h hsame hfound⟩
  subst hr
  exact Checker.request_afresh h hsame hreply

/-! ### A note that is checked twice -/

/-- A vault whose schema declares one property to be a number. -/
def oneNumber : Disk where
  tree := [("v", .dir [(".obsidian", .dir [("types.json", .file
    [123, 34, 116, 121, 112, 101, 115, 34, 58, 123, 34, 112, 34, 58, 34, 110, 117, 109, 98, 101,
      114, 34, 125, 125] 1)])])]
  defaultVault := "/v"
  settingsFile := "/s"

/-- A note in which that property is a truth value. -/
def ticked (mtime : Value) : Note :=
  ⟨"a.md", mtime, .map [(.text "p", .bool true)]⟩

lemma loadSchema_oneNumber :
    oneNumber.loadSchema "/v" = .ok ⟨[(.text "p", .text "number")], none⟩ := by
  have htext : (oneNumber.tree.readText (oneNumber.typesFile "/v")).toOption
      = some "\x7b\"types\":\x7b\"p\":\"number\"\x7d\x7d".toList := by decide +kernel
  have hread : Json.read "\x7b\"types\":\x7b\"p\":\"number\"\x7d\x7d".toList
      = .ok (.map [(.text "types", .map [(.text "p", .text "number")])]) := by cbv
  exact Disk.Declares.loadSchema ⟨_, _, .of_toOption htext, hread,
    by simp [Value.lookup_cons, Value.text_same_iff]⟩

/-- The checker of that vault. -/
def oneNumberDesk : Desk :=
  (Desk.open? oneNumber 0 "/v" (some 100000) {}).2

lemma open_oneNumber :
    Desk.open? oneNumber 0 "/v" (some 100000) {}
        = (.ok [(.text "p", .text "number")], oneNumberDesk)
      ∧ oneNumberDesk.checker.schema = [(.text "p", .text "number")] := by
  rw [oneNumberDesk, Desk.open?, Act.runAt_loadSchema, show VaultName.path _ = "/v" from rfl,
    loadSchema_oneNumber]
  exact ⟨rfl, rfl⟩

/-- The note changed at time 1; the time *yes* is the same, so the second reply is the remembered
one. -/
theorem replies_without_memory_ticked :
    ((run ⟨oneNumber, oneNumberDesk, []⟩ [.request (.checkNote (ticked (.int 1)) false)]).take
        (.request (.checkNote (ticked (.bool true)) false))).1
      = .ok (.violations [⟨.text "p", "number", .checkbox⟩]) := by
  refine (replies_without_memory open_oneNumber.1 [.request (.checkNote (ticked (.int 1)) false)]
    (.request (.checkNote (ticked (.bool true)) false)) (by simp) ?_).1 _ _ rfl ?_
  · show [ticked (.int 1), ticked (.bool true)].Pairwise SameContent
    simp [SameContent, ticked]
  · have hschema := (Act.alike_checkNote (ticked (.int 1)) false oneNumberDesk).schema_eq
    rw [open_oneNumber.2] at hschema
    show some (((Desk.checker _).schema.violationsOf _).map _) = _
    simp only [run, take_request, Checker.Request.act, Act.runAt_bind_pure, hschema]
    cbv

end Session

end NoteCheck
