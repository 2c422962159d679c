import Mathlib.Tactic.Lemma
import NoteCheck.Proofs.Checker.Requests

/-!
# Where the result that is shown comes from

A checker shows a note, and with it what the last check of it has found.  Checks of the note are made
by timers, which may run late: when another note is shown, or the same note again, or when the
checker has turned to another vault.

All that a step can do to what is shown is said by three lemmas.  An *activation* — a request to show
a note, or none, or to turn to another vault — puts the note in place of the one before, with no
result (`shown_of_activation`).  A timer that is waited for and whose check is of the very note that
is shown *publishes* what it has found (`Publishes`), and changes nothing else
(`sameView_of_publishes`).  Any other step changes nothing about what is shown
(`sameView_of_silent`).

* **`current_from_activation`** — a result that is shown was found by a check of the note that was
  asked to be shown last, made after that and in the vault that the checker still has.
-/

namespace NoteCheck

namespace Checker

/-- The note that a request puts on show, or that it puts none there; other requests leave alone what
is shown. -/
def Request.activation? : Request → Option (Option String)
  | activate path _ => some path
  | switchVault _ => some none
  | _ => none

/-- Whether a checker has the vault that another has, and shows what it shows. -/
structure SameView (a b : Checker) : Prop where
  vault : b.vault = a.vault
  shown : b.shown = a.shown
  shownResult : b.shownResult = a.shownResult

lemma SameView.refl (c : Checker) : SameView c c := ⟨rfl, rfl, rfl⟩

lemma SameView.trans {a b c : Checker} (hab : SameView a b) (hbc : SameView b c) : SameView a c :=
  ⟨hbc.vault.trans hab.vault, hbc.shown.trans hab.shown, hbc.shownResult.trans hab.shownResult⟩

end Checker

namespace Desk.Alike

variable {a b : Desk}

lemma sameView (h : Alike a b) : Checker.SameView a.checker b.checker := by
  rw [h.checker]
  exact ⟨rfl, rfl, rfl⟩

end Desk.Alike

namespace Checker

open Act

/-- A request that is no activation changes nothing about what is shown. -/
lemma sameView_request (d : Disk) {r : Request} (h : r.activation? = none) (desk : Desk) :
    SameView desk.checker ((r.act d).runAt desk).2.checker := by
  cases r with
  | loadSchema =>
      simp only [Request.act, runAt_bind_pure, runAt_loadSchema]
      cases d.loadSchema desk.checker.vault.path <;> exact ⟨rfl, rfl, rfl⟩
  | reloadSchema =>
      simp only [Request.act, runAt_bind_pure, runAt_reloadSchema]
      cases d.loadSchema desk.checker.vault.path <;> exact ⟨rfl, rfl, rfl⟩
  | switchVault vault => exact absurd h (by simp [Request.activation?])
  | activate path auto => exact absurd h (by simp [Request.activation?])
  | current => exact SameView.refl _
  | setDelay delay => exact ⟨rfl, rfl, rfl⟩
  | shutdown => exact ⟨rfl, rfl, rfl⟩
  | _ => exact (alike_request d rfl desk).sameView

/-- An activation shows what it names, with no result, even if it fails. -/
lemma shown_request (d : Disk) {r : Request} {path : Option String} (h : r.activation? = some path)
    (desk : Desk) :
    ((r.act d).runAt desk).2.checker.shown = path ∧
      ((r.act d).runAt desk).2.checker.shownResult = none := by
  cases r with
  | activate p auto =>
      obtain rfl := Option.some.inj h
      simp only [Request.act, runAt_bind_pure, runAt_activate]
      rcases p with _ | name
      · exact ⟨rfl, rfl⟩
      · dsimp only
        split <;> exact ⟨rfl, rfl⟩
  | switchVault vault =>
      obtain rfl := Option.some.inj h
      simp only [Request.act, runAt_bind_pure, runAt_switchVault]
      cases d.loadSchema vault.path <;> exact ⟨rfl, rfl⟩
  | _ => exact absurd h (by simp [Request.activation?])

end Checker

namespace Act

open Checker (SameView)

variable {d : Disk} {number : Nat} {path : String} {desk : Desk}

/-- A timer that is waited for makes the result of its check the one that is shown, if the check is
of the note that is shown. -/
lemma sameView_fire {found : Option (List Violation)}
    (hwaiting : desk.checker.debouncer.waiting = .timer number)
    (hresult : ((checkFile d path false).runAt (taking number desk)).1 = .ok found)
    (hshown : desk.checker.shown = some path) :
    SameView { desk.checker with shownResult := found }
      ((fire d number path).runAt desk).2.checker := by
  have hview := (alike_checkFile d path false (taking number desk)).sameView
  rw [runAt_fire, if_pos hwaiting, runAt_checkShown]
  generalize (checkFile d path false).runAt (taking number desk) = checked at hview hresult ⊢
  obtain ⟨outcome, left⟩ := checked
  obtain rfl : outcome = .ok found := hresult
  dsimp only [publishing]
  rw [if_pos (hview.shown.trans hshown)]
  exact ⟨hview.vault, hview.shown, rfl⟩

/-- Any other timer changes nothing about what is shown. -/
lemma sameView_fire_of_not
    (h : ¬ (desk.checker.debouncer.waiting = .timer number ∧ desk.checker.shown = some path ∧
      ∃ found, ((checkFile d path false).runAt (taking number desk)).1 = .ok found)) :
    SameView desk.checker ((fire d number path).runAt desk).2.checker := by
  rw [runAt_fire]
  by_cases hwaiting : desk.checker.debouncer.waiting = .timer number
  · have hview := (alike_checkFile d path false (taking number desk)).sameView
    rw [if_pos hwaiting, runAt_checkShown]
    generalize (checkFile d path false).runAt (taking number desk) = checked at h hview ⊢
    rcases checked with ⟨cause | found, left⟩
    · exact ⟨hview.vault, hview.shown, hview.shownResult⟩
    · have hshown : ¬ left.checker.shown = some path := fun hshown =>
        h ⟨hwaiting, hview.shown.symm.trans hshown, found, rfl⟩
      dsimp only [publishing]
      rw [if_neg hshown]
      exact ⟨hview.vault, hview.shown, hview.shownResult⟩
  · rw [if_neg hwaiting]
    exact ⟨rfl, rfl, rfl⟩

end Act

namespace Session

open Checker (SameView)

/-- The checker runs a timer that it has started. -/
lemma checker_fire {s : Session} {number : Nat} {t : Timer Activation}
    (ht : s.desk.schedule.timer? number = some t) (hown : s.retired[t.task.checker]? = none) :
    (s.take (.fire number)).2.desk.checker
      = ((Act.fire s.disk number t.task.path).runAt s.desk).2.checker := by
  show (s.fire number).2.desk.checker = _
  rw [fire, ht]
  dsimp only
  rw [hown]
  rfl

/-- A timer that the checker has not started is none of its business. -/
lemma checker_fire_of_not {s : Session} {number : Nat}
    (h : ¬ ∃ t, s.desk.schedule.timer? number = some t ∧ s.retired[t.task.checker]? = none) :
    (s.take (.fire number)).2.desk.checker = s.desk.checker := by
  show (s.fire number).2.desk.checker = _
  rw [fire]
  cases ht : s.desk.schedule.timer? number with
  | none => rfl
  | some t =>
      dsimp only
      cases hown : s.retired[t.task.checker]? with
      | some old => rfl
      | none => exact absurd ⟨t, ht, hown⟩ h

/-- The note that a step puts on show, if it is an activation. -/
def Step.activation? : Step → Option (Option String)
  | .request r => r.activation?
  | .fire _ | .edit _ | .wait _ => none

lemma Step.eq_of_activation? {step : Step} {path : String}
    (h : step.activation? = some (some path)) :
    ∃ auto, step = .request (.activate (some path) auto) := by
  cases step with
  | request r =>
      cases r with
      | activate p auto =>
          obtain rfl := Option.some.inj h
          exact ⟨auto, rfl⟩
      | switchVault vault => exact absurd h (by simp [Step.activation?, Checker.Request.activation?])
      | _ => exact absurd h (by simp [Step.activation?, Checker.Request.activation?])
  | _ => exact absurd h (by simp [Step.activation?])

/-- Whether a timer, if it runs now, makes a check of the note at a path, and what that finds: the
timer is the one the checker waits for. -/
structure Checks (s : Session) (number : Nat) (path : String) (found : Option (List Violation)) :
    Prop where
  own : ∃ t, s.desk.schedule.timer? number = some t ∧ t.task.path = path ∧
    s.retired[t.task.checker]? = none
  waiting : s.desk.checker.debouncer.waiting = .timer number
  result : ((Act.checkFile s.disk path false).runAt (Act.taking number s.desk)).1 = .ok found

/-- Whether a step publishes what a check of the note that is shown has found. -/
def Publishes (s : Session) (step : Step) (found : Option (List Violation)) : Prop :=
  ∃ number path, step = .fire number ∧ s.Checks number path found ∧
    s.desk.checker.shown = some path

variable {s : Session} {step : Step}

/-! ## One step -/

lemma shown_of_activation {path : Option String} (h : step.activation? = some path) :
    (s.take step).2.desk.checker.shown = path ∧
      (s.take step).2.desk.checker.shownResult = none := by
  cases step with
  | request r => exact Checker.shown_request s.disk h s.desk
  | _ => exact absurd h (by simp [Step.activation?])

/-- A step that publishes a result changes nothing else about what is shown. -/
lemma sameView_of_publishes {found : Option (List Violation)} (h : s.Publishes step found) :
    SameView { s.desk.checker with shownResult := found } (s.take step).2.desk.checker := by
  obtain ⟨number, path, rfl, ⟨⟨t, ht, rfl, hown⟩, hwaiting, hresult⟩, hshown⟩ := h
  rw [checker_fire ht hown]
  exact Act.sameView_fire hwaiting hresult hshown

/-- A step that neither is an activation nor publishes a result changes nothing about what is
shown. -/
lemma sameView_of_silent (hnone : step.activation? = none)
    (hsilent : ∀ found, ¬ s.Publishes step found) :
    SameView s.desk.checker (s.take step).2.desk.checker := by
  cases step with
  | request r => exact Checker.sameView_request s.disk hnone s.desk
  | edit tree => exact SameView.refl _
  | wait time => exact SameView.refl _
  | fire number =>
      by_cases h : ∃ t, s.desk.schedule.timer? number = some t ∧ s.retired[t.task.checker]? = none
      · obtain ⟨t, ht, hown⟩ := h
        rw [checker_fire ht hown]
        refine Act.sameView_fire_of_not ?_
        rintro ⟨hwaiting, hshown, found, hresult⟩
        exact hsilent found ⟨number, _, rfl, ⟨⟨t, ht, rfl, hown⟩, hwaiting, hresult⟩, hshown⟩
      · rw [checker_fire_of_not h]
        exact SameView.refl _

/-- Only an activation changes the vault or the note that is shown. -/
lemma same_of_not_activation (hnone : step.activation? = none) :
    (s.take step).2.desk.checker.vault = s.desk.checker.vault ∧
      (s.take step).2.desk.checker.shown = s.desk.checker.shown := by
  by_cases h : ∃ found, s.Publishes step found
  · obtain ⟨found, hpublishes⟩ := h
    have hview := sameView_of_publishes hpublishes
    exact ⟨hview.vault, hview.shown⟩
  · have hview := sameView_of_silent hnone (not_exists.mp h)
    exact ⟨hview.vault, hview.shown⟩

/-! ## Runs -/

/-- Whether steps neither show a note nor publish a result. -/
def Quiet (s : Session) : List Step → Prop
  | [] => True
  | step :: rest =>
      step.activation? = none ∧ (∀ found, ¬ s.Publishes step found) ∧ (s.take step).2.Quiet rest

lemma Quiet.not_activation {steps : List Step} (h : s.Quiet steps) :
    ∀ step ∈ steps, step.activation? = none := by
  induction steps generalizing s with
  | nil => simp
  | cons step rest ih => exact List.forall_mem_cons.mpr ⟨h.1, ih h.2.2⟩

/-- What is shown stays as it is while nothing is shown or published. -/
lemma Quiet.sameView {steps : List Step} (h : s.Quiet steps) :
    SameView s.desk.checker (s.run steps).desk.checker := by
  induction steps generalizing s with
  | nil => exact SameView.refl _
  | cons step rest ih =>
      obtain ⟨hnone, hsilent, hrest⟩ := h
      exact (sameView_of_silent hnone hsilent).trans (ih hrest)

/-- The note that is shown is the one of the last activation. -/
lemma shown_run {steps : List Step} {path : String}
    (h : (s.run steps).desk.checker.shown = some path) :
    (s.desk.checker.shown = some path ∧ ∀ step ∈ steps, step.activation? = none) ∨
      ∃ before step since, steps = before ++ step :: since ∧ step.activation? = some (some path) ∧
        ∀ later ∈ since, later.activation? = none := by
  induction steps generalizing s with
  | nil => exact Or.inl ⟨h, by simp⟩
  | cons step rest ih =>
      rcases ih h with ⟨hshown, hrest⟩ | ⟨before, last, since, rfl, hlast, hsince⟩
      · cases hstep : step.activation? with
        | none =>
            rw [(same_of_not_activation hstep).2] at hshown
            exact Or.inl ⟨hshown, List.forall_mem_cons.mpr ⟨hstep, hrest⟩⟩
        | some shown =>
            rw [(shown_of_activation hstep).1] at hshown
            exact Or.inr ⟨[], step, rest, rfl, by rw [hstep, hshown], hrest⟩
      · exact Or.inr ⟨step :: before, last, since, rfl, hlast, hsince⟩

/-- The result that is shown is the one that was published last, unless nothing was published. -/
lemma shownResult_run {steps : List Step} {found : List Violation}
    (h : (s.run steps).desk.checker.shownResult = some found) :
    (s.Quiet steps ∧ s.desk.checker.shownResult = some found) ∨
      ∃ before step after, steps = before ++ step :: after ∧
        (s.run before).Publishes step (some found) ∧ (s.run (before ++ [step])).Quiet after := by
  induction steps generalizing s with
  | nil => exact Or.inl ⟨trivial, h⟩
  | cons step rest ih =>
      rcases ih h with ⟨hquiet, hresult⟩ | ⟨before, last, after, rfl, hlast, hafter⟩
      · cases hstep : step.activation? with
        | some shown =>
            rw [(shown_of_activation hstep).2] at hresult
            exact absurd hresult (by simp)
        | none =>
            by_cases h : ∃ result, s.Publishes step result
            · obtain ⟨result, hpublishes⟩ := h
              rw [(sameView_of_publishes hpublishes).shownResult] at hresult
              obtain rfl : result = some found := hresult
              exact Or.inr ⟨[], step, rest, rfl, hpublishes, hquiet⟩
            · have hsilent := not_exists.mp h
              rw [(sameView_of_silent hstep hsilent).shownResult] at hresult
              exact Or.inl ⟨⟨hstep, hsilent, hquiet⟩, hresult⟩
      · exact Or.inr ⟨step :: before, last, after, rfl, hlast, hafter⟩

/-- A checker that has just been set up shows nothing. -/
lemma shown_open {d : Disk} {number : Nat} {vault : String} {delay : Delay}
    {schedule : Schedule Activation} {entries : SchemaEntries} {desk : Desk}
    (hopen : Desk.open? d number vault delay schedule = (.ok entries, desk)) :
    desk.checker.shown = none ∧ desk.checker.shownResult = none := by
  rw [Desk.checker_open hopen]
  exact ⟨rfl, rfl⟩

/-- **Where the result that is shown comes from.**  A checker is set up, and then anything happens to
it and around it.  If it says that a path is shown with a result, then the path is the one of the last
activation, and after that activation a timer that was waited for has checked the note at that path,
in the vault that the checker has still, and this check has found just that result. -/
theorem current_from_activation {d : Disk} {number : Nat} {vault : String} {delay : Delay}
    {schedule : Schedule Activation} {entries : SchemaEntries} {desk : Desk}
    (hopen : Desk.open? d number vault delay schedule = (.ok entries, desk))
    (steps : List Step) {path : Option String} {found : List Violation}
    (hcurrent : ((run ⟨d, desk, []⟩ steps).take (.request .current)).1
      = .ok (.shown path (some found))) :
    ∃ name before auto since timer after,
      path = some name ∧
      steps = before ++ .request (.activate (some name) auto) :: since ++ .fire timer :: after ∧
      (∀ step ∈ since ++ after, step.activation? = none) ∧
      let s := run ⟨d, desk, []⟩ (before ++ .request (.activate (some name) auto) :: since)
      s.Checks timer name (some found) ∧
        s.desk.checker.vault = (run ⟨d, desk, []⟩ steps).desk.checker.vault := by
  obtain ⟨hpath, hfound⟩ := Checker.Reply.shown.inj (Except.ok.inj hcurrent)
  obtain ⟨hshown₀, hresult₀⟩ := shown_open hopen
  rcases shownResult_run hfound with ⟨-, hresult⟩ | ⟨early, step, after, rfl, hpublishes, hquiet⟩
  · exact absurd (hresult₀.symm.trans hresult) (by simp)
  -- From the publication on nothing has changed.
  have hview := (sameView_of_publishes hpublishes).trans
    (show SameView ((run ⟨d, desk, []⟩ early).take step).2.desk.checker
      (run ⟨d, desk, []⟩ (early ++ step :: after)).desk.checker by
        simpa only [run_append, run] using hquiet.sameView)
  obtain ⟨timer, name, rfl, hchecks, hname⟩ := hpublishes
  rcases shown_run hname with ⟨hshown, -⟩ | ⟨before, activation, since, rfl, hactivation, hsince⟩
  · exact absurd (hshown₀.symm.trans hshown) (by simp)
  obtain ⟨auto, rfl⟩ := Step.eq_of_activation? hactivation
  refine ⟨name, before, auto, since, timer, after, ?_, ?_, ?_, ?_⟩
  · rw [← hpath, hview.shown]
    exact hname
  · rfl
  · exact List.forall_mem_append.mpr ⟨hsince, hquiet.not_activation⟩
  · exact ⟨hchecks, hview.vault.symm⟩

/-! ### A note that is shown and checked -/

/-- A vault with one note, in which one property is a word, and the octets of its schema. -/
def oneWord (schema : List UInt8) : Tree :=
  [("v", .dir [(".obsidian", .dir [("types.json", .file schema 1)]),
    ("a.md", .file [45, 45, 45, 10, 112, 58, 32, 120, 10, 45, 45, 45, 10] 1)])]

/-- The same vault, with a schema that declares the property to be a number. -/
def oneWordDisk : Disk where
  tree := oneWord [123, 34, 116, 121, 112, 101, 115, 34, 58, 123, 34, 112, 34, 58, 34, 110, 117, 109,
    98, 101, 114, 34, 125, 125]
  defaultVault := "/v"
  settingsFile := "/s"

/-- The checker of that vault. -/
def oneWordDesk : Desk :=
  (Desk.open? oneWordDisk 0 "/v" (some 100000) {}).2

lemma open_oneWord :
    ∃ entries, Desk.open? oneWordDisk 0 "/v" (some 100000) {} = (.ok entries, oneWordDesk) := by
  have hok : (Desk.open? oneWordDisk 0 "/v" (some 100000) {}).1.isOk = true := by decide +kernel
  rw [oneWordDesk]
  generalize Desk.open? oneWordDisk 0 "/v" (some 100000) {} = opened at hok ⊢
  rcases opened with ⟨cause | entries, desk⟩
  · exact absurd hok (by simp [Except.isOk, Except.toBool])
  · exact ⟨entries, rfl⟩

/-- The note is shown and its timer runs: then violations are shown, and they are those that the
timer has found. -/
theorem current_from_activation_oneWord :
    let s : Session := ⟨oneWordDisk, oneWordDesk, []⟩
    let steps := [.request (.activate (some "a.md") true), .fire 0]
    ∃ found, found ≠ [] ∧
      ((s.run steps).take (.request .current)).1 = .ok (.shown (some "a.md") (some found)) ∧
      ∃ before auto since timer after,
        steps = before ++ .request (.activate (some "a.md") auto) :: since ++ .fire timer :: after ∧
        (s.run (before ++ .request (.activate (some "a.md") auto) :: since)).Checks timer "a.md"
          (some found) := by
  intro s steps
  have hresult : ((s.run steps).desk.checker.shownResult.any fun found => !found.isEmpty) = true := by
    decide +kernel
  have hshown : (s.run steps).desk.checker.shown = some "a.md" := by decide +kernel
  obtain ⟨entries, hopen⟩ := open_oneWord
  cases hfound : (s.run steps).desk.checker.shownResult with
  | none => exact absurd hresult (by simp [hfound])
  | some found =>
      have hcurrent : ((s.run steps).take (.request .current)).1
          = .ok (.shown (some "a.md") (some found)) := by
        rw [take_current, hshown, hfound]
      obtain ⟨name, before, auto, since, timer, after, hname, hsteps, -, hchecks, -⟩ :=
        current_from_activation hopen steps hcurrent
      obtain rfl := Option.some.inj hname
      exact ⟨found, by simpa [hfound] using hresult, hcurrent, before, auto, since, timer, after,
        hsteps, hchecks⟩

end Session

end NoteCheck
