import NoteCheck.Proofs.Checker.Clockwork

/-!
# Which checks are made

A check of the note that is shown is *submitted* when the note is put on show with `auto`; then it
waits for its timer.  It is made if the timer runs before anything *supersedes* it: another
submission, a shutdown, or a turn to another vault.

To show a note without `auto`, or to show none, submits nothing and so supersedes nothing.  A check
that waits goes on waiting, and is made when its timer runs, even though another activation has come
since.  If that one was of the same note, then what is found is shown, although nobody has asked for
it since the note was last put on show.

* **`awaits_iff_submitted`** — which check waits, what becomes of it when its timer runs, and what is
  shown after a note was put on show without a check.
* **`checked_without_auto`** — a note that is put on show without a check, and checked.
-/

namespace NoteCheck

namespace Debouncer

variable {d : Debouncer} {s : Schedule Activation} {number : Nat} {path : String}

/-- Whether a check of the note at a path waits for the timer of a number. -/
def Awaits (d : Debouncer) (s : Schedule Activation) (number : Nat) (path : String) : Prop :=
  d.waiting = .timer number ∧ (s.task? number).map (·.path) = some path

/-- What is submitted waits for a timer that is just started, and nothing else waits. -/
lemma awaits_submit_iff (d : Debouncer) (s : Schedule Activation) (task : Activation) :
    (d.submit task s).2.1.Awaits (d.submit task s).2.2 number path ↔
      (d.delay.map fun _ => s.timers.length) = some number ∧ task.path = path := by
  have hlength := length_cancel d s
  have htask := fun micros => Schedule.task?_start (d.cancel s).2 micros task
  rw [submit, Awaits]
  simp only [cancel_fst]
  cases d.delay with
  | none => simp
  | some micros =>
      simp only [Option.map_some, Option.some.injEq, Waiting.timer.injEq, hlength] at htask ⊢
      constructor
      · rintro ⟨rfl, hpath⟩
        rw [htask] at hpath
        exact ⟨rfl, Option.some.inj hpath⟩
      · rintro ⟨rfl, rfl⟩
        rw [htask]
        exact ⟨rfl, rfl⟩

lemma not_awaits_cancel (d : Debouncer) (s : Schedule Activation) :
    ¬ (d.cancel s).1.Awaits (d.cancel s).2 number path := by
  intro h
  rw [Awaits, cancel_fst] at h
  exact absurd h.1 (by simp)

/-- A timer that runs ends the wait for it, and no other wait. -/
lemma awaits_take_iff (timer : Nat) :
    (d.take timer).2.Awaits (s.finish timer) number path ↔
      d.Awaits s number path ∧ timer ≠ number := by
  rw [Awaits, Awaits, take, Schedule.task?_finish]
  by_cases hwaiting : d.waiting = .timer timer
  · simpa [hwaiting] using fun h _ _ _ => h
  · rw [if_neg hwaiting]
    constructor
    · rintro ⟨h, hpath⟩
      exact ⟨⟨h, hpath⟩, fun heq => hwaiting (heq ▸ h)⟩
    · rintro ⟨h, -⟩
      exact h

end Debouncer

namespace Session

variable {s : Session} {step : Step} {steps rest : List Step} {number : Nat} {path : String}

/-- Whether a check of the note at a path waits for the timer of a number. -/
def Awaits (s : Session) (number : Nat) (path : String) : Prop :=
  s.desk.checker.debouncer.Awaits s.desk.schedule number path

/-- The number of the timer that a submission starts now, if the clock can count its delay. -/
def nextTimer? (s : Session) : Option Nat :=
  s.desk.checker.debouncer.delay.map fun _ => s.desk.schedule.timers.length

/-- Whether a step puts an end to the wait of a check, other than by making it. -/
def Step.supersedes : Step → Bool
  | .request (.activate (some path) true) => !path.isEmpty
  | .request .shutdown | .request (.switchVault _) => true
  | _ => false

/-- Whether the check that waits for the timer of a number goes on waiting. -/
def Step.Spares (number : Nat) (step : Step) : Prop :=
  step.supersedes = false ∧ step ≠ .fire number

/-- Whether a step submits a check of the note at a path, to wait for the timer of a number. -/
def Submits (s : Session) (step : Step) (number : Nat) (path : String) : Prop :=
  step = .request (.activate (some path) true) ∧ path ≠ "" ∧ s.nextTimer? = some number

/-- Whether one of the steps submits a check, and the others after it let it wait. -/
def Submitted (s : Session) (steps : List Step) (number : Nat) (path : String) : Prop :=
  ∃ before step after, steps = before ++ step :: after ∧ (s.run before).Submits step number path ∧
    ∀ later ∈ after, later.Spares number

/-! ## One step -/

lemma awaits_of_spares (hspares : step.Spares number) (hsubmits : ¬ s.Submits step number path) :
    s.Awaits number path ↔ s.Submits step number path ∨ s.Awaits number path ∧ step.Spares number := by
  simp [hspares, hsubmits]

lemma submits_iff_of_cancel (hstep : step.supersedes = true)
    (hsubmits : ¬ s.Submits step number path) (d : Debouncer) (c : Schedule Activation) :
    (d.cancel c).1.Awaits (d.cancel c).2 number path ↔
      s.Submits step number path ∨ s.Awaits number path ∧ step.Spares number := by
  simp [hsubmits, Step.Spares, hstep, Debouncer.not_awaits_cancel]

/-- **What waits after a step** is what the step submits, or what has waited before and is spared. -/
lemma awaits_take_iff (hretired : s.retired = []) :
    (s.take step).2.Awaits number path ↔
      s.Submits step number path ∨ s.Awaits number path ∧ step.Spares number := by
  have hleft : (s.take step).2.Awaits number path ↔
      (step.turn s.desk.checker.number s.desk.clockwork).1.Awaits
        (step.turn s.desk.checker.number s.desk.clockwork).2 number path := by
    rw [← clockwork_take hretired step]
    exact Iff.rfl
  rw [hleft]
  cases step with
  | edit tree => exact awaits_of_spares ⟨rfl, by simp⟩ (by simp [Submits])
  | wait time => exact awaits_of_spares ⟨rfl, by simp⟩ (by simp [Submits])
  | fire timer =>
      have hfire : s.Submits (.fire timer) number path ∨
          s.Awaits number path ∧ (Step.fire timer).Spares number ↔
            s.Awaits number path ∧ timer ≠ number := by
        simp [Submits, Step.Spares, Step.supersedes]
      rw [hfire, Step.turn]
      split
      · exact Debouncer.awaits_take_iff timer
      · next hnone =>
          -- What waits for a timer waits for one that was started.
          refine ⟨fun h => ⟨h, ?_⟩, fun h => h.1⟩
          rintro rfl
          obtain ⟨t, ht, -⟩ := Option.map_eq_some_iff.mp h.2
          exact hnone (by simpa [Schedule.task?] using congrArg Option.isSome ht)
  | request r =>
      cases r with
      | activate shown auto =>
          rcases shown with _ | name
          · exact awaits_of_spares ⟨rfl, by simp⟩ (by simp [Submits])
          · cases auto with
            | false => exact awaits_of_spares ⟨rfl, by simp⟩ (by simp [Submits])
            | true =>
                rw [Step.turn, Checker.Request.turn]
                by_cases hname : name = ""
                · subst hname
                  refine awaits_of_spares ⟨rfl, by simp⟩ ?_
                  rintro ⟨hstep, hpath, -⟩
                  simp at hstep
                  exact hpath hstep
                · have hsupersedes : ¬ (Step.request (.activate (some name) true)).Spares number := by
                    simp [Step.Spares, Step.supersedes, hname]
                  rw [if_neg (by simpa using hname), Desk.clockwork, Debouncer.awaits_submit_iff]
                  simp only [hsupersedes, and_false, or_false]
                  constructor
                  · rintro ⟨hnext, rfl⟩
                    exact ⟨rfl, hname, hnext⟩
                  · rintro ⟨hstep, -, hnext⟩
                    exact ⟨hnext, by simpa using hstep⟩
      | switchVault vault => exact submits_iff_of_cancel rfl (by simp [Submits]) _ _
      | shutdown => exact submits_iff_of_cancel rfl (by simp [Submits]) _ _
      | _ => exact awaits_of_spares ⟨rfl, by simp⟩ (by simp [Submits])

/-! ## Runs -/

lemma not_submitted_nil : ¬ s.Submitted [] number path := by
  rintro ⟨before, step, after, hsteps, -⟩
  exact absurd hsteps (by simp)

lemma submitted_cons_iff :
    s.Submitted (step :: rest) number path ↔
      s.Submits step number path ∧ (∀ later ∈ rest, later.Spares number) ∨
        (s.take step).2.Submitted rest number path := by
  constructor
  · rintro ⟨before, submission, after, hsteps, hsubmits, hspares⟩
    rcases before with _ | ⟨first, before⟩
    · obtain ⟨rfl, rfl⟩ := List.cons.inj hsteps
      exact Or.inl ⟨hsubmits, hspares⟩
    · obtain ⟨rfl, rfl⟩ := List.cons.inj hsteps
      exact Or.inr ⟨before, submission, after, rfl, hsubmits, hspares⟩
  · rintro (⟨hsubmits, hspares⟩ | ⟨before, submission, after, rfl, hsubmits, hspares⟩)
    · exact ⟨[], step, rest, rfl, hsubmits, hspares⟩
    · exact ⟨step :: before, submission, after, rfl, hsubmits, hspares⟩

/-- **What waits after a run** was submitted in it, or has waited before, and was spared since. -/
lemma awaits_run_iff (hretired : s.retired = []) (steps : List Step) :
    (s.run steps).Awaits number path ↔
      s.Submitted steps number path ∨ s.Awaits number path ∧ ∀ step ∈ steps, step.Spares number := by
  induction steps generalizing s with
  | nil => simp [run, not_submitted_nil]
  | cons step rest ih =>
      rw [run, ih (retired_take hretired step), awaits_take_iff hretired, submitted_cons_iff,
        List.forall_mem_cons, or_and_right, and_assoc, or_left_comm, or_assoc]

/-! ## Timers that run -/

/-- A timer that nothing waits for changes nothing about the checker. -/
lemma checker_fire_idle (hretired : s.retired = []) (hidle : ∀ path, ¬ s.Awaits number path) :
    (s.take (.fire number)).2.desk.checker = s.desk.checker := by
  show (s.fire number).2.desk.checker = s.desk.checker
  cases ht : s.desk.schedule.timer? number with
  | none => rw [fire_of_none ht]
  | some t =>
      have hwaiting : s.desk.checker.debouncer.waiting ≠ .timer number := fun hwaiting =>
        hidle t.task.path ⟨hwaiting, by simp [Schedule.task?, ht]⟩
      rw [fire_of_timer hretired ht]
      show ((Act.fire s.disk number t.task.path).runAt s.desk).2.checker = s.desk.checker
      rw [Act.runAt_fire, if_neg hwaiting]
      simp [Act.taking, Debouncer.take, hwaiting]

/-- A timer that a check waits for makes the check. -/
lemma take_fire_of_awaits (hretired : s.retired = []) (h : s.Awaits number path) :
    (s.take (.fire number)).2.desk
      = ((Act.checkShown s.disk path).runAt (Act.taking number s.desk)).2 := by
  obtain ⟨hwaiting, hpath⟩ := h
  obtain ⟨task, htask, rfl⟩ := Option.map_eq_some_iff.mp hpath
  obtain ⟨t, ht, rfl⟩ := Option.map_eq_some_iff.mp htask
  show (s.fire number).2.desk = _
  rw [fire_of_timer hretired ht]
  show ((Act.fire s.disk number t.task.path).runAt s.desk).2 = _
  rw [Act.runAt_fire, if_pos hwaiting]

lemma awaits_of_checks {found : Option (List Violation)} (h : s.Checks number path found) :
    s.Awaits number path := by
  obtain ⟨⟨t, ht, rfl, -⟩, hwaiting, -⟩ := h
  exact ⟨hwaiting, by simp [Schedule.task?, ht]⟩

/-! ## A note that is put on show without a check -/

lemma not_submitted_of_no_activation (hnone : ∀ step ∈ steps, step.activation? = none) :
    ¬ s.Submitted steps number path := by
  rintro ⟨before, step, after, rfl, ⟨rfl, -⟩, -⟩
  have hstep := hnone _ (List.mem_append_right before List.mem_cons_self)
  exact absurd hstep (by simp [Step.activation?, Checker.Request.activation?])

lemma shown_of_no_activation (hnone : ∀ step ∈ steps, step.activation? = none) :
    (s.run steps).desk.checker.shown = s.desk.checker.shown := by
  induction steps generalizing s with
  | nil => rfl
  | cons step rest ih =>
      obtain ⟨hstep, hrest⟩ := List.forall_mem_cons.mp hnone
      exact (ih hrest).trans (same_of_not_activation hstep).2

/-- When nothing waits, nothing is published. -/
lemma quiet_of_idle (hretired : s.retired = []) (hidle : ∀ number path, ¬ s.Awaits number path)
    (hnone : ∀ step ∈ steps, step.activation? = none) : s.Quiet steps := by
  induction steps generalizing s with
  | nil => trivial
  | cons step rest ih =>
      obtain ⟨hstep, hrest⟩ := List.forall_mem_cons.mp hnone
      refine ⟨hstep, ?_, ih (retired_take hretired step) (fun number path h => ?_) hrest⟩
      · rintro found ⟨number, path, -, hchecks, -⟩
        exact hidle number path (awaits_of_checks hchecks)
      · rcases (awaits_take_iff hretired).mp h with ⟨rfl, -⟩ | ⟨h, -⟩
        · exact absurd hstep (by simp [Step.activation?, Checker.Request.activation?])
        · exact hidle number path h

lemma idle_of_fire (hretired : s.retired = []) (h : s.Awaits number path) (timer : Nat)
    (name : String) : ¬ (s.take (.fire number)).2.Awaits timer name := by
  intro hafter
  rcases (awaits_take_iff hretired).mp hafter with ⟨hstep, -⟩ | ⟨hbefore, -, hne⟩
  · exact absurd hstep (by simp)
  · obtain rfl := Waiting.timer.inj (h.1.symm.trans hbefore.1)
    exact hne rfl

/-- What is shown of a note that was put on show without a check: what a check has found that was
submitted before. -/
lemma shownResult_of_bare (hretired : s.retired = []) {after : List Step}
    (hnone : ∀ step ∈ after, step.activation? = none) (found : List Violation) :
    let bare := (s.take (.request (.activate (some path) false))).2
    (bare.run after).desk.checker.shownResult = some found ↔
      ∃ number mid rest, after = mid ++ .fire number :: rest ∧ s.Awaits number path ∧
        (∀ step ∈ mid, step.Spares number) ∧ (bare.run mid).Checks number path (some found) := by
  intro bare
  have hretiredBare : bare.retired = [] := hretired
  obtain ⟨hshown, hresult⟩ : bare.desk.checker.shown = some path ∧ _ := shown_of_activation rfl
  have hawaits : ∀ number, bare.Awaits number path ↔ s.Awaits number path := by
    intro number
    have hspares : (Step.request (.activate (some path) false)).Spares number := ⟨rfl, by simp⟩
    exact (awaits_take_iff hretired).trans (awaits_of_spares hspares (by simp [Submits])).symm
  constructor
  · intro h
    rcases shownResult_run h with ⟨-, hbefore⟩ | ⟨mid, step, rest, rfl, hpublishes, -⟩
    · exact absurd (hresult.symm.trans hbefore) (by simp)
    · obtain ⟨number, name, rfl, hchecks, hname⟩ := hpublishes
      have hmid : ∀ step ∈ mid, step.activation? = none :=
        fun step hstep => hnone step (List.mem_append_left _ hstep)
      rw [shown_of_no_activation hmid, hshown] at hname
      obtain rfl := Option.some.inj hname
      rcases (awaits_run_iff hretiredBare mid).mp (awaits_of_checks hchecks) with
        hsubmitted | ⟨hbare, hspares⟩
      · exact absurd hsubmitted (not_submitted_of_no_activation hmid)
      · exact ⟨number, mid, rest, rfl, (hawaits number).mp hbare, hspares, hchecks⟩
  · rintro ⟨number, mid, rest, rfl, -, -, hchecks⟩
    obtain ⟨hmid, hfire⟩ := List.forall_mem_append.mp hnone
    obtain ⟨-, hrest⟩ := List.forall_mem_cons.mp hfire
    have hretiredMid := retired_run hretiredBare mid
    have hpublishes : (bare.run mid).Publishes (.fire number) (some found) :=
      ⟨number, path, rfl, hchecks, (shown_of_no_activation hmid).trans hshown⟩
    have hquiet : ((bare.run mid).take (.fire number)).2.Quiet rest :=
      quiet_of_idle (retired_take hretiredMid _)
        (idle_of_fire hretiredMid (awaits_of_checks hchecks)) hrest
    rw [run_append, run, hquiet.sameView.shownResult,
      (sameView_of_publishes hpublishes).shownResult]

/-- **Which check waits, and what becomes of it.**  A checker is set up, and then anything happens to
it and around it.  A check waits if and only if it was submitted and has been spared since; an
activation that submits nothing spares it.  When its timer runs, the check is made; a timer that no
check waits for changes nothing about the checker; and to move the clock is to let timers run.  When a
note is put on show without a check, then until the next activation a result is shown if and only if a
check of this note has waited already, its timer runs while it still waits, and that is what the check
finds. -/
theorem awaits_iff_submitted {d : Disk} {number : Nat} {vault : String} {delay : Delay}
    {schedule : Schedule Activation} {entries : SchemaEntries} {desk : Desk}
    (hopen : Desk.open? d number vault delay schedule = (.ok entries, desk)) (steps : List Step) :
    let s₀ : Session := ⟨d, desk, []⟩
    let s := s₀.run steps
    (∀ number path, s.Awaits number path ↔ s₀.Submitted steps number path)
      ∧ (∀ number path, s.Awaits number path → (s.take (.fire number)).2.desk
          = ((Act.checkShown s.disk path).runAt (Act.taking number s.desk)).2)
      ∧ (∀ number, (∀ path, ¬ s.Awaits number path) →
          (s.take (.fire number)).2.desk.checker = s.desk.checker)
      ∧ (∀ micros, (s.advance micros).2 = s.run (s.advanceSteps micros) ∧
          ∀ step ∈ s.advanceSteps micros,
            (∃ time, step = .wait time) ∨ ∃ number, step = .fire number)
      ∧ ∀ path after found, (∀ step ∈ after, step.activation? = none) →
          let bare := (s.take (.request (.activate (some path) false))).2
          (bare.run after).desk.checker.shown = some path ∧
            ((bare.run after).desk.checker.shownResult = some found ↔
              ∃ number mid rest, after = mid ++ .fire number :: rest ∧ s.Awaits number path ∧
                (∀ step ∈ mid, step.Spares number) ∧
                (bare.run mid).Checks number path (some found)) := by
  intro s₀ s
  have hretired : s.retired = [] := retired_run rfl steps
  have hidle : ∀ number path, ¬ s₀.Awaits number path := by
    intro number path h
    have hwaiting := h.1
    rw [show s₀.desk.checker = _ from Desk.checker_open hopen] at hwaiting
    exact absurd hwaiting (by simp)
  refine ⟨fun number path => ?_, fun number path => take_fire_of_awaits hretired,
    fun number => checker_fire_idle hretired, fun micros => ⟨advance_eq_run s micros, ?_⟩, ?_⟩
  · rw [awaits_run_iff rfl]
    simp [hidle]
  · exact fun step => mem_advanceSteps
  · intro path after found hnone bare
    have hshown : bare.desk.checker.shown = some path := (shown_of_activation rfl).1
    exact ⟨(shown_of_no_activation hnone).trans hshown, shownResult_of_bare hretired hnone found⟩

/-! ### A note that is put on show twice -/

/-- A note is put on show with a check, and at once again without one. -/
def shownAgain : List Step :=
  [.request (.activate (some "a.md") true), .request (.activate (some "a.md") false)]

/-- The first check still waits. -/
theorem awaits_iff_submitted_shownAgain :
    (run ⟨oneWordDisk, oneWordDesk, []⟩ shownAgain).Awaits 0 "a.md" := by
  obtain ⟨entries, hopen⟩ := open_oneWord
  refine ((awaits_iff_submitted hopen shownAgain).1 0 "a.md").mpr ?_
  refine ⟨[], _, [.request (.activate (some "a.md") false)], rfl, ⟨rfl, by decide, ?_⟩, ?_⟩
  · decide +kernel
  · rw [List.forall_mem_singleton]
    exact ⟨rfl, by simp⟩

/-- **A check that was not asked for.**  The note was put on show without a check, nothing was
remembered of it and no result was shown.  The clock moves, the check that was submitted before is
made, its result is shown, and the note is remembered. -/
theorem checked_without_auto :
    let s := run ⟨oneWordDisk, oneWordDesk, []⟩ shownAgain
    let left := (s.advance 100000).2
    (s.take (.request .current)).1 = .ok (.shown (some "a.md") none)
      ∧ s.desk.checker.cache.size = 0
      ∧ (∃ found, found ≠ [] ∧
          (left.take (.request .current)).1 = .ok (.shown (some "a.md") (some found)))
      ∧ left.desk.checker.cache.size = 1 := by
  intro s left
  have hshown : s.desk.checker.shown = some "a.md" ∧ s.desk.checker.shownResult.isNone = true ∧
      s.desk.checker.cache.size = 0 := by decide +kernel
  have hleft : left.desk.checker.shown = some "a.md" ∧
      (left.desk.checker.shownResult.any fun found => !found.isEmpty) = true ∧
      left.desk.checker.cache.size = 1 := by decide +kernel
  refine ⟨?_, hshown.2.2, ?_, hleft.2.2⟩
  · rw [take_current, hshown.1, Option.isNone_iff_eq_none.mp hshown.2.1]
  · obtain ⟨found, hfound, hsome⟩ := (Option.any_eq_true _ _).mp hleft.2.1
    refine ⟨found, by simpa using hsome, ?_⟩
    rw [take_current, hleft.1, hfound]

end Session

end NoteCheck
