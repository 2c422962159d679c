import NoteCheck.Proofs.Checker.Publication
import NoteCheck.Proofs.Timing.Armed

/-!
# The clockwork of a session

The debouncer of a checker and the schedule of its timers are a *clockwork*: what a step does to them
depends on them and on the step, not on the files, the schema, or what is remembered.  `Step.turn`
says what it is, and `clockwork_take` that a step of the session does just that.

This is about a checker that has been in use from the beginning, so that there is no other one whose
timers may run.

* `tracks_run`: the timer that is waited for, and no other one, is armed.
* `advance_eq_run`: when the clock is moved, what happens is a run of steps.
-/

namespace NoteCheck

/-- A debouncer and the schedule of its timers. -/
abbrev Clockwork := Debouncer × Schedule Activation

/-- The clockwork of a desk. -/
def Desk.clockwork (desk : Desk) : Clockwork :=
  (desk.checker.debouncer, desk.schedule)

lemma Desk.Alike.clockwork_eq {a b : Desk} (h : Alike a b) : b.clockwork = a.clockwork := by
  rw [Desk.clockwork, h.schedule, h.checker]
  rfl

/-! ## Requests -/

namespace Checker

open Act

/-- What a request to the checker of a number does to its clockwork. -/
def Request.turn (number : Nat) : Request → Clockwork → Clockwork
  | activate (some path) true, (d, s) =>
      if path.isEmpty then (d, s) else (d.submit ⟨number, path⟩ s).2
  | switchVault _, (d, s) | shutdown, (d, s) => d.cancel s
  | setDelay delay, (d, s) => ({ d with delay }, s)
  | _, c => c

lemma clockwork_hearing (d : Disk) (vault : String) (loaded : LoadedSchema) (desk : Desk) :
    (hearing d vault loaded desk).clockwork = desk.clockwork := by
  unfold hearing
  split <;> rfl

lemma clockwork_renewed (d : Disk) (loaded : LoadedSchema) (desk : Desk) :
    (renewed d loaded desk).clockwork = desk.clockwork := by
  rw [Desk.clockwork, checker_renewed, schedule_renewed]
  rfl

lemma clockwork_activate (path : Option String) (auto : Bool) (desk : Desk) :
    ((activate path auto).runAt desk).2.clockwork
      = (Request.activate path auto).turn desk.checker.number desk.clockwork := by
  rw [runAt_activate]
  rcases path with _ | name
  · rfl
  · dsimp only
    cases auto with
    | false =>
        rw [Bool.and_false, if_neg (by simp)]
        rfl
    | true =>
        rw [Bool.and_true]
        by_cases hname : name.isEmpty = true
        · rw [hname, if_neg (by simp)]
          simp [Request.turn, Desk.clockwork, hname, showing]
        · simp [Request.turn, Desk.clockwork, hname, showing, submitted]

/-- What a request does to the clockwork of a desk. -/
lemma clockwork_request (d : Disk) (r : Request) (desk : Desk) :
    ((r.act d).runAt desk).2.clockwork = r.turn desk.checker.number desk.clockwork := by
  cases r with
  | loadSchema =>
      simp only [Request.act, runAt_bind_pure, runAt_loadSchema]
      cases d.loadSchema desk.checker.vault.path with
      | error cause => rfl
      | ok loaded =>
          exact congrArg (Prod.mk _) (congrArg Prod.snd (clockwork_hearing d _ loaded desk))
  | reloadSchema =>
      simp only [Request.act, runAt_bind_pure, runAt_reloadSchema]
      cases d.loadSchema desk.checker.vault.path with
      | error cause => rfl
      | ok loaded => exact clockwork_renewed d loaded desk
  | switchVault vault =>
      simp only [Request.act, runAt_bind_pure, runAt_switchVault]
      cases d.loadSchema vault.path with
      | error cause => rfl
      | ok loaded => exact clockwork_renewed d loaded (turned vault desk)
  | activate path auto =>
      simp only [Request.act, runAt_bind_pure]
      exact clockwork_activate path auto desk
  | current | setDelay delay | shutdown => rfl
  | _ => exact (alike_request d rfl desk).clockwork_eq

end Checker

namespace Act

/-- What a timer of the checker does to the clockwork of a desk. -/
lemma clockwork_fire (d : Disk) (number : Nat) (path : String) (desk : Desk) :
    ((fire d number path).runAt desk).2.clockwork = (taking number desk).clockwork := by
  rw [runAt_fire]
  split
  · have halike := (alike_checkFile d path false (taking number desk)).clockwork_eq
    rw [runAt_checkShown]
    generalize (checkFile d path false).runAt (taking number desk) = checked at halike ⊢
    rcases checked with ⟨cause | found, left⟩
    · exact halike
    · rw [← halike]
      dsimp only [publishing, Desk.clockwork]
      split <;> rfl
  · rfl

end Act

/-- A checker that has just been set up waits for nothing, and has started no timer. -/
lemma Desk.clockwork_open {d : Disk} {number : Nat} {vault : String} {delay : Delay}
    {schedule : Schedule Activation} {entries : SchemaEntries} {desk : Desk}
    (hopen : Desk.open? d number vault delay schedule = (.ok entries, desk)) :
    desk.clockwork = (⟨delay, .nothing⟩, schedule) := by
  have hrequest := Checker.clockwork_request d .loadSchema
    { checker := { number, vault := .directory (d.vaultDir vault), debouncer := ⟨delay, .nothing⟩ }
      schedule }
  simp only [Checker.Request.act, Act.runAt_bind_pure] at hrequest
  rwa [← Desk.open?, hopen] at hrequest

/-! ## Steps -/

namespace Session

/-- What a step does to the clockwork of the checker of a number. -/
def Step.turn (number : Nat) : Step → Clockwork → Clockwork
  | .request r, c => r.turn number c
  | .fire timer, (d, s) =>
      if (s.timer? timer).isSome then ((d.take timer).2, s.finish timer) else (d, s)
  | .edit _, c => c
  | .wait time, (d, s) => (d, s.moveTo time)

variable {s : Session} {step : Step} {number : Nat} {limit : Int}

lemma fire_of_timer (hretired : s.retired = []) {t : Timer Activation}
    (ht : s.desk.schedule.timer? number = some t) :
    s.fire number = s.act fun d => Act.fire d number t.task.path := by
  rw [fire, ht]
  simp [hretired]

lemma fire_of_none (ht : s.desk.schedule.timer? number = none) : s.fire number = (.ok (), s) := by
  rw [fire, ht]

lemma retired_take (hretired : s.retired = []) (step : Step) :
    (s.take step).2.retired = [] := by
  cases step with
  | request r => exact hretired
  | edit tree => exact hretired
  | wait time => exact hretired
  | fire number =>
      show (s.fire number).2.retired = []
      cases ht : s.desk.schedule.timer? number with
      | none =>
          rw [fire_of_none ht]
          exact hretired
      | some t =>
          rw [fire_of_timer hretired ht]
          exact hretired

lemma retired_run (hretired : s.retired = []) (steps : List Step) : (s.run steps).retired = [] := by
  induction steps generalizing s with
  | nil => exact hretired
  | cons step rest ih => exact ih (retired_take hretired step)

/-- **The clockwork runs by itself.** -/
lemma clockwork_take (hretired : s.retired = []) (step : Step) :
    (s.take step).2.desk.clockwork = step.turn s.desk.checker.number s.desk.clockwork := by
  cases step with
  | request r => exact Checker.clockwork_request s.disk r s.desk
  | edit tree => rfl
  | wait time => rfl
  | fire number =>
      show (s.fire number).2.desk.clockwork = if (s.desk.schedule.timer? number).isSome then
        (Act.taking number s.desk).clockwork else s.desk.clockwork
      cases ht : s.desk.schedule.timer? number with
      | none =>
          rw [fire_of_none ht]
          rfl
      | some t =>
          rw [fire_of_timer hretired ht]
          exact Act.clockwork_fire s.disk number t.task.path s.desk

/-! ### The armed timer -/

lemma tracks_turn {c : Clockwork} (h : c.1.Tracks c.2) (number : Nat) (step : Step) :
    (step.turn number c).1.Tracks (step.turn number c).2 := by
  obtain ⟨d, s⟩ := c
  cases step with
  | edit tree => exact h
  | wait time => exact h.moveTo time
  | fire timer =>
      rw [Step.turn]
      split
      · exact h.take timer
      · exact h
  | request r =>
      rw [Step.turn]
      cases r with
      | activate path auto =>
          rcases path with _ | path
          · exact h
          · cases auto with
            | false => exact h
            | true =>
                rw [Checker.Request.turn]
                split
                · exact h
                · exact h.submit _
      | switchVault vault => exact h.cancel
      | shutdown => exact h.cancel
      | setDelay delay => exact h.setDelay delay
      | _ => exact h

/-- Whatever happens, the timer that is waited for is armed, and no other one is. -/
lemma tracks_run (hretired : s.retired = []) (h : s.desk.checker.debouncer.Tracks s.desk.schedule)
    (steps : List Step) :
    (s.run steps).desk.checker.debouncer.Tracks (s.run steps).desk.schedule := by
  induction steps generalizing s with
  | nil => exact h
  | cons step rest ih =>
      refine ih (retired_take hretired step) ?_
      have hturn := tracks_turn (c := s.desk.clockwork) h s.desk.checker.number step
      rwa [← clockwork_take hretired] at hturn

/-! ## Moving the clock -/

/-- The number of the timer that is due first. -/
def nextDue? (limit : Int) (s : Session) : Option Nat :=
  (s.desk.schedule.nextDue? limit).map (·.1)

/-- The clock moves to the time at which a timer is due, and the timer runs. -/
def comeDue (limit : Int) (number : Nat) (s : Session) : Except Fault Unit × Session :=
  (s.take (.wait (((s.desk.schedule.timer? number).map (·.due)).getD limit))).2.fire number

/-- To move the clock is to let the timers run that come due, and to wait for the rest of the
time. -/
lemma advance_eq (s : Session) (micros : Int) :
    s.advance micros =
      let limit := s.desk.schedule.now + micros
      let ran := runDue (nextDue? limit) (comeDue limit) s.desk.schedule.armedCount s
      (ran.1, (ran.2.take (.wait limit)).2) := rfl

/-- What happens until nothing more is due by `limit`, or `fuel` timers have run. -/
def dueSteps (limit : Int) : (fuel : Nat) → Session → List Step
  | 0, _ => []
  | fuel + 1, s =>
      match s.desk.schedule.nextDue? limit with
      | none => []
      | some (number, t) =>
          .wait t.due :: .fire number :: dueSteps limit fuel (s.run [.wait t.due, .fire number])

/-- The steps that moving the clock comes to. -/
def advanceSteps (micros : Int) (s : Session) : List Step :=
  dueSteps (s.desk.schedule.now + micros) s.desk.schedule.armedCount s
    ++ [.wait (s.desk.schedule.now + micros)]

lemma mem_dueSteps {fuel : Nat} (hstep : step ∈ dueSteps limit fuel s) :
    (∃ time, step = .wait time) ∨ ∃ number, step = .fire number := by
  induction fuel generalizing s with
  | zero => exact absurd hstep List.not_mem_nil
  | succ fuel ih =>
      rw [dueSteps] at hstep
      split at hstep
      · exact absurd hstep List.not_mem_nil
      · next number t hdue =>
          rcases List.mem_cons.mp hstep with rfl | hstep
          · exact Or.inl ⟨_, rfl⟩
          · rcases List.mem_cons.mp hstep with rfl | hstep
            · exact Or.inr ⟨_, rfl⟩
            · exact ih hstep

lemma mem_advanceSteps {micros : Int} (hstep : step ∈ s.advanceSteps micros) :
    (∃ time, step = .wait time) ∨ ∃ number, step = .fire number := by
  rcases List.mem_append.mp hstep with hstep | hstep
  · exact mem_dueSteps hstep
  · exact Or.inl ⟨_, List.mem_singleton.mp hstep⟩

lemma runDue_eq_run (limit : Int) (fuel : Nat) (s : Session) :
    (runDue (nextDue? limit) (comeDue limit) fuel s).2 = s.run (dueSteps limit fuel s) := by
  induction fuel generalizing s with
  | zero => rfl
  | succ fuel ih =>
      rw [runDue, dueSteps, nextDue?]
      cases hdue : s.desk.schedule.nextDue? limit with
      | none => rfl
      | some next =>
          obtain ⟨number, t⟩ := next
          obtain ⟨htimer, -, -⟩ := Schedule.nextDue?_eq_some hdue
          simp only [Option.map_some, comeDue, htimer]
          exact ih _

/-- **Moving the clock is a run**: the timers that come due, one after the other, and the rest of the
time. -/
lemma advance_eq_run (s : Session) (micros : Int) :
    (s.advance micros).2 = s.run (s.advanceSteps micros) := by
  rw [advanceSteps, run_append, ← runDue_eq_run]
  rfl

end Session

end NoteCheck
