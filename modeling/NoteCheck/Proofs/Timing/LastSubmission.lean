import Mathlib.Tactic.Lemma
import NoteCheck.Timing.Calls

/-!
# Only the last submission runs, and only once

A timer cannot be stopped once it has begun to run.  It may come to run after it was cancelled, or
after another submission took its place, and nothing keeps it from running twice.  What a debouncer
promises all the same rests on one test, which the timer makes as it runs: whether it is the one
that is waited for (`Debouncer.take`).

A `Step` is something that happens at once: a submission, a cancellation, or a timer that makes its
test and, if it passes, starts its call (`start`).  What the call submits in turn comes in later
steps, and anything may come between.  Any list of steps is a run.

At any time after its submission a timer is either waited for (`Awaits`) or *lapsed* (`Lapsed`).  A
submission, a cancellation and the start of its call make it lapse (`lapsed_of_supersedes`,
`lapsed_of_startedBy`), nothing else does (`awaits_take`), and a lapsed timer stays so
(`lapsed_take`).

* **`start_iff_last`** — a timer that runs starts its call exactly if its submission is the last one,
  nothing was cancelled since, and the call was not started before.
-/

namespace NoteCheck

/-! ## The tasks of timers -/

namespace Schedule

variable {τ : Type} (s : Schedule τ) (number m : Nat)

/-- What the timer of a number is to run. -/
def task? : Option τ :=
  (s.timer? number).map (·.task)

@[simp] lemma length_cancel : (s.cancel m).timers.length = s.timers.length := by
  simp [cancel]

@[simp] lemma length_finish : (s.finish m).timers.length = s.timers.length := by
  simp [finish]

@[simp] lemma length_start (delay : Int) (task : τ) :
    (s.start delay task).timers.length = s.timers.length + 1 := by
  simp [start]

lemma task?_modify {f : Timer τ → Timer τ} (hf : ∀ t, (f t).task = t.task) :
    ({ s with timers := s.timers.modify m f } : Schedule τ).task? number = s.task? number := by
  simp only [task?, timer?, List.getElem?_modify]
  cases s.timers[number]? with
  | none => rfl
  | some t => by_cases hm : m = number <;> simp [hm, hf]

@[simp] lemma task?_cancel : (s.cancel m).task? number = s.task? number :=
  task?_modify s number m fun t => by split <;> rfl

@[simp] lemma task?_finish : (s.finish m).task? number = s.task? number :=
  task?_modify s number m fun _ => rfl

@[simp] lemma task?_start (delay : Int) (task : τ) :
    (s.start delay task).task? s.timers.length = some task := by
  simp [task?, timer?, start]

lemma lt_of_task? {task : τ} (h : s.task? number = some task) : number < s.timers.length := by
  obtain ⟨t, ht, -⟩ := Option.map_eq_some_iff.mp h
  exact (List.getElem?_eq_some_iff.mp ht).1

end Schedule

namespace Debouncer

variable {τ : Type} (d : Debouncer) (s : Schedule τ)

lemma cancel_fst : (d.cancel s).1 = { d with waiting := .nothing } := by
  unfold cancel
  split <;> rfl

@[simp] lemma length_cancel : (d.cancel s).2.timers.length = s.timers.length := by
  unfold cancel
  split <;> simp

@[simp] lemma task?_cancel (number : Nat) : (d.cancel s).2.task? number = s.task? number := by
  unfold cancel
  split <;> simp

end Debouncer

namespace CallDesk

variable {β : Type}

/-! ## Steps -/

/-- Something that happens to a debouncer and its timers. -/
inductive Step (β : Type) where
  | submit (call : Call β)
  | cancel
  /-- A timer runs, and starts its call if it is the one waited for. -/
  | fire (number : Nat)
  | setDelay (delay : Delay)
  /-- The clock moves to a time. -/
  | wait (time : Int)

/-- Whether a step takes away what is waited for. -/
def Step.supersedes : Step β → Bool
  | submit _ | cancel => true
  | fire _ | setDelay _ | wait _ => false

/-- Lets a timer run, in whatever state it is, up to the start of its call; gives the call if it is
started. -/
def start (number : Nat) (d : CallDesk β) : Option (Call β) × CallDesk β :=
  match d.schedule.timer? number with
  | none => (none, d)
  | some t =>
      let (admitted, debouncer) := d.debouncer.take number
      let d := { d with debouncer, schedule := d.schedule.finish number }
      if admitted then (some t.task, { d with made := d.made ++ [t.task.value] }) else (none, d)

/-- Lets a step happen; gives the call if one is started. -/
def take (d : CallDesk β) : Step β → Option (Call β) × CallDesk β
  | .submit call => (none, (d.submit call).2)
  | .cancel => (none, d.cancel)
  | .fire number => d.start number
  | .setDelay delay => (none, { d with debouncer := { d.debouncer with delay } })
  | .wait time => (none, { d with schedule := d.schedule.moveTo time })

/-- Lets steps happen in turn. -/
def run (d : CallDesk β) : List (Step β) → CallDesk β
  | [] => d
  | step :: rest => (d.take step).2.run rest

/-- The timer whose call a step starts. -/
def startedBy (d : CallDesk β) : Step β → Option Nat
  | .fire number => (d.start number).1.map fun _ => number
  | _ => none

/-- The timers whose calls are started in a run, the first one first. -/
def started (d : CallDesk β) : List (Step β) → List Nat
  | [] => []
  | step :: rest => (d.startedBy step).toList ++ (d.take step).2.started rest

/-- The timer that a submission starts, unless the clock cannot count the delay. -/
def nextTimer? (d : CallDesk β) : Option Nat :=
  d.debouncer.delay.map fun _ => d.schedule.timers.length

variable {d : CallDesk β} {number : Nat} {call : Call β} {step : Step β}

lemma run_append (d : CallDesk β) (before after : List (Step β)) :
    d.run (before ++ after) = (d.run before).run after := by
  induction before generalizing d with
  | nil => rfl
  | cons step before ih => exact ih _

lemma started_append (d : CallDesk β) (before after : List (Step β)) :
    d.started (before ++ after) = d.started before ++ (d.run before).started after := by
  induction before generalizing d with
  | nil => rfl
  | cons step before ih =>
      rw [List.cons_append, started, ih, started, run, List.append_assoc]

/-- A timer that runs, and whose call then runs on without a break, is a timer that runs followed by
what its call submits. -/
lemma fire_eq_run (d : CallDesk β) (number : Nat) :
    (d.fire number).2
      = d.run (.fire number :: ((d.start number).1.bind Call.next?).toList.map .submit) := by
  rw [run, take, fire, start]
  cases d.schedule.timer? number with
  | none => rfl
  | some t =>
      cases hadmitted : (d.debouncer.take number).1 with
      | false => simp [hadmitted, run]
      | true =>
          cases hnext : t.task.next? <;> simp [hadmitted, hnext, make, run, take]

/-! ## Waited for or lapsed -/

/-- Whether a timer is the one waited for, to start a call. -/
def Awaits (d : CallDesk β) (number : Nat) (call : Call β) : Prop :=
  d.debouncer.waiting = .timer number ∧ d.schedule.task? number = some call

/-- Whether a timer was started and is not waited for. -/
def Lapsed (d : CallDesk β) (number : Nat) : Prop :=
  d.debouncer.waiting ≠ .timer number ∧ number < d.schedule.timers.length

lemma start_of_awaits (h : d.Awaits number call) : (d.start number).1 = some call := by
  obtain ⟨hwaiting, htask⟩ := h
  obtain ⟨t, ht, rfl⟩ := Option.map_eq_some_iff.mp htask
  rw [start, ht]
  simp [Debouncer.take, hwaiting]

lemma start_of_lapsed (h : d.Lapsed number) : (d.start number).1 = none := by
  rw [start]
  cases d.schedule.timer? number with
  | none => rfl
  | some t => simp [Debouncer.take, h.1]

/-- The value of the call that is started is the one value that is made. -/
lemma made_start (d : CallDesk β) (number : Nat) :
    (d.start number).2.made = d.made ++ ((d.start number).1.map Call.value).toList := by
  rw [start]
  cases d.schedule.timer? number with
  | none => simp
  | some t => cases hadmitted : (d.debouncer.take number).1 <;> simp [hadmitted]

/-- What a submission leaves is the timer it started, waited for. -/
lemma awaits_submit (hnumber : d.nextTimer? = some number) (call : Call β) :
    (d.submit call).2.Awaits number call := by
  obtain ⟨micros, hdelay, rfl⟩ := Option.map_eq_some_iff.mp hnumber
  have hlength := d.debouncer.length_cancel d.schedule
  simp only [Awaits, submit, Debouncer.submit, Debouncer.cancel_fst, hdelay, hlength, true_and]
  rw [← hlength, Schedule.task?_start]

/-- The timers that were started before a submission are not waited for after it. -/
lemma lapsed_submit (hnumber : number < d.schedule.timers.length) (call : Call β) :
    (d.submit call).2.Lapsed number := by
  cases hdelay : d.debouncer.delay with
  | none => simpa [Lapsed, submit, Debouncer.submit, Debouncer.cancel_fst, hdelay] using hnumber
  | some micros =>
      simp only [Lapsed, submit, Debouncer.submit, Debouncer.cancel_fst, hdelay,
        Debouncer.length_cancel, Schedule.length_start, ne_eq, Waiting.timer.injEq]
      omega

lemma lapsed_cancel (hnumber : number < d.schedule.timers.length) : d.cancel.Lapsed number := by
  simpa [Lapsed, cancel, Debouncer.cancel_fst] using hnumber

/-- A timer has lapsed once it has run. -/
lemma lapsed_start (hnumber : number < d.schedule.timers.length) :
    (d.start number).2.Lapsed number := by
  rw [start, Schedule.timer?, List.getElem?_eq_getElem hnumber]
  by_cases hwaiting : d.debouncer.waiting = .timer number <;>
    simp [Lapsed, Debouncer.take, hwaiting, hnumber]

/-- A timer that runs without being waited for changes nothing but its own state. -/
lemma start_snd_of_ne (hwaiting : d.debouncer.waiting ≠ .timer number) :
    (d.start number).2.debouncer = d.debouncer ∧
      ∀ m, (d.start number).2.schedule.task? m = d.schedule.task? m := by
  rw [start]
  cases d.schedule.timer? number with
  | none => exact ⟨rfl, fun _ => rfl⟩
  | some t => simp [Debouncer.take, hwaiting]

/-- **What has lapsed stays lapsed.** -/
lemma lapsed_take (h : d.Lapsed number) (step : Step β) : (d.take step).2.Lapsed number := by
  cases step with
  | submit call => exact lapsed_submit h.2 call
  | cancel => exact lapsed_cancel h.2
  | setDelay delay => exact h
  | wait time => exact h
  | fire m =>
      obtain ⟨hwaiting, hnumber⟩ := h
      rw [take, start]
      cases d.schedule.timer? m with
      | none => exact ⟨hwaiting, hnumber⟩
      | some t =>
          by_cases hm : d.debouncer.waiting = .timer m
          · simp [Lapsed, Debouncer.take, hm, hnumber]
          · simp [Lapsed, Debouncer.take, hm, hnumber, hwaiting]

lemma lapsed_of_supersedes (hnumber : number < d.schedule.timers.length)
    (hstep : step.supersedes = true) : (d.take step).2.Lapsed number := by
  cases step with
  | submit call => exact lapsed_submit hnumber call
  | cancel => exact lapsed_cancel hnumber
  | _ => exact absurd hstep (by simp [Step.supersedes])

/-- A timer that is waited for stays so until it runs or something supersedes it. -/
lemma awaits_take (h : d.Awaits number call) (hstep : step.supersedes = false)
    (hstarted : d.startedBy step ≠ some number) : (d.take step).2.Awaits number call := by
  cases step with
  | submit call => exact absurd hstep (by simp [Step.supersedes])
  | cancel => exact absurd hstep (by simp [Step.supersedes])
  | setDelay delay => exact h
  | wait time => exact h
  | fire m =>
      have hm : d.debouncer.waiting ≠ .timer m := by
        rw [h.1]
        intro heq
        obtain rfl := Waiting.timer.inj heq
        exact hstarted (by rw [startedBy, start_of_awaits h]; rfl)
      obtain ⟨hdebouncer, htask⟩ := start_snd_of_ne hm
      exact ⟨hdebouncer ▸ h.1, (htask number).trans h.2⟩

/-! ## Runs -/

lemma lapsed_run (h : d.Lapsed number) (steps : List (Step β)) : (d.run steps).Lapsed number := by
  induction steps generalizing d with
  | nil => exact h
  | cons step rest ih => exact ih (lapsed_take h step)

/-- The timers whose calls a step starts have been started, and have lapsed when it is over. -/
lemma lapsed_of_startedBy (h : d.startedBy step = some number) :
    number < d.schedule.timers.length ∧ (d.take step).2.Lapsed number := by
  cases step with
  | fire m =>
      obtain ⟨call, hcall, rfl⟩ := Option.map_eq_some_iff.mp h
      rcases Nat.lt_or_ge m d.schedule.timers.length with hm | hm
      · exact ⟨hm, lapsed_start hm⟩
      · rw [start, Schedule.timer?, List.getElem?_eq_none hm] at hcall
        exact absurd hcall (by simp)
  | _ => exact absurd h (by simp [startedBy])

lemma startedBy_of_lapsed (h : d.Lapsed number) (step : Step β) :
    d.startedBy step ≠ some number := by
  cases step with
  | fire m =>
      intro hstarted
      obtain ⟨call, hcall, rfl⟩ := Option.map_eq_some_iff.mp hstarted
      exact absurd (hcall.symm.trans (start_of_lapsed h)) (by simp)
  | _ => simp [startedBy]

lemma not_mem_started_of_lapsed (h : d.Lapsed number) (steps : List (Step β)) :
    number ∉ d.started steps := by
  induction steps generalizing d with
  | nil => simp [started]
  | cons step rest ih =>
      rw [started, List.mem_append, Option.mem_toList, not_or]
      exact ⟨startedBy_of_lapsed h step, ih (lapsed_take h step)⟩

/-- **No call is started twice**: a timer has lapsed once it has started its call. -/
lemma nodup_started (d : CallDesk β) (steps : List (Step β)) : (d.started steps).Nodup := by
  induction steps generalizing d with
  | nil => exact List.nodup_nil
  | cons step rest ih =>
      rw [started]
      cases hstep : d.startedBy step with
      | none => exact ih _
      | some number =>
          rw [Option.toList_some, List.singleton_append, List.nodup_cons]
          exact ⟨not_mem_started_of_lapsed (lapsed_of_startedBy hstep).2 rest, ih _⟩

/-- The timers whose calls were started are among those that were started. -/
lemma lt_of_mem_started {steps : List (Step β)} (h : number ∈ d.started steps) :
    number < (d.run steps).schedule.timers.length := by
  induction steps generalizing d with
  | nil => exact absurd h (by simp [started])
  | cons step rest ih =>
      rw [started, List.mem_append, Option.mem_toList] at h
      rcases h with hstep | hrest
      · exact (lapsed_run (lapsed_of_startedBy hstep).2 rest).2
      · exact ih hrest

/-- **What becomes of a timer that is waited for.**  It is still waited for if no step supersedes it
and its call is not started, and it has lapsed otherwise. -/
lemma run_of_awaits (h : d.Awaits number call) (steps : List (Step β)) :
    if (∀ step ∈ steps, step.supersedes = false) ∧ number ∉ d.started steps then
      (d.run steps).Awaits number call
    else (d.run steps).Lapsed number := by
  induction steps generalizing d with
  | nil =>
      rw [if_pos (by simp [started])]
      exact h
  | cons step rest ih =>
      have hnumber := d.schedule.lt_of_task? number h.2
      cases hstep : step.supersedes with
      | true =>
          rw [if_neg fun hall => absurd (hall.1 step List.mem_cons_self) (by simp [hstep])]
          exact lapsed_run (lapsed_of_supersedes hnumber hstep) rest
      | false =>
          by_cases hstarted : d.startedBy step = some number
          · rw [if_neg fun hall => hall.2 (by simp [started, hstarted])]
            exact lapsed_run (lapsed_of_startedBy hstarted).2 rest
          · simp only [List.forall_mem_cons, hstep, true_and, started, List.mem_append,
              Option.mem_toList, hstarted, false_or]
            exact ih (awaits_take h hstep hstarted)

/-- **The last submission alone, and once.**  Let a submission start a timer.  Whatever happened
before it and whatever happens after it, when the timer runs it starts its call if and only if no
submission and no cancellation has come since, and the call has not been started yet; and this call
is then the one that is made.  Hence no call is started twice, and none after a later submission or
a cancellation.  A call that submits another as it is made is one that is started, with a submission
as the next step. -/
theorem start_iff_last (d₀ : CallDesk β) {before after : List (Step β)} {call : Call β}
    {number : Nat} (hnumber : (d₀.run before).nextTimer? = some number) :
    let history := before ++ .submit call :: after
    let d := d₀.run history
    (d.start number).1 =
        (if (∀ step ∈ after, step.supersedes = false) ∧ number ∉ d₀.started history then some call
          else none)
      ∧ (d.start number).2.made = d.made ++ ((d.start number).1.map Call.value).toList
      ∧ (d₀.started history).Nodup
      ∧ (∀ mid step rest, after = mid ++ step :: rest → step.supersedes = true →
        number ∉ (d₀.run (before ++ .submit call :: mid)).started (step :: rest))
      ∧ (d.fire number).2
        = d.run (.fire number :: ((d.start number).1.bind Call.next?).toList.map .submit) := by
  intro history d
  -- Nothing that happened before concerns the timer: it was not there.
  have hbefore : number ∉ d₀.started before := by
    obtain ⟨micros, -, rfl⟩ := Option.map_eq_some_iff.mp hnumber
    exact fun hmem => absurd (lt_of_mem_started hmem) (Nat.lt_irrefl _)
  have hstarted : number ∉ d₀.started history ↔
      number ∉ ((d₀.run before).submit call).2.started after := by
    rw [started_append d₀ before (.submit call :: after), List.mem_append, not_or,
      and_iff_right hbefore]
    rfl
  have hfrom : ∀ steps, d₀.run (before ++ .submit call :: steps)
      = ((d₀.run before).submit call).2.run steps := fun steps =>
    run_append d₀ before (.submit call :: steps)
  have hawaits := awaits_submit hnumber call
  refine ⟨?_, made_start d number, nodup_started d₀ history, ?_, fire_eq_run d number⟩
  · have hrun := run_of_awaits hawaits after
    rw [← hfrom after] at hrun
    simp only [hstarted]
    split at hrun
    · next hlast => rw [if_pos hlast, start_of_awaits hrun]
    · next hlast => rw [if_neg hlast, start_of_lapsed hrun]
  · intro mid step rest _ hstep
    have hlength : number < (d₀.run (before ++ .submit call :: mid)).schedule.timers.length := by
      have hrun := run_of_awaits hawaits mid
      rw [← hfrom mid] at hrun
      split at hrun
      · exact Schedule.lt_of_task? _ _ hrun.2
      · exact hrun.2
    have hlapsed := not_mem_started_of_lapsed (lapsed_of_supersedes hlength hstep) rest
    rw [started, List.mem_append, not_or]
    refine ⟨?_, hlapsed⟩
    cases step with
    | submit _ => simp [startedBy]
    | cancel => simp [startedBy]
    | _ => exact absurd hstep (by simp [Step.supersedes])

/-- A timer that is superseded while it begins to run starts nothing when it comes to its test, and
the one that took its place starts its call, once. -/
theorem start_iff_last_late :
    let d : CallDesk Nat := { debouncer := ⟨some 50000, .nothing⟩ }
    let history := [.submit (.plain 1), .submit (.plain 2), .fire 0]
    (d.run []).nextTimer? = some 0 ∧ ((d.run history).start 0).1 = none
      ∧ (d.run [.submit (.plain 1)]).nextTimer? = some 1
      ∧ ((d.run history).start 1).1 = some (.plain 2) := by
  intro d history
  have hfirst : (d.run []).nextTimer? = some 0 := rfl
  have hsecond : (d.run [.submit (.plain 1)]).nextTimer? = some 1 := rfl
  refine ⟨hfirst, ?_, hsecond, ?_⟩
  · exact (@start_iff_last Nat d [] [.submit (.plain 2), .fire 0] (.plain 1) 0 hfirst).1
  · exact (@start_iff_last Nat d [.submit (.plain 1)] [.fire 0] (.plain 2) 1 hsecond).1

end CallDesk

end NoteCheck
