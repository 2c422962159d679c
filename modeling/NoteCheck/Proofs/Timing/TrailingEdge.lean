import Mathlib.Data.List.Infix
import Mathlib.Tactic.Lemma
import NoteCheck.Proofs.Timing.Armed

/-!
# The trailing edge

A debounced call is made when its delay has passed and nothing was submitted or cancelled meanwhile,
so of a burst of submissions the last one is made, at the trailing edge.  Here the clock stands still
except when it is told to move (`Move.advance`), and while it moves the timers run as they come due.

What happened is kept in a `log`: each submission with the time at which it is due, each
cancellation, and each time that the clock has reached.  The log knows nothing of timers.  It holds
the submissions of calls that submit again, too, at the time at which they were made.  A submission is
`ripe?` if the log says that the clock reached its due time before anything else was submitted or
cancelled.

An advance is a run of steps that happen at once (`advance_eq_run`).  The proof keeps an account of
them: what was made so far, what the armed timer owes, and what is ripe in the rest of the log
(`account`).  A step that moves an entry from the log to the desk leaves the account as it is
(`Balanced`), provided that the clock does not pass by a timer that is due; and an advance does not,
because it runs what is due until nothing is (`idle_dueSteps`).

* **`made_eq_ripe`** — the calls that are made are the ripe submissions, in their order.
-/

namespace NoteCheck

namespace Call

variable {β : Type}

lemma length_pos : (call : Call β) → 0 < call.length
  | plain _ => Nat.one_pos
  | chained _ _ => Nat.succ_pos _
  | failing call _ => call.length_pos

lemma length_next_lt {call next : Call β} (h : call.next? = some next) :
    next.length < call.length := by
  induction call with
  | plain value => exact absurd h (by simp [next?])
  | chained value rest =>
      obtain rfl := Option.some.inj h
      exact Nat.lt_succ_self _
  | failing call cause ih => exact ih h

end Call

namespace CallDesk

variable {β : Type}

/-! ## Moving the clock -/

/-- Something that is done to a debouncer whose clock moves only when it is told to. -/
inductive Move (β : Type) where
  | submit (call : Call β)
  | cancel
  | setDelay (delay : Delay)
  /-- The clock moves on, and the timers that come due run. -/
  | advance (micros : Int)

def move (d : CallDesk β) : Move β → CallDesk β
  | .submit call => (d.submit call).2
  | .cancel => d.cancel
  | .setDelay delay => { d with debouncer := { d.debouncer with delay } }
  | .advance micros => (d.advance micros).2

/-- Makes moves in turn. -/
def play (d : CallDesk β) : List (Move β) → CallDesk β
  | [] => d
  | m :: rest => (d.move m).play rest

/-- What happens when a timer comes due: the clock moves to its time, it runs, and its call, if it
starts one, submits what it submits. -/
def firing (d : CallDesk β) (number : Nat) (due : Int) : List (Step β) :=
  .wait due :: .fire number ::
    (((d.take (.wait due)).2.start number).1.bind Call.next?).toList.map .submit

/-- What happens until nothing more is due by `limit`, or `fuel` timers have run. -/
def dueSteps (limit : Int) : (fuel : Nat) → CallDesk β → List (Step β)
  | 0, _ => []
  | fuel + 1, d =>
      match d.schedule.nextDue? limit with
      | none => []
      | some (number, t) =>
          d.firing number t.due ++ dueSteps limit fuel (d.run (d.firing number t.due))

/-- The steps that a move comes to. -/
def stepsOf (d : CallDesk β) : Move β → List (Step β)
  | .submit call => [.submit call]
  | .cancel => [.cancel]
  | .setDelay delay => [.setDelay delay]
  | .advance micros =>
      let limit := d.schedule.now + micros
      dueSteps limit d.work d ++ [.wait limit]

/-- The steps that moves come to. -/
def unroll (d : CallDesk β) : List (Move β) → List (Step β)
  | [] => []
  | m :: rest => d.stepsOf m ++ (d.move m).unroll rest

variable {d : CallDesk β} {limit : Int} {number : Nat} {t : Timer (Call β)}

lemma run_firing (d : CallDesk β) (number : Nat) (due : Int) :
    d.run (d.firing number due)
      = (fire number { d with schedule := d.schedule.moveTo due }).2 := by
  rw [fire_eq_run]
  rfl

lemma runDue_eq_run (limit : Int) (fuel : Nat) (d : CallDesk β) :
    (runDue (fun d : CallDesk β => (d.schedule.nextDue? limit).map (·.1))
      (fun number d => fire number { d with
        schedule := d.schedule.moveTo (((d.schedule.timer? number).map (·.due)).getD limit) })
      fuel d).2 = d.run (dueSteps limit fuel d) := by
  induction fuel generalizing d with
  | zero => rfl
  | succ fuel ih =>
      rw [runDue, dueSteps]
      cases hdue : d.schedule.nextDue? limit with
      | none => rfl
      | some next =>
          obtain ⟨number, t⟩ := next
          obtain ⟨htimer, -, -⟩ := Schedule.nextDue?_eq_some hdue
          simp only [Option.map_some]
          rw [run_append, run_firing, ← ih, htimer]
          rfl

/-- **An advance is a run**: timers that come due, one after the other, and the rest of the time. -/
lemma advance_eq_run (d : CallDesk β) (micros : Int) :
    (d.advance micros).2 = d.run (d.stepsOf (.advance micros)) := by
  have hdue := runDue_eq_run (d.schedule.now + micros) d.work d
  rw [stepsOf, run_append, ← hdue]
  rfl

lemma move_eq_run (d : CallDesk β) (m : Move β) : d.move m = d.run (d.stepsOf m) := by
  cases m with
  | advance micros => exact advance_eq_run d micros
  | _ => rfl

lemma play_eq_run (d : CallDesk β) (moves : List (Move β)) :
    d.play moves = d.run (d.unroll moves) := by
  induction moves generalizing d with
  | nil => rfl
  | cons m rest ih => rw [play, unroll, run_append, ← move_eq_run, ih]

/-! ## The armed timer -/

lemma tracks_take (h : d.debouncer.Tracks d.schedule) (step : Step β) :
    (d.take step).2.debouncer.Tracks (d.take step).2.schedule := by
  cases step with
  | submit call => exact h.submit call
  | cancel => exact h.cancel
  | setDelay delay => exact h.setDelay delay
  | wait time => exact h.moveTo time
  | fire number =>
      have htake := h.take number
      rw [take, start]
      cases d.schedule.timer? number with
      | none => exact h
      | some t =>
          cases hadmitted : (d.debouncer.take number).1 <;> simpa [hadmitted] using htake

lemma tracks_run (h : d.debouncer.Tracks d.schedule) (steps : List (Step β)) :
    (d.run steps).debouncer.Tracks (d.run steps).schedule := by
  induction steps generalizing d with
  | nil => exact h
  | cons step rest ih => exact ih (tracks_take h step)

/-- The timer that is waited for. -/
def awaited? (d : CallDesk β) : Option (Timer (Call β)) :=
  match d.debouncer.waiting with
  | .timer number => d.schedule.timer? number
  | .nothing | .unstarted => none

lemma awaited?_of_timer (h : d.debouncer.waiting = .timer number) :
    d.awaited? = d.schedule.timer? number := by
  rw [awaited?, h]

lemma awaited?_cancel (d : CallDesk β) : d.cancel.awaited? = none := by
  simp only [awaited?, cancel, Debouncer.cancel_fst]

lemma awaited?_submit (d : CallDesk β) (call : Call β) :
    (d.submit call).2.awaited?
      = d.debouncer.delay.map fun micros => ⟨d.schedule.now + micros, .armed, call⟩ := by
  rw [awaited?, submit, Debouncer.submit]
  simp only [Debouncer.cancel_fst]
  cases hdelay : d.debouncer.delay with
  | none => rfl
  | some micros => simp [Schedule.timer?, Schedule.start, Debouncer.now_cancel]

lemma awaited?_start (h : d.debouncer.waiting = .timer number) :
    (d.start number).2.awaited? = none := by
  rw [start]
  cases ht : d.schedule.timer? number with
  | none => rw [awaited?_of_timer h, ht]
  | some t => simp [Debouncer.take, h, awaited?]

/-- What is left to be made is what the timer that is waited for leads to. -/
lemma work_eq (h : d.debouncer.Tracks d.schedule) :
    d.work = d.awaited?.elim 0 fun t => t.task.length := by
  rw [work, awaited?]
  cases hwaiting : d.debouncer.waiting with
  | timer number =>
      obtain ⟨t, ht, -⟩ := h.exists_timer hwaiting
      rw [h.armed_eq_singleton hwaiting ht]
      simp [ht]
  | nothing | unstarted =>
      rw [h.armed_eq_nil (by simp [hwaiting])]
      rfl

/-! ### Nothing is left that is due -/

lemma start_of_due (h : d.debouncer.Tracks d.schedule)
    (hdue : d.schedule.nextDue? limit = some (number, t)) :
    ((d.take (.wait t.due)).2.start number).1 = some t.task := by
  obtain ⟨hwaiting, ht, -⟩ := h.nextDue?_eq_some hdue
  refine start_of_awaits ⟨hwaiting, ?_⟩
  exact congrArg (Option.map (·.task)) ht

lemma run_firing_of_due (h : d.debouncer.Tracks d.schedule)
    (hdue : d.schedule.nextDue? limit = some (number, t)) :
    d.run (d.firing number t.due)
      = (((d.take (.wait t.due)).2.start number).2.run (t.task.next?.toList.map .submit)) := by
  rw [firing, start_of_due h hdue]
  rfl

lemma work_firing_lt (h : d.debouncer.Tracks d.schedule)
    (hdue : d.schedule.nextDue? limit = some (number, t)) :
    (d.run (d.firing number t.due)).work < d.work := by
  obtain ⟨hwaiting, ht, -⟩ := h.nextDue?_eq_some hdue
  have hwork : d.work = t.task.length := by
    rw [work_eq h, awaited?_of_timer hwaiting, ht]
    rfl
  have hidle : ((d.take (.wait t.due)).2.start number).2.awaited? = none :=
    awaited?_start hwaiting
  rw [work_eq (tracks_run h _), run_firing_of_due h hdue, hwork]
  cases hnext : t.task.next? with
  | none =>
      rw [Option.toList_none, List.map_nil, run, hidle]
      exact t.task.length_pos
  | some next =>
      rw [Option.toList_some, List.map_singleton, run, run, take, awaited?_submit]
      cases Debouncer.delay _ with
      | none => exact t.task.length_pos
      | some micros => exact Call.length_next_lt hnext

/-- With enough fuel an advance ends because nothing is due any more. -/
lemma idle_dueSteps {fuel : Nat} (h : d.debouncer.Tracks d.schedule) (hfuel : d.work ≤ fuel) :
    (d.run (dueSteps limit fuel d)).schedule.nextDue? limit = none := by
  induction fuel generalizing d with
  | zero =>
      rw [dueSteps, run]
      cases hdue : d.schedule.nextDue? limit with
      | none => rfl
      | some next =>
          have hlt := work_firing_lt h hdue
          omega
  | succ fuel ih =>
      rw [dueSteps]
      cases hdue : d.schedule.nextDue? limit with
      | none => exact hdue
      | some next =>
          have hlt := work_firing_lt h hdue
          dsimp only
          rw [run_append]
          exact ih (tracks_run h _) (by omega)

/-! ## The log -/

/-- What is worth knowing of a step. -/
inductive Entry (β : Type) where
  /-- A call was submitted and is due at a time, or never if the clock cannot count its delay. -/
  | submitted (call : Call β) (due : Option Int)
  | cancelled
  /-- The clock has reached a time. -/
  | reached (time : Int)

def entry? (d : CallDesk β) : Step β → Option (Entry β)
  | .submit call => some (.submitted call (d.debouncer.delay.map (d.schedule.now + ·)))
  | .cancel => some .cancelled
  | .wait time => some (.reached time)
  | .fire _ | .setDelay _ => none

/-- What is worth knowing of a run. -/
def log (d : CallDesk β) : List (Step β) → List (Entry β)
  | [] => []
  | step :: rest => (d.entry? step).toList ++ (d.take step).2.log rest

/-- Whether a time is reached before anything is submitted or cancelled. -/
def reaches (due : Int) : List (Entry β) → Bool
  | .reached time :: rest => due ≤ time || reaches due rest
  | _ => false

/-- The value of the call that is submitted first thing, if the clock reaches its due time before
anything else is submitted or cancelled. -/
def ripe? : List (Entry β) → Option β
  | .submitted call (some due) :: rest => if reaches due rest then some call.value else none
  | _ => none

/-- The values of the ripe submissions, in their order. -/
def ripe (entries : List (Entry β)) : List β :=
  entries.tails.filterMap ripe?

/-- When the last submission is due, unless it was cancelled, after an entry. -/
def Entry.lastDue? (last : Option (Option Int)) : Entry β → Option (Option Int)
  | .submitted _ due => some due
  | .cancelled => none
  | .reached _ => last

/-- When the last submission is due, unless it was cancelled. -/
def lastDue? (entries : List (Entry β)) : Option (Option Int) :=
  entries.foldl Entry.lastDue? none

lemma log_append (d : CallDesk β) (before after : List (Step β)) :
    d.log (before ++ after) = d.log before ++ (d.run before).log after := by
  induction before generalizing d with
  | nil => rfl
  | cons step before ih => rw [List.cons_append, log, ih, log, run, List.append_assoc]

lemma ripe_cons (e : Entry β) (rest : List (Entry β)) :
    ripe (e :: rest) = (ripe? (e :: rest)).toList ++ ripe rest := by
  rw [ripe, List.tails_cons, List.filterMap_cons]
  cases ripe? (e :: rest) <;> rfl

lemma ripe_submitted (call : Call β) (due : Option Int) (rest : List (Entry β)) :
    ripe (.submitted call due :: rest)
      = (due.elim [] fun due => if reaches due rest then [call.value] else []) ++ ripe rest := by
  rw [ripe_cons]
  cases due with
  | none => rfl
  | some due => cases hreaches : reaches due rest <;> simp [ripe?, hreaches]

lemma ripe_cancelled (rest : List (Entry β)) : ripe (.cancelled :: rest) = ripe rest := by
  rw [ripe_cons]
  rfl

lemma ripe_reached (time : Int) (rest : List (Entry β)) :
    ripe (.reached time :: rest) = ripe rest := by
  rw [ripe_cons]
  rfl

/-! ## The account -/

/-- What the timer that is waited for still leads to, if the log goes on like this. -/
def owed (d : CallDesk β) (rest : List (Entry β)) : List β :=
  d.awaited?.elim [] fun t => if reaches t.due rest then [t.task.value] else []

/-- All that is made in the end, if the log goes on like this. -/
def account (d : CallDesk β) (rest : List (Entry β)) : List β :=
  d.made ++ d.owed rest ++ ripe rest

/-- Whether steps leave the account as it is: what they take from the log is made, or owed. -/
def Balanced (d : CallDesk β) (steps : List (Step β)) : Prop :=
  ∀ rest, (d.run steps).account rest = d.account (d.log steps ++ rest)

lemma Balanced.append {before after : List (Step β)} (hbefore : d.Balanced before)
    (hafter : (d.run before).Balanced after) : d.Balanced (before ++ after) := by
  intro rest
  rw [run_append, hafter, hbefore, log_append, List.append_assoc]

lemma balanced_nil (d : CallDesk β) : d.Balanced [] :=
  fun _ => rfl

lemma balanced_submit (d : CallDesk β) (call : Call β) : d.Balanced [.submit call] := by
  intro rest
  have howed : d.owed (d.log [.submit call] ++ rest) = [] := by
    rw [owed]
    cases d.awaited? <;> rfl
  have hmade : (d.run [.submit call]).made = d.made := rfl
  have hsubmitted : (d.run [.submit call]).owed rest
      = (d.debouncer.delay.map (d.schedule.now + ·)).elim []
          fun due => if reaches due rest then [call.value] else [] := by
    rw [owed, show d.run [.submit call] = (d.submit call).2 from rfl, awaited?_submit]
    cases d.debouncer.delay <;> rfl
  rw [account, account, howed, hmade, hsubmitted, List.append_nil, List.append_assoc,
    ← ripe_submitted]
  rfl

lemma balanced_cancel (d : CallDesk β) : d.Balanced [.cancel] := by
  intro rest
  have hbefore : d.owed (d.log [.cancel] ++ rest) = [] := by
    rw [owed]
    cases d.awaited? <;> rfl
  have hafter : (d.run [.cancel]).owed rest = [] := by
    rw [owed, show d.run [.cancel] = d.cancel from rfl, awaited?_cancel]
    rfl
  rw [account, account, hbefore, hafter, List.append_nil, List.append_nil]
  exact congrArg _ (ripe_cancelled rest).symm

lemma balanced_setDelay (d : CallDesk β) (delay : Delay) : d.Balanced [.setDelay delay] :=
  fun _ => rfl

/-- The clock may move as long as it does not pass by a timer that is due. -/
lemma balanced_wait (h : d.debouncer.Tracks d.schedule)
    (hidle : d.schedule.nextDue? limit = none) : d.Balanced [.wait limit] := by
  intro rest
  have howed : d.owed (.reached limit :: rest) = d.owed rest := by
    rw [owed, owed]
    cases hawaited : d.awaited? with
    | none => rfl
    | some t =>
        cases hwaiting : d.debouncer.waiting with
        | timer number =>
            rw [awaited?_of_timer hwaiting] at hawaited
            have hlt := h.lt_due hidle hwaiting hawaited
            have hnot : ¬ t.due ≤ limit := by omega
            simp [reaches, hnot]
        | nothing | unstarted => exact absurd hawaited (by simp [awaited?, hwaiting])
  show d.made ++ d.owed rest ++ ripe rest
    = d.made ++ d.owed (.reached limit :: rest) ++ ripe (.reached limit :: rest)
  rw [howed, ripe_reached]

/-- What a timer that comes due was owed is made. -/
lemma balanced_firing (h : d.debouncer.Tracks d.schedule)
    (hdue : d.schedule.nextDue? limit = some (number, t)) :
    d.Balanced (d.firing number t.due) := by
  have hstart := start_of_due h hdue
  obtain ⟨hwaiting, ht, -⟩ := h.nextDue?_eq_some hdue
  have hfired : d.Balanced [.wait t.due, .fire number] := by
    intro rest
    have hbefore : d.owed (.reached t.due :: rest) = [t.task.value] := by
      rw [owed, awaited?_of_timer hwaiting, ht]
      simp [reaches]
    have hafter : (d.run [.wait t.due, .fire number]).owed rest = [] := by
      have hidle : (d.run [.wait t.due, .fire number]).awaited? = none := awaited?_start hwaiting
      rw [owed, hidle]
      rfl
    have hmade : (d.run [.wait t.due, .fire number]).made = d.made ++ [t.task.value] := by
      have hmade := made_start (d.take (.wait t.due)).2 number
      rw [hstart] at hmade
      exact hmade
    show _ = d.made ++ d.owed (.reached t.due :: rest) ++ ripe (.reached t.due :: rest)
    rw [account, hbefore, hafter, hmade, ripe_reached, List.append_nil]
  have hnext : ∀ left : CallDesk β, left.Balanced (t.task.next?.toList.map .submit) := by
    intro left
    cases t.task.next? with
    | none => exact balanced_nil left
    | some next => exact balanced_submit left next
  rw [firing, hstart]
  exact hfired.append (hnext _)

lemma balanced_dueSteps {fuel : Nat} (h : d.debouncer.Tracks d.schedule) :
    d.Balanced (dueSteps limit fuel d) := by
  induction fuel generalizing d with
  | zero => exact balanced_nil d
  | succ fuel ih =>
      rw [dueSteps]
      cases hdue : d.schedule.nextDue? limit with
      | none => exact balanced_nil d
      | some next => exact (balanced_firing h hdue).append (ih (tracks_run h _))

lemma balanced_stepsOf (h : d.debouncer.Tracks d.schedule) (m : Move β) :
    d.Balanced (d.stepsOf m) := by
  cases m with
  | submit call => exact balanced_submit d call
  | cancel => exact balanced_cancel d
  | setDelay delay => exact balanced_setDelay d delay
  | advance micros =>
      exact (balanced_dueSteps h).append
        (balanced_wait (tracks_run h _) (idle_dueSteps h (Nat.le_refl _)))

lemma balanced_unroll (h : d.debouncer.Tracks d.schedule) (moves : List (Move β)) :
    d.Balanced (d.unroll moves) := by
  induction moves generalizing d with
  | nil => exact balanced_nil d
  | cons m rest ih =>
      rw [unroll]
      refine (balanced_stepsOf h m).append ?_
      rw [move_eq_run]
      exact ih (tracks_run h _)

/-! ## Submissions that are never due -/

lemma unstarted_take {last : Option (Option Int)}
    (h : d.debouncer.waiting = .unstarted ↔ last = some none) (step : Step β) :
    (d.take step).2.debouncer.waiting = .unstarted ↔
      (d.entry? step).toList.foldl Entry.lastDue? last = some none := by
  cases step with
  | submit call =>
      show _ ↔ some (d.debouncer.delay.map (d.schedule.now + ·)) = some none
      rw [take, submit, Debouncer.submit]
      simp only [Debouncer.cancel_fst]
      cases d.debouncer.delay <;> simp
  | cancel =>
      show _ ↔ none = some none
      simp [take, cancel, Debouncer.cancel_fst]
  | setDelay delay => exact h
  | wait time => exact h
  | fire number =>
      refine Iff.trans ?_ h
      rw [take, start]
      cases d.schedule.timer? number with
      | none => exact Iff.rfl
      | some t => by_cases hwaiting : d.debouncer.waiting = .timer number <;>
          simp [Debouncer.take, hwaiting]

lemma unstarted_run {last : Option (Option Int)}
    (h : d.debouncer.waiting = .unstarted ↔ last = some none) (steps : List (Step β)) :
    (d.run steps).debouncer.waiting = .unstarted ↔
      (d.log steps).foldl Entry.lastDue? last = some none := by
  induction steps generalizing d last with
  | nil => exact h
  | cons step rest ih =>
      rw [run, log, List.foldl_append]
      exact ih (unstarted_take h step)

/-- **The calls that are made.**  A debouncer is set up, and then calls are submitted and cancelled,
the delay is changed and the clock is moved, in any order.  All of it is a run of steps, and what is
made in it are the ripe submissions, in their order: those whose due time the clock reaches before
anything else is submitted or cancelled.  A call that submits another one as it is made, or that
fails, is no exception.  At no time is more than one timer armed; and if something is pending then
one is, unless the clock cannot count the delay of the last submission. -/
theorem made_eq_ripe (delay : Delay) (now : Int) (moves : List (Move β)) :
    let d₀ : CallDesk β := { debouncer := ⟨delay, .nothing⟩, schedule := { now } }
    let d := d₀.play moves
    let log := d₀.log (d₀.unroll moves)
    d = d₀.run (d₀.unroll moves)
      ∧ d.made = ripe log
      ∧ d.schedule.armedCount ≤ 1
      ∧ (d.debouncer.isPending = true ↔ d.schedule.armedCount = 1 ∨ lastDue? log = some none) := by
  intro d₀ d log
  have htracks : d₀.debouncer.Tracks d₀.schedule := Debouncer.tracks_of_nothing rfl rfl
  have hrun : d = d₀.run (d₀.unroll moves) := play_eq_run d₀ moves
  have hleft : d.debouncer.Tracks d.schedule := hrun ▸ tracks_run htracks _
  refine ⟨hrun, ?_, hleft.armedCount_le, ?_⟩
  · -- When the log has come to its end, nothing is owed or ripe any more.
    have haccount := balanced_unroll htracks moves []
    have howed : d.owed [] = [] := by
      rw [owed]
      cases d.awaited? <;> rfl
    rw [← hrun, List.append_nil, account, howed, List.append_nil] at haccount
    exact (List.append_nil d.made).symm.trans haccount
  · have hunstarted : d₀.debouncer.waiting = .unstarted ↔ none = some (none : Option Int) := by
      simp [d₀]
    rw [hleft.isPending_iff, hrun, unstarted_run hunstarted]
    rfl

/-- The first submission is superseded; the second one is made after 50, and submits the third, which is
made after 100. -/
example : (play ({ debouncer := ⟨some 50, .nothing⟩ } : CallDesk Nat)
    [.submit (.plain 1), .submit (.chained 2 (.plain 3)), .advance 120]).made = [2, 3] := by
  decide

end CallDesk

end NoteCheck
