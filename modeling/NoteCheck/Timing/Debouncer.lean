import NoteCheck.Fault
import NoteCheck.Number.Binary64
import NoteCheck.Timing.Schedule

/-!
# Waiting for quiet

A `Debouncer` runs what was submitted last, once no other submission has come for a while. Each
submission cancels the timer that is waited for and starts a new one. A timer may already be running
when it is cancelled; then `take` tells that it is not the one waited for, and it does nothing.
-/

namespace NoteCheck

/-- How long to wait, in microseconds; `none` is longer than the clock can count. -/
abbrev Delay := Option Int

/-- The delay of `num / den` milliseconds: the quotient by a thousand in seconds, rounded to a
double and then to microseconds. A number beyond the doubles is no delay at all. -/
def Delay.ofRatio (num : Int) (den : Nat) : Except Fault Delay :=
  match Binary64.ofIntQuotient? num (den * 1000), Binary64.ofInt? 1000000 with
  | some seconds, some million => .ok (seconds * million).round?
  | _, _ => .error .beyondClock

/-- The delay of so many milliseconds. -/
def Delay.ofMillis (millis : Int) : Except Fault Delay :=
  ofRatio millis 1

/-- What a debouncer waits for. -/
inductive Waiting where
  | nothing
  /-- The timer of a number. -/
  | timer (number : Nat)
  /-- A timer whose delay was too long to start it. -/
  | unstarted
deriving DecidableEq, Repr

/-- A delay and what is waited for. -/
structure Debouncer where
  delay : Delay
  waiting : Waiting := .nothing
deriving Repr

namespace Debouncer

variable {τ : Type}

/-- Whether a submission waits. -/
def isPending (d : Debouncer) : Bool :=
  d.waiting ≠ .nothing

/-- Gives up what is waited for. -/
def cancel (d : Debouncer) (s : Schedule τ) : Debouncer × Schedule τ :=
  match d.waiting with
  | .timer number => ({ d with waiting := .nothing }, s.cancel number)
  | _ => ({ d with waiting := .nothing }, s)

/-- Submits a task in place of what is waited for. -/
def submit (task : τ) (d : Debouncer) (s : Schedule τ) :
    Except Fault Unit × Debouncer × Schedule τ :=
  let (d, s) := d.cancel s
  match d.delay with
  | some micros =>
      (.ok (), { d with waiting := .timer s.timers.length }, s.start micros task)
  | none => (.error .beyondClock, { d with waiting := .unstarted }, s)

/-- Whether a timer that runs is the one waited for; then nothing is waited for any more. -/
def take (number : Nat) (d : Debouncer) : Bool × Debouncer :=
  if d.waiting = .timer number then (true, { d with waiting := .nothing }) else (false, d)

end Debouncer

end NoteCheck
