/-!
# Timers on a clock that is moved by hand

A `Schedule` is a clock in microseconds and every timer that was ever started on it. A timer keeps
its number, and its state tells what became of it: only an armed timer can be cancelled, and only an
armed one comes due. Of the timers due by some time the one with the least due time comes first, and
of two with the same due time the one started first.
-/

namespace NoteCheck

/-- What became of a timer. -/
inductive TimerState where
  | armed
  | cancelled
  | done
deriving DecidableEq, Repr

/-- A timer and what it is to run. -/
structure Timer (τ : Type) where
  due : Int
  state : TimerState
  task : τ

/-- A clock and the timers started on it, in the order of their start. -/
structure Schedule (τ : Type) where
  now : Int := 0
  timers : List (Timer τ) := []

namespace Schedule

variable {τ : Type}

/-- The timer of a number. -/
def timer? (s : Schedule τ) (number : Nat) : Option (Timer τ) :=
  s.timers[number]?

/-- Starts a timer; its number is the number of timers started before. -/
def start (delay : Int) (task : τ) (s : Schedule τ) : Schedule τ :=
  { s with timers := s.timers ++ [⟨s.now + delay, .armed, task⟩] }

/-- Cancels a timer if it is armed. -/
def cancel (number : Nat) (s : Schedule τ) : Schedule τ :=
  { s with timers := s.timers.modify number fun t =>
      if t.state = .armed then { t with state := .cancelled } else t }

/-- Notes that a timer has run. -/
def finish (number : Nat) (s : Schedule τ) : Schedule τ :=
  { s with timers := s.timers.modify number fun t => { t with state := .done } }

/-- Moves the clock to a time unless it is past it. -/
def moveTo (time : Int) (s : Schedule τ) : Schedule τ :=
  { s with now := max s.now time }

/-- Of the armed timers due by `limit` the first one, with its number; the first timer of the list
has the number `number`. -/
def earliest? (limit : Int) : (number : Nat) → List (Timer τ) → Option (Nat × Timer τ)
  | _, [] => none
  | number, t :: rest =>
      let later := earliest? limit (number + 1) rest
      if t.state = .armed && t.due ≤ limit && later.all (fun (_, u) => t.due ≤ u.due) then
        some (number, t)
      else later

/-- Of the armed timers due by `limit` the first one, with its number. -/
def nextDue? (limit : Int) (s : Schedule τ) : Option (Nat × Timer τ) :=
  earliest? limit 0 s.timers

/-- The number of armed timers. -/
def armedCount (s : Schedule τ) : Nat :=
  s.timers.countP fun t => t.state = .armed

end Schedule

/-- Runs what is due until nothing is, or `fuel` runs have been made. `next?` tells the number of
the timer to run and `run` runs it. -/
def runDue {σ ρ : Type} (next? : σ → Option Nat) (run : Nat → σ → ρ × σ) :
    (fuel : Nat) → σ → List (Nat × ρ) × σ
  | 0, s => ([], s)
  | fuel + 1, s =>
      match next? s with
      | none => ([], s)
      | some number =>
          let (outcome, s) := run number s
          let (outcomes, s) := runDue next? run fuel s
          ((number, outcome) :: outcomes, s)

end NoteCheck
