import NoteCheck.Timing.Debouncer

/-!
# Debounced calls

A `Call` carries a value, may submit another call when it is made, and may fail. A `CallDesk` is a
debouncer of calls with its clock, and the values of the calls made so far.
-/

namespace NoteCheck

/-- A call with a value. -/
inductive Call (β : Type) where
  /-- A call that submits nothing. -/
  | plain (value : β)
  /-- A call that submits the next one. -/
  | chained (value : β) (next : Call β)
  /-- A call that does what another one does, and then fails. -/
  | failing (call : Call β) (cause : Fault)
deriving Repr

namespace Call

variable {β : Type}

/-- The value of a call. -/
def value : Call β → β
  | plain v => v
  | chained v _ => v
  | failing call _ => call.value

/-- What a call submits. -/
def next? : Call β → Option (Call β)
  | plain _ => none
  | chained _ next => some next
  | failing call _ => call.next?

/-- How a call ends, if what it submits can be submitted. -/
def outcome : Call β → Except Fault Unit
  | plain _ | chained _ _ => .ok ()
  | failing _ cause => .error cause

/-- The number of calls that a call leads to, itself included. -/
def length : Call β → Nat
  | plain _ => 1
  | chained _ next => next.length + 1
  | failing call _ => call.length

end Call

/-- A debouncer of calls, its clock, and the values of the calls made, the first one first. -/
structure CallDesk (β : Type) where
  debouncer : Debouncer
  schedule : Schedule (Call β) := {}
  made : List β := []

namespace CallDesk

variable {β : Type}

/-- Submits a call. -/
def submit (call : Call β) (d : CallDesk β) : Except Fault Unit × CallDesk β :=
  let (outcome, debouncer, schedule) := d.debouncer.submit call d.schedule
  (outcome, { d with debouncer, schedule })

/-- Gives up the call that waits. -/
def cancel (d : CallDesk β) : CallDesk β :=
  let (debouncer, schedule) := d.debouncer.cancel d.schedule
  { d with debouncer, schedule }

/-- Makes a call. -/
def make (call : Call β) (d : CallDesk β) : Except Fault Unit × CallDesk β :=
  let d := { d with made := d.made ++ [call.value] }
  match call.next? with
  | some next =>
      let (submitted, d) := d.submit next
      (submitted.bind fun _ => call.outcome, d)
  | none => (call.outcome, d)

/-- Runs a timer, in whatever state it is: its call is made if it is the one waited for. -/
def fire (number : Nat) (d : CallDesk β) : Except Fault Unit × CallDesk β :=
  match d.schedule.timer? number with
  | none => (.ok (), d)
  | some t =>
      let (admitted, debouncer) := d.debouncer.take number
      let d := { d with debouncer, schedule := d.schedule.finish number }
      if admitted then d.make t.task else (.ok (), d)

/-- The number of calls that the armed timers lead to at most. -/
def work (d : CallDesk β) : Nat :=
  (d.schedule.timers.filter (·.state = .armed)).foldr (fun t n => t.task.length + n) 0

/-- Moves the clock on, running the timers that come due. -/
def advance (micros : Int) (d : CallDesk β) : List (Nat × Except Fault Unit) × CallDesk β :=
  let limit := d.schedule.now + micros
  let next? (d : CallDesk β) := (d.schedule.nextDue? limit).map (·.1)
  let run (number : Nat) (d : CallDesk β) :=
    let due := ((d.schedule.timer? number).map (·.due)).getD limit
    fire number { d with schedule := d.schedule.moveTo due }
  let (outcomes, d) := runDue next? run d.work d
  (outcomes, { d with schedule := d.schedule.moveTo limit })

end CallDesk

end NoteCheck
