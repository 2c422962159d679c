import NoteCheck.Checker.Activation

/-!
# Sessions

A `Session` is a disk and a desk. When its checker is replaced, the timers that the old one has
started stay armed; the old one is retired, and still runs its checks when they come due.
-/

namespace NoteCheck

/-- A disk, the desk of the checker in use, and the checkers that were in use before it. -/
structure Session where
  disk : Disk
  desk : Desk
  retired : List Checker := []

namespace Session

/-- Does something at the desk. -/
def act {α : Type} (f : Disk → Act α) (s : Session) : Except Fault α × Session :=
  let (outcome, desk) := (f s.disk).runAt s.desk
  (outcome, { s with desk })

/-- Does something to the files; nothing happens if it fails. -/
def edit (f : Tree → Except AccessFault Tree) (s : Session) : Except Fault Unit × Session :=
  match f s.disk.tree with
  | .ok tree => (.ok (), { s with disk := { s.disk with tree } })
  | .error cause => (.error (.access cause), s)

/-- Sets up a checker in place of the one in use. -/
def replaceChecker (vault : String) (delay : Delay) (s : Session) :
    Except Fault SchemaEntries × Session :=
  let number := s.retired.length + 1
  let (outcome, desk) := Desk.open? s.disk number vault delay s.desk.schedule
  match outcome with
  | .ok entries =>
      let journal := s.desk.journal ++ desk.journal
      (.ok entries,
        { s with desk := { desk with journal }, retired := s.retired ++ [s.desk.checker] })
  | .error cause => (.error cause, s)

/-- Lets a timer run at the desk of the checker that started it. -/
def fire (number : Nat) (s : Session) : Except Fault Unit × Session :=
  match s.desk.schedule.timer? number with
  | none => (.ok (), s)
  | some t =>
      match s.retired[t.task.checker]? with
      | none => s.act fun d => Act.fire d number t.task.path
      | some old =>
          let (outcome, desk) := (Act.fire s.disk number t.task.path).runAt
            { s.desk with checker := old }
          (outcome,
            { s with
              desk := { desk with checker := s.desk.checker }
              retired := s.retired.set t.task.checker desk.checker })

/-- Moves the clock on, running the timers that come due. No check starts a timer, so there are no
more runs than armed timers. -/
def advance (micros : Int) (s : Session) : List (Nat × Except Fault Unit) × Session :=
  let moveTo (time : Int) (s : Session) : Session :=
    { s with desk := { s.desk with schedule := s.desk.schedule.moveTo time } }
  let limit := s.desk.schedule.now + micros
  let next? (s : Session) := (s.desk.schedule.nextDue? limit).map (·.1)
  let run (number : Nat) (s : Session) :=
    let due := ((s.desk.schedule.timer? number).map (·.due)).getD limit
    fire number (moveTo due s)
  let (outcomes, s) := runDue next? run s.desk.schedule.armedCount s
  (outcomes, moveTo limit s)

end Session

end NoteCheck
