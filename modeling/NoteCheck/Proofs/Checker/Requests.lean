import NoteCheck.Proofs.Checker.Acts
import NoteCheck.Session

/-!
# Runs

A checker lives among others who act: it is asked for things, its timers come to run, the files are
changed under it, time passes.  Each of these is a `Step`, and a run is any list of steps; a timer
may come to run at any moment, early or late, and more than once, and an edit may put any tree in
place of the old one.  What is true of every run is true of every order in which all this can
happen.
-/

namespace NoteCheck

namespace Checker

/-- Something that is asked of a checker. -/
inductive Request where
  | loadSchema
  | reloadSchema
  | switchVault (vault : VaultName)
  | checkNote (n : Note) (force : Bool)
  | checkNotes (notes : List Note)
  | checkFile (path : String) (force : Bool)
  | checkAll
  | clearCache
  /-- Forgets all notes but these, or all notes that the vault does not hold. -/
  | prune (paths : Option (List String))
  | evict (path : String)
  | activate (path : Option String) (auto : Bool)
  | current
  | setDelay (delay : Delay)
  | shutdown

/-- What a checker replies. -/
inductive Reply where
  | done
  | schema (entries : SchemaEntries)
  | violations (found : List Violation)
  /-- The violations of the note at a path, if it could be read. -/
  | ofPath (found : Option (List Violation))
  | findings (findings : List Act.Finding)
  | count (n : Nat)
  | held (yes : Bool)
  | shown (path : Option String) (found : Option (List Violation))

/-- The act that a request asks for. -/
def Request.act (d : Disk) : Request → Act Reply
  | loadSchema => return .schema (← Act.loadSchema d)
  | reloadSchema => return .schema (← Act.reloadSchema d)
  | switchVault vault => do
      Act.switchVault d vault
      return .done
  | checkNote n force => return .violations (← Act.checkNote n force)
  | checkNotes notes => return .findings (← Act.checkNotes notes)
  | checkFile path force => return .ofPath (← Act.checkFile d path force)
  | checkAll => return .findings (← Act.checkAll d)
  | clearCache => do
      Act.clearCache
      return .done
  | prune (some paths) => return .count (← Act.pruneTo paths)
  | prune none => return .count (← Act.prune d)
  | evict path => return .held (← Act.evict path)
  | activate path auto => do
      Act.activate path auto
      return .done
  | current => do
      let (path, found) ← Act.current
      return .shown path found
  | setDelay delay => do
      Act.setDelay delay
      return .done
  | shutdown => do
      Act.shutdown
      return .done

/-- Whether a request is about nothing but what is found in notes. -/
def Request.isSearch : Request → Bool
  | checkNote _ _ | checkNotes _ | checkFile _ _ | checkAll | clearCache | prune _ | evict _ => true
  | _ => false

open Act
open Desk (Alike)

/-- Such a request changes nothing but what is remembered. -/
lemma alike_request (d : Disk) {r : Request} (h : r.isSearch = true) (desk : Desk) :
    Alike desk ((r.act d).runAt desk).2 := by
  cases r with
  | checkNote n force =>
      simp only [Request.act, runAt_bind_pure]
      exact alike_checkNote n force desk
  | checkNotes notes =>
      simp only [Request.act, runAt_bind_pure]
      exact alike_checkNotes notes desk
  | checkFile path force =>
      simp only [Request.act, runAt_bind_pure]
      exact alike_checkFile d path force desk
  | checkAll =>
      simp only [Request.act, runAt_bind_pure]
      exact alike_checkAll d desk
  | clearCache => exact ((Alike.refl desk).withCache _).noting _
  | prune paths =>
      cases paths with
      | some paths =>
          simp only [Request.act, runAt_bind_pure]
          exact alike_pruneTo paths desk
      | none =>
          simp only [Request.act, runAt_bind_pure]
          exact alike_prune d desk
  | evict path => exact (Alike.refl desk).withCache _
  | _ => exact absurd h (by simp [Request.isSearch])

end Checker

/-- A checker that has just been set up has the schema of its vault, and nothing has happened to it
yet. -/
lemma Desk.checker_open {d : Disk} {number : Nat} {vault : String} {delay : Delay}
    {schedule : Schedule Activation} {entries : SchemaEntries} {desk : Desk}
    (hopen : Desk.open? d number vault delay schedule = (.ok entries, desk)) :
    desk.checker =
      { number, vault := .directory (d.vaultDir vault), schema := entries,
        debouncer := ⟨delay, .nothing⟩ } := by
  rw [Desk.open?, Act.runAt_loadSchema] at hopen
  split at hopen
  · exact absurd hopen (by simp)
  · obtain ⟨hentries, rfl⟩ := Prod.mk.inj hopen
    rw [← Except.ok.inj hentries]
    rfl

namespace Session

/-- Something that happens in a session. -/
inductive Step where
  /-- The checker is asked for something. -/
  | request (r : Checker.Request)
  /-- A timer runs. -/
  | fire (number : Nat)
  /-- The files become these. -/
  | edit (tree : Tree)
  /-- The clock moves to a time. -/
  | wait (time : Int)

/-- Lets a step happen. -/
def take (s : Session) : Step → Except Fault Checker.Reply × Session
  | .request r => s.act fun d => r.act d
  | .fire number =>
      let (outcome, s) := s.fire number
      (outcome.map fun _ => .done, s)
  | .edit tree =>
      let (outcome, s) := s.edit fun _ => .ok tree
      (outcome.map fun _ => .done, s)
  | .wait time =>
      (.ok .done, { s with desk := { s.desk with schedule := s.desk.schedule.moveTo time } })

lemma take_request (s : Session) (r : Checker.Request) :
    s.take (.request r)
      = (((r.act s.disk).runAt s.desk).1, { s with desk := ((r.act s.disk).runAt s.desk).2 }) := rfl

lemma take_current (s : Session) :
    (s.take (.request .current)).1
      = .ok (.shown s.desk.checker.shown s.desk.checker.shownResult) := rfl

/-- Lets steps happen in turn. -/
def run (s : Session) : List Step → Session
  | [] => s
  | step :: rest => (s.take step).2.run rest

lemma run_singleton (s : Session) (step : Step) : s.run [step] = (s.take step).2 := rfl

lemma run_append (s : Session) (before after : List Step) :
    s.run (before ++ after) = (s.run before).run after := by
  induction before generalizing s with
  | nil => rfl
  | cons step before ih => exact ih _

end Session

end NoteCheck
