import NoteCheck.CommandLine.Run
import NoteCheck.Disk.Edit

/-!
# The program

The program takes its options from the command line, and from standard input the paths of the files
it may look at, one to a line, as a directory listing gives them. It reads these files, runs the
command on them, and ends with the command's exit code.
-/

namespace NoteCheck

/-- Puts a file of the disk into a tree. -/
def copyFile (t : Tree) (path : String) : IO Tree := do
  let octets ← IO.FS.readBinFile path
  match t.write path octets.toList 0 with
  | .ok t => return t
  | .error _ => return t

/-- The lines of a stream until it ends, without their line feeds. -/
partial def readLines (input : IO.FS.Stream) (read : Array String) : IO (Array String) := do
  let line ← input.getLine
  if line.isEmpty then return read
  readLines input (read.push (String.ofList (Text.dropTail (· = '\n') line.toList)))

/-- Runs a command on a disk. -/
def runOn (d : Disk) (args : List String) : Except Fault CommandLine.Outcome :=
  let (opened, desk) := Desk.open? d 0 "" (some 100000) {}
  match opened with
  | .error cause => .error cause
  | .ok _ => ((CommandLine.run d args).runAt desk).1

end NoteCheck

open NoteCheck in
/-- Runs the command on the files that are named on standard input. -/
def main (args : List String) : IO UInt32 := do
  let home := (← IO.getEnv "HOME").getD ""
  let paths ← readLines (← IO.getStdin) #[]
  let tree ← paths.foldlM copyFile []
  let disk : Disk :=
    ⟨tree, home ++ "/vault", home ++ "/.config/vault-typecheck/settings.json"⟩
  match runOn disk args with
  | .error _ =>
      IO.eprintln "vault-typecheck: error: the vault cannot be checked"
      return 1
  | .ok outcome =>
      IO.print outcome.output
      if let some complaint := outcome.complaint then IO.eprintln complaint
      return (outcome.exit.getD 0).toUInt32
