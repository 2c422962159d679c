import NoteCheck.CommandLine.Options
import NoteCheck.Session
import NoteCheck.Text.Line

/-!
# Running a command

The command turns to the vault it is given. Then it either checks the vault once and reports what it
found, or announces that it serves the vault. Its exit code says whether there were violations.
-/

namespace NoteCheck.CommandLine

open NoteCheck.Text

/-- The lines of a report. -/
def lines (texts : List String) : String :=
  String.join (texts.map (· ++ "\n"))

/-- The line that reports a violation. -/
def violationLine (n : Note) (v : Violation) : String :=
  n.path ++ ": " ++ v.property.text?.getD "" ++ ": " ++ v.message

/-- The exit code and the text of the report on what was found. -/
def report (findings : List Act.Finding) : Nat × String :=
  let summary := summarize findings
  let listed := findings.flatMap fun (n, found) => found.map (violationLine n)
  if summary.violations = 0 then (0, lines (listed ++ ["No frontmatter type errors found"]))
  else
    let total := "Found " ++ String.ofList (natText summary.violations) ++ " errors in " ++
      String.ofList (natText summary.notes) ++ " files"
    (1, lines (listed ++ [total]))

/-- Checks the vault and reports what was found. -/
def runCheck (d : Disk) : Act (Nat × String) := do
  return report (← Act.checkAll d)

/-- What a command has done. -/
structure Outcome where
  /-- The exit code, unless the command goes on to serve. -/
  exit : Option Nat := none
  output : String := ""
  complaint : Option String := none
  /-- The port that the command goes on to serve. -/
  served : Option Port := none
  verbose : Bool := false
deriving DecidableEq, Repr

/-- The last line of what a command complains about, a line end standing behind the complaint. -/
def Outcome.lastLine? (o : Outcome) : Option String :=
  o.complaint.bind fun complaint =>
    (splitLines ((complaint ++ "\n").toList)).getLast?.map String.ofList

/-- The announcement that a vault is served. -/
def announcement (c : Checker) (port : Port) : String :=
  lines ["", "  Vault Typecheck v0.1.0", "  Port: " ++ port.text, "  Vault: " ++ c.vault.text,
    "  Property types: " ++ String.ofList (natText c.schema.length), ""]

/-- Does what the options ask for. -/
def perform (d : Disk) (o : Options) : Act Outcome := do
  let vault := o.vault.getD (.directory d.defaultVault)
  if vault ≠ (← Act.checker).vault then Act.switchVault d vault
  if o.check then
    let (code, text) ← runCheck d
    return { exit := some code, output := text, verbose := o.verbose }
  else
    return { output := announcement (← Act.checker) o.port, served := some o.port,
             verbose := o.verbose }

/-- Runs a command. -/
def run (d : Disk) (args : List String) : Act Outcome :=
  match read args with
  | .help => return { exit := some 0 }
  | .refused complaint =>
      return { exit := some 2, complaint := some ("vault-typecheck: error: " ++ complaint) }
  | .run o => perform d o

end NoteCheck.CommandLine
