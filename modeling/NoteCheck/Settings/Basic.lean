import NoteCheck.Disk.Edit
import NoteCheck.Json.File
import NoteCheck.Json.Write
import NoteCheck.Vault.Basic

/-!
# Settings

Three settings are kept in a data file that other programs use too. Reading takes a default for each
setting that is not there or has the wrong type. Saving changes only the settings it is given, and
leaves every other member of the file as it is.
-/

namespace NoteCheck

/-- The settings. -/
structure Settings where
  /-- Whether the note that is shown is checked on its own. -/
  autoCheck : Bool := true
  /-- Whether warnings are shown in the note. -/
  inlineWarnings : Bool := true
  /-- The wait before a check in milliseconds. -/
  debounceMillis : Int := 100
deriving DecidableEq, Repr

namespace Settings

/-- The keys of the settings, in order. -/
def keys : List String := ["enable_auto_check", "show_inline_warnings", "debounce_ms"]

/-- The settings as a map. -/
def toEntries (s : Settings) : List (Value × Value) :=
  [(.text "enable_auto_check", .bool s.autoCheck),
   (.text "show_inline_warnings", .bool s.inlineWarnings),
   (.text "debounce_ms", .int s.debounceMillis)]

/-- A truth value among entries, if it is there and is one. -/
def boolAt (entries : List (Value × Value)) (key : String) (default : Bool) : Bool :=
  match Value.lookup (.text key) entries with
  | some (.bool b) => b
  | _ => default

/-- An integer among entries, if it is there and is one. -/
def intAt (entries : List (Value × Value)) (key : String) (default : Int) : Int :=
  match Value.lookup (.text key) entries with
  | some (.int i) => i
  | _ => default

/-- The settings among entries, with a default for each that is not there or has the wrong type. -/
def ofEntries (entries : List (Value × Value)) : Settings where
  autoCheck := boolAt entries "enable_auto_check" true
  inlineWarnings := boolAt entries "show_inline_warnings" true
  debounceMillis := intAt entries "debounce_ms" 100

/-- Sets those of the keys of the settings in `data` that are among `given`. -/
def overlay (given data : List (Value × Value)) : List (Value × Value) :=
  keys.foldl (fun data key =>
    match Value.lookup (.text key) given with
    | some v => Value.insert (.text key) v data
    | none => data) data

end Settings

namespace Disk

/-- The members of the settings file; none if it is absent, malformed or no object. -/
def storedSettings (d : Disk) : Except Fault (List (Value × Value)) :=
  match d.tree.readData d.settingsFile with
  | .ok v => .ok (v.entries?.getD [])
  | .error .absent => .ok []
  | .error .malformed => .ok []
  | .error (.other cause) => .error cause

/-- The settings. -/
def settings (d : Disk) : Except Fault Settings :=
  d.storedSettings.map Settings.ofEntries

/-- Saves the settings among `given`. What cannot be written leaves the file cut off before it. -/
def saveSettings (given : List (Value × Value)) (d : Disk) : Except Fault Unit × Disk :=
  match d.storedSettings with
  | .error cause => (.error cause, d)
  | .ok stored =>
      let written := Json.write 0 (.map (Settings.overlay given stored))
      let octets := Text.Utf8.encode (String.ofList written.text)
      match d.tree.write d.settingsFile octets 0 with
      | .error cause => (.error (.access cause), d)
      | .ok tree =>
          let outcome := match written.fault with
            | some cause => .error cause
            | none => .ok ()
          (outcome, { d with tree })

end Disk

end NoteCheck
