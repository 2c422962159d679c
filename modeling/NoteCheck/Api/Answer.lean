import NoteCheck.Api.Request
import NoteCheck.Check.Declaration
import NoteCheck.Session
import NoteCheck.Settings.Basic

/-!
# Answering requests

Every route has its answer. An answer that fails halfway leaves what it has done, and the response
says only that it failed.
-/

namespace NoteCheck.Api

/-- The violations of a note. -/
def violationList (vs : List Violation) : Value :=
  .list (vs.map fun v => object [("property", v.property), ("expected", .text v.expected),
    ("actual", .text v.actual.name), ("message", .text v.message)])

/-- A path or nothing. -/
def pathValue : Option String → Value
  | some path => .text path
  | none => .null

/-- The size of the cache and how often it was of use. -/
def cacheStatus (c : Cache Violation) : Value :=
  object [("entries", count c.size), ("hits", count c.hits), ("misses", count c.misses)]

/-- The settings as an object. -/
def settingsValue (s : Settings) : Value :=
  .map s.toEntries

/-- Answers which violations a note has. -/
def checkFile (d : Disk) (path : String) (force : Bool) : Act Response := do
  match ← Act.checkFile d path force with
  | none => return .refusal 404 "File not found"
  | some found =>
      return .of 200 (object [("path", .text path), ("errors", violationList found),
        ("valid", .bool found.isEmpty)])

/-- Answers which notes have violations. -/
def checkAll (d : Disk) : Act Response := do
  let findings ← Act.checkAll d
  let summary := summarize findings
  let results := findings.map fun (n, found) =>
    object [("path", .text n.path), ("errors", violationList found)]
  return .of 200 (object [("results", .list results), ("files_with_errors", count summary.notes),
    ("total_errors", count summary.violations)])

/-- Takes note of which note is shown. A missing body shows none. -/
def activate (d : Disk) (body : Option Value) : Act Response := do
  let data := body.getD .null
  let data := if data.isEmptyLike then .map [] else data
  match data.entries? with
  | none => return .refusal 400 "body must be a JSON object"
  | some entries =>
      match (Value.lookup (.text "path") entries).getD .null with
      | .text path => accept (some path)
      | .null => accept none
      | _ => return .refusal 400 "path must be a string"
where
  /-- Shows a note as the settings ask for. -/
  accept (path : Option String) : Act Response := do
    let settings ← Act.ofResult d.settings
    Act.setDelay (← Act.ofResult (Delay.ofMillis settings.debounceMillis))
    Act.activate path settings.autoCheck
    return .of 202 (object [("ok", .bool true), ("path", pathValue path)])

/-- Answers what the last check of the note that is shown has found. -/
def current : Act Response := do
  let (path, result) ← Act.current
  let found := match result with
    | some found => violationList found
    | none => .null
  return .of 200 (object [("path", pathValue path), ("errors", found)])

/-- Answers what the schema declares. -/
def types (d : Disk) : Act Response := do
  let c ← Act.checker
  let rows := (declarations c.schema).map fun row =>
    object [("property", row.property), ("type", row.declared), ("builtin", .bool row.builtin),
      ("known", .bool row.known)]
  return .of 200 (object [("path", .text (d.typesFile c.vault.path)), ("types", .list rows)])

/-- Why a member of a body cannot be a setting, if it cannot. -/
def settingFault? (entries : List (Value × Value)) : Option String :=
  let wrongFlag (key : String) : Bool :=
    match Value.lookup (.text key) entries with
    | none | some (.bool _) => false
    | some _ => true
  let wrongDelay : Bool :=
    match Value.lookup (.text "debounce_ms") entries with
    | none => false
    | some (.int i) => i < 0 || 5000 < i
    | some _ => true
  if wrongFlag "enable_auto_check" then some "enable_auto_check must be a boolean"
  else if wrongFlag "show_inline_warnings" then some "show_inline_warnings must be a boolean"
  else if wrongDelay then some "debounce_ms must be an integer between 0 and 5000"
  else none

/-- The settings with those of a body in place of the old ones. -/
def updatedSettings (entries : List (Value × Value)) (s : Settings) : Settings where
  autoCheck := Settings.boolAt entries "enable_auto_check" s.autoCheck
  inlineWarnings := Settings.boolAt entries "show_inline_warnings" s.inlineWarnings
  debounceMillis := Settings.intAt entries "debounce_ms" s.debounceMillis

/-- Saves the settings in a body. The delay changes before they are saved. -/
def saveSettings (body : Option Value) (s : Session) : Except Fault Response × Session :=
  match (body.getD .null).entries? with
  | none => (.ok (.refusal 400 "body must be a JSON object"), s)
  | some entries =>
      match s.disk.settings with
      | .error cause => (.error cause, s)
      | .ok old =>
          match settingFault? entries with
          | some reason => (.ok (.refusal 400 reason), s)
          | none =>
              let new := updatedSettings entries old
              let setDelay : Act Unit := do
                if (Value.lookup (.text "debounce_ms") entries).isSome then
                  Act.setDelay (← Act.ofResult (Delay.ofMillis new.debounceMillis))
              let (delayed, s) := s.act fun _ => setDelay
              match delayed with
              | .error cause => (.error cause, s)
              | .ok () =>
                  let (saved, disk) := s.disk.saveSettings new.toEntries
                  let s := { s with disk }
                  match saved with
                  | .error cause => (.error cause, s)
                  | .ok () => (.ok (.of 200 (settingsValue new)), s)

/-- Answers what the settings are, and how the cache does. -/
def settings (d : Disk) : Act Response := do
  let found ← Act.ofResult d.settings
  let c ← Act.checker
  return .of 200 (.map (found.toEntries ++ [(.text "cache", cacheStatus c.cache)]))

/-- Answers a request that has found its route. -/
def answerRoute (route : Route) (t : Target) (body : Option Value) (s : Session) :
    Except Fault Response × Session :=
  let done : Value := object [("ok", .bool true)]
  match route with
  | .checkFile path =>
      s.act fun d => checkFile d (String.ofList path) (isYes ((t.parameter? "force").getD []))
  | .checkAll => s.act checkAll
  | .activate => s.act fun d => activate d body
  | .current => s.act fun _ => current
  | .clearCache => s.act fun _ => do
      Act.clearCache
      return .of 200 done
  | .pruneCache => s.act fun d => do
      let removed ← Act.prune d
      return .of 200 (object [("ok", .bool true), ("removed", count removed)])
  | .cacheStatus => s.act fun _ => do
      return .of 200 (cacheStatus (← Act.checker).cache)
  | .types => s.act types
  | .reloadTypes => s.act fun d => do
      let entries ← Act.reloadSchema d
      return .of 200 (object [("ok", .bool true), ("count", count entries.length)])
  | .settings => s.act settings
  | .saveSettings => saveSettings body s
  | .resource => (.ok ⟨404, none⟩, s)

/-- Answers a request with a method for what a URL asks for. -/
def answerTarget (method : Method) (target : Target) (body : Option Value) (s : Session) :
    Response × Session :=
  match Route.find method target.path with
  | .nowhere => (⟨404, none⟩, s)
  | .notAllowed => (⟨405, none⟩, s)
  | .elsewhere => (⟨308, none⟩, s)
  | .found route =>
      if method = .options then (⟨200, none⟩, s)
      else
        match answerRoute route target body s with
        | (.ok response, s) =>
            (if method = .head then { response with body := none } else response, s)
        | (.error _, s) => (⟨500, none⟩, s)

/-- Answers a request. A URL that names no host cannot be sent, and one that names a host under
which no service can answer is a bad request. -/
def answer (r : Request) (s : Session) : Except HostFault Response × Session :=
  match Target.ofUrl r.url with
  | .error cause => (.error cause, s)
  | .ok target =>
      if target.host.isServed then
        let (response, s) := answerTarget (Method.ofName r.method) target r.json? s
        (.ok response, s)
      else (.ok ⟨400, none⟩, s)

end NoteCheck.Api
