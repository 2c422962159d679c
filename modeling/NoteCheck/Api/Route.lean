import NoteCheck.Text.Split

/-!
# Routes

A `Route` is something that can be asked for. Each has a path and a method; a route that is read
also answers requests for its head, and every route tells its methods when asked for its options.

A path that fits no route is tried once more with each run of slashes made one. If that fits, the
request is sent there instead.
-/

namespace NoteCheck.Api

/-- What a request wants to do. -/
inductive Method where
  | get
  | head
  | post
  | options
  | other
deriving DecidableEq, Repr

/-- The method of a name. -/
def Method.ofName (name : String) : Method :=
  match name.toUpper with
  | "GET" => get
  | "HEAD" => head
  | "POST" => post
  | "OPTIONS" => options
  | _ => other

/-- What can be asked for. -/
inductive Route where
  /-- The violations of a note. -/
  | checkFile (path : List Char)
  /-- The violations of all notes. -/
  | checkAll
  /-- Which note is shown. -/
  | activate
  /-- The violations of the note that is shown. -/
  | current
  | clearCache
  | pruneCache
  | cacheStatus
  /-- What the schema declares. -/
  | types
  | reloadTypes
  | settings
  | saveSettings
  /-- A file that comes with the service; there are none. -/
  | resource
deriving DecidableEq, Repr

namespace Route

/-- Whether a route is written to, and not read. -/
def isWritten : Route → Bool
  | activate | clearCache | pruneCache | reloadTypes | saveSettings => true
  | _ => false

/-- Whether a route answers a method. -/
def answers (r : Route) : Method → Bool
  | .options => true
  | .get | .head => !r.isWritten
  | .post => r.isWritten
  | .other => false

/-- The routes with a path of their own. -/
def fixed : List (String × Route) :=
  [("/api/check/all", checkAll), ("/api/check/active", activate), ("/api/check/current", current),
   ("/api/check/cache/clear", clearCache), ("/api/check/cache/prune", pruneCache),
   ("/api/check/cache", cacheStatus), ("/api/types", types), ("/api/types/reload", reloadTypes),
   ("/api/settings", settings), ("/api/settings", saveSettings)]

/-- What follows `start` in a path, if it can be the path of a file: it is not empty, does not start
with a slash, and has a line feed at most at its start. -/
def fileBelow? (start : String) (path : List Char) : Option (List Char) :=
  if start.toList.isPrefixOf path then
    match path.drop start.toList.length with
    | c :: rest => if c ≠ '/' && !rest.contains '\n' then some (c :: rest) else none
    | [] => none
  else none

/-- The routes that a path fits. -/
def at_ (path : List Char) : List Route :=
  (fixed.filter (·.1.toList = path)).map (·.2) ++
    ((fileBelow? "/api/check/file/" path).map checkFile).toList ++
    ((fileBelow? "/static/" path).map fun _ => resource).toList

/-- Makes each run of slashes one slash. -/
def mergeSlashes : List Char → List Char
  | '/' :: '/' :: rest => mergeSlashes ('/' :: rest)
  | c :: rest => c :: mergeSlashes rest
  | [] => []

/-- Where a request leads. -/
inductive Way where
  | found (route : Route)
  /-- To the path with merged slashes. -/
  | elsewhere
  /-- The path fits a route, but not with this method. -/
  | notAllowed
  | nowhere
deriving DecidableEq, Repr

/-- Where a path leads with a method. -/
def find (m : Method) (path : List Char) : Way :=
  let merged := mergeSlashes path
  match (at_ path).find? (·.answers m) with
  | some route => .found route
  | none =>
      if (at_ merged).any (·.answers m) then .elsewhere
      else if (at_ path).isEmpty && (at_ merged).isEmpty then .nowhere
      else .notAllowed

end Route

end NoteCheck.Api
