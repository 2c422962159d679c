import NoteCheck.Api.Route
import NoteCheck.Api.Url
import NoteCheck.Json.Octets

/-!
# Requests and responses

The body of a request counts only if its content type says that it is JSON. The body of a response
is a value, to be written as JSON.
-/

namespace NoteCheck.Api

/-- A request. -/
structure Request where
  method : String := "GET"
  url : String
  contentType : Option String := none
  body : List UInt8 := []

/-- A response. -/
structure Response where
  status : Nat
  body : Option Value := none

/-- Whether a content type is that of JSON, parameters apart. -/
def isJsonType (contentType : List Char) : Bool :=
  let type := Text.lower (Text.trim (contentType.takeWhile (· ≠ ';')))
  type = "application/json".toList ||
    (Text.startsWith "application/".toList type && Text.endsWith "+json".toList type)

/-- The value of the body, if it is said to be JSON and is. -/
def Request.json? (r : Request) : Option Value :=
  match r.contentType with
  | some type => if isJsonType type.toList then Json.readOctets? r.body else none
  | none => none

/-- An object. -/
def object (members : List (String × Value)) : Value :=
  .map (members.map fun (key, v) => (.text key, v))

/-- A number of things. -/
def count (n : Nat) : Value :=
  .int n

/-- A response with a value. -/
def Response.of (status : Nat) (body : Value) : Response :=
  ⟨status, some body⟩

/-- A response that says what is wrong with the request. -/
def Response.refusal (status : Nat) (reason : String) : Response :=
  .of status (object [("error", .text reason)])

end NoteCheck.Api
