import NoteCheck.Api.Host

/-!
# The target of a request

A `Target` is what a URL asks for: the path and the query, and the host that is asked. Escapes by
percent signs are read as UTF-8. In the query a plus sign stands for a space. The path begins with
one slash, however many there were.

What is left of a URL when its scheme and its host are taken off may look like a URL with a scheme
or a host again. It is read as one twice more: first these are dropped again, then they become part
of the path.
-/

namespace NoteCheck.Api

open NoteCheck.Text

/-- The value of a hexadecimal digit. -/
def hexDigit? (b : UInt8) : Option Nat :=
  if b.toNat < 128 then (digitIn (Char.ofNat b.toNat)).filter (· < 16) else none

/-- Replaces each percent sign and two hexadecimal digits by the octet they name. -/
def percentOctets : List UInt8 → List UInt8
  | 0x25 :: a :: b :: rest =>
      match hexDigit? a, hexDigit? b with
      | some x, some y => (x * 16 + y).toUInt8 :: percentOctets rest
      | _, _ => 0x25 :: percentOctets (a :: b :: rest)
  | b :: rest => b :: percentOctets rest
  | [] => []

/-- A text with its percent escapes read. -/
def percentDecode (cs : List Char) : List Char :=
  Utf8.decodeLossy (percentOctets (Utf8.encode (String.ofList cs)))

/-- A URL in its parts, still escaped; a fragment is left out. -/
structure Url where
  scheme : List Char := []
  authority : List Char := []
  path : List Char
  query : List Char := []
deriving DecidableEq, Repr

namespace Url

/-- Takes a scheme and the colon behind it off a text. -/
def takeScheme (cs : List Char) : List Char × List Char :=
  let isLetter (c : Char) := ('a' ≤ c && c ≤ 'z') || ('A' ≤ c && c ≤ 'Z')
  let isSchemeChar (c : Char) := isLetter c || isAsciiDigit c || c = '+' || c = '-' || c = '.'
  match cutFirst? ':' cs with
  | some (scheme, rest) =>
      if scheme.head?.any isLetter && scheme.all isSchemeChar then (lower scheme, rest)
      else ([], cs)
  | none => ([], cs)

/-- Takes two slashes and the authority behind them off a text. -/
def takeAuthority : List Char → List Char × List Char
  | '/' :: '/' :: rest =>
      let isInside (c : Char) := c ≠ '/' && c ≠ '?' && c ≠ '#'
      (rest.takeWhile isInside, rest.dropWhile isInside)
  | cs => ([], cs)

/-- The parts of a URL. Controls and spaces before it do not count, nor do line ends and tabs within
it. -/
def split (url : List Char) : Except HostFault Url :=
  let shown := url.dropWhile fun c => c.toNat ≤ 32
  let cleaned := shown.filter fun c => c ≠ '\t' && c ≠ '\n' && c ≠ '\r'
  let (scheme, rest) := takeScheme cleaned
  let (authority, rest) := takeAuthority rest
  let whole := rest.takeWhile (· ≠ '#')
  let (path, query) := (cutFirst? '?' whole).getD (whole, [])
  if Authority.isWellFormed authority then .ok { scheme, authority, path, query }
  else .error .malformed

/-- A path in which a scheme and an authority are written as they are read. -/
def writtenPath (path : List Char) : Except HostFault (List Char) := do
  let url ← split path
  let authority := (← Authority.read url.authority).text
  let rest := if authority.isEmpty then url.path else '/' :: '/' :: authority ++ url.path
  return if url.scheme.isEmpty then rest else url.scheme ++ ':' :: rest

end Url

/-- What a URL asks for. -/
structure Target where
  host : Authority
  path : List Char
  query : List (List Char × List Char)
deriving Repr

/-- The names and values of a query. -/
def readQuery (query : List Char) : List (List Char × List Char) :=
  let decode (cs : List Char) := percentDecode (cs.map fun c => if c = '+' then ' ' else c)
  ((cut '&' query).filter (!·.isEmpty)).map fun piece =>
    let (name, value) := (cutFirst? '=' piece).getD (piece, [])
    (decode name, decode value)

/-- A path with one slash in place of those at its start. -/
def oneSlash (path : List Char) : List Char :=
  if path.isEmpty then [] else '/' :: path.dropWhile (· = '/')

/-- The authority where a URL names none. -/
def homeAuthority : List Char := "localhost".toList

/-- What a URL asks for. The authority must be well-formed as it is read and as it is written. -/
def Target.ofUrl (url : String) : Except HostFault Target := do
  let outer ← Url.split url.toList
  let query := if outer.query.isEmpty then [] else '?' :: outer.query
  let inner ← Url.split (outer.path ++ query)
  let path ← Url.writtenPath inner.path
  let host ← Authority.read (if outer.authority.isEmpty then homeAuthority else outer.authority)
  if Authority.isWellFormed host.text then
    return ⟨host, oneSlash (percentDecode path), readQuery inner.query⟩
  else .error .malformed

/-- The first value of a name in the query. -/
def Target.parameter? (t : Target) (name : String) : Option (List Char) :=
  (t.query.find? (·.1 = name.toList)).map (·.2)

/-- Whether the value of a parameter means yes. -/
def isYes (value : List Char) : Bool :=
  ["1", "true", "yes"].any fun word => word.toList = lower value

end NoteCheck.Api
