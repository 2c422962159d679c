import NoteCheck.Text.Numeral
import NoteCheck.Text.Split
import NoteCheck.Text.Utf8

/-!
# Hosts

A URL names a host between two slashes and its path, perhaps with a user before it and a port behind
it. The host is a name, whose labels have a full stop between each two, or an address in brackets:
one of version 6, or one of a later version that names its version.

An `Authority` is what has been read. Its text (`Authority.text`) leaves out what says nothing: an
empty user, an empty password, and the port zero.
-/

namespace NoteCheck.Api

open NoteCheck.Text

/-- Why a URL names no host. -/
inductive HostFault where
  /-- The brackets, the address, a character or the port is wrong. -/
  | malformed
  /-- A label of the name is empty or too long, or holds what no name may hold. -/
  | badLabel
deriving DecidableEq, Repr

/-! ## Addresses -/

/-- Whether a character is a hexadecimal digit of ASCII. -/
def isHexDigit (c : Char) : Bool :=
  c.toNat < 128 && (digitIn c).any (· < 16)

/-- Whether a text is one of the eight numbers of an address. -/
def isHextet (cs : List Char) : Bool :=
  !cs.isEmpty && cs.length ≤ 4 && cs.all isHexDigit

/-- Whether a text is a number below 256 without needless zeros. -/
def isByteText (cs : List Char) : Bool :=
  cs.all isAsciiDigit && cs.length ≤ 3 && (cs = ['0'] || cs.head? ≠ some '0') &&
    (readNat? 10 cs).any (· < 256)

/-- Whether a text is four numbers below 256 with full stops between them. -/
def isQuad (cs : List Char) : Bool :=
  (cut '.' cs).length = 4 && (cut '.' cs).all isByteText

/-- For how many of the eight numbers the pieces of an address stand. The last piece of all may be a
quad, which stands for two. -/
def hextetCount? (quad : Bool) : List (List Char) → Option Nat
  | [] => some 0
  | [piece] =>
      if isHextet piece then some 1 else if quad && isQuad piece then some 2 else none
  | piece :: rest => if isHextet piece then (hextetCount? quad rest).map (· + 1) else none

/-- What stands before the first pair of colons and what after it, when there is one. -/
def cutAtGap? : List Char → Option (List Char × List Char)
  | ':' :: ':' :: rest => some ([], rest)
  | c :: rest => (cutAtGap? rest).map fun (before, after) => (c :: before, after)
  | [] => none

/-- Whether a text is an address of version 6 without a zone: eight numbers, or fewer with one gap
for those that are zero. -/
def isPlainAddress (cs : List Char) : Bool :=
  let pieces (cs : List Char) := if cs.isEmpty then [] else cut ':' cs
  match cutAtGap? cs with
  | none => hextetCount? true (pieces cs) = some 8
  | some (before, after) =>
      match hextetCount? false (pieces before), hextetCount? true (pieces after) with
      | some m, some n => m + n < 8
      | _, _ => false

/-- Whether a text is an address of version 6, perhaps with a zone behind a percent sign. -/
def isAddress (cs : List Char) : Bool :=
  match cutFirst? '%' cs with
  | none => isPlainAddress cs
  | some (address, zone) => isPlainAddress address && !zone.isEmpty && !zone.contains '%'

/-- Whether a text is the letter `v`, the number of a version, a full stop and something more. -/
def isLaterAddress (cs : List Char) : Bool :=
  match cs with
  | 'v' :: rest =>
      match rest.takeWhile isHexDigit, rest.dropWhile isHexDigit with
      | _ :: _, '.' :: _ :: _ => true
      | _, _ => false
  | _ => false

/-! ## Names -/

/-- Characters that stand for others, among them one that has a meaning of its own in a URL. -/
def disguisedMarks : List Nat :=
  [0x2047, 0x2048, 0x2049, 0x2100, 0x2101, 0x2105, 0x2106, 0x2a74, 0xfe13, 0xfe16, 0xfe55, 0xfe56,
   0xfe5f, 0xfe6b, 0xff03, 0xff0f, 0xff1a, 0xff1f, 0xff20]

/-- The full stops of other scripts, which also end a label. -/
def isForeignStop (c : Char) : Bool :=
  c = '\u3002' || c = '\uff0e' || c = '\uff61'

/-- Code points that no name may hold, as ranges with both ends: controls, marks of direction and of
layout, private ones, and those that are no characters. -/
def barred : List (Nat × Nat) :=
  [(0x80, 0x9f), (0x6dd, 0x6dd), (0x70f, 0x70f), (0x1680, 0x1680), (0x180e, 0x180e),
   (0x200e, 0x200f), (0x2028, 0x202e), (0x2061, 0x2063), (0x206a, 0x206f), (0x2ff0, 0x2ffb),
   (0xe000, 0xf8ff), (0xfdd0, 0xfdef), (0xfff9, 0xffff), (0x1d173, 0x1d17a), (0x1fffe, 0x1ffff),
   (0x2fffe, 0x2ffff), (0x3fffe, 0x3ffff), (0x4fffe, 0x4ffff), (0x5fffe, 0x5ffff),
   (0x6fffe, 0x6ffff), (0x7fffe, 0x7ffff), (0x8fffe, 0x8ffff), (0x9fffe, 0x9ffff),
   (0xafffe, 0xaffff), (0xbfffe, 0xbffff), (0xcfffe, 0xcffff), (0xdfffe, 0xdffff),
   (0xe0001, 0xe0001), (0xe0020, 0xe007f), (0xefffe, 0x10ffff)]

/-- Code points that do not count in a name, as ranges with both ends. -/
def passedOver : List (Nat × Nat) :=
  [(0xad, 0xad), (0x34f, 0x34f), (0x1806, 0x1806), (0x180b, 0x180d), (0x200b, 0x200d),
   (0x2060, 0x2060), (0xfe00, 0xfe0f), (0xfeff, 0xfeff)]

/-- Whether a character is in one of the ranges. -/
def isAmong (ranges : List (Nat × Nat)) (c : Char) : Bool :=
  ranges.any fun (lo, hi) => lo ≤ c.toNat && c.toNat ≤ hi

/-- The characters of a label that count. -/
def countedChars (label : List Char) : List Char :=
  label.filter (!isAmong passedOver ·)

/-- Whether a label is not too long. A label beyond ASCII is longer when it is sent, by four
characters at least. -/
def isShortLabel (label : List Char) : Bool :=
  label.length < if label.all (·.toNat < 128) then 64 else 60

/-- Whether the labels of a name are neither empty nor too long, and hold no character that is
barred. The last one may be empty, but not by characters that do not count. -/
def hasGoodLabels (name : List Char) : Bool :=
  let labels := cut '.' (name.map fun c => if isForeignStop c then '.' else c)
  labels.all (fun label => isShortLabel (countedChars label) && !label.any (isAmong barred)) &&
    labels.dropLast.all (!·.isEmpty) &&
    labels.all fun label => label.isEmpty || !(countedChars label).isEmpty

/-! ## Authorities -/

/-- What a URL says of a host. -/
structure Authority where
  user : List Char := []
  password : List Char := []
  /-- The name or address, without brackets. -/
  host : List Char
  /-- The port, zero if none is named. -/
  port : Nat := 0
deriving DecidableEq, Repr

namespace Authority

/-- Whether the brackets of an authority pair up around an address, and no character in it is
disguised. -/
def isWellFormed (cs : List Char) : Bool :=
  let bracketed :=
    match cutFirst? '[' cs with
    | none => !cs.contains ']'
    | some (_, rest) =>
        let inner := rest.takeWhile (· ≠ ']')
        cs.contains ']' && (isAddress inner || isLaterAddress inner)
  bracketed && !cs.any fun c => disguisedMarks.contains c.toNat

/-- The user and password, and the host and port that an authority names. -/
def cutUser (cs : List Char) : List Char × List Char :=
  if cs.contains '@' then
    let rest := afterLast '@' cs
    (cs.take (cs.length - rest.length - 1), rest)
  else ([], cs)

/-- The host and the port, as they are written. -/
def cutPort (cs : List Char) : List Char × List Char :=
  match cutFirst? '[' cs with
  | some (_, rest) =>
      let behind := (rest.dropWhile (· ≠ ']')).drop 1
      (rest.takeWhile (· ≠ ']'), ((cutFirst? ':' behind).getD ([], [])).2)
  | none => (cutFirst? ':' cs).getD (cs, [])

/-- A host in small letters, its zone apart, without the characters that do not count. -/
def plainHost (host : List Char) : List Char :=
  countedChars (lower (host.takeWhile (· ≠ '%')) ++ host.dropWhile (· ≠ '%'))

/-- The number of a port; none is named by an empty text. -/
def readPort? (cs : List Char) : Option Nat :=
  if cs.isEmpty then some 0
  else if cs.all isAsciiDigit then (readNat? 10 cs).filter (· ≤ 65535)
  else none

/-- Reads an authority that is well-formed. -/
def read (cs : List Char) : Except HostFault Authority :=
  let (userPart, hostPart) := cutUser cs
  let (user, password) := (cutFirst? ':' userPart).getD (userPart, [])
  let (host, portText) := cutPort hostPart
  if !hasGoodLabels host then .error .badLabel
  else match readPort? portText with
    | none => .error .malformed
    | some port => .ok { user, password, host := plainHost host, port }

/-- Writes a name of a user or a password, escaping all that could end it. -/
def escaped (cs : List Char) : List Char :=
  let isPlain (c : Char) : Bool :=
    isAsciiDigit c || ('a' ≤ c && c ≤ 'z') || ('A' ≤ c && c ≤ 'Z') ||
      "%!$&'()*+,;=_.-~".toList.contains c
  let escape (b : UInt8) := ['%', Nat.digitChar (b.toNat / 16), Nat.digitChar (b.toNat % 16)]
  cs.flatMap fun c => if isPlain c then [c] else (Utf8.encode (String.singleton c)).flatMap escape

/-- The text of an authority. -/
def text (a : Authority) : List Char :=
  let user := if a.user.isEmpty then []
    else escaped a.user ++ (if a.password.isEmpty then [] else ':' :: escaped a.password) ++ ['@']
  let host := if a.host.contains ':' then '[' :: a.host ++ [']'] else a.host
  user ++ host ++ if a.port = 0 then [] else ':' :: natText a.port

/-- Whether a service can answer under the text of an authority: what stands before the first colon
counts as its name. -/
def isServed (a : Authority) : Bool :=
  hasGoodLabels (a.text.takeWhile (· ≠ ':'))

end Authority

end NoteCheck.Api
