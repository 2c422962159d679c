import NoteCheck.Json.Read
import NoteCheck.Text.Utf8

/-!
# JSON in octets

A JSON text that comes as octets may be in UTF-8, UTF-16 or UTF-32. A byte order mark tells which;
without one the zeros among the first four octets do, since a JSON text begins with ASCII.
-/

namespace NoteCheck.Json

/-- The encodings of a JSON text. -/
inductive Encoding where
  | utf8
  | utf16 (bigEndian : Bool)
  | utf32 (bigEndian : Bool)
deriving DecidableEq, Repr

/-- The encoding of octets, and the octets behind the byte order mark. -/
def detectEncoding (b : List UInt8) : Encoding × List UInt8 :=
  match b with
  | 0x00 :: 0x00 :: 0xFE :: 0xFF :: rest => (.utf32 true, rest)
  | 0xFF :: 0xFE :: 0x00 :: 0x00 :: rest => (.utf32 false, rest)
  | 0xFE :: 0xFF :: rest => (.utf16 true, rest)
  | 0xFF :: 0xFE :: rest => (.utf16 false, rest)
  | 0xEF :: 0xBB :: 0xBF :: rest => (.utf8, rest)
  | b0 :: b1 :: b2 :: b3 :: _ =>
      if b0 = 0 then (if b1 = 0 then .utf32 true else .utf16 true, b)
      else if b1 = 0 then (if b2 = 0 && b3 = 0 then .utf32 false else .utf16 false, b)
      else (.utf8, b)
  | [b0, b1] =>
      if b0 = 0 then (.utf16 true, b) else if b1 = 0 then (.utf16 false, b) else (.utf8, b)
  | _ => (.utf8, b)

/-- The numbers that pairs of octets give. -/
def pairUnits? (bigEndian : Bool) : List UInt8 → Option (List Nat)
  | [] => some []
  | a :: b :: rest =>
      (pairUnits? bigEndian rest).map
        ((if bigEndian then a.toNat * 256 + b.toNat else b.toNat * 256 + a.toNat) :: ·)
  | [_] => none

/-- The numbers that pairs of numbers below 65536 give. -/
def quadUnits? (bigEndian : Bool) : List Nat → Option (List Nat)
  | [] => some []
  | a :: b :: rest =>
      (quadUnits? bigEndian rest).map ((if bigEndian then a * 65536 + b else b * 65536 + a) :: ·)
  | [_] => none

/-- The text of UTF-16 units; surrogates that stand alone become the replacement character. -/
def ofUnits : List Nat → List Char
  | [] => []
  | [u] => [if 0xD800 ≤ u && u ≤ 0xDFFF then '\uFFFD' else Char.ofNat u]
  | u :: v :: rest =>
      if 0xD800 ≤ u && u ≤ 0xDBFF && 0xDC00 ≤ v && v ≤ 0xDFFF then
        Char.ofNat (0x10000 + (u - 0xD800) * 0x400 + (v - 0xDC00)) :: ofUnits rest
      else (if 0xD800 ≤ u && u ≤ 0xDFFF then '\uFFFD' else Char.ofNat u) :: ofUnits (v :: rest)

/-- The text that octets in an encoding stand for. -/
def Encoding.decode? : Encoding → List UInt8 → Option (List Char)
  | .utf8, b => Text.Utf8.decodeLoose? b
  | .utf16 bigEndian, b => (pairUnits? bigEndian b).map ofUnits
  | .utf32 bigEndian, b => do
      (← quadUnits? bigEndian (← pairUnits? bigEndian b)).mapM (Text.Utf8.character? true 0)

/-- The value that octets describe, if they describe one. -/
def readOctets? (b : List UInt8) : Option Value :=
  let (encoding, rest) := detectEncoding b
  match encoding.decode? rest with
  | some cs => (read cs).toOption
  | none => none

end NoteCheck.Json
