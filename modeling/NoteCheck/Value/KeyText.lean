import NoteCheck.Fault
import NoteCheck.Number.Decimal
import NoteCheck.Value.Basic

/-!
# The text of a key

A property is named by a text. Where a note uses another value as a key, the property is named by
the value's text (`Value.keyText`): the word for a truth value or for nothing, the digits of a
number, the text of a moment with a space before the time of day, or the quoted form of octets.
-/

namespace NoteCheck.Value

open NoteCheck.Text

/-- A number below 256 in two hexadecimal digits. -/
def hexOctet (n : Nat) : List Char :=
  [Nat.digitChar (n / 16), Nat.digitChar (n % 16)]

/-- One octet inside quotes: itself if it is a printable ASCII character, else an escape. -/
def quotedOctet (quote : Char) (octet : UInt8) : List Char :=
  let n := octet.toNat
  let c := Char.ofNat n
  if c = quote || c = '\\' then ['\\', c]
  else if c = '\t' then ['\\', 't']
  else if c = '\n' then ['\\', 'n']
  else if c = '\r' then ['\\', 'r']
  else if n < 32 || 127 ≤ n then '\\' :: 'x' :: hexOctet n
  else [c]

/-- Octets in quotes: single ones, unless the octets hold a single quote and no double one. -/
def octetsText (octets : List UInt8) : List Char :=
  let holds (c : Char) := octets.any (·.toNat == c.toNat)
  let quote := if holds '\'' && !holds '"' then '"' else '\''
  'b' :: quote :: octets.flatMap (quotedOctet quote) ++ [quote]

/-- The text of a value that stands as a key. Collections never do. -/
def keyText : Value → Except Fault String
  | null => .ok "None"
  | bool b => .ok (if b then "True" else "False")
  | int i => match intText? i with
    | some digits => .ok (String.ofList digits)
    | none => .error .numeralTooLong
  | float x => .ok (String.ofList (Decimal.write Decimal.Layout.plain x))
  | text s => .ok s
  | bytes octets => .ok (String.ofList (octetsText octets))
  | date d => .ok (String.ofList d.text)
  | timestamp t => .ok (String.ofList (t.text ' '))
  | list _ | tuple _ | set _ | map _ | cycle _ => .error .notStorable

end NoteCheck.Value
