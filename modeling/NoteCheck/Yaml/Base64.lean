/-!
# Octets written in base 64

Four characters of the alphabet stand for three octets. Characters outside the alphabet are ignored.
Padding ends the text once it completes a group of four; before the second character of a group it
is ignored as well.
-/

namespace NoteCheck.Yaml.Base64

/-- The value of a character of the alphabet. -/
def value? (c : Char) : Option Nat :=
  if 'A' ≤ c && c ≤ 'Z' then some (c.toNat - 0x41)
  else if 'a' ≤ c && c ≤ 'z' then some (c.toNat - 0x61 + 26)
  else if '0' ≤ c && c ≤ '9' then some (c.toNat - 0x30 + 52)
  else if c = '+' then some 62
  else if c = '/' then some 63
  else none

/-- The octets that the values of a group of two to four characters stand for. -/
def groupOctets : List Nat → List UInt8
  | [a, b] => [(a * 4 + b / 16).toUInt8]
  | [a, b, c] => [(a * 4 + b / 16).toUInt8, (b % 16 * 16 + c / 4).toUInt8]
  | [a, b, c, d] =>
      [(a * 4 + b / 16).toUInt8, (b % 16 * 16 + c / 4).toUInt8, (c % 4 * 64 + d).toUInt8]
  | _ => []

/-- Reads the rest of a text. `group` holds the values of the group begun, `pads` the number of
padding characters directly before the cursor, not counting what is ignored. -/
def decodeFrom : List Char → (group : List Nat) → (pads : Nat) → (octets : List UInt8) →
    Option (List UInt8)
  | [], group, _, octets => if group.isEmpty then some octets else none
  | c :: cs, group, pads, octets =>
      if c = '=' then
        if 2 ≤ group.length then
          if 4 ≤ group.length + pads + 1 then some (octets ++ groupOctets group)
          else decodeFrom cs group (pads + 1) octets
        else decodeFrom cs group pads octets
      else match value? c with
        | none => decodeFrom cs group pads octets
        | some v =>
            if group.length = 3 then decodeFrom cs [] 0 (octets ++ groupOctets (group ++ [v]))
            else decodeFrom cs (group ++ [v]) 0 octets

/-- The octets that a text stands for; none if a group is incomplete. -/
def decode? (cs : List Char) : Option (List UInt8) :=
  decodeFrom cs [] 0 []

end NoteCheck.Yaml.Base64
