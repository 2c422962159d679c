/-!
# Texts in UTF-8

`Utf8.decode?` reads octets as UTF-8: every character in its shortest form, none above the last code
point, and no surrogates. `Utf8.decodeLoose?` lets encoded surrogates pass, each of them becoming
the replacement character.

`Utf8.decodeLossy` reads any octets: every run of them that cannot be the beginning of a character,
or is not gone on with, becomes one replacement character.

`unifyLines` reads the three line ends of text files alike.
-/

namespace NoteCheck.Text

namespace Utf8

/-- What an octet at the start of a character says: how many octets follow, the bits it gives, and
the least code point that needs so many octets. -/
def lead? (n : Nat) : Option (Nat × Nat × Nat) :=
  if n < 0x80 then some (0, n, 0)
  else if n < 0xC0 then none
  else if n < 0xE0 then some (1, n - 0xC0, 0x80)
  else if n < 0xF0 then some (2, n - 0xE0, 0x800)
  else if n < 0xF8 then some (3, n - 0xF0, 0x10000)
  else none

/-- The character of a code point that needs at least `least`. -/
def character? (loose : Bool) (least n : Nat) : Option Char :=
  if n < least || 0x10FFFF < n then none
  else if 0xD800 ≤ n && n ≤ 0xDFFF then if loose then some '\uFFFD' else none
  else some (Char.ofNat n)

/-- Reads octets. Of the character begun, `missing` octets are still to come, `bits` is what has
been read of it, and `least` the least code point it may have. -/
def decodeFrom (loose : Bool) : (missing bits least : Nat) → List UInt8 → Option (List Char)
  | 0, _, _, [] => some []
  | _ + 1, _, _, [] => none
  | 0, _, _, b :: rest =>
      match lead? b.toNat with
      | none => none
      | some (0, n, _) => (decodeFrom loose 0 0 0 rest).map (Char.ofNat n :: ·)
      | some (missing + 1, bits, least) => decodeFrom loose (missing + 1) bits least rest
  | missing + 1, bits, least, b :: rest =>
      let n := b.toNat
      if 0x80 ≤ n && n < 0xC0 then
        let bits := bits * 64 + (n - 0x80)
        match missing with
        | 0 =>
            match character? loose least bits with
            | some c => (decodeFrom loose 0 0 0 rest).map (c :: ·)
            | none => none
        | missing + 1 => decodeFrom loose (missing + 1) bits least rest
      else none

/-- The text that octets stand for. -/
def decode? (octets : List UInt8) : Option (List Char) :=
  decodeFrom false 0 0 0 octets

/-- The text that octets stand for, surrogates becoming the replacement character. -/
def decodeLoose? (octets : List UInt8) : Option (List Char) :=
  decodeFrom true 0 0 0 octets

/-- A character begun: how many octets are still to come, the bits read so far, and the least and
the greatest octet that may come next. -/
structure Begun where
  missing : Nat
  bits : Nat
  least : Nat
  greatest : Nat

/-- The state of lossy reading: the character begun, and what has been read, the last character
first. -/
abbrev Lossy := Option Begun × List Char

/-- Reads an octet at the start of a character. -/
def Lossy.start (read : List Char) (b : UInt8) : Lossy :=
  let n := b.toNat
  if n < 0x80 then (none, Char.ofNat n :: read)
  else if n < 0xC2 then (none, '\uFFFD' :: read)
  else if n < 0xE0 then (some ⟨1, n - 0xC0, 0x80, 0xBF⟩, read)
  else if n < 0xF0 then
    let least := if n = 0xE0 then 0xA0 else 0x80
    let greatest := if n = 0xED then 0x9F else 0xBF
    (some ⟨2, n - 0xE0, least, greatest⟩, read)
  else if n < 0xF5 then
    let least := if n = 0xF0 then 0x90 else 0x80
    let greatest := if n = 0xF4 then 0x8F else 0xBF
    (some ⟨3, n - 0xF0, least, greatest⟩, read)
  else (none, '\uFFFD' :: read)

/-- Reads the next octet. -/
def Lossy.step : Lossy → UInt8 → Lossy
  | (none, read), b => Lossy.start read b
  | (some c, read), b =>
      let n := b.toNat
      if c.least ≤ n && n ≤ c.greatest then
        let bits := c.bits * 64 + (n - 0x80)
        if c.missing ≤ 1 then (none, Char.ofNat bits :: read)
        else (some ⟨c.missing - 1, bits, 0x80, 0xBF⟩, read)
      else Lossy.start ('\uFFFD' :: read) b

/-- The text that octets stand for, with replacement characters for what stands for nothing. -/
def decodeLossy (octets : List UInt8) : List Char :=
  match octets.foldl Lossy.step (none, []) with
  | (none, read) => read.reverse
  | (some _, read) => ('\uFFFD' :: read).reverse

/-- The octets of a text. -/
def encode (s : String) : List UInt8 :=
  s.toUTF8.toList

end Utf8

/-- Reads a carriage return, with the line feed behind it if there is one, as a line feed. -/
def unifyLines : List Char → List Char
  | [] => []
  | '\r' :: '\n' :: rest => '\n' :: unifyLines rest
  | c :: rest => (if c = '\r' then '\n' else c) :: unifyLines rest

end NoteCheck.Text
