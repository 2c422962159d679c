import NoteCheck.Fault
import NoteCheck.Number.Decimal
import NoteCheck.Text.Numeral
import NoteCheck.Value.Basic

/-!
# Writing JSON

Every item and every member stands on a line of its own, two spaces further in than what holds it.
Strings are ASCII, other characters being escaped by their UTF-16 units.

Not every value can be written. Writing goes on until it meets such a value, so it gives a text in
any case (`Written`): all of the value, or what comes before the fault.
-/

namespace NoteCheck.Json

/-- What has been written, and the fault at which it ends if it is not complete. -/
structure Written where
  text : List Char
  fault : Option Fault
deriving Repr

namespace Written

/-- A text. -/
def of (text : List Char) : Written := ⟨text, none⟩

/-- Nothing, for a fault. -/
def failed (cause : Fault) : Written := ⟨[], some cause⟩

/-- Writes on, unless there was a fault. -/
def append (first second : Written) : Written :=
  match first.fault with
  | some _ => first
  | none => ⟨first.text ++ second.text, second.fault⟩

instance : Append Written := ⟨append⟩

end Written

/-- A number below 65536 in four hexadecimal digits. -/
def hexUnit (n : Nat) : List Char :=
  [n / 4096, n / 256 % 16, n / 16 % 16, n % 16].map Nat.digitChar

/-- The characters that are escaped by a letter. -/
def shortEscapes : List (Char × Char) :=
  [('"', '"'), ('\\', '\\'), ('\n', 'n'), ('\r', 'r'), ('\t', 't'), ('\x08', 'b'), ('\x0c', 'f')]

/-- One character of a string. -/
def escape (c : Char) : List Char :=
  let n := c.toNat
  match shortEscapes.find? (·.1 = c) with
  | some (_, letter) => ['\\', letter]
  | none =>
      if 32 ≤ n && n < 127 then [c]
      else if n < 0x10000 then '\\' :: 'u' :: hexUnit n
      else '\\' :: 'u' :: hexUnit (0xD800 + (n - 0x10000) / 0x400) ++
        '\\' :: 'u' :: hexUnit (0xDC00 + (n - 0x10000) % 0x400)

/-- A string in quotes. -/
def quoted (s : List Char) : List Char :=
  '"' :: s.flatMap escape ++ ['"']

/-- An integer, if it is not too long. -/
def writeInt (i : Int) : Written :=
  match Text.intText? i with
  | some digits => .of digits
  | none => .failed .numeralTooLong

/-- A key. Keys that are no strings are written as the strings of their values. -/
def writeKey : Value → Written
  | .text s => .of (quoted s.toList)
  | .null => .of "\"null\"".toList
  | .bool b => .of (if b then "\"true\"" else "\"false\"").toList
  | .int i =>
      match Text.intText? i with
      | some digits => .of (quoted digits)
      | none => .failed .numeralTooLong
  | .float x => .of (quoted (Decimal.write Decimal.Layout.data x))
  | _ => .failed .notStorable

/-- The start of a line at a depth. -/
def newLine (depth : Nat) : List Char :=
  '\n' :: List.replicate (2 * depth) ' '

mutual

/-- Writes a value that stands at a depth. -/
def write (depth : Nat) : Value → Written
  | .null => .of "null".toList
  | .bool b => .of (if b then "true" else "false").toList
  | .int i => writeInt i
  | .float x => .of (Decimal.write Decimal.Layout.data x)
  | .text s => .of (quoted s.toList)
  | .list [] | .tuple [] => .of ['[', ']']
  | .list items => writeItems (depth + 1) ['['] items ++ .of (newLine depth ++ [']'])
  | .tuple items => writeItems (depth + 1) ['['] items ++ .of (newLine depth ++ [']'])
  | .map [] => .of ['\x7b', '\x7d']
  | .map entries =>
      .of ('\x7b' :: newLine (depth + 1)) ++ writeMembers (depth + 1) [] entries ++
        .of (newLine depth ++ ['\x7d'])
  | .cycle _ => .failed .containsItself
  | .set _ | .bytes _ | .date _ | .timestamp _ => .failed .notStorable

/-- Writes the items of an array at a depth. What stands before the next item is written together
with it if it is a number, and else on its own. -/
def writeItems (depth : Nat) (before : List Char) : List Value → Written
  | [] => .of []
  | v :: rest =>
      let start := before ++ newLine depth
      let item := match v with
        | .int i =>
            match Text.intText? i with
            | some digits => .of (start ++ digits)
            | none => .failed .numeralTooLong
        | v => .of start ++ write depth v
      item ++ writeItems depth [','] rest

/-- Writes the members of an object at a depth; `before` stands before the next one. -/
def writeMembers (depth : Nat) (before : List Char) : List (Value × Value) → Written
  | [] => .of []
  | entry :: rest =>
      writeMember depth before entry ++ writeMembers depth (',' :: newLine depth) rest

/-- Writes a member of an object. A key that cannot be written leaves nothing of what stands before
it. -/
def writeMember (depth : Nat) (before : List Char) : Value × Value → Written
  | (key, v) =>
      match writeKey key with
      | ⟨_, some cause⟩ => .failed cause
      | ⟨text, none⟩ => .of (before ++ text ++ [':', ' ']) ++ write depth v

end

end NoteCheck.Json
