import NoteCheck.Fault

/-!
# Reading positions in a YAML text

A `Cursor` is what is left of a text, with the place it stands at: the number of characters before
it, the line, and the column. Five characters end a line, a carriage return directly before a line
feed being one line end with it; the byte order mark takes no column.

Characters are classified together with the end of the text, which is `none`.
-/

namespace NoteCheck.Yaml

/-- Why a text yields no value: it is not YAML of this dialect, or a value in it cannot be built. -/
inductive Trouble where
  | malformed
  | fault (cause : Fault)
deriving DecidableEq, Repr

/-! ## Classes of characters -/

/-- Whether a character ends a line. -/
def isBreak (c : Char) : Bool :=
  c == '\n' || c == '\r' || c == '\x85' || c == '\u2028' || c == '\u2029'

/-- Whether the line ends here. -/
def endsLine : Option Char → Bool
  | none => true
  | some c => isBreak c

/-- Whether a space or the end of the line stands here. -/
def isGap : Option Char → Bool
  | none => true
  | some c => c == ' ' || isBreak c

/-- Whether a space, a tab or the end of the line stands here. -/
def isWideGap : Option Char → Bool
  | none => true
  | some c => c == ' ' || c == '\t' || isBreak c

/-- Whether a YAML text may hold a character. -/
def isPrintable (c : Char) : Bool :=
  let n := c.toNat
  n == 0x9 || n == 0xA || n == 0xD || (0x20 ≤ n && n ≤ 0x7E) || n == 0x85 ||
    (0xA0 ≤ n && n ≤ 0xD7FF) || (0xE000 ≤ n && n ≤ 0xFFFD) || 0x10000 ≤ n

/-- Whether a character may stand in the name of an anchor, a tag handle or a directive. -/
def isNameChar (c : Char) : Bool :=
  ('0' ≤ c && c ≤ '9') || ('A' ≤ c && c ≤ 'Z') || ('a' ≤ c && c ≤ 'z') || c == '-' || c == '_'

/-- The value of a hexadecimal digit. -/
def hexValue? (c : Char) : Option Nat :=
  if '0' ≤ c && c ≤ '9' then some (c.toNat - 0x30)
  else if 'a' ≤ c && c ≤ 'f' then some (c.toNat - 0x61 + 10)
  else if 'A' ≤ c && c ≤ 'F' then some (c.toNat - 0x41 + 10)
  else none

/-! ## Cursors -/

/-- What is left of a text and where it starts. -/
structure Cursor where
  rest : List Char
  index : Nat := 0
  line : Nat := 0
  column : Nat := 0
deriving Repr

namespace Cursor

/-- The character `k` places ahead. -/
def peek (c : Cursor) (k : Nat) : Option Char :=
  c.rest[k]?

/-- The character at the cursor. -/
def head (c : Cursor) : Option Char :=
  c.rest.head?

/-- Passes one character. -/
def next (c : Cursor) : Cursor :=
  match c.rest with
  | [] => c
  | x :: rest =>
      if isBreak x && !(x == '\r' && rest.head? == some '\n') then
        ⟨rest, c.index + 1, c.line + 1, 0⟩
      else ⟨rest, c.index + 1, c.line, if x == '\uFEFF' then c.column else c.column + 1⟩

/-- Passes `n` characters. -/
def skip : (n : Nat) → Cursor → Cursor
  | 0, c => c
  | n + 1, c => skip n c.next

/-- The run of characters that satisfy `p`, and the cursor behind it. -/
def run (p : Char → Bool) (c : Cursor) : List Char × Cursor :=
  let taken := c.rest.takeWhile p
  (taken, c.skip taken.length)

/-- Passes the run of characters that satisfy `p`. -/
def skipRun (p : Char → Bool) (c : Cursor) : Cursor :=
  (c.run p).2

/-- Passes spaces, but not beyond a column. -/
def skipSpacesTo (column : Nat) : (fuel : Nat) → Cursor → Cursor
  | 0, c => c
  | fuel + 1, c =>
      if c.column < column && c.head == some ' ' then skipSpacesTo column fuel c.next else c

/-- Passes one line end and tells how it is read: a separator of lines or paragraphs stands for
itself, any other for a line feed. -/
def lineBreak (c : Cursor) : List Char × Cursor :=
  match c.rest with
  | '\r' :: '\n' :: _ => (['\n'], c.skip 2)
  | x :: _ =>
      if x == '\u2028' || x == '\u2029' then ([x], c.next)
      else if isBreak x then (['\n'], c.next)
      else ([], c)
  | [] => ([], c)

/-- Whether three marks and a gap stand here, as between documents. -/
def atMarker (mark : Char) (c : Cursor) : Bool :=
  match c.rest with
  | x :: y :: z :: rest => x == mark && y == mark && z == mark && isWideGap rest.head?
  | _ => false

/-- Whether a marker of the start or of the end of a document stands here. -/
def atDocumentMarker (c : Cursor) : Bool :=
  c.atMarker '-' || c.atMarker '.'

/-- Passes spaces, a comment and one line end, which is all that may stand here. -/
def endOfLine? (c : Cursor) : Option Cursor :=
  let c := c.skipRun (· == ' ')
  let c := if c.head == some '#' then c.skipRun (!isBreak ·) else c
  if endsLine c.head then some c.lineBreak.2 else none

end Cursor

/-- The hexadecimal number in the next `count` characters. -/
def hexNumber? : (count value : Nat) → List Char → Option Nat
  | 0, value, _ => some value
  | count + 1, value, c :: cs =>
      match hexValue? c with
      | some d => hexNumber? count (value * 16 + d) cs
      | none => none
  | _ + 1, _, [] => none

end NoteCheck.Yaml
