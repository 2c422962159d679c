import NoteCheck.Yaml.Lexeme.Name

/-!
# Block scalars

A header tells the style, literal or folded, what becomes of the line ends at the end, and perhaps
the indentation. Without a digit in the header the indentation is found from the first lines. The
text goes on as long as lines start in exactly that column.
-/

namespace NoteCheck.Yaml

/-- What becomes of the line ends behind the last line of a block scalar. -/
inductive Chomping where
  | clip
  | strip
  | keep
deriving DecidableEq, Repr

/-- The chomping that a sign of the header asks for. -/
def chomping? : Option Char → Option Chomping
  | some '+' => some .keep
  | some '-' => some .strip
  | _ => none

/-- The indentation that a digit of the header asks for, zero being none that it may ask for. -/
def indentation? (c : Option Char) : Option Nat :=
  match c with
  | some d => if '0' ≤ d && d ≤ '9' then some (d.toNat - 0x30) else none
  | none => none

/-- Reads the signs of the header: chomping and indentation in either order. -/
def readBlockSigns (c : Cursor) : Except Trouble ((Chomping × Option Nat) × Cursor) := do
  let (chomping, increment, c) :=
    match chomping? c.head with
    | some chomping =>
        match indentation? (c.peek 1) with
        | some d => (chomping, some d, c.skip 2)
        | none => (chomping, none, c.next)
    | none =>
        match indentation? c.head with
        | some d =>
            match chomping? (c.peek 1) with
            | some chomping => (chomping, some d, c.skip 2)
            | none => (.clip, some d, c.next)
        | none => (.clip, none, c)
  if increment = some 0 || !isGap c.head then .error .malformed
  else .ok ((chomping, increment), c)

/-- The empty lines at the cursor and the deepest column that their spaces reach. -/
def measureBlanks : (fuel : Nat) → Cursor → (breaks : List Char) → (deepest : Nat) →
    List Char × Nat × Cursor
  | 0, c, breaks, deepest => (breaks, deepest, c)
  | fuel + 1, c, breaks, deepest =>
      match c.head with
      | some x =>
          if x == ' ' then
            let c := c.next
            measureBlanks fuel c breaks (max deepest c.column)
          else if isBreak x then
            let (text, c) := c.lineBreak
            measureBlanks fuel c (breaks ++ text) deepest
          else (breaks, deepest, c)
      | none => (breaks, deepest, c)

/-- The empty lines at the cursor, spaces being passed up to a column. -/
def blockBreaks (column : Nat) : (fuel : Nat) → Cursor → (breaks : List Char) → List Char × Cursor
  | 0, c, breaks => (breaks, c)
  | fuel + 1, c, breaks =>
      let c := c.skipSpacesTo column c.rest.length
      match c.head with
      | some x =>
          if isBreak x then
            let (text, c) := c.lineBreak
            blockBreaks column fuel c (breaks ++ text)
          else (breaks, c)
      | none => (breaks, c)

/-- Whether a line that starts here can be joined to its neighbour by folding. -/
def folds (c : Option Char) : Bool :=
  c != some ' ' && c != some '\t'

/-- Reads the lines of a block scalar. `breaks` holds the empty lines before the next one, and
`last` the line end behind the one before. -/
def blockLines (folded : Bool) (column : Nat) :
    (fuel : Nat) → Cursor → (read breaks last : List Char) →
    List Char × List Char × List Char × Cursor
  | 0, c, read, breaks, last => (read, breaks, last, c)
  | fuel + 1, c, read, breaks, last =>
      if c.column = column && c.head.isSome then
        let leading := folds c.head
        let (line, c) := c.run (!isBreak ·)
        let (last, c) := c.lineBreak
        let read := read ++ breaks ++ line
        let (breaks, c) := blockBreaks column (c.rest.length + 1) c []
        if c.column = column && c.head.isSome then
          let joint := if folded && last == ['\n'] && leading && folds c.head then
              if breaks.isEmpty then [' '] else []
            else last
          blockLines folded column fuel c (read ++ joint) breaks last
        else (read, breaks, last, c)
      else (read, breaks, last, c)

/-- Reads a block scalar within a block of the given indentation. -/
def readBlock (folded : Bool) (parentIndent : Int) (c : Cursor) :
    Except Trouble (Token × Cursor) := do
  let ((chomping, increment), c) ← readBlockSigns c.next
  match c.endOfLine? with
  | none => .error .malformed
  | some c =>
      let least := (max 1 (parentIndent + 1)).toNat
      let (breaks, column, c) :=
        match increment with
        | none =>
            let (breaks, deepest, c) := measureBlanks (c.rest.length + 1) c [] 0
            (breaks, max least deepest, c)
        | some d =>
            let column := least + d - 1
            let (breaks, c) := blockBreaks column (c.rest.length + 1) c []
            (breaks, column, c)
      let (read, breaks, last, c) := blockLines folded column (c.rest.length + 1) c [] breaks []
      let text := match chomping with
        | .strip => read
        | .clip => read ++ last
        | .keep => read ++ last ++ breaks
      .ok (.scalar text false, c)

end NoteCheck.Yaml
