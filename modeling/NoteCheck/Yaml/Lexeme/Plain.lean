import NoteCheck.Yaml.Cursor
import NoteCheck.Yaml.Token

/-!
# Plain scalars

A plain scalar has no quotes. It goes on over single spaces and over line ends as long as the next
line is indented deeply enough, and stops before anything that means something else: a colon with a
gap behind it, a comment, a tab, and inside brackets also a comma, a question mark or a bracket.
-/

namespace NoteCheck.Yaml

/-- Whether a character is one of the brackets and commas of the flow style. -/
def isFlowSign (c : Char) : Bool :=
  c == ',' || c == '[' || c == ']' || c == '{' || c == '}'

/-- Whether a plain scalar may begin with `c` when `next` stands behind it. -/
def startsPlain (inFlow : Bool) (c : Char) (next : Option Char) : Bool :=
  (!isWideGap (some c) && !("-?:,[]{}#&*!|>'\"%@`".toList.contains c)) ||
    (!isWideGap next && (c == '-' || (!inFlow && (c == '?' || c == ':'))))

/-- Whether a plain scalar stops before `c` when `next` stands behind it. -/
def stopsPlain (inFlow : Bool) (c : Char) (next : Option Char) : Bool :=
  isWideGap (some c) || (c == ':' && (isWideGap next || (inFlow && next.any isFlowSign))) ||
    (inFlow && (c == '?' || isFlowSign c))

/-- The longest beginning of a text that stays within a plain scalar. -/
def plainRun (inFlow : Bool) : List Char → List Char
  | [] => []
  | c :: cs => if stopsPlain inFlow c cs.head? then [] else c :: plainRun inFlow cs

/-- The line ends at the cursor, with the spaces around them, as they are read; none if a marker of
a document starts one of the lines. -/
def plainBreaks? : (fuel : Nat) → Cursor → (breaks : List Char) → Option (List Char) × Cursor
  | 0, c, breaks => (some breaks, c)
  | fuel + 1, c, breaks =>
      match c.head with
      | some x =>
          if x == ' ' then plainBreaks? fuel c.next breaks
          else if isBreak x then
            let (text, c) := c.lineBreak
            if c.atDocumentMarker then (none, c) else plainBreaks? fuel c (breaks ++ text)
          else (some breaks, c)
      | none => (some breaks, c)

/-- What joins two runs of a plain scalar. -/
structure PlainGap where
  /-- The gap as it is read; empty if the scalar ends here. -/
  text : List Char
  /-- Whether a line end was passed. -/
  crossed : Bool
  cursor : Cursor

/-- Reads the gap behind a run. -/
def plainGap (c : Cursor) : PlainGap :=
  let (spaces, c) := c.run (· == ' ')
  match c.head with
  | some x =>
      if isBreak x then
        let (first, c) := c.lineBreak
        if c.atDocumentMarker then ⟨[], true, c⟩
        else match plainBreaks? (c.rest.length + 1) c [] with
          | (none, c) => ⟨[], true, c⟩
          | (some breaks, c) =>
              let text := if first != ['\n'] then first ++ breaks
                else if breaks.isEmpty then [' '] else breaks
              ⟨text, true, c⟩
      else ⟨spaces, false, c⟩
  | none => ⟨spaces, false, c⟩

/-- Reads runs and gaps by turns. `gap` stands before the next run, and `crossed` tells whether it
passed a line end. Returns the text, whether the scalar ended behind a line end, and the cursor. -/
def plainRest (inFlow : Bool) (indent : Int) :
    (fuel : Nat) → Cursor → (read gap : List Char) → (crossed : Bool) → List Char × Bool × Cursor
  | 0, c, read, _, crossed => (read, crossed, c)
  | fuel + 1, c, read, gap, crossed =>
      let run := if c.head == some '#' then [] else plainRun inFlow c.rest
      if run.isEmpty then (read, crossed, c)
      else
        let next := plainGap (c.skip run.length)
        let read := read ++ gap ++ run
        if next.text.isEmpty || next.cursor.head == some '#' ||
            (!inFlow && (next.cursor.column : Int) < indent) then
          (read, next.crossed, next.cursor)
        else plainRest inFlow indent fuel next.cursor read next.text next.crossed

/-- Reads a plain scalar within a block of the given indentation. The truth value tells whether it
ended behind a line end. -/
def readPlain (inFlow : Bool) (parentIndent : Int) (c : Cursor) : Token × Bool × Cursor :=
  let (text, crossed, c) := plainRest inFlow (parentIndent + 1) (c.rest.length + 1) c [] [] false
  (.scalar text true, crossed, c)

end NoteCheck.Yaml
