import NoteCheck.Yaml.Lexeme.Name

/-!
# Quoted scalars

In single quotes a quote is written twice. In double quotes a backslash starts an escape, and one at
the end of a line joins it to the next. In both, blanks around a line end are dropped; a single line
end becomes a space, and of several the first one is dropped.
-/

namespace NoteCheck.Yaml

/-- The character that a one-letter escape stands for. -/
def escaped? (c : Char) : Option Char :=
  match c with
  | '0' => some '\x00'
  | 'a' => some '\x07'
  | 'b' => some '\x08'
  | 't' | '\t' => some '\t'
  | 'n' => some '\n'
  | 'v' => some '\x0b'
  | 'f' => some '\x0c'
  | 'r' => some '\r'
  | 'e' => some '\x1b'
  | ' ' => some ' '
  | '"' => some '"'
  | '\\' => some '\\'
  | '/' => some '/'
  | 'N' => some '\x85'
  | '_' => some '\xa0'
  | 'L' => some '\u2028'
  | 'P' => some '\u2029'
  | _ => none

/-- The number of hexadecimal digits behind the letter of an escape by code point. -/
def escapeWidth? (c : Char) : Option Nat :=
  match c with
  | 'x' => some 2
  | 'u' => some 4
  | 'U' => some 8
  | _ => none

/-- The character of a code point. Half of a surrogate pair is no character and becomes the
replacement character. -/
def charOfCode (code : Nat) : Except Trouble Char :=
  if 0x80000000 ≤ code then .error (.fault .codePointTooLarge)
  else if 0x10FFFF < code then .error (.fault .noSuchCodePoint)
  else if 0xD800 ≤ code && code ≤ 0xDFFF then .ok '\uFFFD'
  else .ok (Char.ofNat code)

/-- The line ends at the cursor with the blanks around them, as they are read. A marker of a
document may not start one of the lines. -/
def readFoldedBreaks : (fuel : Nat) → Cursor → (breaks : List Char) →
    Except Trouble (List Char × Cursor)
  | 0, c, breaks => .ok (breaks, c)
  | fuel + 1, c, breaks =>
      if c.atDocumentMarker then .error .malformed
      else
        let c := c.skipRun fun x => x == ' ' || x == '\t'
        match c.head with
        | some x =>
            if isBreak x then
              let (text, c) := c.lineBreak
              readFoldedBreaks fuel c (breaks ++ text)
            else .ok (breaks, c)
        | none => .ok (breaks, c)

/-- The blanks and line ends at the cursor, as they are read. -/
def readQuotedSpaces (c : Cursor) : Except Trouble (List Char × Cursor) :=
  let (blanks, c) := c.run fun x => x == ' ' || x == '\t'
  match c.head with
  | none => .error .malformed
  | some x =>
      if isBreak x then do
        let (first, c) := c.lineBreak
        let (breaks, c) ← readFoldedBreaks (c.rest.length + 1) c []
        if first != ['\n'] then .ok (first ++ breaks, c)
        else if breaks.isEmpty then .ok ([' '], c)
        else .ok (breaks, c)
      else .ok (blanks, c)

/-- Whether a run of plain characters of a quoted scalar ends here. -/
def stopsQuoted (c : Char) : Bool :=
  c == '\'' || c == '"' || c == '\\' || c == ' ' || c == '\t' || isBreak c

/-- The text up to the next blank, line end or closing quote, after what is in `read`. -/
def readQuotedText (double : Bool) : (fuel : Nat) → Cursor → (read : List Char) →
    Except Trouble (List Char × Cursor)
  | 0, c, read => .ok (read, c)
  | fuel + 1, c, read =>
      let (plain, c) := c.run (!stopsQuoted ·)
      let read := read ++ plain
      match c.head with
      | none => .ok (read, c)
      | some x =>
          if !double && x == '\'' && c.peek 1 == some '\'' then
            readQuotedText double fuel (c.skip 2) (read ++ ['\''])
          else if (double && x == '\'') || (!double && (x == '"' || x == '\\')) then
            readQuotedText double fuel c.next (read ++ [x])
          else if double && x == '\\' then
            let c := c.next
            match c.head with
            | none => .error .malformed
            | some e =>
                match escaped? e, escapeWidth? e with
                | some y, _ => readQuotedText double fuel c.next (read ++ [y])
                | none, some width =>
                    match hexNumber? width 0 (c.rest.drop 1) with
                    | some code => do
                        let y ← charOfCode code
                        readQuotedText double fuel (c.skip (width + 1)) (read ++ [y])
                    | none => .error .malformed
                | none, none =>
                    if isBreak e then do
                      let (breaks, c) ← readFoldedBreaks (c.rest.length + 1) c.lineBreak.2 []
                      readQuotedText double fuel c (read ++ breaks)
                    else .error .malformed
          else .ok (read, c)

/-- Reads blanks and text by turns up to the closing quote. -/
def readQuotedRest (double : Bool) : (fuel : Nat) → Cursor → (read : List Char) →
    Except Trouble (List Char × Cursor)
  | 0, _, _ => .error .malformed
  | fuel + 1, c, read =>
      if c.head == some (if double then '"' else '\'') then .ok (read, c.next)
      else do
        let (blanks, c) ← readQuotedSpaces c
        let (text, c) ← readQuotedText double (c.rest.length + 1) c []
        readQuotedRest double fuel c (read ++ blanks ++ text)

/-- Reads a quoted scalar. -/
def readQuoted (double : Bool) (c : Cursor) : Except Trouble (Token × Cursor) := do
  let (text, c) ← readQuotedText double (c.rest.length + 1) c.next []
  let (text, c) ← readQuotedRest double (c.rest.length + 1) c text
  .ok (.scalar text false, c)

end NoteCheck.Yaml
