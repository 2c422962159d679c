import NoteCheck.Yaml.Lexeme.Block
import NoteCheck.Yaml.Lexeme.Plain
import NoteCheck.Yaml.Lexeme.Quoted

/-!
# From text to tokens

`tokens` cuts a YAML text into tokens. Three things go beyond cutting.

**Indentation.** A stack of columns holds the open blocks. A line that starts further left closes
the blocks it leaves, and an entry, a key or a value further right opens one. Inside brackets
columns mean nothing.

**Simple keys.** A key without a question mark shows only when its colon is reached. So each token
that could begin one is remembered, per level of brackets, as a `Candidate`; the colon then puts
`key`, and `blockMappingStart` if a block opens, in front of that token. A candidate lapses when its
line ends or 1024 characters have passed. In the first column of a block it must not lapse.

**How far a reader gets.** A reader of tokens asks for them one by one, and a token that could still
turn out to be a key is not handed out before that is settled. When the text cannot be cut any
further because of a fault, `Tokens` therefore lists the tokens that a reader gets before it meets
the fault, and no more: if they are malformed, the reader never meets it.
-/

namespace NoteCheck.Yaml

/-- A token that could begin a simple key. -/
structure Candidate where
  /-- The number of the token. -/
  token : Nat
  /-- Whether the key must come, since the token stands where a key of the open block would. -/
  required : Bool
  index : Nat
  line : Nat
  column : Nat
deriving Repr

/-- The state of the cutting. -/
structure Scanner where
  cursor : Cursor
  /-- The tokens so far, the last one first. -/
  produced : List Token := []
  /-- The column of the innermost open block; none is open at -1. -/
  indent : Int := -1
  /-- The columns of the blocks around it. -/
  outer : List Int := []
  /-- The number of open brackets. -/
  depth : Nat := 0
  /-- The candidates by the number of open brackets around them. -/
  candidates : List (Nat × Candidate) := []
  /-- Whether a simple key may start here. -/
  keyAllowed : Bool := true
deriving Repr

/-- The tokens that a reader gets, and the trouble it meets behind them. -/
structure Tokens where
  all : List Token
  trouble : Option Trouble
deriving Repr

namespace Scanner

/-- Adds a token. -/
def push (t : Token) (s : Scanner) : Scanner :=
  { s with produced := t :: s.produced }

/-- Puts a token in front of the token with the given number. -/
def insertAt (number : Nat) (t : Token) (s : Scanner) : Scanner :=
  let after := s.produced.length - number
  { s with produced := s.produced.take after ++ t :: s.produced.drop after }

/-- Whether brackets are open. -/
def inFlow (s : Scanner) : Bool :=
  s.depth != 0

/-- Moves the cursor. -/
def moveTo (c : Cursor) (s : Scanner) : Scanner :=
  { s with cursor := c }

/-- Says whether a simple key may start next. -/
def allowKey (allowed : Bool) (s : Scanner) : Scanner :=
  { s with keyAllowed := allowed }

/-! ## Candidates -/

/-- Whether a candidate has lapsed at the cursor. -/
def lapsed (s : Scanner) (k : Candidate) : Bool :=
  k.line != s.cursor.line || k.index + 1024 < s.cursor.index

/-- Forgets the candidates that have lapsed. -/
def dropLapsed (s : Scanner) : Except Trouble Scanner :=
  if s.candidates.any fun (_, k) => s.lapsed k && k.required then .error .malformed
  else .ok { s with candidates := s.candidates.filter fun (_, k) => !s.lapsed k }

/-- Forgets the candidate of the current level. -/
def dropCandidate (s : Scanner) : Except Trouble Scanner :=
  match s.candidates.lookup s.depth with
  | none => .ok s
  | some k =>
      if k.required then .error .malformed
      else .ok { s with candidates := s.candidates.filter (·.1 != s.depth) }

/-- Remembers that the next token could begin a simple key. -/
def saveCandidate (s : Scanner) : Except Trouble Scanner :=
  if s.keyAllowed then do
    let s ← s.dropCandidate
    let c := s.cursor
    let k : Candidate :=
      { token := s.produced.length, required := !s.inFlow && s.indent == (c.column : Int),
        index := c.index, line := c.line, column := c.column }
    .ok { s with candidates := (s.depth, k) :: s.candidates }
  else .ok s

/-- The number of the first token that is not handed out yet. -/
def firstHeld (s : Scanner) : Nat :=
  s.candidates.foldl (fun n (_, k) => min n k.token) s.produced.length

/-! ## Blocks -/

/-- Closes the blocks that lie right of a column. -/
def unwindFrom (column : Int) : (outer : List Int) → Scanner → Scanner
  | [], s => s
  | o :: rest, s =>
      if column < s.indent then
        unwindFrom column rest
          { s with indent := o, outer := rest, produced := .blockEnd :: s.produced }
      else s

/-- Closes the blocks that lie right of a column, unless brackets are open. -/
def unwind (column : Int) (s : Scanner) : Scanner :=
  if s.inFlow then s else unwindFrom column s.outer s

/-- Opens a block at a column that lies right of the innermost one. -/
def opens (column : Nat) (s : Scanner) : Option Scanner :=
  if s.indent < (column : Int) then
    some { s with indent := column, outer := s.indent :: s.outer }
  else none

/-- Opens a block at the cursor if it lies right of the innermost one, with the token `t`. -/
def openBlock (t : Token) (s : Scanner) : Scanner :=
  match s.opens s.cursor.column with
  | some s => s.push t
  | none => s

/-! ## Single tokens -/

/-- Passes spaces, comments and line ends. -/
def skipToToken : (fuel : Nat) → Scanner → Scanner
  | 0, s => s
  | fuel + 1, s =>
      let c := s.cursor.skipRun (· == ' ')
      let c := if c.head == some '#' then c.skipRun (!isBreak ·) else c
      if c.head.any isBreak then
        skipToToken fuel
          { s with cursor := c.lineBreak.2, keyAllowed := s.keyAllowed || !s.inFlow }
      else s.moveTo c

/-- Adds a token of `width` characters. -/
def pushMark (t : Token) (width : Nat) (s : Scanner) : Scanner :=
  (s.push t).moveTo (s.cursor.skip width)

/-- A directive or a marker of a document, which closes all blocks. -/
def atMargin (s : Scanner) : Except Trouble Scanner := do
  let s ← (s.unwind (-1)).dropCandidate
  .ok (s.allowKey false)

/-- An opening bracket. -/
def openFlow (t : Token) (s : Scanner) : Except Trouble Scanner := do
  let s ← s.saveCandidate
  .ok ({ s with depth := s.depth + 1 }.allowKey true |>.pushMark t 1)

/-- A closing bracket. One that closes nothing is never accepted. -/
def closeFlow (t : Token) (s : Scanner) : Except Trouble Scanner := do
  if s.depth = 0 then .error .malformed
  else
    let s ← s.dropCandidate
    .ok ({ s with depth := s.depth - 1 }.allowKey false |>.pushMark t 1)

/-- A comma. -/
def flowEntry (s : Scanner) : Except Trouble Scanner := do
  let s ← (s.allowKey true).dropCandidate
  .ok (s.pushMark .flowEntry 1)

/-- A hyphen that starts an entry. Inside brackets it is a token that nothing accepts. -/
def blockEntry (s : Scanner) : Except Trouble Scanner := do
  if !s.inFlow && !s.keyAllowed then .error .malformed
  else
    let s := if s.inFlow then s else s.openBlock .blockSequenceStart
    let s ← (s.allowKey true).dropCandidate
    .ok (s.pushMark .blockEntry 1)

/-- A question mark that starts a key. -/
def complexKey (s : Scanner) : Except Trouble Scanner := do
  if !s.inFlow && !s.keyAllowed then .error .malformed
  else
    let s := if s.inFlow then s else s.openBlock .blockMappingStart
    let s ← (s.allowKey (!s.inFlow)).dropCandidate
    .ok (s.pushMark .key 1)

/-- The colon behind a simple key. -/
def simpleValue (k : Candidate) (s : Scanner) : Scanner :=
  let s := { s with candidates := s.candidates.filter (·.1 != s.depth) }
  let s := s.insertAt k.token .key
  let s := if s.inFlow then s
    else match s.opens k.column with
      | some s => s.insertAt k.token .blockMappingStart
      | none => s
  (s.allowKey false).pushMark .value 1

/-- The colon behind a key that is not simple, or without a key. -/
def complexValue (s : Scanner) : Except Trouble Scanner := do
  if !s.inFlow && !s.keyAllowed then .error .malformed
  else
    let s := if s.inFlow then s else s.openBlock .blockMappingStart
    let s ← (s.allowKey (!s.inFlow)).dropCandidate
    .ok (s.pushMark .value 1)

/-- A colon that starts a value. -/
def value (s : Scanner) : Except Trouble Scanner :=
  match s.candidates.lookup s.depth with
  | some k => .ok (s.simpleValue k)
  | none => s.complexValue

/-- A token that can begin a simple key and behind which none can start. -/
def keyLike (read : Cursor → Except Trouble (Token × Cursor)) (s : Scanner) :
    Except Trouble Scanner := do
  let s ← s.saveCandidate
  let (t, c) ← read s.cursor
  .ok ((s.allowKey false).push t |>.moveTo c)

/-- A plain scalar. A simple key can start behind one that ran over a line end. -/
def plain (s : Scanner) : Except Trouble Scanner := do
  let s ← s.saveCandidate
  let (t, crossed, c) := readPlain s.inFlow s.indent s.cursor
  .ok ((s.allowKey crossed).push t |>.moveTo c)

/-- A block scalar. -/
def block (folded : Bool) (s : Scanner) : Except Trouble Scanner := do
  let s ← (s.allowKey true).dropCandidate
  let (t, c) ← readBlock folded s.indent s.cursor
  .ok (s.push t |>.moveTo c)

/-- An anchor or alias. -/
def named (token : List Char → Token) (s : Scanner) : Except Trouble Scanner :=
  s.keyLike fun c => do
    let (name, c) ← readAnchorName c
    .ok (token name, c)

/-- Cuts the token that starts with `x` at the cursor. -/
def cut (x : Char) (s : Scanner) : Except Trouble Scanner :=
  let c := s.cursor
  let gapBehind := isWideGap (c.peek 1)
  let margin := c.column = 0
  if margin && x == '%' then do
    let s ← s.atMargin
    let (t, c) ← readDirective s.cursor
    .ok (s.push t |>.moveTo c)
  else if margin && c.atMarker '-' then do
    let s ← s.atMargin
    .ok (s.pushMark .documentStart 3)
  else if margin && c.atMarker '.' then do
    let s ← s.atMargin
    .ok (s.pushMark .documentEnd 3)
  else if x == '[' then s.openFlow .flowSequenceStart
  else if x == '{' then s.openFlow .flowMappingStart
  else if x == ']' then s.closeFlow .flowSequenceEnd
  else if x == '}' then s.closeFlow .flowMappingEnd
  else if x == ',' then s.flowEntry
  else if x == '-' && gapBehind then s.blockEntry
  else if x == '?' && (s.inFlow || gapBehind) then s.complexKey
  else if x == ':' && (s.inFlow || gapBehind) then s.value
  else if x == '*' then s.named .alias
  else if x == '&' then s.named .anchor
  else if x == '!' then s.keyLike readTag
  else if x == '|' && !s.inFlow then s.block false
  else if x == '>' && !s.inFlow then s.block true
  else if x == '\'' then s.keyLike (readQuoted false)
  else if x == '"' then s.keyLike (readQuoted true)
  else if startsPlain s.inFlow x (c.peek 1) then s.plain
  else .error .malformed

/-- The end of the text. -/
def finish (s : Scanner) : Except Trouble Scanner := do
  let s ← (s.unwind (-1)).dropCandidate
  .ok (s.push .streamEnd)

/-- Cuts the next token; the truth value tells whether it was the last one. -/
def step (s : Scanner) : Except Trouble (Scanner × Bool) := do
  let s := s.skipToToken (s.cursor.rest.length + 1)
  let s ← s.dropLapsed
  let s := s.unwind s.cursor.column
  match s.cursor.head with
  | none => do
      let s ← s.finish
      .ok (s, true)
  | some x => do
      let s ← s.cut x
      .ok (s, false)

/-- Cuts tokens until the text ends or trouble arises. -/
def run : (fuel : Nat) → Scanner → Tokens
  | 0, s => ⟨s.produced.reverse, some .malformed⟩
  | fuel + 1, s =>
      match s.dropLapsed with
      | .error e => ⟨s.produced.reverse, some e⟩
      | .ok s =>
          match s.step with
          | .error e => ⟨s.produced.reverse.take s.firstHeld, some e⟩
          | .ok (s, true) => ⟨s.produced.reverse, none⟩
          | .ok (s, false) => run fuel s

end Scanner

/-- Passes a byte order mark. -/
def skipMark (cs : List Char) : Cursor :=
  match cs with
  | '\uFEFF' :: rest => { rest := rest, index := 1 }
  | cs => { rest := cs }

/-- The tokens of a text. A character that YAML does not allow spoils the whole text. -/
def tokens (cs : List Char) : Tokens :=
  if cs.all isPrintable then Scanner.run (cs.length + 2) { cursor := skipMark cs }
  else ⟨[], some .malformed⟩

end NoteCheck.Yaml
