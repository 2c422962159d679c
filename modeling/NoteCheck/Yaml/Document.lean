import NoteCheck.Yaml.Node
import NoteCheck.Yaml.Cursor
import NoteCheck.Yaml.Stream

/-!
# From tokens to a node graph

`document?` reads the one document that a text may hold. The grammar is that of YAML 1.1 with two
liberties: a sequence may stand as a value at the column of its mapping (its entries then have no
brackets of indentation around them), and in a bracketed sequence `a: b` is a mapping of one pair.
What is missing before or behind a colon, or behind a hyphen, is an empty plain scalar.

Each function of the grammar may be called `fuel` deep. A call passes at least one token within two
levels, so twice the number of tokens is enough.
-/

namespace NoteCheck.Yaml

/-- The state of the reading. -/
structure Draft where
  /-- The tokens that are left. -/
  tokens : List Token
  /-- The trouble that is met behind them. -/
  trouble : Trouble
  nodes : Graph := #[]
  /-- The nodes by anchor. -/
  anchors : List (List Char × Nat) := []
  /-- The expansions of tag handles. -/
  handles : List (List Char × List Char) := []

/-- A step of the reading. -/
abbrev Reader := StateT Draft (Except Trouble)

namespace Reader

/-- Fails: the tokens do not follow the grammar. -/
def malformed {α : Type} : Reader α :=
  throw .malformed

/-- The next token. -/
def peek : Reader Token := do
  let d ← get
  match d.tokens with
  | t :: _ => return t
  | [] => throw d.trouble

/-- Passes the next token. -/
def pop : Reader Token := do
  let t ← peek
  modify fun d => { d with tokens := d.tokens.drop 1 }
  return t

/-- Adds a node. -/
def add (x : Node) : Reader Nat := do
  let d ← get
  set { d with nodes := d.nodes.push x }
  return d.nodes.size

/-- Adds an empty plain scalar. -/
def addEmpty : Reader Nat :=
  add ⟨.null, .scalar []⟩

/-- Gives the content of a node that was added before. -/
def fill (n : Nat) (c : Content) : Reader Unit :=
  modify fun d => { d with nodes := d.nodes.fill n c }

/-- What stands before a node: its anchor and its tag as written, both of them or either. -/
structure Properties where
  anchor : Option (List Char) := none
  tag : Option (Option (List Char) × List Char) := none

/-- Reads the anchor and the tag before a node, in either order. -/
def properties : Reader Properties := do
  match ← peek with
  | .anchor a => do
      let _ ← pop
      match ← peek with
      | .tag handle suffix => do
          let _ ← pop
          return ⟨some a, some (handle, suffix)⟩
      | _ => return ⟨some a, none⟩
  | .tag handle suffix => do
      let _ ← pop
      match ← peek with
      | .anchor a => do
          let _ ← pop
          return ⟨some a, some (handle, suffix)⟩
      | _ => return ⟨none, some (handle, suffix)⟩
  | _ => return {}

/-- The full text of a tag, none if it is missing or the single mark that leaves the type open. -/
def expand (p : Properties) : Reader (Option (List Char)) := do
  let text ← match p.tag with
    | none => return none
    | some (none, suffix) => pure suffix
    | some (some handle, suffix) => do
        match (← get).handles.lookup handle with
        | some expansion => pure (expansion ++ suffix)
        | none => malformed
  return if text = ['!'] then none else some text

/-- Adds a node with its properties. An anchor may be given once. -/
def addNamed (anchor : Option (List Char)) (x : Node) : Reader Nat := do
  match anchor with
  | none => add x
  | some a => do
      if ((← get).anchors.lookup a).isSome then malformed
      let n ← add x
      modify fun d => { d with anchors := (a, n) :: d.anchors }
      return n

/-- The tag of a collection. -/
def collectionTag (text : Option (List Char)) (default : Tag) : Tag :=
  match text with
  | some t => Tag.ofText t
  | none => default

/-- The tag of a scalar. One whose type is left open gets it from its text, if it is written plain
or if a single mark asks for it. -/
def scalarTag (text : Option (List Char)) (open_ : Bool) (s : List Char) : Tag :=
  match text with
  | some t => Tag.ofText t
  | none => if open_ then Tag.ofPlain s else .str

mutual

/-- Reads a node. `block` tells whether a block collection may stand here, `indentless` whether a
sequence without indentation of its own may. -/
def node : (fuel : Nat) → (block indentless : Bool) → Reader Nat
  | 0, _, _ => malformed
  | fuel + 1, block, indentless => do
      match ← peek with
      | .alias a => do
          let _ ← pop
          match (← get).anchors.lookup a with
          | some n => return n
          | none => malformed
      | _ => do
          let p ← properties
          let tag ← expand p
          let sequence : Reader Nat :=
            addNamed p.anchor ⟨collectionTag tag .seq, .sequence []⟩
          let mapping : Reader Nat :=
            addNamed p.anchor ⟨collectionTag tag .map, .mapping []⟩
          match ← peek with
          | .blockEntry => do
              if indentless then
                let n ← sequence
                fill n (.sequence (← indentlessEntries fuel []))
                return n
              else emptyNode p tag
          | .scalar s plain => do
              let _ ← pop
              let open_ := if p.tag.isSome then true else plain
              addNamed p.anchor ⟨scalarTag tag open_ s, .scalar s⟩
          | .flowSequenceStart => do
              let _ ← pop
              let n ← sequence
              fill n (.sequence (← flowEntries fuel true []))
              return n
          | .flowMappingStart => do
              let _ ← pop
              let n ← mapping
              fill n (.mapping (← flowPairs fuel true []))
              return n
          | .blockSequenceStart => do
              if block then
                let _ ← pop
                let n ← sequence
                fill n (.sequence (← blockEntries fuel []))
                return n
              else emptyNode p tag
          | .blockMappingStart => do
              if block then
                let _ ← pop
                let n ← mapping
                fill n (.mapping (← blockPairs fuel []))
                return n
              else emptyNode p tag
          | _ => emptyNode p tag

/-- A node of which only the properties are there. -/
def emptyNode (p : Properties) (tag : Option (List Char)) : Reader Nat :=
  if p.anchor.isSome || p.tag.isSome then
    addNamed p.anchor ⟨scalarTag tag true [], .scalar []⟩
  else malformed

/-- Reads the entries of a block sequence and its end. -/
def blockEntries : (fuel : Nat) → (items : List Nat) → Reader (List Nat)
  | 0, _ => malformed
  | fuel + 1, items => do
      match ← pop with
      | .blockEntry => do
          let n ← match ← peek with
            | .blockEntry | .blockEnd => addEmpty
            | _ => node fuel true false
          blockEntries fuel (items ++ [n])
      | .blockEnd => return items
      | _ => malformed

/-- Reads the entries of a sequence that has no indentation of its own. -/
def indentlessEntries : (fuel : Nat) → (items : List Nat) → Reader (List Nat)
  | 0, _ => malformed
  | fuel + 1, items => do
      match ← peek with
      | .blockEntry => do
          let _ ← pop
          let n ← match ← peek with
            | .blockEntry | .key | .value | .blockEnd => addEmpty
            | _ => node fuel true false
          indentlessEntries fuel (items ++ [n])
      | _ => return items

/-- Reads the pairs of a block mapping and its end. -/
def blockPairs : (fuel : Nat) → (pairs : List (Nat × Nat)) → Reader (List (Nat × Nat))
  | 0, _ => malformed
  | fuel + 1, pairs => do
      match ← peek with
      | .key => do
          let _ ← pop
          let k ← match ← peek with
            | .key | .value | .blockEnd => addEmpty
            | _ => node fuel true true
          let v ← blockValue fuel
          blockPairs fuel (pairs ++ [(k, v)])
      | .blockEnd => do
          let _ ← pop
          return pairs
      | _ => malformed

/-- Reads the value of a pair of a block mapping. -/
def blockValue : (fuel : Nat) → Reader Nat
  | 0 => malformed
  | fuel + 1 => do
      match ← peek with
      | .value => do
          let _ ← pop
          match ← peek with
          | .key | .value | .blockEnd => addEmpty
          | _ => node fuel true true
      | _ => addEmpty

/-- Reads the entries of a bracketed sequence and its end. -/
def flowEntries : (fuel : Nat) → (first : Bool) → (items : List Nat) → Reader (List Nat)
  | 0, _, _ => malformed
  | fuel + 1, first, items => do
      match ← peek with
      | .flowSequenceEnd => do
          let _ ← pop
          return items
      | t => do
          if !first then
            if t = .flowEntry then let _ ← pop else malformed
          match ← peek with
          | .flowSequenceEnd => do
              let _ ← pop
              return items
          | .key => do
              let _ ← pop
              let n ← add ⟨.map, .mapping []⟩
              let k ← match ← peek with
                | .value | .flowEntry | .flowSequenceEnd => addEmpty
                | _ => node fuel false false
              let v ← flowValue fuel .flowSequenceEnd
              fill n (.mapping [(k, v)])
              flowEntries fuel false (items ++ [n])
          | _ => do
              let n ← node fuel false false
              flowEntries fuel false (items ++ [n])

/-- Reads the value of a pair within brackets that the given token closes. -/
def flowValue : (fuel : Nat) → (closing : Token) → Reader Nat
  | 0, _ => malformed
  | fuel + 1, closing => do
      match ← peek with
      | .value => do
          let _ ← pop
          let t ← peek
          if t = .flowEntry || t = closing then addEmpty else node fuel false false
      | _ => addEmpty

/-- Reads the pairs of a bracketed mapping and its end. -/
def flowPairs : (fuel : Nat) → (first : Bool) → (pairs : List (Nat × Nat)) →
    Reader (List (Nat × Nat))
  | 0, _, _ => malformed
  | fuel + 1, first, pairs => do
      match ← peek with
      | .flowMappingEnd => do
          let _ ← pop
          return pairs
      | t => do
          if !first then
            if t = .flowEntry then let _ ← pop else malformed
          match ← peek with
          | .flowMappingEnd => do
              let _ ← pop
              return pairs
          | .key => do
              let _ ← pop
              let k ← match ← peek with
                | .value | .flowEntry | .flowMappingEnd => addEmpty
                | _ => node fuel false false
              let v ← flowValue fuel .flowMappingEnd
              flowPairs fuel false (pairs ++ [(k, v)])
          | _ => do
              let k ← node fuel false false
              let v ← addEmpty
              flowPairs fuel false (pairs ++ [(k, v)])

end

/-! ## Documents -/

/-- The handles that are known without a directive. -/
def standardHandles : List (List Char × List Char) :=
  [(['!'], ['!']), (['!', '!'], Tag.stem)]

/-- Reads the directives before a document. The version may be named once and must begin with 1, and
a handle may be defined once. -/
def directives : (fuel : Nat) → (versioned : Bool) → (handles : List (List Char × List Char)) →
    Reader Unit
  | 0, _, _ => malformed
  | fuel + 1, versioned, handles => do
      match ← peek with
      | .directive d => do
          let _ ← pop
          match d with
          | .version major => do
              if versioned || major != 1 then malformed
              directives fuel true handles
          | .handle name expansion => do
              if (handles.lookup name).isSome then malformed
              directives fuel versioned ((name, expansion) :: handles)
          | .reserved => directives fuel versioned handles
      | _ => modify fun d => { d with handles := handles ++ standardHandles }

/-- Passes markers of the end of a document. -/
def skipEnds : (fuel : Nat) → Reader Unit
  | 0 => return ()
  | fuel + 1 => do
      match ← peek with
      | .documentEnd => do
          let _ ← pop
          skipEnds fuel
      | _ => return ()

/-- Reads the content of a document that a marker has started. -/
def startedContent (fuel : Nat) : Reader Nat := do
  match ← peek with
  | .directive _ | .documentStart | .documentEnd | .streamEnd => addEmpty
  | _ => node fuel true false

/-- Reads a document with its directives and the marker of its start. -/
def startedDocument (fuel : Nat) : Reader Nat := do
  directives fuel false []
  match ← peek with
  | .documentStart => do
      let _ ← pop
      startedContent fuel
  | _ => malformed

/-- Makes sure that no second document follows. -/
def noMore (fuel : Nat) : Reader Unit := do
  skipEnds fuel
  match ← peek with
  | .streamEnd => return ()
  | _ => do
      directives fuel false []
      malformed

/-- Reads the only document of a stream; none if the stream is empty. -/
def stream (fuel : Nat) : Reader (Option Nat) := do
  match ← peek with
  | .directive _ | .documentStart => do
      let n ← startedDocument fuel
      noMore fuel
      return some n
  | .streamEnd => return none
  | _ => do
      modify fun d => { d with handles := standardHandles }
      let n ← node fuel true false
      noMore fuel
      return some n

end Reader

/-- The nodes of a document and the node at its root. -/
structure Document where
  nodes : Graph
  root : Nat
deriving Repr

/-- The document that tokens describe; none if there are none. -/
def document? (ts : Tokens) : Except Trouble (Option Document) := do
  let draft : Draft := { tokens := ts.all, trouble := ts.trouble.getD .malformed }
  let (root, d) ← (Reader.stream (2 * ts.all.length + 4)).run draft
  return root.map fun n => ⟨d.nodes, n⟩

end NoteCheck.Yaml
