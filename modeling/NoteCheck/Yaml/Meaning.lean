import NoteCheck.Value.Same
import NoteCheck.Yaml.Document
import NoteCheck.Yaml.Scalar

/-!
# From a node graph to values

The values of a document are built in rounds. Building a node of scalar type gives its value at
once. Building a collection only reserves it; its members are built later, in the order in which the
collections were reserved. So of two faults in a document the one that lies less deep shows, and of
two equally deep ones the first.

Before the members of a mapping are built its merge keys are resolved: the pairs of the merged
mappings go before its own. The graph is changed by this, which shows where a mapping is merged or
read in more than one place.

Last, the values are unfolded from the root, an occurrence of a collection inside itself becoming
`Value.cycle`.
-/

namespace NoteCheck.Yaml

/-- What a node has been built to. -/
inductive Built where
  | atom (v : Value)
  /-- What is not a number, named by its own word. -/
  | nan
  | list (items : List Nat)
  | pairs (items : List (Nat × Nat))
  | set (members : List Nat)
  | map (entries : List (Nat × Nat))
deriving Inhabited

/-- The state of the building. -/
structure Site where
  graph : Graph
  built : Array (Option Built)
  /-- The collections that are reserved and not yet filled, in order. -/
  queue : List Nat := []

namespace Site

/-- What a node has been built to so far. -/
def at? (s : Site) (n : Nat) : Option Built :=
  (s.built[n]?).join

/-- Notes what a node has been built to. -/
def note (s : Site) (n : Nat) (b : Built) : Site :=
  { s with built := s.built.setIfInBounds n (some b) }

/-! ## Merge keys -/

/-- Makes the default-value keys of a mapping ordinary strings. -/
def settleValueKeys (g : Graph) (pairs : List (Nat × Nat)) : Graph :=
  pairs.foldl (fun g (k, _) => if (g.node k).tag = .value then g.retag k .str else g) g

/-- The pairs of a mapping; none for other nodes. -/
def pairsOf? (g : Graph) (n : Nat) : Option (List (Nat × Nat)) :=
  match (g.node n).content with
  | .mapping pairs => some pairs
  | _ => none

/-- Resolves the merge keys of a mapping, `merged` being the pairs found so far. Each resolved key
is deleted before the mapping it names is looked at, so `merges` need only be as large as the number
of merge keys in the graph. -/
def flatten : (merges n : Nat) → (merged : List (Nat × Nat)) → Graph → Except Trouble Graph
  | merges, n, merged, g =>
      match pairsOf? g n with
      | none => .ok g
      | some pairs =>
          let g := settleValueKeys g pairs
          match pairs.findIdx? fun (k, _) => (g.node k).tag = .merge with
          | none => .ok (if merged.isEmpty then g else g.fill n (.mapping (merged ++ pairs)))
          | some i =>
              match merges with
              | 0 => .error .malformed
              | merges + 1 =>
                  let v := (pairs.getD i (0, 0)).2
                  let g := g.fill n (.mapping (pairs.eraseIdx i))
                  match (g.node v).content with
                  | .scalar _ => .error .malformed
                  | .mapping _ => do
                      let g ← flatten merges v [] g
                      flatten merges n (merged ++ (pairsOf? g v).getD []) g
                  | .sequence items => do
                      let (found, g) ← items.foldlM (fun (found, g) item =>
                        match (g.node item).content with
                        | .mapping _ => do
                            let g ← flatten merges item [] g
                            return ((pairsOf? g item).getD [] ++ found, g)
                        | _ => .error .malformed) (([] : List (Nat × Nat)), g)
                      flatten merges n (merged ++ found) g

/-- The number of pairs in a graph. -/
def countPairs (g : Graph) : Nat :=
  g.toList.foldl (fun n x => match x.content with
    | .mapping pairs => n + pairs.length
    | _ => n) 0

/-! ## Scalars -/

/-- The text of a node where a scalar is asked for: its own, or that of the default value of a
mapping. -/
def scalarText : (fuel : Nat) → Graph → Nat → Except Trouble (List Char)
  | 0, _, _ => .error (.fault .endless)
  | fuel + 1, g, n =>
      match (g.node n).content with
      | .scalar text => .ok text
      | .sequence _ => .error .malformed
      | .mapping pairs =>
          match pairs.find? fun (k, _) => (g.node k).tag = .value with
          | some (_, v) => scalarText fuel g v
          | none => .error .malformed

/-- What a node of scalar type is built to. -/
def buildAtom (g : Graph) (n : Nat) : Except Trouble Built := do
  let text ← scalarText (g.size + 1) g n
  match (g.node n).tag, (g.node n).content with
  | .timestamp, .mapping _ => .error (.fault .momentOfCollection)
  | .float, _ => if isNanWord text then .ok .nan else (scalarValue .float text).map .atom
  | tag, _ => (scalarValue tag text).map .atom

/-! ## Collections -/

/-- Builds a node, or reserves it if it is a collection. -/
def build (s : Site) (n : Nat) : Except Trouble Site :=
  match s.at? n with
  | some _ => .ok s
  | none =>
      let reserve (b : Built) : Except Trouble Site :=
        .ok { s.note n b with queue := s.queue ++ [n] }
      match (s.graph.node n).tag with
      | .seq => reserve (.list [])
      | .omap | .pairs => reserve (.pairs [])
      | .set => reserve (.set [])
      | .map => reserve (.map [])
      | .merge | .value | .unknown => .error .malformed
      | .null | .bool | .int | .float | .binary | .timestamp | .str => do
          let b ← buildAtom s.graph n
          return s.note n b

/-- The value of a node that has been built and can be a key. -/
def keyValue? (s : Site) (n : Nat) : Option Value :=
  match s.at? n with
  | some (.atom v) => some v
  | some .nan => some (.float Binary64.nan)
  | _ => none

/-- Whether two keys are one: the same node, the same value, or both what is not a number, named by
its own word. -/
def sameKey (s : Site) (m n : Nat) : Bool :=
  m == n ||
    match s.at? m, s.at? n with
    | some .nan, some .nan => true
    | some (.atom v), some (.atom w) => v.same w
    | _, _ => false

/-- Sets the value of a key: in place if the key is there, else at the end. -/
def insertKey (s : Site) (k v : Nat) : List (Nat × Nat) → List (Nat × Nat)
  | [] => [(k, v)]
  | (l, w) :: rest => if s.sameKey l k then (l, v) :: rest else (l, w) :: insertKey s k v rest

/-- Builds the pairs of a mapping one after the other. -/
def buildPairs (s : Site) (pairs : List (Nat × Nat)) :
    Except Trouble (Site × List (Nat × Nat)) :=
  pairs.foldlM (fun (s, entries) (k, v) => do
    let s ← s.build k
    if (s.keyValue? k).isNone then .error .malformed
    else
      let s ← s.build v
      return (s, s.insertKey k v entries)) (s, [])

/-- Resolves the merge keys of a mapping and builds its pairs. -/
def buildMapping (s : Site) (n : Nat) : Except Trouble (Site × List (Nat × Nat)) := do
  let g ← flatten (countPairs s.graph + 1) n [] s.graph
  match pairsOf? g n with
  | some pairs => buildPairs { s with graph := g } pairs
  | none => .error .malformed

/-- Builds a sequence of mappings of one pair each. -/
def buildSingles (s : Site) (items : List Nat) : Except Trouble (Site × List (Nat × Nat)) :=
  items.foldlM (fun (s, found) item =>
    match pairsOf? s.graph item with
    | some [(k, v)] => do
        let s ← s.build k
        let s ← s.build v
        return (s, found ++ [(k, v)])
    | _ => .error .malformed) (s, [])

/-- The items of a node that is a sequence. -/
def itemsOf? (g : Graph) (n : Nat) : Option (List Nat) :=
  match (g.node n).content with
  | .sequence items => some items
  | _ => none

/-- Fills a collection that was reserved. -/
def fill (s : Site) (n : Nat) : Except Trouble Site :=
  match s.at? n with
  | some (.list _) =>
      match itemsOf? s.graph n with
      | some items => do
          let s ← items.foldlM build s
          return s.note n (.list items)
      | none => .error .malformed
  | some (.pairs _) =>
      match itemsOf? s.graph n with
      | some items => do
          let (s, found) ← s.buildSingles items
          return s.note n (.pairs found)
      | none => .error .malformed
  | some (.set _) => do
      let (s, entries) ← s.buildMapping n
      return s.note n (.set (entries.map (·.1)))
  | some (.map _) => do
      let (s, entries) ← s.buildMapping n
      return s.note n (.map entries)
  | _ => .ok s

/-- Fills the reserved collections in order. Each node is reserved at most once. -/
def fillAll : (fuel : Nat) → Site → Except Trouble Site
  | 0, s => .ok s
  | fuel + 1, s =>
      match s.queue with
      | [] => .ok s
      | n :: rest => do
          let s ← { s with queue := rest }.fill n
          fillAll fuel s

/-! ## Unfolding -/

/-- The value of a node. `enclosing` lists the collections around it, the nearest one first; `none`
in it is a collection that is no node. -/
def unfold (s : Site) : (fuel : Nat) → (enclosing : List (Option Nat)) → Nat → Value
  | 0, _, _ => .null
  | fuel + 1, enclosing, n =>
      match enclosing.findIdx? (· == some n) with
      | some i => .cycle (i + 1)
      | none =>
          let inner := some n :: enclosing
          match s.at? n with
          | some (.atom v) => v
          | some .nan => .float Binary64.nan
          | some (.list items) => .list (items.map (unfold s fuel inner))
          | some (.pairs items) =>
              .list (items.map fun (k, v) =>
                .tuple [unfold s fuel (none :: inner) k, unfold s fuel (none :: inner) v])
          | some (.set members) => .set (members.map (unfold s fuel inner))
          | some (.map entries) =>
              .map (entries.map fun (k, v) => (unfold s fuel inner k, unfold s fuel inner v))
          | none => .null

/-- The value of a node by itself. -/
def value (s : Site) (n : Nat) : Value :=
  s.unfold (2 * s.graph.size + 2) [] n

end Site

/-- What a text holds: the entries of a mapping, or any other value. -/
inductive Loaded where
  | entries (es : List (Value × Value))
  | other (v : Value)
deriving Repr

/-- The value that a document describes. -/
def Document.load (d : Document) : Except Trouble Loaded := do
  let s : Site := { graph := d.nodes, built := Array.replicate d.nodes.size none }
  let s ← s.build d.root
  let s ← s.fillAll (d.nodes.size + 1)
  return match s.at? d.root with
    | some (.map entries) => .entries (entries.map fun (k, v) => (s.value k, s.value v))
    | _ => .other (s.value d.root)

/-- The value that a text describes; nothing if it holds no document. -/
def load (cs : List Char) : Except Trouble Loaded := do
  match ← document? (tokens cs) with
  | some d => d.load
  | none => return .other .null

end NoteCheck.Yaml
