import NoteCheck.Disk.Locate

/-!
# Paths with their symbolic links resolved

`Tree.realPath` resolves a path without asking that it names anything: a name that is not there
stands for itself. Links are resolved from left to right, each of them once. A link that is met
while it is itself being resolved closes a loop; then everything from there on stays as it is
written, links included, and only `.` and `..` are removed from it.
-/

namespace NoteCheck

/-- A path from the root without `.`, `..` and empty names. The root is written with two slashes if
`doubled`. -/
structure RealPath where
  doubled : Bool := false
  names : List String
deriving DecidableEq, Repr

namespace RealPath

/-- The text of a resolved path. -/
def text (p : RealPath) : String :=
  (if p.doubled then "//" else "/") ++ "/".intercalate p.names

/-- Whether a path that is cut into these pieces begins with exactly two slashes. -/
def startsDoubled : List String → Bool
  | "" :: "" :: "" :: _ :: _ => false
  | "" :: "" :: _ :: _ => true
  | _ => false

/-- Takes one step by a piece of a path, as it is written. -/
def step (names : List String) (piece : String) : List String :=
  if piece = "" || piece = "." then names
  else if piece = ".." then names.dropLast
  else names ++ [piece]

/-- Goes on from a path by further pieces, as they are written. Pieces that start at the root
replace the path. -/
def follow (p : RealPath) (rest : List String) : RealPath :=
  if rest.head? = some "" && 1 < rest.length then ⟨startsDoubled rest, rest.foldl step []⟩
  else { p with names := rest.foldl step p.names }

/-- Whether a path is another one or lies below it, by their texts. -/
def isWithin (p outer : RealPath) : Bool :=
  p.text = outer.text || (outer.text ++ "/").toList.isPrefixOf p.text.toList

end RealPath

/-- What a resolution has come to. -/
structure Resolution where
  path : RealPath
  /-- Whether no loop was met. -/
  settled : Bool
  /-- The links met so far, with what they resolve to; nothing for one that is being resolved. -/
  links : List (Place × Option Place)

namespace Tree

/-- The target of the link at a place. -/
def linkAt? (t : Tree) (place : Place) : Option String :=
  match t.at? place with
  | some (.link target) => some target
  | _ => none

/-- Resolves the pieces of a path from `here`; a link that has not been met is resolved by
`resolve`. -/
def realPathVia (t : Tree)
    (resolve : Place → List String → List (Place × Option Place) → Except Fault Resolution) :
    (here : Place) → List String → List (Place × Option Place) → Except Fault Resolution
  | here, [], links => .ok ⟨⟨false, here⟩, true, links⟩
  | here, name :: rest, links =>
      if name = "" || name = "." then realPathVia t resolve here rest links
      else if name = ".." then realPathVia t resolve here.dropLast rest links
      else if name.toList.contains '\x00' then .error .zeroInPath
      else
        let place := here ++ [name]
        match t.linkAt? place with
        | none => realPathVia t resolve place rest links
        | some target =>
            match (links.find? (·.1 = place)).map (·.2) with
            | some (some resolved) => realPathVia t resolve resolved rest links
            | some none => .ok ⟨RealPath.follow ⟨false, place⟩ rest, false, links⟩
            | none => do
                let r ← resolve (if Path.isAbsolute target then [] else here) (Path.pieces target)
                  ((place, none) :: links)
                if r.settled then
                  realPathVia t resolve r.path.names rest ((place, some r.path.names) :: r.links)
                else return { r with path := r.path.follow rest }

/-- Resolves the pieces of a path; links are nested at most `depth` deep. -/
def realPathFrom (t : Tree) : (depth : Nat) → Place → List String →
    List (Place × Option Place) → Except Fault Resolution
  | 0 => realPathVia t fun _ _ _ => .error (.access .tooManyLinks)
  | depth + 1 => realPathVia t (realPathFrom t depth)

mutual

/-- The number of symbolic links in an entry. -/
def countLinks : Entry → Nat
  | .file _ _ => 0
  | .link _ => 1
  | .dir children => countLinksIn children

/-- The number of symbolic links in a directory. -/
def countLinksIn : List (String × Entry) → Nat
  | [] => 0
  | (_, e) :: rest => countLinks e + countLinksIn rest

end

/-- A path with its links resolved. No link is resolved inside itself, so they nest no deeper than
there are links. -/
def realPath (t : Tree) (path : String) : Except Fault RealPath := do
  let start := if Path.isAbsolute path then [] else workingPlace
  let r ← realPathFrom t (countLinksIn t + 1) start (Path.pieces path) []
  return r.path

end Tree

end NoteCheck
