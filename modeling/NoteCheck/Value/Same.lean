import NoteCheck.Value.Basic

/-!
# When two values are the same

`Value.same` compares by meaning. Truth values count as the integers 0 and 1, integers and doubles
are compared exactly, moments with an offset are compared in universal time, and maps and sets are
compared without regard to order. What is not a number is the same as nothing.
-/

namespace NoteCheck.Value

/-- The number that a value stands for in a comparison. -/
def number? : Value → Option (Int ⊕ Binary64)
  | bool b => some (.inl (if b then 1 else 0))
  | int i => some (.inl i)
  | float x => some (.inr x)
  | _ => none

/-- Whether two numbers have the same value. -/
def sameNumber : Int ⊕ Binary64 → Int ⊕ Binary64 → Bool
  | .inl i, .inl j => i == j
  | .inl i, .inr y => y.eqInt i
  | .inr x, .inl j => x.eqInt j
  | .inr x, .inr y => x.eqValue y

/-- Whether two values without members are the same. -/
def sameAtom (v w : Value) : Bool :=
  match v.number?, w.number? with
  | some m, some n => sameNumber m n
  | none, none => match v, w with
    | null, null => true
    | text s, text t => s == t
    | bytes a, bytes b => a == b
    | date d, date e => d == e
    | timestamp s, timestamp t => s.same t
    | cycle m, cycle n => m == n
    | _, _ => false
  | _, _ => false

mutual

/-- Whether two values are the same. -/
def same : Value → Value → Bool
  | list xs, list ys => sameItems xs ys
  | tuple xs, tuple ys => sameItems xs ys
  | set xs, set ys => xs.length == ys.length && allAmong xs ys
  | map xs, map ys => xs.length == ys.length && allEntriesAmong xs ys
  | v, w => sameAtom v w

/-- Whether two lists have the same values in the same order. -/
def sameItems : List Value → List Value → Bool
  | [], [] => true
  | x :: xs, y :: ys => same x y && sameItems xs ys
  | _, _ => false

/-- Whether each value of a list is the same as one of `ys`. -/
def allAmong : List Value → List Value → Bool
  | [], _ => true
  | x :: xs, ys => ys.any (same x) && allAmong xs ys

/-- Whether each entry of a list has the same key and the same value as one of `ys`. -/
def allEntriesAmong : List (Value × Value) → List (Value × Value) → Bool
  | [], _ => true
  | x :: xs, ys => ys.any (sameEntry x) && allEntriesAmong xs ys

/-- Whether two entries have the same key and the same value. -/
def sameEntry : Value × Value → Value × Value → Bool
  | (k, v), (l, w) => same k l && same v w

end

/-- The value of the first entry whose key is the same as `key`. -/
def lookup (key : Value) (entries : List (Value × Value)) : Option Value :=
  (entries.find? fun entry => same key entry.1).map (·.2)

/-- Sets the value of a key: in place if the key is there, else at the end. -/
def insert (key value : Value) : List (Value × Value) → List (Value × Value)
  | [] => [(key, value)]
  | (k, v) :: rest => if same k key then (k, value) :: rest else (k, v) :: insert key value rest


end NoteCheck.Value
