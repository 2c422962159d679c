import NoteCheck.Number.Decimal
import NoteCheck.Text.Split
import NoteCheck.Value.Basic
import NoteCheck.Yaml.Base64
import NoteCheck.Yaml.Cursor
import NoteCheck.Yaml.Moment

/-!
# The values of scalars

`scalarValue` gives the value of a scalar of a given tag. For a plain scalar the tag follows from
the text; an explicit tag asks for the same reading of any text, and then it can fail.
-/

namespace NoteCheck.Yaml

/-- Takes a sign off a text: whether it is negative, and the rest. -/
def takeSign : List Char → Bool × List Char
  | '-' :: cs => (true, cs)
  | '+' :: cs => (false, cs)
  | cs => (false, cs)

/-- A result as it is, or a fault if there is none. -/
def orFault {α : Type} (cause : Fault) : Option α → Except Trouble α
  | some a => .ok a
  | none => .error (.fault cause)

/-- The number whose digits to the base sixty are given, the last one first. -/
def ofSixtieths : List Int → Int
  | [] => 0
  | d :: ds => d + 60 * ofSixtieths ds

/-- The integer that an unsigned text names: to the base 2, 16 or 8 if it starts so, to the base
sixty if it has colons, else to the base 10. -/
def readUnsignedInt (cs : List Char) : Except Trouble Int :=
  match cs with
  | [] => .error (.fault .emptyNumeral)
  | ['0'] => .ok 0
  | '0' :: 'b' :: rest => orFault .malformedNumeral (Text.readInt? 2 rest)
  | '0' :: 'x' :: rest => orFault .malformedNumeral (Text.readInt? 16 rest)
  | '0' :: _ => orFault .malformedNumeral (Text.readInt? 8 cs)
  | _ =>
      if cs.contains ':' then
        orFault .malformedNumeral
          (((Text.cut ':' cs).mapM (Text.readInt? 10)).map fun ds => ofSixtieths ds.reverse)
      else orFault .malformedNumeral (Text.readInt? 10 cs)

/-- The integer that a text names, underscores apart. -/
def readInteger (cs : List Char) : Except Trouble Int :=
  match cs.filter (· != '_') with
  | [] => .error (.fault .emptyNumeral)
  | digits => do
      let (negative, unsigned) := takeSign digits
      let n ← readUnsignedInt unsigned
      return if negative then -n else n

/-- The sum of doubles, each times a power of sixty, the last power first. The powers are exact
integers until they are multiplied; one beyond the doubles cannot be. -/
def sumSixtieths : (sum : Binary64) → (power : Nat) → List Binary64 → Except Trouble Binary64
  | sum, _, [] => .ok sum
  | sum, power, d :: ds => do
      let p ← orFault .beyondDouble (Binary64.ofInt? power)
      sumSixtieths (sum + d * p) (power * 60) ds

/-- The double that an unsigned text in small letters names. -/
def readUnsignedFloat (cs : List Char) : Except Trouble Binary64 :=
  if cs = ".inf".toList then .ok (Binary64.infinity false)
  else if cs = ".nan".toList then .ok Binary64.nan
  else if cs.contains ':' then do
    let parts ← orFault .malformedNumeral ((Text.cut ':' cs).mapM Decimal.read?)
    sumSixtieths (Binary64.zero false) 1 parts.reverse
  else orFault .malformedNumeral (Decimal.read? cs)

/-- The text of a double without underscores, in small letters. -/
def floatText (cs : List Char) : List Char :=
  Text.lower (cs.filter (· != '_'))

/-- The double that a text names, underscores apart. -/
def readFloat (cs : List Char) : Except Trouble Binary64 :=
  match floatText cs with
  | [] => .error (.fault .emptyNumeral)
  | text => do
      let (negative, unsigned) := takeSign text
      let x ← readUnsignedFloat unsigned
      return if negative then -x else x

/-- Whether a text names what is not a number by its own word. Two such scalars are one value, as
keys too, although no other two values that are not numbers are the same. -/
def isNanWord (cs : List Char) : Bool :=
  (takeSign (floatText cs)).2 == ".nan".toList

/-- The words for truth values and what they mean. -/
def truthValues : List (String × Bool) :=
  [("yes", true), ("no", false), ("true", true), ("false", false), ("on", true), ("off", false)]

/-- The truth value that a word names in any case. -/
def readBool (cs : List Char) : Except Trouble Bool :=
  match truthValues.find? fun (word, _) => word.toList = Text.lower cs with
  | some (_, b) => .ok b
  | none => .error (.fault .unknownTruthValue)

/-- The octets that a text of ASCII characters stands for. -/
def readBinary (cs : List Char) : Except Trouble (List UInt8) :=
  if cs.all (·.toNat < 128) then
    match Base64.decode? cs with
    | some octets => .ok octets
    | none => .error .malformed
  else .error .malformed

/-- The day or moment that a text names. -/
def readMomentValue (cs : List Char) : Except Trouble Value :=
  match readMoment cs with
  | .ok (.inl d) => .ok (.date d)
  | .ok (.inr t) => .ok (.timestamp t)
  | .error cause => .error (.fault cause)

/-- The value of a scalar. Collections, the merge key and the default value have none. -/
def scalarValue (tag : Tag) (cs : List Char) : Except Trouble Value :=
  match tag with
  | .null => .ok .null
  | .bool => (readBool cs).map .bool
  | .int => (readInteger cs).map .int
  | .float => (readFloat cs).map .float
  | .binary => (readBinary cs).map .bytes
  | .timestamp => readMomentValue cs
  | .str => .ok (.text (String.ofList cs))
  | .omap | .pairs | .set | .seq | .map | .merge | .value | .unknown => .error .malformed

end NoteCheck.Yaml
