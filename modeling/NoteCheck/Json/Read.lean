import NoteCheck.Number.Decimal
import NoteCheck.Value.Same

/-!
# Reading JSON

The grammar is the strict one, with three words more for the infinities and for what is not a
number. A number without fraction and exponent is an integer of any size up to the longest numeral;
every other number is a double. Of two equal keys in an object the later value counts, in the place
of the first.

The readers below take a text and give what they read and the rest of the text. Each of them passes
at least one character, so the length of the text bounds the depth of their recursion.
-/

namespace NoteCheck.Json

/-- Why a text yields no value. -/
inductive Trouble where
  | malformed
  | numeralTooLong
deriving DecidableEq, Repr

/-- Passes white space. -/
def skipBlanks (cs : List Char) : List Char :=
  cs.dropWhile fun c => c = ' ' || c = '\t' || c = '\n' || c = '\r'

/-- The value of four hexadecimal digits at the front of a text. -/
def hexUnit? : List Char → Option (Nat × List Char)
  | a :: b :: c :: d :: rest =>
      let digit? (x : Char) : Option Nat := if x.toNat < 128 then Text.digitIn x else none
      match digit? a, digit? b, digit? c, digit? d with
      | some a, some b, some c, some d =>
          if a < 16 && b < 16 && c < 16 && d < 16 then
            some (((a * 16 + b) * 16 + c) * 16 + d, rest)
          else none
      | _, _, _, _ => none
  | _ => none

/-- The character of the escape whose first four digits gave `unit`, two such escapes together
giving one beyond the first plane. A surrogate that stays alone becomes the replacement character.
-/
def unitChar (unit : Nat) (rest : List Char) : Char × List Char :=
  if 0xD800 ≤ unit && unit ≤ 0xDBFF then
    match rest with
    | '\\' :: 'u' :: more =>
        match hexUnit? more with
        | some (low, rest') =>
            if 0xDC00 ≤ low && low ≤ 0xDFFF then
              (Char.ofNat (0x10000 + (unit - 0xD800) * 0x400 + (low - 0xDC00)), rest')
            else ('\uFFFD', rest)
        | none => ('\uFFFD', rest)
    | _ => ('\uFFFD', rest)
  else if 0xDC00 ≤ unit && unit ≤ 0xDFFF then ('\uFFFD', rest)
  else (Char.ofNat unit, rest)

/-- The character that a letter after a backslash stands for. -/
def shortEscape? : Char → Option Char
  | '"' => some '"'
  | '\\' => some '\\'
  | '/' => some '/'
  | 'b' => some '\x08'
  | 'f' => some '\x0c'
  | 'n' => some '\n'
  | 'r' => some '\r'
  | 't' => some '\t'
  | _ => none

/-- Reads the rest of a string; `read` is what has been read, the last character first. -/
def readString : (fuel : Nat) → (read : List Char) → List Char → Option (List Char × List Char)
  | 0, _, _ => none
  | _ + 1, _, [] => none
  | fuel + 1, read, c :: cs =>
      if c = '"' then some (read.reverse, cs)
      else if c = '\\' then
        match cs with
        | 'u' :: cs =>
            match hexUnit? cs with
            | some (unit, cs) =>
                let (x, cs) := unitChar unit cs
                readString fuel (x :: read) cs
            | none => none
        | e :: cs =>
            match shortEscape? e with
            | some x => readString fuel (x :: read) cs
            | none => none
        | [] => none
      else if c.toNat < 32 then none
      else readString fuel (c :: read) cs

/-- Takes the ASCII digits at the front of a text. -/
def takeDigits (cs : List Char) : List Char × List Char :=
  (cs.takeWhile Text.isAsciiDigit, cs.dropWhile Text.isAsciiDigit)

/-- Takes a point and digits off the front of a text, if they stand there. -/
def takeFraction : List Char → List Char × List Char
  | '.' :: cs =>
      match takeDigits cs with
      | ([], _) => ([], '.' :: cs)
      | (digits, rest) => ('.' :: digits, rest)
  | cs => ([], cs)

/-- Takes an exponent off the front of a text, if one stands there. -/
def takeExponent (cs : List Char) : List Char × List Char :=
  match cs with
  | e :: rest =>
      if e = 'e' || e = 'E' then
        let (sign, rest) := match rest with
          | '+' :: rest => (['+'], rest)
          | '-' :: rest => (['-'], rest)
          | rest => ([], rest)
        match takeDigits rest with
        | ([], _) => ([], cs)
        | (digits, rest) => (e :: sign ++ digits, rest)
      else ([], cs)
  | [] => ([], cs)

/-- Reads a number without its sign. -/
def readNumber (negative : Bool) (cs : List Char) : Except Trouble (Value × List Char) :=
  let whole := match cs with
    | '0' :: rest => (['0'], rest)
    | rest => takeDigits rest
  match whole with
  | ([], _) => .error .malformed
  | (digits, rest) =>
      let (fraction, rest) := takeFraction rest
      let (exponent, rest) := takeExponent rest
      let sign := if negative then ['-'] else []
      if fraction.isEmpty && exponent.isEmpty then
        match Text.readInt? 10 (sign ++ digits) with
        | some i => .ok (.int i, rest)
        | none => .error .numeralTooLong
      else
        match Decimal.read? (sign ++ digits ++ fraction ++ exponent) with
        | some x => .ok (.float x, rest)
        | none => .error .malformed

/-- The words that stand for values. -/
def words : List (String × Value) :=
  [("null", .null), ("true", .bool true), ("false", .bool false), ("NaN", .float Binary64.nan),
   ("Infinity", .float (Binary64.infinity false)), ("-Infinity", .float (Binary64.infinity true))]

/-- Reads a word or a number. -/
def readPlain (cs : List Char) : Except Trouble (Value × List Char) :=
  match words.find? fun (word, _) => word.toList.isPrefixOf cs with
  | some (word, v) => .ok (v, cs.drop word.toList.length)
  | none =>
      match cs with
      | '-' :: rest => readNumber true rest
      | rest => readNumber false rest

mutual

/-- Reads a value. -/
def readValue : (fuel : Nat) → List Char → Except Trouble (Value × List Char)
  | 0, _ => .error .malformed
  | fuel + 1, cs =>
      match cs with
      | '"' :: rest =>
          match readString (rest.length + 1) [] rest with
          | some (s, rest) => .ok (.text (String.ofList s), rest)
          | none => .error .malformed
      | '[' :: rest =>
          match skipBlanks rest with
          | ']' :: rest => .ok (.list [], rest)
          | rest => readItems fuel [] rest
      | '\x7b' :: rest =>
          match skipBlanks rest with
          | '\x7d' :: rest => .ok (.map [], rest)
          | rest => readMembers fuel [] rest
      | cs => readPlain cs

/-- Reads the items of an array from the next one on; `read` are those before, the last one first.
-/
def readItems : (fuel : Nat) → (read : List Value) → List Char → Except Trouble (Value × List Char)
  | 0, _, _ => .error .malformed
  | fuel + 1, read, cs => do
      let (v, rest) ← readValue fuel cs
      match skipBlanks rest with
      | ']' :: rest => return (.list (v :: read).reverse, rest)
      | ',' :: rest => readItems fuel (v :: read) (skipBlanks rest)
      | _ => .error .malformed

/-- Reads the members of an object from the next one on; `read` are those before. -/
def readMembers : (fuel : Nat) → (read : List (Value × Value)) → List Char →
    Except Trouble (Value × List Char)
  | 0, _, _ => .error .malformed
  | fuel + 1, read, cs =>
      match cs with
      | '"' :: rest =>
          match readString (rest.length + 1) [] rest with
          | none => .error .malformed
          | some (key, rest) =>
              match skipBlanks rest with
              | ':' :: rest => do
                  let (v, rest) ← readValue fuel (skipBlanks rest)
                  let read := Value.insert (.text (String.ofList key)) v read
                  match skipBlanks rest with
                  | '\x7d' :: rest => return (.map read, rest)
                  | ',' :: rest => readMembers fuel read (skipBlanks rest)
                  | _ => .error .malformed
              | _ => .error .malformed
      | _ => .error .malformed

end

/-- The value that a text describes. -/
def read (cs : List Char) : Except Trouble Value := do
  let (v, rest) ← readValue (cs.length + 1) (skipBlanks cs)
  if (skipBlanks rest).isEmpty then return v else .error .malformed

end NoteCheck.Json
