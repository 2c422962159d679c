import NoteCheck.Text.Digit
import NoteCheck.Text.Split

/-!
# Tags and the implicit types of plain scalars

The type of a node is its tag. A plain scalar without one gets it from its text (`Tag.ofPlain`): the
forms below are tried in order, and a text that fits none is a string. Every form may be followed by
one line feed.
-/

namespace NoteCheck.Yaml

/-- The tags that have a meaning; every other one is `unknown`. -/
inductive Tag where
  | null
  | bool
  | int
  | float
  | binary
  | timestamp
  | omap
  | pairs
  | set
  | str
  | seq
  | map
  | merge
  | value
  | unknown
deriving DecidableEq, Repr, Inhabited

namespace Tag

/-- What all tags of the language begin with. -/
def stem : List Char := "tag:yaml.org,2002:".toList

/-- The tags and their last parts. -/
def named : List (String × Tag) :=
  [("null", null), ("bool", bool), ("int", int), ("float", float), ("binary", binary),
   ("timestamp", timestamp), ("omap", omap), ("pairs", pairs), ("set", set), ("str", str),
   ("seq", seq), ("map", map), ("merge", merge), ("value", value)]

/-- The tag that is written out in full. -/
def ofText (cs : List Char) : Tag :=
  if stem.isPrefixOf cs then
    match named.find? fun (name, _) => name.toList = cs.drop stem.length with
    | some (_, t) => t
    | none => unknown
  else unknown

/-! ## Forms of plain scalars -/

/-- The words for truth values. -/
def boolWords : List String :=
  ["yes", "Yes", "YES", "no", "No", "NO", "true", "True", "TRUE", "false", "False", "FALSE",
   "on", "On", "ON", "off", "Off", "OFF"]

/-- Whether a text is one of these words. -/
def isWord (words : List String) (cs : List Char) : Bool :=
  words.any (·.toList = cs)

/-- Drops a sign. -/
def dropSign : List Char → List Char
  | '+' :: cs => cs
  | '-' :: cs => cs
  | cs => cs

/-- Whether a character is a digit or an underscore. -/
def isDigitOrBar (c : Char) : Bool :=
  Text.isAsciiDigit c || c == '_'

/-- Whether a text is a digit that satisfies `first` and then digits and underscores. -/
def isDigits (first : Char → Bool) : List Char → Bool
  | c :: cs => first c && cs.all isDigitOrBar
  | [] => false

/-- Whether a text is a number below sixty of one or two digits. -/
def isSixtieth : List Char → Bool
  | [c] => Text.isAsciiDigit c
  | [c, d] => '0' ≤ c && c ≤ '5' && Text.isAsciiDigit d
  | _ => false

/-- Whether a text is nothing, or the letter E, a sign and digits. -/
def isExponent : List Char → Bool
  | [] => true
  | e :: s :: cs =>
      (e == 'e' || e == 'E') && (s == '+' || s == '-') && !cs.isEmpty && cs.all Text.isAsciiDigit
  | _ => false

/-- Whether a text is digits and underscores and then perhaps an exponent. -/
def isFraction (cs : List Char) : Bool :=
  isExponent (cs.dropWhile isDigitOrBar)

/-- Whether a text has the form of a number with a point. -/
def isFloat (cs : List Char) : Bool :=
  let unsigned := dropSign cs
  isWord [".nan", ".NaN", ".NAN"] cs || isWord [".inf", ".Inf", ".INF"] unsigned ||
    (match cs with
      | '.' :: d :: rest => Text.isAsciiDigit d && isFraction rest
      | _ => false) ||
    match Text.cutFirst? '.' unsigned with
    | some (whole, fraction) =>
        (isDigits Text.isAsciiDigit whole && isFraction fraction) ||
          (match Text.cut ':' whole with
            | first :: rest =>
                !rest.isEmpty && isDigits Text.isAsciiDigit first && rest.all isSixtieth &&
                  fraction.all isDigitOrBar
            | [] => false)
    | none => false

/-- Whether a text has the form of an integer. -/
def isInt (cs : List Char) : Bool :=
  let positive := fun c : Char => '1' ≤ c && c ≤ '9'
  match dropSign cs with
  | ['0'] => true
  | '0' :: 'b' :: rest => !rest.isEmpty && rest.all fun c => c == '0' || c == '1' || c == '_'
  | '0' :: 'x' :: rest =>
      !rest.isEmpty && rest.all fun c =>
        Text.isAsciiDigit c || ('a' ≤ c && c ≤ 'f') || ('A' ≤ c && c ≤ 'F') || c == '_'
  | '0' :: rest => rest.all fun c => ('0' ≤ c && c ≤ '7') || c == '_'
  | unsigned =>
      match Text.cut ':' unsigned with
      | first :: rest => isDigits positive first && rest.all isSixtieth
      | [] => false

/-- Removes between one and two digits from the front, as many as there are. -/
def dropOneOrTwo? (cs : List Char) : Option (List Char) :=
  match cs with
  | c :: d :: rest =>
      if Text.isAsciiDigit c then some (if Text.isAsciiDigit d then rest else d :: rest) else none
  | [c] => if Text.isAsciiDigit c then some [] else none
  | [] => none

/-- Removes `count` digits from the front. -/
def dropDigits? : (count : Nat) → List Char → Option (List Char)
  | 0, cs => some cs
  | count + 1, c :: cs => if Text.isAsciiDigit c then dropDigits? count cs else none
  | _ + 1, [] => none

/-- Removes a character from the front. -/
def dropMark? (mark : Char) : List Char → Option (List Char)
  | c :: cs => if c = mark then some cs else none
  | [] => none

/-- Whether a text is nothing or a zone, perhaps with blanks before it. -/
def isZone (cs : List Char) : Bool :=
  cs.isEmpty ||
    match cs.dropWhile fun c => c == ' ' || c == '\t' with
    | ['Z'] => true
    | c :: rest =>
        (c == '+' || c == '-') &&
          (match dropOneOrTwo? rest with
            | some [] => true
            | some (':' :: minutes) => dropDigits? 2 minutes == some []
            | _ => false)
    | [] => false

/-- Removes a point and the digits behind it, if a point stands there. -/
def dropFraction : List Char → List Char
  | '.' :: cs => cs.dropWhile Text.isAsciiDigit
  | cs => cs

/-- Whether a text is a separator, a time of day and perhaps a zone. -/
def isTimePart (cs : List Char) : Bool :=
  let separated := match cs with
    | 'T' :: rest => some rest
    | 't' :: rest => some rest
    | c :: rest =>
        if c == ' ' || c == '\t' then some (rest.dropWhile fun c => c == ' ' || c == '\t') else none
    | [] => none
  let clock := do
    let cs ← dropOneOrTwo? (← separated)
    let cs ← dropDigits? 2 (← dropMark? ':' cs)
    dropDigits? 2 (← dropMark? ':' cs)
  match clock with
  | some rest => isZone (dropFraction rest)
  | none => false

/-- Removes a year, a month and a day from the front, the last two of one or two digits. -/
def dropLooseDay? (cs : List Char) : Option (List Char) := do
  let cs ← dropDigits? 4 cs
  let cs ← dropOneOrTwo? (← dropMark? '-' cs)
  dropOneOrTwo? (← dropMark? '-' cs)

/-- Removes a year of four digits, a month and a day of two from the front. -/
def dropStrictDay? (cs : List Char) : Option (List Char) := do
  let cs ← dropDigits? 4 cs
  let cs ← dropDigits? 2 (← dropMark? '-' cs)
  dropDigits? 2 (← dropMark? '-' cs)

/-- Whether a text has the form of a day or of a moment. -/
def isTimestamp (cs : List Char) : Bool :=
  dropStrictDay? cs == some [] ||
    match dropLooseDay? cs with
    | some rest => isTimePart rest
    | none => false

/-- Drops one line feed at the end. -/
def dropLineFeed (cs : List Char) : List Char :=
  if cs.getLast? = some '\n' then cs.dropLast else cs

/-- The tag of a plain scalar without one. -/
def ofPlain (cs : List Char) : Tag :=
  let body := dropLineFeed cs
  if cs.isEmpty || isWord ["~", "null", "Null", "NULL"] body then null
  else if isWord boolWords body then bool
  else if isFloat body then float
  else if isInt body then int
  else if isWord ["<<"] body then merge
  else if isTimestamp body then timestamp
  else if isWord ["="] body then value
  else if isWord ["!", "&", "*"] body then unknown
  else str

end Tag

end NoteCheck.Yaml
