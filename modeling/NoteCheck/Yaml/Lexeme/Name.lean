import NoteCheck.Yaml.Cursor
import NoteCheck.Yaml.Token
import NoteCheck.Text.Numeral

/-!
# Anchors, aliases, tags and directives

The tokens that consist of names and locators. Each reader starts at the token's first character and
returns the token with the cursor behind it.
-/

namespace NoteCheck.Yaml

/-- The name of an anchor or alias, behind its mark. -/
def readAnchorName (c : Cursor) : Except Trouble (List Char × Cursor) :=
  let (name, c) := c.next.run isNameChar
  if name.isEmpty then .error .malformed
  else if isWideGap c.head || c.head.any (['?', ':', ',', ']', '}', '%', '@', '`'].contains ·) then
    .ok (name, c)
  else .error .malformed

/-! ## Tags -/

/-- Whether a character may stand in a tag or in the expansion of a handle. -/
def isLocatorChar (c : Char) : Bool :=
  ('0' ≤ c && c ≤ '9') || ('A' ≤ c && c ≤ 'Z') || ('a' ≤ c && c ≤ 'z') ||
    "-;/?:@&=+$,_.!~*'()[]%".toList.contains c

/-- The octets of the escapes at the cursor, each a percent sign and two hexadecimal digits. -/
def readEscapes : (fuel : Nat) → Cursor → List UInt8 → Except Trouble (List UInt8 × Cursor)
  | 0, c, octets => .ok (octets, c)
  | fuel + 1, c, octets =>
      if c.head == some '%' then
        match hexNumber? 2 0 (c.rest.drop 1) with
        | some n => readEscapes fuel (c.skip 3) (octets ++ [n.toUInt8])
        | none => .error .malformed
      else .ok (octets, c)

/-- The text that octets encode in UTF-8. -/
def decodeOctets? (octets : List UInt8) : Option (List Char) :=
  (String.fromUTF8? ⟨octets.toArray⟩).map String.toList

/-- Reads a locator; `read` holds what has been read of it. -/
def readLocatorFrom : (fuel : Nat) → Cursor → (read : List Char) →
    Except Trouble (List Char × Cursor)
  | 0, c, read => .ok (read, c)
  | fuel + 1, c, read =>
      match c.head with
      | none => .ok (read, c)
      | some x =>
          if x == '%' then do
            let (octets, c) ← readEscapes c.rest.length c []
            match decodeOctets? octets with
            | some text => readLocatorFrom fuel c (read ++ text)
            | none => .error .malformed
          else if isLocatorChar x then readLocatorFrom fuel c.next (read ++ [x])
          else .ok (read, c)

/-- Reads a locator of at least one character. -/
def readLocator (c : Cursor) : Except Trouble (List Char × Cursor) := do
  let (text, d) ← readLocatorFrom (c.rest.length + 1) c []
  if d.index = c.index then .error .malformed else .ok (text, d)

/-- Reads a tag handle: an exclamation mark, alone or with a name and another one. -/
def readHandle (c : Cursor) : Except Trouble (List Char × Cursor) :=
  if c.head != some '!' then .error .malformed
  else if c.peek 1 == some ' ' then .ok (['!'], c.next)
  else
    let (name, d) := c.next.run isNameChar
    if d.head == some '!' then .ok ('!' :: name ++ ['!'], d.next) else .error .malformed

/-- Whether a second exclamation mark stands in the word behind the first one. -/
def hasHandle (c : Cursor) : Bool :=
  (c.rest.drop 1).takeWhile (fun x => !isGap (some x)) |>.contains '!'

/-- Reads a tag. -/
def readTag (c : Cursor) : Except Trouble (Token × Cursor) := do
  let (token, c) ←
    if c.peek 1 == some '<' then do
      let (suffix, c) ← readLocator (c.skip 2)
      if c.head == some '>' then .ok (Token.tag none suffix, c.next) else .error .malformed
    else if isWideGap (c.peek 1) then .ok (Token.tag none ['!'], c.next)
    else do
      let (handle, c) ← if hasHandle c then readHandle c else .ok (['!'], c.next)
      let (suffix, c) ← readLocator c
      .ok (Token.tag (some handle) suffix, c)
  if isGap c.head then .ok (token, c) else .error .malformed

/-! ## Directives -/

/-- Reads a number of the version. -/
def readVersionNumber (c : Cursor) : Except Trouble (Nat × Cursor) :=
  let (digits, c) := c.run Text.isAsciiDigit
  if digits.isEmpty then .error .malformed
  else match Text.readNat? 10 digits with
    | some n => .ok (n, c)
    | none => .error (.fault .numeralTooLong)

/-- Reads the version: two numbers with a point between them. -/
def readVersion (c : Cursor) : Except Trouble (Directive × Cursor) := do
  let (major, c) ← readVersionNumber (c.skipRun (· == ' '))
  if c.head != some '.' then .error .malformed
  else
    let (_, c) ← readVersionNumber c.next
    if isGap c.head then .ok (.version major, c) else .error .malformed

/-- Reads a handle and its expansion. -/
def readExpansion (c : Cursor) : Except Trouble (Directive × Cursor) := do
  let (name, c) ← readHandle (c.skipRun (· == ' '))
  if c.head != some ' ' then .error .malformed
  else
    let (expansion, c) ← readLocator (c.skipRun (· == ' '))
    if isGap c.head then .ok (.handle name expansion, c) else .error .malformed

/-- Reads a directive up to the end of its line. -/
def readDirective (c : Cursor) : Except Trouble (Token × Cursor) := do
  let (name, c) := c.next.run isNameChar
  if name.isEmpty || !isGap c.head then .error .malformed
  else
    let (d, c) ←
      if name = "YAML".toList then readVersion c
      else if name = "TAG".toList then readExpansion c
      else .ok (Directive.reserved, c.skipRun (!isBreak ·))
    match c.endOfLine? with
    | some c => .ok (.directive d, c)
    | none => .error .malformed

end NoteCheck.Yaml
