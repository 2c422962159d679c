import NoteCheck.Text.Numeral
import NoteCheck.Text.Quoted
import NoteCheck.Text.Split
import NoteCheck.Vault.Name

/-!
# Options of the command line

An option may be shortened as long as it stays the beginning of only one option, and a value may
follow it as the next word or behind an equals sign. Two hyphens behind an equals sign are no word:
they leave the option with a list of no words for its value. Of a repeated option the last one
counts. A
word that is no option and no value is refused, as are two hyphens and all that follows them.

A shortened option that could be two is found before anything else; other faults are found from left
to right, and words that are left over last.
-/

namespace NoteCheck.CommandLine

open NoteCheck.Text

/-- The options. -/
inductive OptionName where
  | help
  | port
  | vault
  | check
  | verbose
deriving DecidableEq, Repr

namespace OptionName

/-- What can be written for an option. -/
def spellings : List (String × OptionName) :=
  [("-h", help), ("--help", help), ("--port", port), ("--vault", vault), ("--check", check),
   ("--verbose", verbose)]

/-- How an option is called in a complaint. -/
def title : OptionName → String
  | help => "-h/--help"
  | port => "--port"
  | vault => "--vault"
  | check => "--check"
  | verbose => "--verbose"

/-- Whether a value follows an option. -/
def takesValue : OptionName → Bool
  | port | vault => true
  | _ => false

end OptionName

/-- What a word of the command line is. -/
inductive Word where
  /-- A word that may be a value. -/
  | plain (text : String)
  /-- An option, with what stands behind its equals sign. -/
  | option (name : OptionName) (attached : Option String)
  /-- The short option with more behind its letter. -/
  | letters (rest : String)
  /-- A word that looks like an option but is none. -/
  | unknown (text : String)
  /-- The two hyphens that end the options. -/
  | ending
deriving DecidableEq, Repr

/-- Whether a word is a negative number. -/
def isNegativeNumber (cs : List Char) : Bool :=
  match cs with
  | '-' :: rest =>
      let digits := if rest.getLast? = some '\n' then rest.dropLast else rest
      (!digits.isEmpty && digits.all isDecimal) ||
        match cutFirst? '.' digits with
        | some (whole, fraction) =>
            whole.all isDecimal && !fraction.isEmpty && fraction.all isDecimal
        | none => false
  | _ => false

/-- The options that begin with a word. -/
def matching (word : List Char) : List (String × OptionName) :=
  match word with
  | '-' :: '-' :: _ => OptionName.spellings.filter fun (s, _) => word.isPrefixOf s.toList
  | _ => []

/-- What a word before the two hyphens is. -/
def readWord (text : String) : Except String Word :=
  let cs := text.toList
  let spelt (cs : List Char) := (OptionName.spellings.find? (·.1.toList = cs)).map (·.2)
  match cs with
  | '-' :: _ :: _ =>
      match spelt cs with
      | some name => .ok (.option name none)
      | none =>
          let (before, attached) := match cutFirst? '=' cs with
            | some (before, after) => (before, some (String.ofList after))
            | none => (cs, none)
          match matching before with
          | [(_, name)] => .ok (.option name attached)
          | _ :: _ :: _ =>
              let could := ", ".intercalate ((matching before).map (·.1))
              .error ("ambiguous option: " ++ text ++ " could match " ++ could)
          | [] =>
              match cs with
              | '-' :: 'h' :: '=' :: rest => .ok (.letters (String.ofList rest))
              | '-' :: 'h' :: rest => .ok (.letters (String.ofList rest))
              | _ =>
                  if isNegativeNumber cs || cs.contains ' ' then .ok (.plain text)
                  else .ok (.unknown text)
  | _ => .ok (.plain text)

/-- What the words of a command line are. -/
def readWords : List String → Except String (List Word)
  | [] => .ok []
  | text :: rest =>
      if text = "--" then .ok (.ending :: rest.map .plain)
      else do
        let word ← readWord text
        let words ← readWords rest
        return word :: words

/-- A port as it is asked for. -/
inductive Port where
  | number (n : Int)
  /-- A list of no words stands for the number. -/
  | noWords
deriving DecidableEq, Repr

/-- How a port is shown. -/
def Port.text : Port → String
  | number n => String.ofList (intText n)
  | noWords => "[]"

/-- What the options ask for. -/
structure Options where
  port : Port := .number 4250
  vault : Option VaultName := none
  check : Bool := false
  verbose : Bool := false
deriving DecidableEq, Repr

/-- What a command line asks for. -/
inductive Request where
  | run (options : Options)
  | help
  | refused (complaint : String)
deriving DecidableEq, Repr

/-- Gives an option its value. Two hyphens, which can only stand behind an equals sign, are no word
of a value. -/
def setValue (name : OptionName) (value : String) (o : Options) : Except String Options :=
  match name with
  | .port =>
      if value = "--" then .ok { o with port := .noWords }
      else match readInt? 10 value.toList with
        | some n => .ok { o with port := .number n }
        | none =>
            .error ("argument --port: invalid int value: " ++ String.ofList (inQuotes value.toList))
  | .vault => .ok { o with vault := some (if value = "--" then .noWords else .directory value) }
  | _ => .ok o

/-- Sets an option that takes no value. -/
def setFlag (name : OptionName) (o : Options) : Options :=
  match name with
  | .check => { o with check := true }
  | .verbose => { o with verbose := true }
  | _ => o

/-- A complaint about a value where none may be. -/
def needlessValue (name : OptionName) (value : String) : Request :=
  .refused ("argument " ++ name.title ++ ": ignored explicit argument " ++
    String.ofList (inQuotes value.toList))

/-- Follows the words of a command line; `extra` are the words that are left over so far. -/
def follow : (o : Options) → (extra : List String) → List Word → Request
  | o, extra, [] =>
      if extra.isEmpty then .run o
      else .refused ("unrecognized arguments: " ++ " ".intercalate extra)
  | o, extra, .plain text :: rest => follow o (extra ++ [text]) rest
  | o, extra, .unknown text :: rest => follow o (extra ++ [text]) rest
  | o, extra, .ending :: rest => follow o (extra ++ ["--"]) rest
  | _, _, .option .help none :: _ => .help
  | _, _, .letters rest :: _ =>
      if !rest.isEmpty && rest.toList.all (· = 'h') then .help
      else needlessValue .help (String.ofList (rest.toList.dropWhile (· = 'h')))
  | o, extra, .option name (some value) :: rest =>
      if name.takesValue then
        match setValue name value o with
        | .ok o => follow o extra rest
        | .error complaint => .refused complaint
      else needlessValue name value
  | o, extra, .option name none :: rest =>
      if name.takesValue then
        match rest with
        | .plain value :: rest =>
            match setValue name value o with
            | .ok o => follow o extra rest
            | .error complaint => .refused complaint
        | _ => .refused ("argument " ++ name.title ++ ": expected one argument")
      else follow (setFlag name o) extra rest

/-- What a command line asks for. -/
def read (args : List String) : Request :=
  match readWords args with
  | .ok words => follow {} [] words
  | .error complaint => .refused complaint

end NoteCheck.CommandLine
