/-!
# What can go wrong

Every operation that can fail answers with a `Fault`, which names the cause. Most faults come from
the input: a number beyond its range, a word where another was needed, a file that is not what it
should be. None of them is recovered from here; each caller decides which causes it absorbs.
-/

namespace NoteCheck

/-- Why a file or directory could not be opened. -/
inductive AccessFault where
  /-- A name on the way is not there. -/
  | missing
  /-- A name on the way is a file, not a directory. -/
  | notDirectory
  /-- The file is a directory. -/
  | isDirectory
  /-- A name or the whole path is too long. -/
  | tooLong
  /-- Too many symbolic links on the way. -/
  | tooManyLinks
  /-- Something is already there. -/
  | occupied
deriving DecidableEq, Repr

/-- Why an operation failed. -/
inductive Fault where
  /-- An integer is larger than every double. -/
  | beyondDouble
  /-- A delay is larger than the clock can count. -/
  | beyondClock
  /-- A decimal numeral has more digits than are read or written. -/
  | numeralTooLong
  /-- A text that must be a number is none. -/
  | malformedNumeral
  /-- A text that must be a number is empty. -/
  | emptyNumeral
  /-- A text that must be a truth value is none. -/
  | unknownTruthValue
  /-- A text that must be a moment is none. -/
  | malformedMoment
  /-- A moment is asked of a collection. -/
  | momentOfCollection
  /-- A day, a time of day or an offset that does not exist. -/
  | noSuchMoment
  /-- An escape names a code point above the last one. -/
  | noSuchCodePoint
  /-- An escape names a code point beyond 31 bits. -/
  | codePointTooLarge
  /-- A path holds the character zero. -/
  | zeroInPath
  /-- The octets of a file are not UTF-8. -/
  | notUtf8
  /-- An index past the end. -/
  | indexOutOfRange
  /-- A value that a data file cannot hold. -/
  | notStorable
  /-- A value that contains itself cannot be written out. -/
  | containsItself
  /-- A default value leads back to itself. -/
  | endless
  /-- A file or directory could not be opened. -/
  | access (cause : AccessFault)
deriving DecidableEq, Repr

end NoteCheck
