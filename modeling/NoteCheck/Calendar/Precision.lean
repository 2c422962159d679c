/-!
# How exactly a text names a moment

The three readers of dates, `IsoText`, `MailText` and `LongText`, answer with a `Precision`: the
text names a day, or a day and a time of day.
-/

namespace NoteCheck

/-- Whether a text that names a moment stops at the day or goes on to a time of day. -/
inductive Precision where
  | day
  | clock
deriving DecidableEq, Repr

end NoteCheck
