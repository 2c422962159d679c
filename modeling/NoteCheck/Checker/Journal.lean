import NoteCheck.Checker.Desk
import NoteCheck.Text.Numeral

/-!
# The wording of the journal

An event has a severity and a sentence. Why a schema could not be read is not part of the sentence.
-/

namespace NoteCheck.Event

/-- How severe an event is. -/
def severity : Event → String
  | recalled _ | checked _ _ => "DEBUG"
  | cacheCleared | schemaReloaded _ | pruned _ => "INFO"
  | schemaUnread _ _ => "ERROR"

/-- A number of things. -/
def countText (n : Nat) : String :=
  String.ofList (Text.natText n)

/-- The sentence of an event. -/
def sentence : Event → String
  | cacheCleared => "Validation cache cleared"
  | schemaReloaded n => "Reloaded " ++ countText n ++ " property types"
  | pruned n => "Pruned " ++ countText n ++ " stale cache entries"
  | recalled title => "Using cached validation for " ++ title
  | checked title n => "Validated " ++ title ++ " (" ++ countText n ++ " errors)"
  | schemaUnread path _ => "Failed to load property types from " ++ path

end NoteCheck.Event
