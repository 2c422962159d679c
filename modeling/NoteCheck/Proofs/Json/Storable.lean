import NoteCheck.Proofs.Json.Writing

/-!
# What can be stored

A data file holds nothing, truth values, numbers, texts, and lists and maps of these, where the keys
of the maps are texts and no integer is longer than the longest numeral (`IsStorable`).  Such a
value is written to its end, and what is written is a plain text, so it does not matter how a file
turns characters into octets and reads line ends (`write_sound`).
-/

namespace NoteCheck

/-- Whether a value is one that a data file can hold. -/
inductive Value.IsStorable : Value → Prop where
  | null : IsStorable .null
  | bool (b : Bool) : IsStorable (.bool b)
  | int {i : Int} (h : (Text.intText? i).isSome = true) : IsStorable (.int i)
  | float (x : Binary64) : IsStorable (.float x)
  | text (s : String) : IsStorable (.text s)
  | list {items : List Value} (h : ∀ v ∈ items, IsStorable v) : IsStorable (.list items)
  | map {entries : List (Value × Value)} (hkeys : ∀ e ∈ entries, ∃ key, e.1 = .text key)
      (h : ∀ e ∈ entries, IsStorable e.2) : IsStorable (.map entries)

/-- What can be stored can be written. -/
lemma Value.IsStorable.isWritable {v : Value} (h : v.IsStorable) : v.IsWritable := by
  induction h with
  | null => exact .null
  | bool b => exact .bool b
  | int hi => exact .int hi
  | float x => exact .float x
  | text s => exact .text s
  | list _ ih => exact .list ih
  | map hkeys _ ih =>
      refine .map (fun e he => ?_) ih
      obtain ⟨key, hkey⟩ := hkeys e he
      rw [hkey]
      trivial

namespace Json

/-- Whether something was written to its end, as a plain text. -/
structure Written.Sound (w : Written) : Prop where
  complete : w.fault = none
  plain : IsPlainText w.text

/-- **Writing a value** that can be stored comes to its end, and gives a plain text. -/
theorem write_sound {v : Value} (h : v.IsStorable) (depth : Nat) : (write depth v).Sound where
  complete := (fault_write_eq_none_iff depth v).mpr h.isWritable
  plain := (runs_write depth 0 v).plain

end Json

end NoteCheck
