import NoteCheck.Json.File
import NoteCheck.Proofs.Json.Brackets

/-!
# What a data file gives

A data file gives a value if it can be opened, its octets are UTF-8, and the text is JSON
(`readData_eq_ok_iff`).  If it is not there or its text is malformed, its readers are told so.  In
all other cases the value is withheld from them, and they choose which of these they absorb
(`readData_eq_other_iff`).
-/

namespace NoteCheck.Tree

variable {t : Tree} {path : String} {cause : Fault} {cs : List Char} {v : Value}

/-! ## Texts -/

/-- Whether a path names a file that has a text. -/
structure HasText (t : Tree) (path : String) (cs : List Char) : Prop where
  noZero : '\x00' ∉ path.toList
  file : ∃ octets mtime raw, t.openFile path = .ok (octets, mtime) ∧
    Text.Utf8.decode? octets = some raw ∧ Text.unifyLines raw = cs

/-- Why a path names no file that has a text. -/
inductive Textless (t : Tree) (path : String) : Fault → Prop where
  | zero (hpath : '\x00' ∈ path.toList) : Textless t path .zeroInPath
  | closed {access : AccessFault} (hpath : '\x00' ∉ path.toList)
      (hopen : t.openFile path = .error access) : Textless t path (.access access)
  | octets {octets : List UInt8} {mtime : Int} (hpath : '\x00' ∉ path.toList)
      (hopen : t.openFile path = .ok (octets, mtime)) (hdecode : Text.Utf8.decode? octets = none) :
      Textless t path .notUtf8

lemma readText_eq_ok_iff : t.readText path = .ok cs ↔ t.HasText path cs := by
  rw [readText]
  constructor
  · intro h
    split at h
    · cases h
    · next hzero =>
        split at h
        · cases h
        · next octets mtime hopen =>
            split at h
            · next raw hraw =>
                exact ⟨by simpa using hzero, octets, mtime, raw, hopen, hraw, Except.ok.inj h⟩
            · cases h
  · rintro ⟨hzero, octets, mtime, raw, hopen, hraw, rfl⟩
    rw [if_neg (by simpa using hzero), hopen]
    dsimp only
    rw [hraw]

lemma readText_eq_error_iff : t.readText path = .error cause ↔ t.Textless path cause := by
  rw [readText]
  constructor
  · intro h
    split at h
    · next hzero =>
        obtain rfl := Except.error.inj h
        exact .zero (by simpa using hzero)
    · next hzero =>
        have hpath : '\x00' ∉ path.toList := by simpa using hzero
        split at h
        · next access hopen =>
            obtain rfl := Except.error.inj h
            exact .closed hpath hopen
        · next octets mtime hopen =>
            split at h
            · cases h
            · next hdecode =>
                obtain rfl := Except.error.inj h
                exact .octets hpath hopen hdecode
  · rintro (hpath | ⟨hpath, hopen⟩ | ⟨hpath, hopen, hdecode⟩)
    · rw [if_pos (by simpa using hpath)]
    · rw [if_neg (by simpa using hpath), hopen]
    · rw [if_neg (by simpa using hpath), hopen]
      dsimp only
      rw [hdecode]

lemma HasText.of_toOption (h : (t.readText path).toOption = some cs) : t.HasText path cs :=
  readText_eq_ok_iff.mp (Fault.toOption_eq_some_iff.mp h)

/-! ## Values -/

/-- Why a data file that is neither absent nor malformed gives no value: it has no text, or a numeral
in its text is too long. -/
inductive Withholds (t : Tree) (path : String) : Fault → Prop where
  | textless {cause : Fault} (htext : t.Textless path cause) (hthere : cause ≠ .access .missing) :
      Withholds t path cause
  | numeral {cs : List Char} (htext : t.HasText path cs)
      (hread : Json.read cs = .error .numeralTooLong) : Withholds t path .numeralTooLong

/-- **What holds a value.** -/
theorem readData_eq_ok_iff :
    t.readData path = .ok v ↔ ∃ cs, t.HasText path cs ∧ Json.read cs = .ok v := by
  constructor
  · intro h
    rw [readData] at h
    split at h
    · cases h
    · cases h
    · next cs htext =>
        split at h
        · next w hread =>
            rw [Except.ok.inj h] at hread
            exact ⟨cs, readText_eq_ok_iff.mp htext, hread⟩
        · cases h
        · cases h
  · rintro ⟨cs, htext, hread⟩
    rw [readData, readText_eq_ok_iff.mpr htext]
    dsimp only
    rw [hread]

/-- **What is withheld** from the readers of a data file. -/
theorem readData_eq_other_iff :
    t.readData path = .error (.other cause) ↔ t.Withholds path cause := by
  constructor
  · intro h
    rw [readData] at h
    split at h
    · cases h
    · next hthere htext =>
        obtain rfl := DataFault.other.inj (Except.error.inj h)
        exact .textless (readText_eq_error_iff.mp htext) fun hmissing => hthere (by rw [hmissing])
    · next htext =>
        split at h
        · cases h
        · cases h
        · next hread =>
            obtain rfl := DataFault.other.inj (Except.error.inj h)
            exact .numeral (readText_eq_ok_iff.mp htext) hread
  · rintro (⟨htext, hthere⟩ | ⟨htext, hread⟩)
    · rw [readData, readText_eq_error_iff.mpr htext]
      split
      · next heq => exact absurd (Except.error.inj heq) hthere
      · next heq => rw [Except.error.inj heq]
      · next heq => cases heq
    · rw [readData, readText_eq_ok_iff.mpr htext]
      dsimp only
      rw [hread]

end NoteCheck.Tree
