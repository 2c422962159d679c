import Mathlib.Tactic.Lemma
import NoteCheck.Disk.TextFile
import NoteCheck.Proofs.Disk.Writing
import NoteCheck.Proofs.Json.Storable
import NoteCheck.Proofs.Text.Characters

/-!
# A plain text is read as it was written

Each character of a plain text takes one octet, and none of its characters is read as another one.
So a file that holds the octets of a plain text has this text (`readText_write`).
-/

namespace NoteCheck

namespace Text

variable {cs : List Char}

lemma toList_loop (octets : ByteArray) (i : Nat) (read : List UInt8) :
    ByteArray.toList.loop octets i read = read.reverse ++ octets.data.toList.drop i := by
  fun_induction ByteArray.toList.loop octets i read with
  | case1 i read hlt ih =>
      have hi : i < octets.data.toList.length := by simpa using hlt
      have hget : octets.get! i = octets.data.toList[i] := by
        simp only [ByteArray.get!, Array.getElem_toList]
        exact getElem!_pos octets.data i (by simpa using hlt)
      rw [ih, List.drop_eq_getElem_cons hi, hget]
      simp
  | case2 i read hge =>
      have hall : octets.data.toList.length ≤ i := by simpa using hge
      rw [List.drop_eq_nil_of_le hall, List.append_nil]

lemma IsAscii.encode (h : IsAscii cs) :
    Utf8.encode (String.ofList cs) = cs.map Char.toUInt8 := by
  rw [Utf8.encode, String.toUTF8, String.toByteArray_ofList, ByteArray.toList, toList_loop,
    List.utf8Encode, h.flatMap_utf8EncodeChar, List.toList_data_toByteArray]
  rfl

/-- A text of ASCII is what its octets stand for. -/
lemma IsAscii.decode?_encode (h : IsAscii cs) :
    Utf8.decode? (Utf8.encode (String.ofList cs)) = some cs := by
  rw [h.encode, Utf8.decode?]
  induction cs with
  | nil => rfl
  | cons c cs ih =>
      obtain ⟨hc, hcs⟩ := List.forall_mem_cons.mp h
      have hlead : Utf8.lead? c.toUInt8.toNat = some (0, c.toNat, 0) := by
        rw [toNat_toUInt8_of_lt hc, Utf8.lead?, if_pos hc]
      rw [List.map_cons, Utf8.decodeFrom, hlead]
      dsimp only
      rw [ih hcs, Option.map_some, Char.ofNat_toNat]

lemma unifyLines_of_not_mem (h : '\r' ∉ cs) : unifyLines cs = cs := by
  induction cs with
  | nil => rfl
  | cons c cs ih =>
      rw [List.mem_cons, not_or] at h
      rw [unifyLines, if_neg (Ne.symm h.1), ih h.2]
      intro rest hc
      exact absurd hc.symm h.1

end Text

open NoteCheck.Text (IsAscii unifyLines_of_not_mem)

variable {cs : List Char}

lemma IsPlainText.isAscii (h : IsPlainText cs) : IsAscii cs :=
  fun c hc => (h c hc).1

namespace Tree

variable {t : Tree} {path : String}

/-- A file that holds the octets of a plain text has this text. -/
lemma readText_of_openFile {mtime : Int} (hpath : '\x00' ∉ path.toList) (hcs : IsPlainText cs)
    (hopen : t.openFile path = .ok (Text.Utf8.encode (String.ofList cs), mtime)) :
    t.readText path = .ok cs := by
  have hlines : '\r' ∉ cs := fun hmem => (hcs _ hmem).2 rfl
  rw [readText, if_neg (by simpa using hpath), hopen]
  dsimp only
  rw [hcs.isAscii.decode?_encode]
  dsimp only
  rw [unifyLines_of_not_mem hlines]

/-- **A plain text that is written to a file** is the text of the file. -/
theorem readText_write (hstores : t.Stores path) (hpath : '\x00' ∉ path.toList)
    (hcs : IsPlainText cs) (mtime : Int) :
    ∃ tree, t.write path (Text.Utf8.encode (String.ofList cs)) mtime = .ok tree ∧
      tree.readText path = .ok cs := by
  obtain ⟨tree, hwrite, hopen⟩ :=
    openFile_write hstores (Text.Utf8.encode (String.ofList cs)) mtime
  exact ⟨tree, hwrite, readText_of_openFile hpath hcs hopen⟩

end Tree

end NoteCheck
