import NoteCheck.Json.Write
import NoteCheck.Proofs.Json.Scan
import NoteCheck.Proofs.Text.Padded

/-!
# What is written of a value

Writing gives a text of printable characters of ASCII and line feeds, so it does not matter how a
file turns characters into octets and reads line ends.  It comes to its end just for the values that
can be written (`fault_write_eq_none_iff`), and then all its brackets are closed.  If it does not,
it breaks off outside of strings, and no bracket is closed that was not opened (`runs_write`).
-/

namespace NoteCheck

/-! ## Plain texts -/

/-- Whether a character takes one octet and is not read as the end of a line, unless it is one. -/
def IsPlain (c : Char) : Prop :=
  c.toNat < 128 ∧ c ≠ '\r'

instance (c : Char) : Decidable (IsPlain c) :=
  inferInstanceAs (Decidable (c.toNat < 128 ∧ c ≠ '\r'))

/-- Whether a text consists of plain characters. -/
def IsPlainText (cs : List Char) : Prop :=
  ∀ c ∈ cs, IsPlain c

instance (cs : List Char) : Decidable (IsPlainText cs) :=
  List.decidableBAll IsPlain cs

section

variable {cs ds : List Char} {c : Char}

lemma IsPlainText.append (hcs : IsPlainText cs) (hds : IsPlainText ds) : IsPlainText (cs ++ ds) :=
  List.forall_mem_append.mpr ⟨hcs, hds⟩

lemma IsPlainText.cons (hc : IsPlain c) (hcs : IsPlainText cs) : IsPlainText (c :: cs) :=
  List.forall_mem_cons.mpr ⟨hc, hcs⟩

lemma isPlainText_replicate (hc : IsPlain c) (n : Nat) : IsPlainText (List.replicate n c) := by
  intro d hd
  rwa [List.eq_of_mem_replicate hd]

end

/-! ## Numbers and words -/

/-- Whether a character stands in numbers and words. -/
def IsWordChar (c : Char) : Prop :=
  c.isAlphanum = true ∨ c ∈ ['.', '+', '-']

instance (c : Char) : Decidable (IsWordChar c) :=
  inferInstanceAs (Decidable (c.isAlphanum = true ∨ c ∈ ['.', '+', '-']))

/-- Whether a text consists of characters of numbers and words. -/
def IsWord (cs : List Char) : Prop :=
  ∀ c ∈ cs, IsWordChar c

instance (cs : List Char) : Decidable (IsWord cs) :=
  List.decidableBAll IsWordChar cs

section

variable {cs ds : List Char} {c : Char}

lemma IsWord.append (hcs : IsWord cs) (hds : IsWord ds) : IsWord (cs ++ ds) :=
  List.forall_mem_append.mpr ⟨hcs, hds⟩

lemma IsWord.cons (hc : IsWordChar c) (hcs : IsWord cs) : IsWord (c :: cs) :=
  List.forall_mem_cons.mpr ⟨hc, hcs⟩

lemma IsWord.subset (h : IsWord cs) (hsub : ds ⊆ cs) : IsWord ds :=
  fun c hc => h c (hsub hc)

lemma IsWordChar.toNat_lt (h : IsWordChar c) : c.toNat < 128 := by
  rcases h with h | h
  · have hupTo : ∀ {high : UInt32}, c.val ≤ high → high.toNat < 128 → c.toNat < 128 :=
      fun hle => Nat.lt_of_le_of_lt (UInt32.le_iff_toNat_le.mp hle)
    rcases (Bool.or_eq_true_iff.mp h).imp_left Bool.or_eq_true_iff.mp with (h | h) | h
    · exact hupTo (of_decide_eq_true h).2 (by decide)
    · exact hupTo (of_decide_eq_true (Bool.and_eq_true_iff.mp h).2) (by decide)
    · exact hupTo (of_decide_eq_true (Bool.and_eq_true_iff.mp h).2) (by decide)
  · have hall : ∀ c ∈ ['.', '+', '-'], c.toNat < 128 :=
      List.all_iff_forall_prop.mp (by decide)
    exact hall c h

lemma IsWordChar.isPlain (h : IsWordChar c) : IsPlain c := by
  refine ⟨h.toNat_lt, ?_⟩
  rintro rfl
  exact absurd h (by decide)

lemma IsWordChar.isNeutral (h : IsWordChar c) : Json.IsNeutral c := by
  have hall : ∀ c ∈ ['"', '[', ']', '\x7b', '\x7d'], ¬ IsWordChar c :=
    List.all_iff_forall_prop.mp (by decide)
  exact fun hc => hall c hc h

lemma IsWord.isPlainText (h : IsWord cs) : IsPlainText cs :=
  fun c hc => (h c hc).isPlain

lemma isWordChar_of_isDigit (h : c.isDigit = true) : IsWordChar c :=
  Or.inl (by simp [Char.isAlphanum, h])

lemma isWord_natText (n : Nat) : IsWord (Text.natText n) :=
  fun _ hc => isWordChar_of_isDigit (Nat.isDigit_of_mem_toDigits (by decide) (by decide) hc)

lemma isWord_padded (width n : Nat) : IsWord (Text.padded width n) :=
  fun _ hc => isWordChar_of_isDigit (Text.isDigit_of_mem_padded hc)

lemma isWord_of_intText? {i : Int} (h : Text.intText? i = some cs) : IsWord cs := by
  rw [Text.intText?] at h
  split at h
  · cases h
  · rw [← Option.some.inj h]
    cases i with
    | ofNat n => exact isWord_natText n
    | negSucc n => exact (isWord_natText (n + 1)).cons (by decide)

end

namespace Decimal

lemma isWord_digits (l : Layout) (d : Digits) : IsWord (l.digits d) := by
  have hds := isWord_natText d.digits
  have hzeros : ∀ n, IsWord (List.replicate n '0') := by
    intro n c hc
    rw [List.eq_of_mem_replicate hc]
    decide
  rw [Layout.digits]
  dsimp only
  split
  · split
    · exact (IsWord.cons (by decide) (IsWord.cons (by decide) (hzeros _))).append hds
    · have hpadded := hds.append (hzeros ((d.exponent + (Text.natText d.digits).length - 1).toNat +
        1 - (Text.natText d.digits).length))
      refine (hpadded.subset (List.take_subset _ _)).append (IsWord.cons (by decide) ?_)
      split
      · decide
      · exact hpadded.subset (List.drop_subset _ _)
  · refine ((hds.subset (List.take_subset _ _)).append ?_).append
      (IsWord.cons (by decide) (IsWord.cons ?_ (isWord_padded _ _)))
    · split
      · decide
      · exact (hds.subset (List.drop_subset _ _)).cons (by decide)
    · split <;> decide

lemma isWord_write {l : Layout} (hinfinity : IsWord l.infinity.toList)
    (hnan : IsWord l.notANumber.toList) (x : Binary64) : IsWord (write l x) := by
  have hbody : IsWord (if x.isInfinite then l.infinity.toList
      else if x.isZero then ['0', '.', '0']
      else l.digits (shortest { x with negative := false })) := by
    split
    · exact hinfinity
    · split
      · decide
      · exact isWord_digits _ _
  rw [write]
  split
  · exact hnan
  · dsimp only
    split
    · exact hbody.cons (by decide)
    · exact hbody

end Decimal

namespace Json

/-! ## Strings -/

/-- What a text is like that is written in a string: it is plain, and the string stays open. -/
structure StaysInside (cs : List Char) : Prop where
  plain : IsPlainText cs
  through : ∀ n, (Scan.inside n).through cs = .inside n

lemma StaysInside.append {cs ds : List Char} (hcs : StaysInside cs) (hds : StaysInside ds) :
    StaysInside (cs ++ ds) where
  plain := hcs.plain.append hds.plain
  through n := by rw [Scan.through_append, hcs.through, hds.through]

lemma staysInside_hexEscape {n : Nat} (h : n < 65536) :
    StaysInside ('\\' :: 'u' :: hexUnit n) := by
  have hall : ∀ d < 16, IsWordChar (Nat.digitChar d) := by decide
  have hword : IsWord (hexUnit n) := by
    intro c hc
    obtain ⟨d, hd, rfl⟩ := List.mem_map.mp hc
    refine hall d ?_
    simp only [List.mem_cons, List.not_mem_nil, or_false] at hd
    omega
  refine ⟨IsPlainText.cons (by decide) (IsPlainText.cons (by decide) hword.isPlainText), ?_⟩
  intro m
  -- The backslash and the letter behind it leave the string as it was.
  show (Scan.inside m).through (hexUnit n) = .inside m
  refine Scan.through_of_forall fun c hc => step_inside ?_ ?_
  · rintro rfl
    exact absurd (hword _ hc) (by decide)
  · rintro rfl
    exact absurd (hword _ hc) (by decide)

lemma staysInside_escape (c : Char) : StaysInside (escape c) := by
  have hshort : ∀ e ∈ shortEscapes, IsPlain e.2 := by decide
  have hvalid : c.toNat < 0x110000 := by
    rcases c.valid with h | h
    · exact Nat.lt_trans h (by decide)
    · exact h.2
  rw [escape]
  split
  · next found letter hfind =>
      exact ⟨IsPlainText.cons (by decide)
        (IsPlainText.cons (hshort _ (List.mem_of_find?_eq_some hfind)) (by decide)), fun _ => rfl⟩
  · next hfind =>
      have hnot := List.find?_eq_none.mp hfind
      split
      · next hprintable =>
          rw [Bool.and_eq_true, decide_eq_true_eq, decide_eq_true_eq] at hprintable
          refine ⟨IsPlainText.cons ⟨by omega, ?_⟩ (by decide), fun n => ?_⟩
          · rintro rfl
            exact absurd hprintable.1 (by decide)
          · refine step_inside ?_ ?_
            · rintro rfl
              exact hnot ('"', '"') (by decide) (by decide)
            · rintro rfl
              exact hnot ('\\', '\\') (by decide) (by decide)
      · split
        · next hsmall => exact staysInside_hexEscape hsmall
        · exact (staysInside_hexEscape (by omega)).append (staysInside_hexEscape (by omega))

lemma staysInside_flatMap (s : List Char) : StaysInside (s.flatMap escape) := by
  induction s with
  | nil => exact ⟨by decide, fun _ => rfl⟩
  | cons c s ih =>
      rw [List.flatMap_cons]
      exact (staysInside_escape c).append ih

/-! ## Texts between brackets -/

/-- What a text is like that is written outside of strings where `n` brackets are open, and that
leaves `m` open: it is plain, and leaves no string open. -/
structure Leads (n m : Nat) (cs : List Char) : Prop where
  plain : IsPlainText cs
  through : (Scan.outside n).through cs = .outside m

section

variable {n m k : Nat} {cs ds : List Char}

lemma Leads.append (hcs : Leads n m cs) (hds : Leads m k ds) : Leads n k (cs ++ ds) where
  plain := hcs.plain.append hds.plain
  through := by rw [Scan.through_append, hcs.through, hds.through]

lemma Leads.cons {c : Char} (hc : Leads n m [c]) (hds : Leads m k ds) : Leads n k (c :: ds) :=
  hc.append hds

lemma leads_nil : Leads n n [] := ⟨by decide, rfl⟩

lemma leads_of_isWord (h : IsWord cs) : Leads n n cs :=
  ⟨h.isPlainText, through_of_isNeutral fun c hc => (h c hc).isNeutral⟩

lemma leads_quoted (s : List Char) : Leads n n (quoted s) := by
  have hinside := staysInside_flatMap s
  refine ⟨(IsPlainText.cons (by decide) hinside.plain).append (by decide), ?_⟩
  show ((Scan.inside n).through (s.flatMap escape ++ ['"'])) = .outside n
  rw [Scan.through_append, hinside.through]
  rfl

lemma leads_newLine (depth : Nat) : Leads n n (newLine depth) := by
  refine ⟨IsPlainText.cons (by decide) (isPlainText_replicate (by decide) _), ?_⟩
  refine through_of_isNeutral (List.forall_mem_cons.mpr ⟨by decide, fun c hc => ?_⟩)
  rw [List.eq_of_mem_replicate hc]
  decide

end

/-! ## Writing that comes to its end, or breaks off -/

/-- What is written where `n` brackets are open, and leaves `m` open at its end.  If it breaks off, it
leaves at least those open that were. -/
structure Written.Runs (n m : Nat) (w : Written) : Prop where
  done : w.fault = none → Leads n m w.text
  broken : w.fault ≠ none → ∃ k, n ≤ k ∧ Leads n k w.text

namespace Written

variable {n m k : Nat} {first second : Written} {cs : List Char} {cause : Fault}

lemma append_def : first ++ second =
    match first.fault with
    | some _ => first
    | none => ⟨first.text ++ second.text, second.fault⟩ := rfl

lemma fault_append_eq_none_iff :
    (first ++ second).fault = none ↔ first.fault = none ∧ second.fault = none := by
  rw [append_def]
  split
  · next hfault => simp [hfault]
  · next hfault => simp [hfault]

lemma Runs.of (h : Leads n m cs) : Runs n m (of cs) :=
  ⟨fun _ => h, fun hfault => absurd rfl hfault⟩

lemma Runs.failed : Runs n m (failed cause) where
  done hfault := by cases hfault
  broken _ := ⟨n, Nat.le_refl n, leads_nil⟩

lemma Runs.plain {w : Written} (h : Runs n m w) : IsPlainText w.text := by
  by_cases hfault : w.fault = none
  · exact (h.done hfault).plain
  · obtain ⟨k, -, hleads⟩ := h.broken hfault
    exact hleads.plain

lemma Runs.append (hfirst : Runs n m first) (hsecond : Runs m k second) (hle : n ≤ m) :
    Runs n k (first ++ second) := by
  rw [append_def]
  split
  · next cause hfault =>
      exact ⟨fun h => absurd (hfault.symm.trans h) (by simp), hfirst.broken⟩
  · next hfault =>
      have hleads := hfirst.done hfault
      refine ⟨fun h => hleads.append (hsecond.done h), fun h => ?_⟩
      obtain ⟨l, hl, hmore⟩ := hsecond.broken h
      exact ⟨l, Nat.le_trans hle hl, hleads.append hmore⟩

end Written

/-- A number is written together with what stands before it. -/
lemma runs_writeInt {n m : Nat} {start : List Char} (hstart : Leads n m start) (i : Int) :
    Written.Runs n m (match Text.intText? i with
      | some digits => .of (start ++ digits)
      | none => .failed .numeralTooLong) := by
  split
  · next digits hdigits =>
      exact .of (hstart.append (leads_of_isWord (isWord_of_intText? hdigits)))
  · exact .failed

lemma runs_writeKey (n : Nat) (key : Value) : (writeKey key).Runs n n := by
  cases key with
  | text s => exact .of (leads_quoted _)
  | null => exact .of ⟨by decide, rfl⟩
  | bool b => cases b <;> exact .of ⟨by decide, rfl⟩
  | int i =>
      rw [writeKey]
      split
      · exact .of (leads_quoted _)
      · exact .failed
  | float x => exact .of (leads_quoted _)
  | _ => exact .failed

/-- The first line of a map. -/
lemma leads_firstLine (depth n : Nat) : Leads n (n + 1) ('\x7b' :: newLine depth) :=
  .cons ⟨by decide, rfl⟩ (leads_newLine depth)

/-- The last line of a list or a map. -/
lemma leads_lastLine (depth n : Nat) {close : Char} (h : close = ']' ∨ close = '\x7d') :
    Leads (n + 1) n (newLine depth ++ [close]) := by
  refine (leads_newLine depth).append ?_
  rcases h with rfl | rfl <;> exact ⟨by decide, rfl⟩

mutual

/-- **What is written of a value** closes all brackets that it opens.  If it breaks off, it does so
outside of strings, and closes none that it has not opened. -/
theorem runs_write (depth n : Nat) : ∀ v, (write depth v).Runs n n
  | .null => .of (leads_of_isWord (by decide))
  | .bool b => .of (leads_of_isWord (by cases b <;> decide))
  | .int i => by
      rw [write, writeInt]
      exact runs_writeInt leads_nil i
  | .float x => by
      rw [write]
      exact .of (leads_of_isWord (Decimal.isWord_write (by decide) (by decide) x))
  | .text s => by
      rw [write]
      exact .of (leads_quoted _)
  | .list [] | .tuple [] | .map [] => .of ⟨by decide, rfl⟩
  | .list (v :: rest) | .tuple (v :: rest) => by
      rw [write]
      · have hitems : (writeItems (depth + 1) ['['] (v :: rest)).Runs n (n + 1) :=
          runs_writeItems (depth + 1) (v :: rest) ⟨by decide, rfl⟩ (Nat.le_succ n) (by simp)
        exact hitems.append (.of (leads_lastLine depth n (.inl rfl))) (Nat.le_succ n)
      · simp
  | .map (entry :: rest) => by
      rw [write]
      · have hmembers := runs_writeMembers (depth + 1) (n + 1) (entry :: rest) leads_nil
        exact ((Written.Runs.of (leads_firstLine (depth + 1) n)).append hmembers
          (Nat.le_succ n)).append (.of (leads_lastLine depth n (.inr rfl))) (Nat.le_succ n)
      · simp
  | .cycle _ | .set _ | .bytes _ | .date _ | .timestamp _ => .failed

lemma runs_writeItems (depth : Nat) : ∀ items {n m before}, Leads n m before → n ≤ m →
    (items = [] → n = m) → (writeItems depth before items).Runs n m
  | [], n, m, before, _, _, hnone => by
      rw [hnone rfl, writeItems]
      exact .of leads_nil
  | v :: rest, n, m, before, hbefore, hle, _ => by
      have hstart := hbefore.append (leads_newLine depth)
      have hv := runs_write depth m v
      have hrest : (writeItems depth [','] rest).Runs m m :=
        runs_writeItems depth rest ⟨by decide, rfl⟩ (Nat.le_refl m) fun _ => rfl
      cases v with
      | int i =>
          rw [writeItems]
          exact (runs_writeInt hstart i).append hrest hle
      | _ =>
          rw [writeItems]
          · exact ((Written.Runs.of hstart).append hv hle).append hrest hle
          · simp

lemma runs_writeMembers (depth n : Nat) : ∀ entries {before}, Leads n n before →
    (writeMembers depth before entries).Runs n n
  | [], before, _ => by
      rw [writeMembers]
      exact .of leads_nil
  | entry :: rest, before, hbefore => by
      have hcomma : Leads n n (',' :: newLine depth) := .cons ⟨by decide, rfl⟩ (leads_newLine depth)
      rw [writeMembers]
      exact (runs_writeMember depth n entry hbefore).append
        (runs_writeMembers depth n rest hcomma) (Nat.le_refl n)

lemma runs_writeMember (depth n : Nat) : ∀ entry {before}, Leads n n before →
    (writeMember depth before entry).Runs n n
  | (key, v), before, hbefore => by
      have hkey := runs_writeKey n key
      have hv := runs_write depth n v
      rw [writeMember]
      split
      · exact .failed
      · next text htext =>
          rw [htext] at hkey
          have hcolon : Leads n n [':', ' '] := ⟨by decide, rfl⟩
          exact (Written.Runs.of ((hbefore.append (hkey.done rfl)).append hcolon)).append hv
            (Nat.le_refl n)

end

end Json

/-! ## What can be written -/

namespace Value

/-- Whether a value can be written as the key of a map. -/
def IsWritableKey : Value → Prop
  | text _ | null | bool _ | float _ => True
  | int i => (Text.intText? i).isSome = true
  | _ => False

/-- Whether a value can be written: none of its parts is a set, octets, a date or a moment, or a list
or a map that it stands in, no number has too many digits, and no key is a list or a map. -/
inductive IsWritable : Value → Prop where
  | null : IsWritable null
  | bool (b : Bool) : IsWritable (bool b)
  | int {i : Int} (h : (Text.intText? i).isSome = true) : IsWritable (int i)
  | float (x : Binary64) : IsWritable (float x)
  | text (s : String) : IsWritable (text s)
  | list {items : List Value} (h : ∀ v ∈ items, IsWritable v) : IsWritable (list items)
  | tuple {items : List Value} (h : ∀ v ∈ items, IsWritable v) : IsWritable (tuple items)
  | map {entries : List (Value × Value)} (hkeys : ∀ e ∈ entries, e.1.IsWritableKey)
      (h : ∀ e ∈ entries, IsWritable e.2) : IsWritable (map entries)

end Value

namespace Json

section

variable {i : Int}

lemma fault_intText?_eq_none_iff (text : List Char → List Char) :
    (match Text.intText? i with
      | some digits => Written.of (text digits)
      | none => .failed .numeralTooLong).fault = none ↔ (Text.intText? i).isSome = true := by
  cases Text.intText? i <;> simp [Written.of, Written.failed]

lemma fault_writeKey_eq_none_iff {key : Value} :
    (writeKey key).fault = none ↔ key.IsWritableKey := by
  cases key with
  | int i => exact fault_intText?_eq_none_iff quoted
  | _ => simp [writeKey, Value.IsWritableKey, Written.of, Written.failed]

lemma isWritable_list_iff {items : List Value} :
    (Value.list items).IsWritable ↔ ∀ v ∈ items, v.IsWritable :=
  ⟨fun | .list h => h, .list⟩

lemma isWritable_tuple_iff {items : List Value} :
    (Value.tuple items).IsWritable ↔ ∀ v ∈ items, v.IsWritable :=
  ⟨fun | .tuple h => h, .tuple⟩

lemma isWritable_map_iff {entries : List (Value × Value)} :
    (Value.map entries).IsWritable ↔ ∀ e ∈ entries, e.1.IsWritableKey ∧ e.2.IsWritable := by
  constructor
  · rintro (_ | _ | _ | _ | _ | _ | _ | ⟨hkeys, h⟩) e he
    exact ⟨hkeys e he, h e he⟩
  · exact fun h => .map (fun e he => (h e he).1) fun e he => (h e he).2

lemma isWritable_int_iff : (Value.int i).IsWritable ↔ (Text.intText? i).isSome = true :=
  ⟨fun | .int h => h, .int⟩

end

mutual

/-- **A value is written to its end** just if it can be written. -/
theorem fault_write_eq_none_iff (depth : Nat) : ∀ v, (write depth v).fault = none ↔ v.IsWritable
  | .null => iff_of_true rfl .null
  | .bool b => iff_of_true rfl (.bool b)
  | .int i => by
      rw [write, writeInt, isWritable_int_iff]
      exact fault_intText?_eq_none_iff id
  | .float x => iff_of_true rfl (.float x)
  | .text s => iff_of_true rfl (.text s)
  | .list [] => iff_of_true rfl (.list (by simp))
  | .tuple [] => iff_of_true rfl (.tuple (by simp))
  | .map [] => iff_of_true rfl (.map (by simp) (by simp))
  | .list (v :: rest) => by
      rw [write, Written.fault_append_eq_none_iff, fault_writeItems_eq_none_iff,
        isWritable_list_iff]
      · exact and_iff_left rfl
      · simp
  | .tuple (v :: rest) => by
      rw [write, Written.fault_append_eq_none_iff, fault_writeItems_eq_none_iff,
        isWritable_tuple_iff]
      · exact and_iff_left rfl
      · simp
  | .map (entry :: rest) => by
      rw [write, Written.fault_append_eq_none_iff, Written.fault_append_eq_none_iff,
        fault_writeMembers_eq_none_iff, isWritable_map_iff]
      · exact (and_iff_left rfl).trans (and_iff_right rfl)
      · simp
  | .cycle _ | .set _ | .bytes _ | .date _ | .timestamp _ =>
      iff_of_false (fun h => nomatch h) (fun h => nomatch h)

lemma fault_writeItems_eq_none_iff (depth : Nat) (before : List Char) : ∀ items,
    (writeItems depth before items).fault = none ↔ ∀ v ∈ items, v.IsWritable
  | [] => iff_of_true (by rw [writeItems]; rfl) (by simp)
  | v :: rest => by
      have hv := fault_write_eq_none_iff depth v
      have hrest := fault_writeItems_eq_none_iff depth [','] rest
      rw [List.forall_mem_cons, ← hrest]
      cases v with
      | int i =>
          rw [writeItems, Written.fault_append_eq_none_iff, isWritable_int_iff]
          exact and_congr_left' (fault_intText?_eq_none_iff _)
      | _ =>
          rw [writeItems, Written.fault_append_eq_none_iff, Written.fault_append_eq_none_iff, hv]
          · exact and_congr_left' (and_iff_right rfl)
          · simp

lemma fault_writeMembers_eq_none_iff (depth : Nat) (before : List Char) : ∀ entries,
    (writeMembers depth before entries).fault = none ↔
      ∀ e ∈ entries, e.1.IsWritableKey ∧ e.2.IsWritable
  | [] => iff_of_true (by rw [writeMembers]; rfl) (by simp)
  | entry :: rest => by
      rw [writeMembers, Written.fault_append_eq_none_iff, List.forall_mem_cons,
        fault_writeMember_eq_none_iff depth before entry,
        fault_writeMembers_eq_none_iff depth _ rest]

lemma fault_writeMember_eq_none_iff (depth : Nat) (before : List Char) : ∀ entry,
    (writeMember depth before entry).fault = none ↔
      entry.1.IsWritableKey ∧ entry.2.IsWritable
  | (key, v) => by
      have hv := fault_write_eq_none_iff depth v
      rw [writeMember, ← fault_writeKey_eq_none_iff]
      split
      · next hkey => simp [hkey, Written.failed]
      · next hkey =>
          rw [Written.fault_append_eq_none_iff, hv, hkey]
          rfl

end

lemma not_isWritable_of_fault {depth : Nat} {v : Value} {cause : Fault}
    (h : (write depth v).fault = some cause) : ¬ v.IsWritable := by
  rw [← fault_write_eq_none_iff depth, h]
  exact Option.some_ne_none cause

/-! ## Where writing a map breaks off -/

section

variable {front back : List (Value × Value)} {key : String} {v : Value}

/-- What is left of members of which the one with this key is the first that cannot be written: those
in front of it, its key, and what can be written of its value. -/
def brokenText (depth : Nat) (start : List Char) (front : List (Value × Value)) (key : String)
    (v : Value) : List Char :=
  (writeMembers depth start front).text ++ (if front.isEmpty then start else ',' :: newLine depth) ++
    (quoted key.toList ++ [':', ' '] ++ (write depth v).text)

lemma writeMember_text (depth : Nat) (start : List Char) :
    writeMember depth start (.text key, v) =
      ⟨start ++ (quoted key.toList ++ [':', ' '] ++ (write depth v).text), (write depth v).fault⟩ := by
  rw [writeMember, writeKey]
  simp only [Written.of, Written.append_def, List.append_assoc]

lemma writeMembers_broken (depth : Nat)
    (hfront : ∀ e ∈ front, e.1.IsWritableKey ∧ e.2.IsWritable) (hv : ¬ v.IsWritable)
    (start : List Char) :
    writeMembers depth start (front ++ (.text key, v) :: back) =
      ⟨brokenText depth start front key v, (write depth v).fault⟩ := by
  have hfault := mt (fault_write_eq_none_iff depth v).mp hv
  induction front generalizing start with
  | nil =>
      obtain ⟨cause, hcause⟩ := Option.ne_none_iff_exists'.mp hfault
      rw [List.nil_append, writeMembers, writeMember_text, Written.append_def, hcause]
      rfl
  | cons entry front ih =>
      obtain ⟨hentry, hrest⟩ := List.forall_mem_cons.mp hfront
      have hdone := (fault_writeMember_eq_none_iff depth start entry).mpr hentry
      rw [List.cons_append, writeMembers, ih hrest, Written.append_def, hdone]
      dsimp only
      rw [brokenText, brokenText, writeMembers, Written.append_def, hdone]
      simp

/-- **Where writing a map breaks off.** -/
theorem write_map_broken (depth : Nat)
    (hfront : ∀ e ∈ front, e.1.IsWritableKey ∧ e.2.IsWritable) (hv : ¬ v.IsWritable) :
    write depth (.map (front ++ (.text key, v) :: back)) =
      ⟨'\x7b' :: newLine (depth + 1) ++ brokenText (depth + 1) [] front key v,
        (write (depth + 1) v).fault⟩ := by
  obtain ⟨cause, hcause⟩ :=
    Option.ne_none_iff_exists'.mp (mt (fault_write_eq_none_iff (depth + 1) v).mp hv)
  rw [write, writeMembers_broken (depth + 1) hfront hv, hcause]
  · rfl
  · simp

end

end Json

end NoteCheck
