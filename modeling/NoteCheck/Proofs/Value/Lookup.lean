import Mathlib.Tactic.Lemma
import NoteCheck.Value.Same

/-!
# Looking up what was inserted

Texts are the only values that are the same as a text, so a text is looked up among entries as if
keys were compared by equality, whatever the other keys are.  What is inserted under a text is found
under it, and everything else is found as before.
-/

namespace NoteCheck.Value

variable {s k : String} {key v w : Value} {entries : List (Value × Value)}

/-- Nothing but a text is the same as a text. -/
lemma same_text_iff : w.same (.text s) = true ↔ w = .text s := by
  cases w <;> simp [same, sameAtom, number?]

lemma text_same_iff : (text s).same w = true ↔ w = .text s := by
  cases w with
  | text t => simp [same, sameAtom, number?, eq_comm (a := s)]
  | _ => simp [same, sameAtom, number?]

/-- Whether a value is one that is not a number. -/
def isNaN : Value → Bool
  | float x => x.isNaN
  | _ => false

lemma sameNumber_eq_false_of_isNaN {x : Binary64} (hx : x.isNaN = true) (m : Int ⊕ Binary64) :
    sameNumber (.inr x) m = false ∧ sameNumber m (.inr x) = false := by
  have hfinite : x.isFinite = false := by
    rw [Binary64.isNaN, decide_eq_true_eq] at hx
    exact decide_eq_false (Nat.not_lt.mpr (Nat.le_of_lt hx))
  cases m <;> simp [sameNumber, Binary64.eqValue, Binary64.eqInt, hx, hfinite]

/-- What is not a number is the same as nothing. -/
lemma same_eq_false_of_isNaN (h : v.isNaN = true) (w : Value) :
    v.same w = false ∧ w.same v = false := by
  cases v with
  | float x =>
      have hx := sameNumber_eq_false_of_isNaN (x := x) h
      cases w <;> simp [same, sameAtom, number?, hx]
  | _ => cases h

lemma lookup_nil : lookup key [] = none := rfl

lemma lookup_cons (entry : Value × Value) :
    lookup key (entry :: entries) =
      if key.same entry.1 = true then some entry.2 else lookup key entries := by
  rw [lookup, List.find?_cons]
  split
  · next h => rw [if_pos h]; rfl
  · next h => rw [if_neg (by simp [h])]; rfl

lemma lookup_append (first second : List (Value × Value)) :
    lookup key (first ++ second) = (lookup key first).or (lookup key second) := by
  rw [lookup, List.find?_append, Option.map_or]
  rfl

lemma lookup_insert_self : lookup (.text k) (insert (.text k) v entries) = some v := by
  induction entries with
  | nil => rw [insert, lookup_cons, if_pos (text_same_iff.mpr rfl)]
  | cons entry entries ih =>
      rw [insert]
      split
      · next h =>
          rw [lookup_cons, if_pos (text_same_iff.mpr (same_text_iff.mp h))]
      · next h =>
          have hne : entry.1 ≠ .text k := fun heq => h (same_text_iff.mpr heq)
          rw [lookup_cons, if_neg (mt text_same_iff.mp hne), ih]

lemma lookup_insert_of_ne (h : key ≠ .text k) :
    lookup key (insert (.text k) v entries) = lookup key entries := by
  induction entries with
  | nil =>
      rw [insert, lookup_cons, if_neg (mt same_text_iff.mp h)]
  | cons entry entries ih =>
      rw [insert]
      split
      · next hk =>
          have hkey : ¬ key.same entry.1 = true := by
            rw [same_text_iff.mp hk]
            exact mt same_text_iff.mp h
          rw [lookup_cons, lookup_cons, if_neg hkey, if_neg hkey]
      · rw [lookup_cons, lookup_cons, ih]

/-- To set a key to what it has already changes nothing. -/
lemma insert_of_lookup (h : lookup (.text k) entries = some v) :
    insert (.text k) v entries = entries := by
  induction entries with
  | nil => cases h
  | cons entry entries ih =>
      rw [lookup_cons] at h
      rw [insert]
      split
      · next hk =>
          rw [if_pos (text_same_iff.mpr (same_text_iff.mp hk))] at h
          rw [← Option.some.inj h]
      · next hk =>
          rw [if_neg (mt text_same_iff.mp (mt same_text_iff.mpr hk))] at h
          rw [ih h]

/-- Keys keep their places, and a new one comes last. -/
lemma keys_insert : (insert (.text k) v entries).map (·.1) =
    entries.map (·.1) ++ if (lookup (.text k) entries).isSome then [] else [.text k] := by
  induction entries with
  | nil => rfl
  | cons entry entries ih =>
      rw [insert, lookup_cons]
      split
      · next hk => rw [if_pos (text_same_iff.mpr (same_text_iff.mp hk))]; simp
      · next hk =>
          rw [if_neg (mt text_same_iff.mp (mt same_text_iff.mpr hk)), List.map_cons, ih]
          rfl

lemma entries?_eq_some_iff : v.entries? = some entries ↔ v = .map entries := by
  cases v <;> simp [entries?]

/-- What is found stands among the entries. -/
lemma mem_of_lookup (h : lookup key entries = some v) : ∃ k, (k, v) ∈ entries := by
  obtain ⟨⟨k, w⟩, hfind, rfl⟩ := Option.map_eq_some_iff.mp h
  exact ⟨k, List.mem_of_find?_eq_some hfind⟩

lemma mem_insert {entry : Value × Value} (h : entry ∈ insert (.text k) v entries) :
    entry = (.text k, v) ∨ entry ∈ entries := by
  induction entries with
  | nil => exact Or.inl (List.mem_singleton.mp h)
  | cons first entries ih =>
      rw [insert] at h
      split at h
      · next hk =>
          rcases List.mem_cons.mp h with rfl | h
          · left
            rw [same_text_iff.mp hk]
          · exact Or.inr (List.mem_cons_of_mem _ h)
      · rcases List.mem_cons.mp h with rfl | h
        · exact Or.inr List.mem_cons_self
        · exact (ih h).imp_right (List.mem_cons_of_mem _)

/-! ## Comparing entries -/

/-- Whether two lists of entries have the same truth values, integers and texts under the same
texts. -/
def areEntries : List (Value × Value) → List (Value × Value) → Bool
  | [], [] => true
  | (.text k, .bool a) :: es, (.text l, .bool b) :: fs => k = l && a = b && areEntries es fs
  | (.text k, .int i) :: es, (.text l, .int j) :: fs => k = l && i = j && areEntries es fs
  | (.text k, .text s) :: es, (.text l, .text t) :: fs => k = l && s = t && areEntries es fs
  | _, _ => false

lemma eq_of_areEntries {es fs : List (Value × Value)} (h : areEntries es fs = true) : es = fs := by
  fun_induction areEntries es fs <;> simp_all

lemma eq_some_map {v : Option Value} (h : (v.bind entries?).any (areEntries · entries) = true) :
    v = some (.map entries) := by
  rcases v with _ | v
  · cases h
  · cases v with
    | map found => rw [eq_of_areEntries h]
    | _ => cases h

lemma eq_ok_map {ε : Type} {result : Except ε Value}
    (h : (result.toOption.bind entries?).any (areEntries · entries) = true) :
    result = .ok (.map entries) := by
  have hsome := eq_some_map h
  cases result with
  | error _ => cases hsome
  | ok v => rw [Option.some.inj hsome]

end NoteCheck.Value
