import Mathlib.Tactic.Lemma
import NoteCheck.Check.Violation
import NoteCheck.Proofs.Outcome

/-!
# Looking at a value and checking it

What a value looks like is told by the first of several tests that it passes (`Value.shape`); whether
it conforms to a declared type is decided by the rule of that type, which knows nothing of the other
types (`PropertyType.accepts`).  This file shows that the two agree.  To each type belong some shapes
(`PropertyType.shapes`), and a value conforms to the type exactly if it has one of them.

The agreement has exceptions, the values that are *misnamed*: what they look like bears the name of a
type whose rule rejects them, so that a report about them reads *expected X, got X*.

* **`conforms_iff_shape`** — the agreement, and that the misnamed values are just the numbers that
  are not finite and the days and moments that are no texts.
-/

namespace NoteCheck

/-- The shapes of the values that conform to a type. -/
def PropertyType.shapes : PropertyType → List Shape
  | text => [.text, .date, .datetime]
  | list | multitext => [.text, .date, .datetime, .tags, .list]
  | number => [.number]
  | checkbox | boolean => [.checkbox]
  | date => [.date]
  | datetime => [.datetime]
  | tags => [.tags]
  | aliases => [.tags, .list]

/-- Whether a value is a number that is not finite, or a day or moment that is no text. -/
def Value.isMisnamed : Value → Bool
  | float x => !x.isFinite
  | date _ | timestamp _ => true
  | _ => false

/-! ## Rules and shapes -/

/-- A type has among its shapes the one that bears its name. -/
lemma PropertyType.mem_shapes_of_name {t : PropertyType} {s : Shape} :
    s.name = t.name → s ∈ t.shapes := by
  cases t <;> cases s <;> decide

lemma Value.allTexts_of_marked {items : List Value} (h : allTexts "#" items = true) :
    allTexts "" items = true := by
  rw [allTexts, List.all_eq_true] at h ⊢
  intro v hv
  cases v with
  | text s => simp
  | _ => exact absurd (h _ hv) (by simp)

/-- The shape of a text that reads as a date or not, and shows a time of day or not. -/
def Shape.ofText (dated timed : Bool) : Shape :=
  if dated then if timed then .datetime else .date else .text

lemma Value.shape_text (cs : String) :
    (text cs).shape = .ok (.ofText (text cs).isDateShaped (text cs).hasTimeOfDay) := by
  rw [shape, isDateShaped, hasTimeOfDay]
  cases DateText.isDateShaped cs.toList <;> rfl

lemma PropertyType.decide_ofText (dated timed : Bool) (t : PropertyType) :
    decide (Shape.ofText dated timed ∈ t.shapes) =
      match t with
      | text | list | multitext => true
      | date => dated && !timed
      | datetime => dated && timed
      | _ => false := by
  cases dated <;> cases timed <;> cases t <;> rfl

/-- The shape of a sequence of these items. -/
def Shape.ofItems (items : List Value) : Shape :=
  if Value.allTexts "#" items then .tags else if Value.allTexts "" items then .list else .array

/-- Texts with a mark are texts, so the rules for sequences see the same three cases as the tests
for them, though the tests stop at the first that holds. -/
lemma PropertyType.decide_ofItems (items : List Value) (t : PropertyType) :
    decide (Shape.ofItems items ∈ t.shapes) =
      match t with
      | tags => Value.allTexts "#" items
      | list | multitext | aliases => Value.allTexts "" items
      | _ => false := by
  cases hmarked : Value.allTexts "#" items with
  | true =>
      have htexts := Value.allTexts_of_marked hmarked
      simp only [Shape.ofItems, hmarked, htexts, if_true]
      cases t <;> rfl
  | false =>
      cases htexts : Value.allTexts "" items <;>
        simp only [Shape.ofItems, hmarked, htexts, if_true, Bool.false_eq_true, if_false] <;>
        cases t <;> rfl

/-- **The rule of a type accepts the values that have one of its shapes**, unless they are
misnamed. -/
lemma PropertyType.accepts_of_shape {v : Value} {s : Shape} (hkind : v.kind ≠ .object)
    (hnamed : v.isMisnamed = false) (hshape : v.shape = .ok s) (t : PropertyType) :
    t.accepts v = .ok (decide (s ∈ t.shapes)) := by
  cases v with
  | null =>
      obtain rfl := Except.ok.inj hshape
      cases t <;> rfl
  | bool b =>
      obtain rfl := Except.ok.inj hshape
      cases t <;> rfl
  | int i =>
      obtain ⟨yes, hfinite, h⟩ := Fault.bind_eq_ok_iff.mp hshape
      obtain rfl := Except.ok.inj h
      have hyes : yes = true := by
        rw [Value.isFiniteNumber] at hfinite
        split at hfinite
        · exact (Except.ok.inj hfinite).symm
        · exact absurd hfinite (by simp)
      subst hyes
      cases t with
      | number => exact hfinite
      | _ => rfl
  | float x =>
      obtain rfl := Except.ok.inj hshape
      have hfinite : x.isFinite = true := by simpa [Value.isMisnamed] using hnamed
      cases t with
      | number =>
          rw [accepts, Value.isFiniteNumber, hfinite]
          rfl
      | _ => rfl
  | text cs =>
      obtain rfl := Except.ok.inj ((Value.shape_text cs).symm.trans hshape)
      rw [decide_ofText]
      cases t <;> rfl
  | list items =>
      obtain rfl : Shape.ofItems items = s := Except.ok.inj hshape
      rw [decide_ofItems]
      cases t <;> rfl
  | tuple items =>
      obtain rfl : Shape.ofItems items = s := Except.ok.inj hshape
      rw [decide_ofItems]
      cases t <;> rfl
  | set members =>
      obtain rfl := Except.ok.inj hshape
      cases t <;> rfl
  | bytes octets =>
      obtain rfl := Except.ok.inj hshape
      cases t <;> rfl
  | date d => exact absurd hnamed (by simp [Value.isMisnamed])
  | timestamp m => exact absurd hnamed (by simp [Value.isMisnamed])
  | map entries => exact absurd rfl hkind
  | cycle up => exact absurd rfl hkind

/-! ## Declared types -/

/-- A type that is declared by its name decides by its rule, except on maps. -/
lemma conforms_name {v : Value} (hkind : v.kind ≠ .object) (t : PropertyType) :
    conforms v (.text t.name) = t.accepts v := by
  rw [conforms, if_neg hkind, PropertyType.ofValue?, PropertyType.ofName?_name]

/-- A misnamed value is rejected by the type whose name it bears. -/
lemma rejected_of_isMisnamed {v : Value} {s : Shape} (hmisnamed : v.isMisnamed = true)
    (hshape : v.shape = .ok s) :
    ∃ t : PropertyType, s.name = t.name ∧ conforms v (.text t.name) = .ok false := by
  cases v with
  | float x =>
      obtain rfl := Except.ok.inj hshape
      have hinfinite : x.isFinite = false := by simpa [Value.isMisnamed] using hmisnamed
      refine ⟨.number, rfl, ?_⟩
      rw [conforms_name (by simp [Value.kind]), PropertyType.accepts, Value.isFiniteNumber,
        hinfinite]
  | date d =>
      obtain rfl := Except.ok.inj hshape
      exact ⟨.date, rfl, conforms_name (by simp [Value.kind]) .date⟩
  | timestamp m =>
      obtain rfl := Except.ok.inj hshape
      exact ⟨.datetime, rfl, conforms_name (by simp [Value.kind]) .datetime⟩
  | _ => exact absurd hmisnamed (by simp [Value.isMisnamed])

/-- **Looking at a value and checking it agree.**  Take a value that is no map, and suppose that what
it looks like can be told.  Unless it is misnamed, it conforms to a known type exactly if it has one
of the shapes of the type.  It is misnamed exactly if some known type has the name of its shape and
rejects it, and then the report about it reads *expected X, got X*.  A map conforms to every type. -/
theorem conforms_iff_shape {v : Value} {s : Shape} (hkind : v.kind ≠ .object)
    (hshape : v.shape = .ok s) :
    (v.isMisnamed = false →
        ∀ t : PropertyType, conforms v (.text t.name) = .ok (decide (s ∈ t.shapes)))
      ∧ (v.isMisnamed = true ↔
        ∃ t : PropertyType, s.name = t.name ∧ conforms v (.text t.name) = .ok false)
      ∧ (∀ (schema property : Value) (t : PropertyType), isExempt property = false →
        declared? schema property = some t.name → s.name = t.name →
        conforms v (.text t.name) = .ok false →
        ∃ found, checkProperty schema property v = .ok (some found) ∧
          found.message = "expected " ++ t.name ++ ", got " ++ t.name)
      ∧ ∀ (entries : List (Value × Value)) (t : PropertyType),
        conforms (.map entries) (.text t.name) = .ok true := by
  have hagree : v.isMisnamed = false →
      ∀ t : PropertyType, conforms v (.text t.name) = .ok (decide (s ∈ t.shapes)) := by
    intro hnamed t
    rw [conforms_name hkind, PropertyType.accepts_of_shape hkind hnamed hshape]
  refine ⟨hagree, ⟨fun h => rejected_of_isMisnamed h hshape, ?_⟩, ?_, fun entries t => rfl⟩
  · rintro ⟨t, hname, hrejected⟩
    have hmem := PropertyType.mem_shapes_of_name hname
    cases hnamed : v.isMisnamed with
    | true => rfl
    | false =>
        rw [hagree hnamed t] at hrejected
        exact absurd hmem (by simpa using hrejected)
  · intro schema property t hexempt hdeclared hname hrejected
    refine ⟨⟨property, t.name, s⟩, ?_, ?_⟩
    · simp only [checkProperty, hexempt, hdeclared, hshape, hrejected, Bool.false_eq_true, if_false,
        Fault.ok_bind, Fault.pure_eq_ok]
    · rw [Violation.message, hname]

/-- A list of texts, one of them without a mark, is a list of aliases but no list of tags; and what is not
a number is rejected by the type whose name it bears. -/
theorem conforms_iff_shape_mixed :
    conforms (.list [.text "#a", .text "b"]) (.text "aliases") = .ok true
      ∧ conforms (.list [.text "#a", .text "b"]) (.text "tags") = .ok false
      ∧ ∃ t : PropertyType, Shape.number.name = t.name ∧
        conforms (.float .nan) (.text t.name) = .ok false := by
  have hlist := (conforms_iff_shape (v := .list [.text "#a", .text "b"]) (s := .list) (by simp [Value.kind])
    (by cbv)).1 rfl
  have hnan := (conforms_iff_shape (v := .float .nan) (s := .number) (by simp [Value.kind])
    rfl).2.1.mp (by cbv)
  exact ⟨hlist .aliases, hlist .tags, hnan⟩

end NoteCheck
