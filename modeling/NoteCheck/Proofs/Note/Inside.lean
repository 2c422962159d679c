import NoteCheck.Proofs.Note.Block
import NoteCheck.Proofs.Note.Moments
import NoteCheck.Proofs.Typing.Agreement

/-!
# Days and moments inside collections

A frontmatter is meant to hold days and moments as texts only, the way they were written.  But just
the values of properties themselves are put into texts (`Frontmatter.asWritten`); what occurs inside
a collection stays what YAML made of it.

* **`moments_remain_inside`** — so no property is a day or a moment, yet one occurs in a property
  whenever it occurs in a collection that YAML read for it; and a list that holds one conforms to no
  type.
* **`moments_remain_listed`** — a list of one day is such a list.
-/

namespace NoteCheck

/-- Whether a value occurs in another one: as that value itself, or in one of its members. -/
inductive Value.Occurs (m : Value) : Value → Prop where
  | self : Occurs m m
  | item {items : List Value} {v : Value} : v ∈ items → Occurs m v → Occurs m (.list items)
  | part {items : List Value} {v : Value} : v ∈ items → Occurs m v → Occurs m (.tuple items)
  | member {members : List Value} {v : Value} :
      v ∈ members → Occurs m v → Occurs m (.set members)
  | key {entries : List (Value × Value)} {entry : Value × Value} :
      entry ∈ entries → Occurs m entry.1 → Occurs m (.map entries)
  | value {entries : List (Value × Value)} {entry : Value × Value} :
      entry ∈ entries → Occurs m entry.2 → Occurs m (.map entries)

namespace Frontmatter

variable {content : List Char} {f : Frontmatter} {name : String} {m v w : Value}

/-! ## What is written -/

lemma precision?_asWritten (v : Value) : (asWritten v).precision? = none := by
  cases v <;> rfl

/-- Writing a value takes away a day or a moment only where it is the value itself. -/
lemma occurs_asWritten_iff (hm : m.precision?.isSome = true) :
    m.Occurs (asWritten v) ↔ v.precision? = none ∧ m.Occurs v := by
  cases v with
  | date d =>
      constructor
      · intro h
        cases h
        cases hm
      · rintro ⟨hnone, -⟩
        cases hnone
  | timestamp t =>
      constructor
      · intro h
        cases h
        cases hm
      · rintro ⟨hnone, -⟩
        cases hnone
  | _ => exact (and_iff_right rfl).symm

/-! ## Where properties come from -/

/-- Whether an entry that YAML read in the block of a note gives the property of a name. -/
def IsSource (content : List Char) (entry : Value × Value) (name : String) : Prop :=
  ∃ block body entries, cutBlock? content = some (block, body) ∧
    Yaml.load block = .ok (.entries entries) ∧ Counts entries entry name

/-- **The properties of a note** are its sources as they are written. -/
lemma mem_properties_iff (h : read content = .ok f) :
    (name, w) ∈ f.properties ↔ ∃ entry, IsSource content entry name ∧ asWritten entry.2 = w := by
  constructor
  · intro hw
    rcases read_eq_ok_iff.mp h with ⟨-, rfl⟩ | ⟨block, body, hcut, h⟩
    · cases hw
    · rcases h with ⟨properties, ⟨entries, hload, hentries⟩ | ⟨-, -, -, rfl⟩, rfl⟩ | ⟨-, rfl⟩
      · obtain ⟨entry, hcounts, hwritten⟩ := ((mem_ofEntries_iff hentries).2 name w).mp hw
        exact ⟨entry, ⟨block, body, entries, hcut, hload, hcounts⟩, hwritten⟩
      · cases hw
      · cases hw
  · rintro ⟨entry, ⟨block, body, entries, hcut, hload, hcounts⟩, hwritten⟩
    have hentries := ofEntries_of_read hcut hload h
    exact ((mem_ofEntries_iff hentries).2 name w).mpr ⟨entry, hcounts, hwritten⟩

end Frontmatter

/-! ## Lists with a day in them -/

variable {v w : Value} {items : List Value} {schema : Value} {name : String}

lemma Value.allTexts_of_mem_moment {m : Value} (hm : m ∈ items)
    (hmoment : m.precision?.isSome = true) (start : String) : allTexts start items = false := by
  rw [Bool.eq_false_iff, allTexts, ne_eq, List.all_eq_true]
  intro hall
  have htext := hall m hm
  cases m with
  | text s => cases hmoment
  | _ => cases htext

/-- A sequence with a day or a moment in it looks like an array, and conforms to no type. -/
lemma conforms_of_mem_moment (hitems : v.items? = some items)
    (hm : ∃ m ∈ items, m.precision?.isSome = true) :
    v.shape = .ok .array ∧ ∀ t : PropertyType, conforms v (.text t.name) = .ok false := by
  obtain ⟨m, hm, hmoment⟩ := hm
  have hshape : Shape.ofItems items = .array := by
    rw [Shape.ofItems, Value.allTexts_of_mem_moment hm hmoment,
      Value.allTexts_of_mem_moment hm hmoment]
    rfl
  have hsequence : v = .list items ∨ v = .tuple items := by
    cases v with
    | list xs => exact Or.inl (by rw [Option.some.inj hitems])
    | tuple xs => exact Or.inr (by rw [Option.some.inj hitems])
    | _ => cases hitems
  have harray : v.shape = .ok .array := by
    rw [← hshape]
    rcases hsequence with rfl | rfl <;> rfl
  refine ⟨harray, fun t => ?_⟩
  have hkind : v.kind ≠ .object := by
    rcases hsequence with rfl | rfl <;> simp [Value.kind]
  have hnamed : v.isMisnamed = false := by
    rcases hsequence with rfl | rfl <;> rfl
  rw [conforms_name hkind, PropertyType.accepts_of_shape hkind hnamed harray]
  cases t <;> rfl

/-- A check that gives an answer reports such a sequence, whatever type is declared for it. -/
lemma mem_violations_of_mem_moment {properties : Properties} {t : PropertyType}
    {found : List Violation} (hmem : (name, v) ∈ properties) (hitems : v.items? = some items)
    (hm : ∃ m ∈ items, m.precision?.isSome = true) (hexempt : isExempt (.text name) = false)
    (hdeclared : declared? schema (.text name) = some t.name)
    (h : violations schema properties.toValue = .ok found) :
    ⟨.text name, t.name, .array⟩ ∈ found := by
  obtain ⟨hshape, hconforms⟩ := conforms_of_mem_moment hitems hm
  refine mem_entryViolations h (List.mem_map.mpr ⟨(name, v), hmem, rfl⟩) ?_
  rw [checkProperty, hexempt, if_neg Bool.false_ne_true, hdeclared]
  dsimp only
  rw [hshape, hconforms]
  rfl

/-- **Days and moments remain inside collections.**  Suppose that a note can be read.  None of its
properties is a day or a moment.  But a day or a moment occurs in some property exactly if it occurs
in an entry of the block that gives a property and is itself no day or moment: only what stands
deeper in it remains.  And a property that is a list with a day or a moment among its items looks
like an array and conforms to no type; so if any known type is declared for it and it is not exempt,
then it is among the violations. -/
theorem moments_remain_inside {content : List Char} {f : Frontmatter}
    (h : Frontmatter.read content = .ok f) :
    (∀ p ∈ f.properties, p.2.precision? = none) ∧
    (∀ m : Value, m.precision?.isSome = true →
      ((∃ p ∈ f.properties, m.Occurs p.2) ↔
        ∃ entry name, Frontmatter.IsSource content entry name ∧ entry.2.precision? = none ∧
          m.Occurs entry.2)) ∧
    ∀ (name : String) (w : Value) (items : List Value), (name, w) ∈ f.properties →
      w.items? = some items → (∃ m ∈ items, m.precision?.isSome = true) →
      w.shape = .ok .array ∧ ∀ t : PropertyType, conforms w (.text t.name) = .ok false ∧
        ∀ (schema : Value) (found : List Violation), isExempt (.text name) = false →
          declared? schema (.text name) = some t.name →
          violations schema f.properties.toValue = .ok found →
          ⟨.text name, t.name, .array⟩ ∈ found := by
  refine ⟨?_, fun m hm => ⟨?_, ?_⟩, ?_⟩
  · rintro ⟨name, w⟩ hw
    obtain ⟨entry, -, rfl⟩ := (Frontmatter.mem_properties_iff h).mp hw
    exact Frontmatter.precision?_asWritten entry.2
  · rintro ⟨⟨name, w⟩, hw, hoccurs⟩
    obtain ⟨entry, hsource, rfl⟩ := (Frontmatter.mem_properties_iff h).mp hw
    exact ⟨entry, name, hsource, (Frontmatter.occurs_asWritten_iff hm).mp hoccurs⟩
  · rintro ⟨entry, name, hsource, hoccurs⟩
    exact ⟨(name, Frontmatter.asWritten entry.2),
      (Frontmatter.mem_properties_iff h).mpr ⟨entry, hsource, rfl⟩,
      (Frontmatter.occurs_asWritten_iff hm).mpr hoccurs⟩
  · intro name w items hw hitems hm
    obtain ⟨hshape, hconforms⟩ := conforms_of_mem_moment hitems hm
    exact ⟨hshape, fun t => ⟨hconforms t, fun schema found hexempt hdeclared hfound =>
      mem_violations_of_mem_moment hw hitems hm hexempt hdeclared hfound⟩⟩

/-- Whether what is read is one property that is a list of one day. -/
def isListedDay (name : String) : Except Fault Frontmatter → Bool
  | .ok ⟨[(n, .list [.date _])], _⟩ => n == name
  | _ => false

lemma exists_of_isListedDay {result : Except Fault Frontmatter}
    (h : isListedDay name result = true) :
    ∃ d body, result = .ok ⟨[(name, .list [.date d])], body⟩ := by
  unfold isListedDay at h
  split at h
  · next n d body => exact ⟨d, body, by rw [beq_iff_eq.mp h]⟩
  · cases h

/-- A list in a row that holds a day. -/
theorem moments_remain_inside_row :
    ∃ f items, Frontmatter.read "---\ndue: [2024-01-15]\n---\n".toList = .ok f ∧
      ("due", .list items) ∈ f.properties ∧ (∃ m ∈ items, m.precision?.isSome = true) ∧
      ∀ t : PropertyType, conforms (.list items) (.text t.name) = .ok false := by
  have hlisted :
      isListedDay "due" (Frontmatter.read "---\ndue: [2024-01-15]\n---\n".toList) = true := by
    decide +kernel
  obtain ⟨d, body, hread⟩ := exists_of_isListedDay hlisted
  have hmem : ("due", Value.list [.date d]) ∈ [("due", Value.list [.date d])] :=
    List.mem_singleton_self _
  have hday : ∃ m ∈ [Value.date d], m.precision?.isSome = true :=
    ⟨.date d, List.mem_singleton_self _, rfl⟩
  have hrejected := ((moments_remain_inside hread).2.2 "due" _ _ hmem rfl hday).2
  exact ⟨_, [.date d], hread, hmem, hday, fun t => (hrejected t).1⟩

/-- **A list of one day** stays a list of one day, which is no list of texts: whether it is declared
as a list, as one by the older name, or as aliases, it is reported. -/
theorem moments_remain_listed :
    ∃ d body, Frontmatter.read "---\ndays:\n- 2024-01-15\n---\n".toList =
        .ok ⟨[("days", .list [.date d])], body⟩ ∧
      ∀ t ∈ [PropertyType.list, .multitext, .aliases],
        violations (soleSchema "days" t.name) (Properties.toValue [("days", .list [.date d])]) =
          .ok [⟨.text "days", t.name, .array⟩] := by
  have hlisted :
      isListedDay "days" (Frontmatter.read "---\ndays:\n- 2024-01-15\n---\n".toList) = true := by
    decide +kernel
  obtain ⟨d, body, hread⟩ := exists_of_isListedDay hlisted
  refine ⟨d, body, hread, fun t ht => ?_⟩
  simp only [List.mem_cons, List.not_mem_nil, or_false] at ht
  rcases ht with rfl | rfl | rfl <;> cbv

end NoteCheck
