import NoteCheck.Check.Declaration
import NoteCheck.Proofs.Check.Report

/-!
# What the listing of a schema promises

The rows of a listing say of each property whether the host application manages it and whether its
declared type has a rule.  Whoever reads the listing takes a property for *enforced* if its row says
no to the first question and yes to the second.  A check never looks at the listing; it has a list
of its own of properties that are exempt, and it looks the rules up for itself.

Where a check looks at a property at all, nothing is a value that every rule rejects, so the
properties that a check can report are those that are not exempt and have a known type
(`exists_reports_iff`).  The two lists of names differ in one: the position marker is exempt, but it
is not listed as managed (`isExempt_text_iff`).

* **`declarations_enforced`** — but for the position marker, the rows tell which properties can be
  reported.
* `declarations_position` — the row of the position marker does not.
-/

namespace NoteCheck

/-- Whether entries are those of a schema that declares something for names, once for each. -/
structure AreDeclared (entries : List (Value × Value)) : Prop where
  named : ∀ e ∈ entries, ∃ name, e.1 = .text name
  nodup : (entries.map (·.1)).Nodup

/-- Whether a check reports a property of a frontmatter that it really looks at. -/
def Reports (schema frontmatter property : Value) : Prop :=
  ∃ (c : Cache Violation) (path : String) (mtime : Value) (force : Bool) (found : List Violation),
    (force = true ∨ c.current? path mtime = none) ∧
      (c.fetch path mtime force (violations schema frontmatter)).result = .ok found ∧
      ∃ x ∈ found, x.property = property

/-- The property that is reserved for the position in the note. -/
def positionMarker : Value :=
  .text "position"

variable {schema frontmatter property declared : Value} {entries : List (Value × Value)}

/-! ## Looking a declaration up -/

/-- What is declared for a name is found under it. -/
lemma AreDeclared.lookup (h : AreDeclared entries) (hmem : (property, declared) ∈ entries) :
    Value.lookup property entries = some declared := by
  obtain ⟨name, rfl⟩ := h.named _ hmem
  obtain ⟨-, hnodup⟩ := h
  induction entries with
  | nil => cases hmem
  | cons first rest ih =>
      obtain ⟨hfirst, hrest⟩ := List.nodup_cons.mp hnodup
      rw [Value.lookup_cons]
      rcases List.mem_cons.mp hmem with rfl | hmem
      · rw [if_pos (Value.text_same_iff.mpr rfl)]
      · have hne : first.1 ≠ .text name := by
          intro heq
          exact hfirst (List.mem_map.mpr ⟨_, hmem, heq.symm⟩)
        rw [if_neg (mt Value.text_same_iff.mp hne), ih hmem hrest]

lemma AreDeclared.knownType? (h : AreDeclared entries) (hmem : (property, declared) ∈ entries) :
    knownType? (.map entries) property = PropertyType.ofValue? declared := by
  rw [NoteCheck.knownType?, Value.entries?, Option.getD_some, h.lookup hmem, Option.bind_some]

/-! ## What can be reported -/

lemma reports_iff : Reports schema frontmatter property ↔
    ∃ found, violations schema frontmatter = .ok found ∧ ∃ x ∈ found, x.property = property := by
  constructor
  · rintro ⟨c, path, mtime, force, found, hlooked, hfound, hx⟩
    rw [Cache.fetch_result_of_looked hlooked] at hfound
    exact ⟨found, hfound, hx⟩
  · rintro ⟨found, hfound, hx⟩
    refine ⟨.empty, "", .null, true, found, Or.inl rfl, ?_, hx⟩
    rw [Cache.fetch_result_of_looked (Or.inl rfl), hfound]

/-- Nothing conforms to no type. -/
lemma conforms_null (t : PropertyType) : conforms .null (.text t.name) = .ok false := by
  rw [conforms_name (by decide)]
  cases t <;> rfl

/-- A property that is not exempt and has a known type is reported where it holds nothing. -/
lemma reports_null {t : PropertyType} (hexempt : isExempt property = false)
    (hknown : knownType? schema property = some t) :
    Reports schema (.map [(property, .null)]) property := by
  have hfirst : checkProperty schema property .null = .ok (some ⟨property, t.name, .null⟩) := by
    rw [checkProperty, hexempt, declared?_of_knownType? hknown]
    dsimp only [Bool.false_eq_true, if_false]
    rw [Value.shape, Fault.ok_bind, conforms_null]
    rfl
  have hfound : violations schema (.map [(property, .null)])
      = .ok [⟨property, t.name, .null⟩] :=
    entryViolations_cons_eq_ok_iff.mpr ⟨_, [], hfirst, rfl, rfl⟩
  exact reports_iff.mpr ⟨_, hfound, _, List.mem_singleton_self _, rfl⟩

/-- What is reported is not exempt and has a known type. -/
lemma exists_knownType_of_reports (h : Reports schema frontmatter property) :
    isExempt property = false ∧ ∃ t, knownType? schema property = some t := by
  obtain ⟨found, hfound, x, hx, rfl⟩ := reports_iff.mp h
  have hproperty := map_property_of_reports (reports_of_entryViolations hfound)
  obtain ⟨e, he, heq⟩ := List.mem_map.mp (hproperty ▸ List.mem_map_of_mem hx)
  rw [← heq]
  exact exists_knownType_of_isBroken (List.mem_filter.mp he).2

/-- **What can be reported** is what is not exempt and has a known type, and it takes one value only
to show it. -/
lemma exists_reports_iff : (∃ v, Reports schema (.map [(property, v)]) property) ↔
    isExempt property = false ∧ ∃ t, knownType? schema property = some t := by
  constructor
  · rintro ⟨v, h⟩
    exact exists_knownType_of_reports h
  · rintro ⟨hexempt, t, hknown⟩
    exact ⟨.null, reports_null hexempt hknown⟩

/-! ## The rows -/

/-- The names that are exempt are those that are managed, and one more. -/
lemma isExempt_text_iff (name : String) :
    isExempt (.text name) = false ↔
      isBuiltin (.text name) = false ∧ (.text name : Value) ≠ positionMarker := by
  simp only [isExempt, exemptProperties, isBuiltin, positionMarker, ne_eq, Value.text.injEq,
    List.contains_cons, List.contains_nil, Bool.or_false, Bool.or_eq_false_iff, beq_eq_false_iff_ne]
  exact ⟨fun h => ⟨h.2, h.1⟩, fun h => ⟨h.2, h.1⟩⟩

/-- **The listing of a schema** has a row for each property, in the order of the schema.  Take a
property that is not the position marker.  Its row says that it is not managed and that its type is
known if and only if there is a value with which a check reports it.  A property whose row says
otherwise is reported for no frontmatter at all; nor is the position marker, whatever its row says. -/
theorem declarations_enforced (h : AreDeclared entries) :
    (declarations entries).map (fun row => (row.property, row.declared)) = entries ∧
    ∀ row ∈ declarations entries,
      (row.property ≠ positionMarker →
        (row.builtin = false ∧ row.known = true ↔
          ∃ v, Reports (.map entries) (.map [(row.property, v)]) row.property)) ∧
      (row.builtin = true ∨ row.known = false ∨ row.property = positionMarker →
        ∀ frontmatter, ¬ Reports (.map entries) frontmatter row.property) := by
  constructor
  · rw [declarations, List.map_map]
    exact List.map_id _
  intro row hrow
  obtain ⟨⟨property, declared⟩, hmem, rfl⟩ := List.mem_map.mp hrow
  obtain ⟨name, rfl⟩ := h.named _ hmem
  have hknown := h.knownType? hmem
  dsimp only
  constructor
  · intro hposition
    rw [exists_reports_iff, isExempt_text_iff, hknown, ← Option.isSome_iff_exists,
      and_iff_left hposition]
  · intro hrow frontmatter hreports
    obtain ⟨hexempt, hsome⟩ := exists_knownType_of_reports hreports
    obtain ⟨hbuiltin, hposition⟩ := (isExempt_text_iff name).mp hexempt
    rw [hknown, ← Option.isSome_iff_exists] at hsome
    rcases hrow with hmanaged | hunknown | hmarker
    · exact absurd (hbuiltin.symm.trans hmanaged) Bool.false_ne_true
    · exact absurd (hunknown.symm.trans hsome) Bool.false_ne_true
    · exact hposition hmarker

/-- A schema with a number, with a property that the host application manages, and with a type that
has no rule. -/
def mixedSchema : List (Value × Value) :=
  [(.text "priority", .text "number"), (.text "tags", .text "text"), (.text "rating", .text "stars")]

/-- The number is enforced; the managed property is not, nor is the one of unknown type. -/
theorem declarations_enforced_mixed :
    (∃ v, Reports (.map mixedSchema) (.map [(.text "priority", v)]) (.text "priority")) ∧
      (∀ frontmatter, ¬ Reports (.map mixedSchema) frontmatter (.text "tags")) ∧
      ∀ frontmatter, ¬ Reports (.map mixedSchema) frontmatter (.text "rating") := by
  have hdeclared : AreDeclared mixedSchema := by
    refine ⟨?_, ?_⟩
    · simp [mixedSchema]
    · simp [mixedSchema]
  obtain ⟨-, hrows⟩ := declarations_enforced hdeclared
  have hlisted : declarations mixedSchema =
      [⟨.text "priority", .text "number", false, true⟩, ⟨.text "tags", .text "text", true, true⟩,
        ⟨.text "rating", .text "stars", false, false⟩] := rfl
  rw [hlisted] at hrows
  have hnumber := hrows ⟨.text "priority", .text "number", false, true⟩ (by simp)
  have htags := hrows ⟨.text "tags", .text "text", true, true⟩ (by simp)
  have hrating := hrows ⟨.text "rating", .text "stars", false, false⟩ (by simp)
  exact ⟨(hnumber.1 (by simp [positionMarker])).mp ⟨rfl, rfl⟩, htags.2 (Or.inl rfl),
    hrating.2 (Or.inr (Or.inl rfl))⟩

/-- **The position marker** is listed like a property that is enforced, but it is reported for no
frontmatter. -/
theorem declarations_position :
    declarations [(positionMarker, .text "text")] = [⟨positionMarker, .text "text", false, true⟩] ∧
      ∀ frontmatter, ¬ Reports (.map [(positionMarker, .text "text")]) frontmatter positionMarker := by
  refine ⟨rfl, fun frontmatter h => ?_⟩
  exact absurd (exists_knownType_of_reports h).1 (by decide)

end NoteCheck
