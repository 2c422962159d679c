import Mathlib.Data.List.Forall2
import NoteCheck.Proofs.Check.PerProperty
import NoteCheck.Proofs.Check.Totality
import NoteCheck.Proofs.Typing.Agreement
import NoteCheck.Proofs.Value.Lookup

/-!
# What a check reports

A schema matters to a check only by the known types that it declares (`knownType?`): a name that is
not known, or something that is no name, counts like no declaration.  An entry of a frontmatter is
*broken* if its property is not exempt, a type is known for it, and the rule of that type rejects
the value, which is no map (`isBroken`).

* **`report_exact`** — a check reports the broken entries, all of them and no others, in their
  order.
-/

namespace NoteCheck

/-- The known type that a schema declares for a property. -/
def knownType? (schema property : Value) : Option PropertyType :=
  (Value.lookup property (schema.entries?.getD [])).bind PropertyType.ofValue?

/-- Whether the rule of a type rejects a value. -/
def PropertyType.rejects (t : PropertyType) (v : Value) : Bool :=
  match t.accepts v with
  | .ok conforming => !conforming
  | .error _ => false

/-- Whether an entry of a frontmatter breaks the rule of the type declared for it. -/
def isBroken (schema : Value) (entry : Value × Value) : Bool :=
  !isExempt entry.1 && entry.2.kind != .object &&
    (knownType? schema entry.1).any fun t => t.rejects entry.2

/-- Whether a violation is a report of an entry: it is about the property, tells the declared type
and what the value looks like, and says so in a sentence. -/
structure IsReportOf (schema : Value) (entry : Value × Value) (x : Violation) : Prop where
  property : x.property = entry.1
  expected : Value.lookup entry.1 (schema.entries?.getD []) = some (.text x.expected)
  actual : entry.2.shape = .ok x.actual
  message : x.message = "expected " ++ x.expected ++ ", got " ++ x.actual.name

variable {schema other property v : Value} {entries : List (Value × Value)}
  {found : List Violation}

/-! ## Known types -/

lemma knownType?_eq_some_iff {t : PropertyType} :
    knownType? schema property = some t ↔
      Value.lookup property (schema.entries?.getD []) = some (.text t.name) := by
  rw [knownType?, Option.bind_eq_some_iff]
  constructor
  · rintro ⟨declared, hlookup, htype⟩
    rw [hlookup, PropertyType.ofValue?_eq_some_iff.mp htype]
  · intro hlookup
    exact ⟨_, hlookup, PropertyType.ofValue?_eq_some_iff.mpr rfl⟩

/-- What a schema declares is a text that is not empty. -/
lemma declared?_eq_some_iff {expected : String} :
    declared? schema property = some expected ↔
      Value.lookup property (schema.entries?.getD []) = some (.text expected) ∧
        expected.isEmpty = false := by
  rw [declared?]
  split
  · next name hlookup =>
      rw [hlookup, Option.some.injEq, Value.text.injEq]
      cases hempty : name.isEmpty with
      | true =>
          rw [if_pos rfl]
          constructor
          · intro h
            cases h
          · rintro ⟨rfl, hne⟩
            rw [hempty] at hne
            cases hne
      | false =>
          rw [if_neg Bool.false_ne_true, Option.some.injEq]
          constructor
          · rintro rfl
            exact ⟨rfl, hempty⟩
          · exact fun h => h.1
  · next hother =>
      constructor
      · intro h
        cases h
      · rintro ⟨hlookup, -⟩
        exact absurd hlookup (hother expected)

/-- A known type is declared by its name. -/
lemma declared?_of_knownType? {t : PropertyType} (h : knownType? schema property = some t) :
    declared? schema property = some t.name :=
  declared?_eq_some_iff.mpr ⟨knownType?_eq_some_iff.mp h, by cases t <;> decide⟩

/-- Where no type is known, everything that can be looked at conforms. -/
lemma conforms_of_knownType?_eq_none {expected : String}
    (hknown : knownType? schema property = none)
    (hdeclared : declared? schema property = some expected) :
    conforms v (.text expected) = .ok true := by
  have hname : PropertyType.ofValue? (.text expected) = none := by
    rw [knownType?, (declared?_eq_some_iff.mp hdeclared).1] at hknown
    exact hknown
  rw [conforms, hname, ite_self]

/-- The value of a property that is not exempt is rejected just if the entry is broken. -/
lemma isBroken_eq {expected : String} {conforming : Bool} (hexempt : isExempt property = false)
    (hdeclared : declared? schema property = some expected)
    (hconforms : conforms v (.text expected) = .ok conforming) :
    isBroken schema (property, v) = !conforming := by
  cases hknown : knownType? schema property with
  | none =>
      have htrue := (conforms_of_knownType?_eq_none hknown hdeclared).symm.trans hconforms
      rw [← Except.ok.inj htrue]
      simp [isBroken, hknown]
  | some t =>
      obtain rfl := Option.some.inj ((declared?_of_knownType? hknown).symm.trans hdeclared)
      by_cases hkind : v.kind = .object
      · rw [conforms, if_pos hkind] at hconforms
        rw [← Except.ok.inj hconforms]
        simp [isBroken, hkind]
      · rw [conforms_name hkind] at hconforms
        simp [isBroken, hexempt, hkind, hknown, PropertyType.rejects, hconforms]

/-- A broken entry is not exempt and has a known type. -/
lemma exists_knownType_of_isBroken {entry : Value × Value} (h : isBroken schema entry = true) :
    isExempt entry.1 = false ∧ ∃ t, knownType? schema entry.1 = some t := by
  rw [isBroken, Bool.and_eq_true, Bool.and_eq_true] at h
  obtain ⟨⟨hexempt, -⟩, hrejected⟩ := h
  obtain ⟨t, ht, -⟩ := (Option.any_eq_true _ _).mp hrejected
  exact ⟨by simpa using hexempt, t, ht⟩

/-- Of a schema only the known types of properties that are not exempt matter. -/
lemma isBroken_congr {entry : Value × Value}
    (h : isExempt entry.1 = false → knownType? other entry.1 = knownType? schema entry.1) :
    isBroken other entry = isBroken schema entry := by
  cases hexempt : isExempt entry.1 with
  | true => simp [isBroken, hexempt]
  | false => rw [isBroken, isBroken, h hexempt]

/-! ## Reports of entries -/

/-- What a check of one property reports, if it gives an answer. -/
lemma reports_of_checkProperty {first : Option Violation}
    (h : checkProperty schema property v = .ok first) :
    List.Forall₂ (IsReportOf schema) ([(property, v)].filter (isBroken schema)) first.toList := by
  rw [checkProperty] at h
  split at h
  · next hexempt =>
      rw [← Except.ok.inj h]
      simp [isBroken, hexempt]
  · next hexempt =>
      split at h
      · next hdeclared =>
          have hknown : knownType? schema property = none := by
            cases hknown : knownType? schema property with
            | none => rfl
            | some t =>
                exact absurd (hdeclared.symm.trans (declared?_of_knownType? hknown)) (by simp)
          rw [← Except.ok.inj h]
          simp [isBroken, hknown]
      · next expected hdeclared =>
          obtain ⟨actual, hactual, h⟩ := Fault.bind_eq_ok_iff.mp h
          obtain ⟨conforming, hconforms, h⟩ := Fault.bind_eq_ok_iff.mp h
          have hbroken := isBroken_eq (by simpa using hexempt) hdeclared hconforms
          rw [← Except.ok.inj h, List.filter_cons, hbroken]
          cases conforming with
          | true => exact List.Forall₂.nil
          | false =>
              refine List.Forall₂.cons ⟨rfl, ?_, hactual, rfl⟩ List.Forall₂.nil
              exact (declared?_eq_some_iff.mp hdeclared).1

/-- **A check reports the broken entries** in their order, if it gives an answer. -/
lemma reports_of_entryViolations (h : entryViolations schema entries = .ok found) :
    List.Forall₂ (IsReportOf schema) (entries.filter (isBroken schema)) found := by
  induction entries generalizing found with
  | nil =>
      rw [← Except.ok.inj h]
      exact List.Forall₂.nil
  | cons entry entries ih =>
      obtain ⟨property, v⟩ := entry
      obtain ⟨first, rest, hfirst, hrest, rfl⟩ := entryViolations_cons_eq_ok_iff.mp h
      rw [← List.singleton_append, List.filter_append]
      exact List.rel_append (reports_of_checkProperty hfirst) (ih hrest)

/-- Reports are about the properties of their entries. -/
lemma map_property_of_reports {broken : List (Value × Value)}
    (h : List.Forall₂ (IsReportOf schema) broken found) :
    found.map (·.property) = broken.map (·.1) := by
  induction h with
  | nil => rfl
  | cons hx _ ih => rw [List.map_cons, List.map_cons, hx.property, ih]

/-- Reports of the same entries under schemas that declare the same known types are the same. -/
lemma eq_of_reports {broken : List (Value × Value)} {found' : List Violation}
    (h : List.Forall₂ (IsReportOf schema) broken found)
    (h' : List.Forall₂ (IsReportOf other) broken found')
    (hknown : ∀ e ∈ broken, ∃ t, knownType? schema e.1 = some t ∧ knownType? other e.1 = some t) :
    found' = found := by
  induction h generalizing found' with
  | nil =>
      cases h'
      rfl
  | @cons entry x broken found hx hrest ih =>
      cases h' with
      | @cons _ y _ _ hy hrest' =>
          obtain ⟨⟨t, ht, ht'⟩, hmore⟩ := List.forall_mem_cons.mp hknown
          have hexpected := hx.expected.symm.trans (knownType?_eq_some_iff.mp ht)
          have hexpected' := hy.expected.symm.trans (knownType?_eq_some_iff.mp ht')
          have hsame : y = x := by
            obtain ⟨property, expected, actual⟩ := x
            obtain ⟨property', expected', actual'⟩ := y
            obtain rfl : property' = property := hy.property.trans hx.property.symm
            obtain rfl : expected = t.name := Value.text.inj (Option.some.inj hexpected)
            obtain rfl : expected' = t.name := Value.text.inj (Option.some.inj hexpected')
            obtain rfl : actual' = actual := Except.ok.inj (hy.actual.symm.trans hx.actual)
            rfl
          rw [hsame, ih hrest' hmore]

lemma entryViolations_append_eq_ok_iff {first second : List (Value × Value)} :
    entryViolations schema (first ++ second) = .ok found ↔
      ∃ front back, entryViolations schema first = .ok front ∧
        entryViolations schema second = .ok back ∧ front ++ back = found := by
  induction first generalizing found with
  | nil => simp [entryViolations]
  | cons entry first ih =>
      obtain ⟨property, v⟩ := entry
      rw [List.cons_append, entryViolations_cons_eq_ok_iff]
      constructor
      · rintro ⟨x, rest, hx, hrest, rfl⟩
        obtain ⟨front, back, hfront, hback, rfl⟩ := ih.mp hrest
        refine ⟨x.toList ++ front, back, ?_, hback, List.append_assoc _ _ _⟩
        exact entryViolations_cons_eq_ok_iff.mpr ⟨x, front, hx, hfront, rfl⟩
      · rintro ⟨front, back, hfront, hback, rfl⟩
        obtain ⟨x, rest, hx, hrest, rfl⟩ := entryViolations_cons_eq_ok_iff.mp hfront
        exact ⟨x, rest ++ back, hx, ih.mpr ⟨rest, back, hrest, hback, rfl⟩,
          (List.append_assoc _ _ _).symm⟩

/-- **A check reports exactly what is broken.**  Suppose that a note is really looked at and that
its check gives an answer.  Then the violations are reports of the broken entries of the frontmatter,
one for each of them and in their order; so no property is reported twice if no two of them are the
same.  There are none if the schema or the frontmatter is no map.  The check against a schema that
declares the same known types for the properties that are not exempt finds the same violations, if it
gives an answer; and those of a frontmatter of two parts are those of the first part followed by
those of the second. -/
theorem report_exact {c : Cache Violation} {path : String} {mtime : Value} {force : Bool}
    {schema frontmatter : Value} {found : List Violation}
    (hlooked : force = true ∨ c.current? path mtime = none)
    (h : (c.fetch path mtime force (violations schema frontmatter)).result = .ok found) :
    List.Forall₂ (IsReportOf schema)
        ((frontmatter.entries?.getD []).filter (isBroken schema)) found ∧
      ((frontmatter.entries?.getD []).Pairwise (fun e d => e.1.same d.1 = false) →
        found.Pairwise fun x y => x.property.same y.property = false) ∧
      (schema.entries? = none ∨ frontmatter.entries? = none → found = []) ∧
      (∀ (other : Value) (found' : List Violation),
        (∀ e ∈ frontmatter.entries?.getD [], isExempt e.1 = false →
          knownType? other e.1 = knownType? schema e.1) →
        violations other frontmatter = .ok found' → found' = found) ∧
      ∀ first second : List (Value × Value), frontmatter = .map (first ++ second) →
        ∃ front back, violations schema (.map first) = .ok front ∧
          violations schema (.map second) = .ok back ∧ front ++ back = found := by
  rw [Cache.fetch_result_of_looked hlooked] at h
  have hreports := reports_of_entryViolations h
  refine ⟨hreports, fun hdistinct => ?_, fun hno => ?_, fun other found' hagree hother => ?_, ?_⟩
  · have hkeys : (((frontmatter.entries?.getD []).filter (isBroken schema)).map (·.1)).Pairwise
        fun k l => k.same l = false :=
      List.pairwise_map.mpr (hdistinct.filter (isBroken schema))
    rw [← map_property_of_reports hreports] at hkeys
    exact List.pairwise_map.mp hkeys
  · have hnone : (frontmatter.entries?.getD []).filter (isBroken schema) = [] := by
      rcases hno with hschema | hfrontmatter
      · refine List.filter_eq_nil_iff.mpr fun e _ => ?_
        simp [isBroken, knownType?, hschema, Value.lookup_nil]
      · rw [hfrontmatter]
        rfl
    rw [hnone] at hreports
    exact List.forall₂_nil_left_iff.mp hreports
  · have hfilter : (frontmatter.entries?.getD []).filter (isBroken other) =
        (frontmatter.entries?.getD []).filter (isBroken schema) :=
      List.filter_congr fun e he => isBroken_congr (hagree e he)
    have hreports' := reports_of_entryViolations hother
    rw [hfilter] at hreports'
    refine eq_of_reports hreports hreports' fun e he => ?_
    obtain ⟨hmem, hbroken⟩ := List.mem_filter.mp he
    obtain ⟨hexempt, t, ht⟩ := exists_knownType_of_isBroken hbroken
    exact ⟨t, ht, (hagree e hmem hexempt).trans ht⟩
  · rintro first second rfl
    exact entryViolations_append_eq_ok_iff.mp h

/-- A schema for six properties, one of them exempt and one with a name that is not known. -/
def sixTypes : Value :=
  .map [(.text "title", .text "text"), (.text "tags", .text "text"),
    (.text "rating", .text "stars"), (.text "author", .text "text"),
    (.text "done", .text "boolean"), (.text "draft", .text "checkbox")]

/-- A frontmatter with these properties, which hold nothing, no or a map. -/
def sixValues : Value :=
  .map [(.text "title", .null), (.text "tags", .null), (.text "rating", .null),
    (.text "author", .map []), (.text "done", .bool false), (.text "draft", .null)]

/-- Two of the six properties are broken. -/
theorem report_exact_two :
    (Cache.empty.fetch "note.md" (.int 1) false (violations sixTypes sixValues)).result =
        .ok [⟨.text "title", "text", .null⟩, ⟨.text "draft", "checkbox", .null⟩] ∧
      List.Forall₂ (IsReportOf sixTypes) [(.text "title", .null), (.text "draft", .null)]
        [⟨.text "title", "text", .null⟩, ⟨.text "draft", "checkbox", .null⟩] := by
  have hresult : (Cache.empty.fetch "note.md" (.int 1) false
      (violations sixTypes sixValues)).result =
        .ok [⟨.text "title", "text", .null⟩, ⟨.text "draft", "checkbox", .null⟩] := by cbv
  have hbroken : (sixValues.entries?.getD []).filter (isBroken sixTypes) =
      [(.text "title", .null), (.text "draft", .null)] := by cbv
  have hreports := (report_exact (Or.inr rfl) hresult).1
  rw [hbroken] at hreports
  exact ⟨hresult, hreports⟩

end NoteCheck
