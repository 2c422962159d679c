import NoteCheck.Proofs.Calendar.Written
import NoteCheck.Proofs.Check.PerProperty
import NoteCheck.Proofs.Note.Properties
import NoteCheck.Proofs.Typing.Clockface
import NoteCheck.Proofs.Value.Lookup
import NoteCheck.Vault.Notes

/-!
# Days and moments of YAML keep their type

YAML has values of its own for days and moments, and a frontmatter keeps only their texts
(`Frontmatter.asWritten`).  Nothing is lost by that for a check: the text of a day reads as a day
and the text of a moment as a moment, whatever the fraction of the second and the offset
(`conforms_asWritten`).

* **`moments_keep_type`** — so a property that YAML read as a day conforms to the type *date* and
  gives one violation under *datetime*, and the other way round for a moment, provided that no other
  key of the mapping has the same text.
-/

namespace NoteCheck

open NoteCheck.Text

/-- How exactly a value of YAML's own names a moment, if it does. -/
def Value.precision? : Value → Option Precision
  | date _ => some .day
  | timestamp _ => some .clock
  | _ => none

/-- The type that declares moments of a precision. -/
def Precision.type : Precision → PropertyType
  | day => .date
  | clock => .datetime

/-- What texts of moments of a precision look like. -/
def Precision.shape : Precision → Shape
  | day => .date
  | clock => .datetime

/-! ## The texts of days and moments -/

namespace DateText

/-- The text of a moment ends in a digit. -/
lemma readUniversal?_text (t : Timestamp) :
    IsoText.readUniversal? (t.text 'T') = some .clock := by
  have hread := IsoText.read?_text t
  have hletters : ∀ c ∈ t.text 'T', c ≠ 'Z' ∧ c ≠ 'z' := by
    intro c hc
    rcases IsoText.mem_text hc with hdigit | hsign
    · constructor <;> rintro rfl <;> exact absurd hdigit (by decide)
    · have hsigns : ∀ c ∈ ['-', ':', '.', '+', 'T'], c ≠ 'Z' ∧ c ≠ 'z' := by simp
      exact hsigns c hsign
  cases hlast : (t.text 'T').getLast? with
  | none =>
      rw [List.getLast?_eq_none_iff.mp hlast] at hread
      cases hread
  | some c =>
      obtain ⟨hcapital, hsmall⟩ := hletters c (List.mem_of_getLast? hlast)
      rw [IsoText.readUniversal?, hlast]
      dsimp only
      rw [if_neg (by simp [hcapital, hsmall]), hread]

lemma isDateShaped_timestamp (t : Timestamp) : isDateShaped (t.text 'T') = true := by
  have htrim : trim (t.text 'T') = t.text 'T' := by
    refine trim_of_forall fun c hc => ?_
    rcases IsoText.mem_text hc with hdigit | hsign
    · exact isBlank_eq_false_of_isDecimal (isDecimal_of_isDigit hdigit)
    · have hsigns : ∀ c ∈ ['-', ':', '.', '+', 'T'], isBlank c = false := by simp [isBlank]
      exact hsigns c hsign
  have hne : t.text 'T' ≠ [] := by
    rw [IsoText.text_eq]
    simp
  have hparses : parses (t.text 'T') = true := by
    rw [parses, htrim]
    simp [hne, readUniversal?_text]
  rw [isDateShaped, hparses, Bool.or_true]

lemma hasTimeOfDay_timestamp (t : Timestamp) : hasTimeOfDay (t.text 'T') = true := by
  rw [hasTimeOfDay_iff]
  left
  rw [IsoText.text_eq]
  simp

lemma dropDigits?_padded {width n : Nat} (hwidth : 0 < width) (h : n < 10 ^ width)
    (rest : List Char) : dropDigits? width (padded width n ++ rest) = some rest :=
  dropDigits?_eq_some_iff.mpr ⟨padded width n, length_padded hwidth h,
    fun _ hc => isDecimal_of_isDigit (isDigit_of_mem_padded hc), rfl⟩

/-- The text of a day has the form of one. -/
lemma isDateShaped_date (d : Date) : isDateShaped d.text = true := by
  obtain ⟨hyear, hmonth, hday⟩ := IsoText.date_bounds d
  have hdrop : dropDay? d.text = some [] := by
    rw [dropDay?, Date.text, List.append_assoc, dropDigits?_padded (by decide) hyear]
    simp only [Option.bind_eq_bind, Option.bind_some, List.cons_append, dropSign?, if_true]
    rw [dropDigits?_padded (by decide) hmonth]
    simp only [Option.bind_some, if_true]
    rw [← List.append_nil (padded 2 d.day), dropDigits?_padded (by decide) hday]
  rw [isDateShaped, isPlainDay, hdrop]
  rfl

lemma hasTimeOfDay_date (d : Date) : hasTimeOfDay d.text = false := by
  rw [Bool.eq_false_iff, ne_eq, hasTimeOfDay_iff]
  rintro (hT | ⟨hspace, -⟩)
  · rcases IsoText.mem_date_text hT with h | h <;> exact absurd h (by decide)
  · rcases IsoText.mem_date_text hspace with h | h <;> exact absurd h (by decide)

end DateText

/-- **The texts of days and moments** look like what they were, and conform to no other type of a
day or a moment than their own. -/
lemma conforms_asWritten {v : Value} {p : Precision} (hv : v.precision? = some p) :
    (Frontmatter.asWritten v).shape = .ok p.shape ∧
      ∀ q : Precision, conforms (Frontmatter.asWritten v) (.text q.type.name)
        = .ok (decide (q = p)) := by
  have hwritten : ∃ s : String, Frontmatter.asWritten v = .text s ∧
      DateText.isDateShaped s.toList = true ∧
      DateText.hasTimeOfDay s.toList = decide (p = .clock) := by
    cases v with
    | date d =>
        obtain rfl := Option.some.inj hv
        refine ⟨_, rfl, ?_, ?_⟩
        · rw [String.toList_ofList]
          exact DateText.isDateShaped_date d
        · rw [String.toList_ofList]
          exact DateText.hasTimeOfDay_date d
    | timestamp t =>
        obtain rfl := Option.some.inj hv
        refine ⟨_, rfl, ?_, ?_⟩
        · rw [String.toList_ofList]
          exact DateText.isDateShaped_timestamp t
        · rw [String.toList_ofList]
          exact DateText.hasTimeOfDay_timestamp t
    | _ => cases hv
  obtain ⟨s, hs, hshaped, htime⟩ := hwritten
  rw [hs]
  constructor
  · rw [Value.shape, if_pos hshaped, htime]
    cases p <;> rfl
  · intro q
    have haccepts : conforms (.text s) (.text q.type.name) = q.type.accepts (.text s) := by
      cases q <;> rfl
    rw [haccepts]
    cases q <;> cases p <;>
      simp [Precision.type, PropertyType.accepts, Value.isDateShaped, Value.hasTimeOfDay, hshaped,
        htime]

/-! ## Their properties -/

/-- What a check should find about a property that YAML read as a moment of a precision, where
another precision is declared. -/
def Precision.findings (p declared : Precision) (name : String) : List Violation :=
  if declared = p then [] else [⟨.text name, declared.type.name, p.shape⟩]

/-- A schema that declares one property. -/
def soleSchema (name declared : String) : Value :=
  .map [(.text name, .text declared)]

/-- It has no other property checked. -/
lemma eq_of_isChecked_soleSchema {name declared : String} {property : Value}
    (h : IsChecked (soleSchema name declared) property) : property = .text name := by
  obtain ⟨-, hdeclared⟩ := h
  by_contra hne
  have hnone : Value.lookup property [(.text name, .text declared)] = none := by
    rw [Value.lookup_cons, if_neg (mt Value.same_text_iff.mp hne), Value.lookup_nil]
  rw [declared?, soleSchema, Value.entries?, Option.getD_some, hnone] at hdeclared
  cases hdeclared

lemma declared?_soleSchema {name declared : String} (h : declared.isEmpty = false) :
    declared? (soleSchema name declared) (.text name) = some declared := by
  have hsome :
      Value.lookup (.text name) [(.text name, .text declared)] = some (.text declared) := by
    rw [Value.lookup_cons, if_pos (Value.same_text_iff.mpr rfl)]
  rw [declared?, soleSchema, Value.entries?, Option.getD_some, hsome]
  dsimp only
  rw [h, if_neg Bool.false_ne_true]

variable {f : Frontmatter} {name : String} {v : Value} {p q : Precision} {schema : Value}

/-- Whether a property has a name. -/
def isNamed (name : String) (property : Value) : Bool :=
  property.text? = some name

lemma filter_isNamed_toValue (f : Frontmatter) (name : String) :
    (f.properties.map fun (n, w) => (Value.text n, w)).filter (fun e => isNamed name e.1) =
      (Frontmatter.ofName name f.properties).map fun (n, w) => (.text n, w) := by
  rw [List.filter_map, Frontmatter.ofName]
  congr 1
  refine List.filter_congr fun e _ => ?_
  simp [isNamed, Value.text?]

/-- The violations of a name that stands once in a frontmatter. -/
lemma filter_violations_of_ofName (hone : Frontmatter.ofName name f.properties = [(name, v)])
    {found : List Violation} (h : violations schema f.properties.toValue = .ok found) :
    ∃ first, checkProperty schema (.text name) v = .ok first ∧
      found.filter (fun x => isNamed name x.property) = first.toList := by
  have hfilter := entryViolations_filter (isNamed name) h
  rw [show f.properties.toValue.entries?.getD [] =
      f.properties.map fun (n, w) => (Value.text n, w) from rfl,
    filter_isNamed_toValue, hone] at hfilter
  obtain ⟨first, rest, hfirst, hrest, happend⟩ := entryViolations_cons_eq_ok_iff.mp hfilter
  refine ⟨first, hfirst, ?_⟩
  rw [← happend, ← Except.ok.inj hrest, List.append_nil]

lemma checkProperty_asWritten (hv : v.precision? = some p) (hexempt : isExempt (.text name) = false)
    (hdeclared : declared? schema (.text name) = some q.type.name) :
    checkProperty schema (.text name) (Frontmatter.asWritten v) =
      .ok (p.findings q name).head? := by
  obtain ⟨hshape, hconforms⟩ := conforms_asWritten hv
  rw [checkProperty, hexempt, if_neg Bool.false_ne_true, hdeclared]
  dsimp only
  rw [hshape, hconforms, Precision.findings]
  cases q <;> cases p <;> rfl

/-- The violations of a name that stands once in a frontmatter, as a moment that is written. -/
lemma filter_violations (hone : Frontmatter.ofName name f.properties =
      [(name, Frontmatter.asWritten v)]) (hv : v.precision? = some p)
    (hexempt : isExempt (.text name) = false)
    (hdeclared : declared? schema (.text name) = some q.type.name) {found : List Violation}
    (h : violations schema f.properties.toValue = .ok found) :
    found.filter (fun x => isNamed name x.property) = p.findings q name := by
  obtain ⟨first, hfirst, hfilter⟩ := filter_violations_of_ofName hone h
  rw [checkProperty_asWritten hv hexempt hdeclared] at hfirst
  rw [hfilter, ← Except.ok.inj hfirst, Precision.findings]
  split <;> rfl

/-- A moment that is written makes no check fail; another property does, if any. -/
lemma exists_oversized (hone : Frontmatter.ofName name f.properties =
      [(name, Frontmatter.asWritten v)]) (hv : v.precision? = some p) {cause : Fault}
    (h : violations schema f.properties.toValue = .error cause) :
    ∃ entry ∈ f.properties, entry.1 ≠ name ∧ IsChecked schema (.text entry.1) ∧
      entry.2.IsOversized := by
  obtain ⟨-, _, hentry, hchecked, hbig⟩ := violations_eq_error_iff.mp h
  obtain ⟨⟨n, w⟩, hmem, rfl⟩ := List.mem_map.mp hentry
  refine ⟨(n, w), hmem, ?_, hchecked, hbig⟩
  rintro rfl
  have hnamed : (n, w) ∈ Frontmatter.ofName n f.properties :=
    List.mem_filter.mpr ⟨hmem, by simp⟩
  rw [hone, List.mem_singleton] at hnamed
  obtain ⟨i, hi, -⟩ := hbig
  rw [(Prod.mk.inj hnamed).2] at hi
  cases v with
  | date d => cases hi
  | timestamp t => cases hi
  | _ => cases hv

/-- Where nothing else is declared, these are all the violations. -/
lemma violations_soleSchema (hone : Frontmatter.ofName name f.properties =
      [(name, Frontmatter.asWritten v)]) (hv : v.precision? = some p)
    (hexempt : isExempt (.text name) = false) (q : Precision) :
    violations (soleSchema name q.type.name) f.properties.toValue = .ok (p.findings q name) := by
  have hdeclared : declared? (soleSchema name q.type.name) (.text name) = some q.type.name :=
    declared?_soleSchema (by cases q <;> decide)
  cases h : violations (soleSchema name q.type.name) f.properties.toValue with
  | error cause =>
      obtain ⟨entry, -, hne, hchecked, -⟩ := exists_oversized hone hv h
      exact absurd (Value.text.inj (eq_of_isChecked_soleSchema hchecked)) hne
  | ok found =>
      have hall : ∀ x ∈ found, isNamed name x.property = true := by
        intro x hx
        rw [eq_of_isChecked_soleSchema (isChecked_of_mem h hx), isNamed, Value.text?]
        exact decide_eq_true rfl
      rw [← filter_violations hone hv hexempt hdeclared h, List.filter_eq_self.mpr hall]

/-- Whether what was loaded is a mapping of one name to a day. -/
def Yaml.isSoleDay (name : String) : Except Trouble Loaded → Bool
  | .ok (.entries [(.text key, .date _)]) => key == name
  | _ => false

lemma Yaml.exists_date_of_isSoleDay {name : String} {loaded : Except Trouble Loaded}
    (h : isSoleDay name loaded = true) : ∃ d, loaded = .ok (.entries [(.text name, .date d)]) := by
  unfold isSoleDay at h
  split at h
  · next key d => exact ⟨d, by rw [beq_iff_eq.mp h]⟩
  · cases h

/-- **Days and moments keep their type.**  What YAML reads as a day or a moment is turned into a
text that looks like what it was, and of the types *date* and *datetime* it conforms to its own
alone.  So if a key of a frontmatter has such a value, no other key has the same text and the
property is not exempt, then its own type as declared finds nothing about it and the other type
finds one violation.  These are all the violations where nothing else is declared, and else all of this
property, unless some other property keeps the check from giving an answer. -/
theorem moments_keep_type :
    (∀ (v : Value) (p : Precision), v.precision? = some p →
      (Frontmatter.asWritten v).shape = .ok p.shape ∧
      ∀ q : Precision, conforms (Frontmatter.asWritten v) (.text q.type.name)
        = .ok (decide (q = p))) ∧
    ∀ (content block body : List Char) (f : Frontmatter) (before after : List (Value × Value))
        (key v : Value) (name : String) (p : Precision),
      Frontmatter.read content = .ok f →
      Frontmatter.cutBlock? content = some (block, body) →
      Yaml.load block = .ok (.entries (before ++ (key, v) :: after)) →
      v.precision? = some p → key.keyText = .ok name →
      (∀ e ∈ before ++ after, e.1.keyText ≠ .ok name) → isExempt (.text name) = false →
      ∀ q : Precision,
        violations (soleSchema name q.type.name) f.properties.toValue
          = .ok (p.findings q name) ∧
        ∀ schema : Value, declared? schema (.text name) = some q.type.name →
          (∀ found, violations schema f.properties.toValue = .ok found →
            found.filter (fun x => isNamed name x.property) = p.findings q name) ∧
          ∀ cause, violations schema f.properties.toValue = .error cause →
            ∃ entry ∈ f.properties, entry.1 ≠ name ∧ IsChecked schema (.text entry.1) ∧
              entry.2.IsOversized := by
  refine ⟨fun v p hv => conforms_asWritten hv, ?_⟩
  intro content block body f before after key v name p hread hcut hload hv hkey hothers hexempt q
  have hentries := Frontmatter.ofEntries_of_read hcut hload hread
  have hone := Frontmatter.ofName_ofEntries hkey hothers hentries
  refine ⟨violations_soleSchema hone hv hexempt q, fun schema hdeclared => ?_⟩
  exact ⟨fun found h => filter_violations hone hv hexempt hdeclared h,
    fun cause h => exists_oversized hone hv h⟩

/-- A note with a day for its only property. -/
theorem moments_keep_type_due :
    ∃ f, Frontmatter.read "---\ndue: 2024-01-15\n---\n".toList = .ok f ∧
      violations (soleSchema "due" "date") f.properties.toValue = .ok [] ∧
      violations (soleSchema "due" "datetime") f.properties.toValue
        = .ok [⟨.text "due", "datetime", .date⟩] := by
  have hread : (Frontmatter.read "---\ndue: 2024-01-15\n---\n".toList).isOk = true := by
    decide +kernel
  obtain ⟨f, hf⟩ := Fault.isOk_iff.mp hread
  have hcut : Frontmatter.cutBlock? "---\ndue: 2024-01-15\n---\n".toList =
      some ("due: 2024-01-15".toList, []) := by decide +kernel
  obtain ⟨d, hd⟩ : ∃ d, Yaml.load "due: 2024-01-15".toList =
      .ok (.entries ([] ++ (.text "due", .date d) :: [])) :=
    Yaml.exists_date_of_isSoleDay (by decide +kernel)
  have hkept := moments_keep_type.2 _ _ _ f [] [] _ _ "due" .day hf hcut hd rfl rfl (by simp)
    (by decide)
  exact ⟨f, hf, (hkept .day).1, (hkept .clock).1⟩

end NoteCheck
