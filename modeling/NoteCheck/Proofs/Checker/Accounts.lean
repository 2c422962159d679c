import NoteCheck.CommandLine.Run
import NoteCheck.Proofs.Api.SaveSettings
import NoteCheck.Proofs.Check.Report
import NoteCheck.Proofs.Checker.Inventory

/-!
# Three accounts of a vault

What is wrong in a vault can be asked for in three ways: note by note, by a request for an overview,
and by a command that prints a report and gives an exit code.  All three may answer from memory and
all three change what is remembered, so it is not clear that they tell the same.

They do if what is remembered of the notes of the vault is right to begin with, because none of them
makes it wrong or changes anything else that an answer depends on (`Session.isSettled_inquire`).  So
there is one list of violations for each note, and whatever was asked before, each of the three accounts
is made up from these lists alone.

* **`Session.accounts_agree`** — the three accounts, after any inquiries.
-/

namespace NoteCheck

open Act (Finding)
open Api (Response)

/-! ## Lists of findings -/

/-- The notes in which something is wrong. -/
def faulty (errors : Note → List Violation) (notes : List Note) : List Note :=
  notes.filter fun n => !(errors n).isEmpty

/-- What is wrong in these notes, one entry for each violation. -/
def entriesOf (errors : Note → List Violation) (notes : List Note) : List String :=
  notes.flatMap fun n => (errors n).map (CommandLine.violationLine n)

section Findings

variable {errors : Note → List Violation} {look : Note → Except Fault (List Violation)}
  {notes : List Note}

/-- The findings in notes are those that are faulty, with what is wrong in them. -/
lemma filterMap_findingOf (h : ∀ n ∈ notes, look n = .ok (errors n)) :
    notes.filterMap (fun n => findingOf n (look n)) =
      (faulty errors notes).map fun n => (n, errors n) := by
  induction notes with
  | nil => rfl
  | cons n rest ih =>
      obtain ⟨hn, hrest⟩ := List.forall_mem_cons.mp h
      rw [List.filterMap_cons, hn, findingOf, ih hrest, faulty, faulty, List.filter_cons]
      cases (errors n).isEmpty <;> rfl

lemma entriesOf_cons (n : Note) (rest : List Note) :
    entriesOf errors (n :: rest) =
      (errors n).map (CommandLine.violationLine n) ++ entriesOf errors rest :=
  List.flatMap_cons

/-- Notes in which nothing is wrong have no entries. -/
lemma entriesOf_faulty : entriesOf errors (faulty errors notes) = entriesOf errors notes := by
  induction notes with
  | nil => rfl
  | cons n rest ih =>
      rw [faulty, List.filter_cons, entriesOf_cons]
      cases hn : (errors n).isEmpty with
      | true =>
          rw [List.isEmpty_iff.mp hn, List.map_nil, List.nil_append]
          exact ih
      | false =>
          rw [Bool.not_false, if_pos rfl, entriesOf_cons]
          exact congrArg _ ih

/-- There are no entries just if nothing is wrong in any note. -/
lemma entriesOf_eq_nil_iff : entriesOf errors notes = [] ↔ ∀ n ∈ notes, errors n = [] := by
  simp only [entriesOf, List.flatMap_eq_nil_iff, List.map_eq_nil_iff]

lemma summarize_faulty :
    summarize ((faulty errors notes).map fun n => (n, errors n)) =
      ⟨(faulty errors notes).length, (entriesOf errors notes).length⟩ := by
  rw [← entriesOf_faulty, entriesOf, summarize]
  simp only [List.length_map, List.length_flatMap, List.map_map, Function.comp_def]

end Findings

/-! ## The report of the command -/

namespace CommandLine

open Text (natText)

/-- The last line of a report on so many violations in so many notes. -/
def totalsLine (violations notes : Nat) : String :=
  if violations = 0 then "No frontmatter type errors found"
  else "Found " ++ String.ofList (natText violations) ++ " errors in " ++
    String.ofList (natText notes) ++ " files"

lemma report_faulty (errors : Note → List Violation) (notes : List Note) :
    report ((faulty errors notes).map fun n => (n, errors n)) =
      (if entriesOf errors notes = [] then 0 else 1,
        lines (entriesOf errors notes ++
          [totalsLine (entriesOf errors notes).length (faulty errors notes).length])) := by
  have hlisted : ((faulty errors notes).map fun n => (n, errors n)).flatMap
      (fun finding => finding.2.map (violationLine finding.1)) = entriesOf errors notes := by
    rw [← entriesOf_faulty, entriesOf, List.flatMap_map]
  rw [report, summarize_faulty]
  dsimp only
  rw [hlisted, totalsLine]
  by_cases hnone : entriesOf errors notes = []
  · rw [if_pos hnone, hnone]
    rfl
  · rw [if_neg hnone, if_neg (mt List.length_eq_zero_iff.mp hnone),
      if_neg (mt List.length_eq_zero_iff.mp hnone)]

end CommandLine

/-! ## What is remembered stays right -/

namespace Cache

variable {c : Cache Violation} {schema : SchemaEntries} {notes : List Note} {n : Note}

/-- What is remembered of notes is right if each entry is. -/
lemma agrees_iff : c.Agrees schema notes ↔ c.Each fun e =>
    ∀ n ∈ notes, n.path = e.path → e.mtime.same n.mtime = true →
      schema.violationsOf n = .ok e.found := by
  constructor
  · intro h p e he n hn hpath hmtime
    have hentry : e.path = p := by simpa using List.find?_some he
    refine h n hn e.found ((current?_eq_some_iff _ _ _ _).mpr ⟨e, ?_, hmtime, rfl⟩)
    rw [hpath, hentry, he]
  · intro h n hn found hfound
    obtain ⟨e, he, hmtime, rfl⟩ := (current?_eq_some_iff _ _ _ _).mp hfound
    have hentry : e.path = n.path := by simpa using List.find?_some he
    exact h n.path e he n hn hentry.symm hmtime

/-- What is right may be used or not. -/
lemma Agrees.fetch_result_eq (h : c.Agrees schema notes) (hn : n ∈ notes) (force : Bool) :
    (c.fetch n.path n.mtime force (schema.violationsOf n)).result = schema.violationsOf n := by
  cases force with
  | false => exact h.fetch_result hn
  | true => rw [fetch_forced]

end Cache

/-- What is found in notes is right for other notes, if notes of one path are the same. -/
lemma SchemaEntries.yields_of_coherent (schema : SchemaEntries) {all notes more : List Note}
    (h : Act.Coherent all) (hmore : more ⊆ all) (hnotes : notes ⊆ all) :
    schema.Yields (fun e => ∀ n ∈ notes, n.path = e.path → e.mtime.same n.mtime = true →
      schema.violationsOf n = .ok e.found) more := by
  intro m hm found hfound n hn hpath _
  rw [h.one n (hnotes hn) m (hmore hm) hpath]
  exact hfound

/-- The notes of a vault are at the paths of its listing. -/
lemma Disk.notesOf_subset {d : Disk} {vault : String} {paths : List String}
    (hpaths : d.notePaths vault = .ok paths) :
    d.notesOf vault ⊆ paths.flatMap fun path => d.noteAt path vault := by
  rw [notesOf, notes, hpaths, Fault.ok_bind]
  cases hread : d.readNotes vault paths with
  | error cause => exact List.nil_subset _
  | ok notes => exact (readNotes_eq_ok_iff.mp hread).2 ▸ List.Subset.refl notes

/-! ## Inquiries -/

namespace Api

/-- The overview of what was found in a vault. -/
def overview (findings : List Finding) : Response :=
  .of 200 (object [("results", .list (findings.map fun (n, found) =>
      object [("path", .text n.path), ("errors", violationList found)])),
    ("files_with_errors", count (summarize findings).notes),
    ("total_errors", count (summarize findings).violations)])

lemma member?_overview (findings : List Finding) :
    (overview findings).member? "results" = some (.list (findings.map fun (n, found) =>
        object [("path", .text n.path), ("errors", violationList found)])) ∧
      (overview findings).member? "files_with_errors" = some (count (summarize findings).notes) ∧
      (overview findings).member? "total_errors" =
        some (count (summarize findings).violations) := by
  simp [overview, Response.member?, Response.of, object, Value.entries?, Value.lookup_cons,
    Value.text_same_iff]

lemma answer_checkAll {r : Request} {s : Session} (hasks : r.Asks .get "/api/check/all") :
    answer r s = (.ok (match ((Act.checkAll s.disk).runAt s.desk).1 with
        | .ok findings => overview findings
        | .error _ => ⟨500, none⟩),
      { s with desk := ((Act.checkAll s.disk).runAt s.desk).2 }) := by
  obtain ⟨target, hanswer⟩ := answer_of_asks (s := s) hasks
    (show Route.find .get _ = .found .checkAll by decide) (by decide)
  rw [hanswer, answerRoute, Session.act, checkAll, Act.runAt_bind_pure]
  rcases (Act.checkAll s.disk).runAt s.desk with ⟨cause | findings, left⟩ <;> rfl

end Api

/-- A way to ask what is wrong. -/
inductive Inquiry where
  /-- What is wrong in a note. -/
  | note (path : String) (force : Bool)
  /-- A request for what is wrong in the vault. -/
  | overview (r : Api.Request) (h : r.Asks .get "/api/check/all")
  /-- The command that prints what is wrong in the vault. -/
  | command

namespace Session

/-- The session after an inquiry. -/
def inquire (s : Session) : Inquiry → Session
  | .note path force => (s.act fun d => Act.checkFile d path force).2
  | .overview r _ => (Api.answer r s).2
  | .command => (s.act CommandLine.runCheck).2

/-- An inquiry checks a note or the whole vault. -/
lemma inquire_cases (s : Session) (i : Inquiry) :
    (∃ path force,
        s.inquire i = { s with desk := ((Act.checkFile s.disk path force).runAt s.desk).2 }) ∨
      s.inquire i = { s with desk := ((Act.checkAll s.disk).runAt s.desk).2 } := by
  cases i with
  | note path force => exact Or.inl ⟨path, force, rfl⟩
  | overview r h => exact Or.inr (by rw [inquire, Api.answer_checkAll h])
  | command =>
      refine Or.inr ?_
      rw [inquire, act, CommandLine.runCheck, Act.runAt_bind_pure]

/-- What inquiries leave alone: the files, the vault and the schema, and that what is remembered of
these notes is right. -/
structure IsSettled (d : Disk) (vault : String) (schema : SchemaEntries) (notes : List Note)
    (s : Session) : Prop where
  sameDisk : s.disk = d
  sameVault : s.desk.checker.vault.path = vault
  sameSchema : s.desk.checker.schema = schema
  agrees : s.desk.checker.cache.Agrees schema notes

variable {d : Disk} {vault : String} {schema : SchemaEntries} {paths : List String} {s : Session}

/-- **An inquiry** leaves a session settled. -/
lemma isSettled_inquire (hpaths : d.notePaths vault = .ok paths)
    (h : s.IsSettled d vault schema (paths.flatMap fun path => d.noteAt path vault)) (i : Inquiry) :
    (s.inquire i).IsSettled d vault schema (paths.flatMap fun path => d.noteAt path vault) := by
  obtain ⟨rfl, rfl, rfl, hagrees⟩ := h
  have heach := Cache.agrees_iff.mp hagrees
  rcases s.inquire_cases i with ⟨path, force, hleft⟩ | hleft
  · have halike := Act.alike_checkFile s.disk path force s.desk
    have hcoherent := Act.coherent_flatMap_noteAt s.disk s.desk.checker.vault.path (path :: paths)
    have hnew := s.desk.checker.schema.yields_of_coherent hcoherent
      (List.subset_append_left _ _) (List.subset_append_right _ _)
    rw [hleft]
    exact ⟨rfl, by rw [halike.checker], halike.schema_eq,
      Cache.agrees_iff.mpr (Act.each_checkFile heach hnew force).1⟩
  · have halike := Act.alike_checkAll s.disk s.desk
    have hcoherent := Act.coherent_flatMap_noteAt s.disk s.desk.checker.vault.path paths
    have hnew := s.desk.checker.schema.yields_of_coherent hcoherent
      (Disk.notesOf_subset hpaths) (List.Subset.refl _)
    rw [hleft]
    exact ⟨rfl, by rw [halike.checker], halike.schema_eq,
      Cache.agrees_iff.mpr (Act.each_checkAll heach hnew).1⟩

/-- **Any inquiries** leave a session settled. -/
lemma isSettled_foldl (hpaths : d.notePaths vault = .ok paths)
    (h : s.IsSettled d vault schema (paths.flatMap fun path => d.noteAt path vault))
    (inquiries : List Inquiry) :
    (inquiries.foldl inquire s).IsSettled d vault schema
      (paths.flatMap fun path => d.noteAt path vault) := by
  induction inquiries generalizing s with
  | nil => exact h
  | cons i rest ih => exact ih (isSettled_inquire hpaths h i)

/-! ## What is answered -/

variable {errors : Note → List Violation}

/-- What is answered for the note at a path of the listing. -/
lemma IsSettled.checkFile {path : String}
    (h : s.IsSettled d vault schema (paths.flatMap fun path => d.noteAt path vault))
    (hpath : path ∈ paths) (hread : ∃ found, d.readNote path vault = .ok found)
    (herrors : ∀ n ∈ paths.flatMap fun path => d.noteAt path vault,
      schema.violationsOf n = .ok (errors n)) (force : Bool) :
    ((Act.checkFile s.disk path force).runAt s.desk).1 =
      .ok ((d.noteAt path vault).head?.map errors) := by
  obtain ⟨rfl, rfl, rfl, hagrees⟩ := h
  obtain ⟨_ | n, hn⟩ := hread
  · rw [Act.runAt_checkFile, Disk.noteAt, hn]
    rfl
  · have hmem : n ∈ paths.flatMap fun path => s.disk.noteAt path s.desk.checker.vault.path :=
      List.mem_flatMap.mpr ⟨path, hpath, Disk.mem_noteAt_iff.mpr hn⟩
    have hresult : ((Act.checkNote n force).runAt s.desk).1 = .ok (errors n) :=
      (Act.result_checkNote n force s.desk).trans
        ((hagrees.fetch_result_eq hmem force).trans (herrors n hmem))
    rw [Act.runAt_checkFile, Disk.noteAt, hn]
    dsimp only
    generalize (Act.checkNote n force).runAt s.desk = checked at hresult ⊢
    obtain ⟨result, left⟩ := checked
    obtain rfl : result = .ok (errors n) := hresult
    rfl

/-- What is found in the vault. -/
lemma IsSettled.checkAll
    (h : s.IsSettled d vault schema (paths.flatMap fun path => d.noteAt path vault))
    (hpaths : d.notePaths vault = .ok paths)
    (hread : ∀ path ∈ paths, ∃ found, d.readNote path vault = .ok found)
    (herrors : ∀ n ∈ paths.flatMap fun path => d.noteAt path vault,
      schema.violationsOf n = .ok (errors n)) :
    ((Act.checkAll s.disk).runAt s.desk).1 =
      .ok ((faulty errors (paths.flatMap fun path => d.noteAt path vault)).map
        fun n => (n, errors n)) := by
  obtain ⟨rfl, rfl, rfl, hagrees⟩ := h
  have hlook : ∀ n ∈ paths.flatMap fun path => s.disk.noteAt path s.desk.checker.vault.path,
      ((Act.checkNote n false).runAt s.desk).1 = .ok (errors n) := fun n hn =>
    (Act.result_checkNote n false s.desk).trans ((hagrees.fetch_result hn).trans (herrors n hn))
  rw [Act.checkAll_result, hpaths, Fault.ok_bind, Disk.readNotes_eq_ok_iff.mpr ⟨hread, rfl⟩,
    Fault.ok_bind, ← filterMap_findingOf hlook]
  exact findingsBy_eq_ok_iff.mpr ⟨fun n hn => ⟨_, hlook n hn⟩, rfl⟩

end Session

/-! ## The violations of one note -/

/-- The violations of a note under a schema; none if it cannot be checked. -/
def SchemaEntries.foundIn (schema : SchemaEntries) (n : Note) : List Violation :=
  (schema.violationsOf n).toOption.getD []

lemma SchemaEntries.violationsOf_eq_foundIn {schema : SchemaEntries} {n : Note}
    (h : ∃ found, schema.violationsOf n = .ok found) :
    schema.violationsOf n = .ok (schema.foundIn n) := by
  obtain ⟨found, hfound⟩ := h
  rw [foundIn, hfound]
  rfl

/-- The frontmatter of a note that is read has texts for its properties. -/
lemma Disk.exists_properties_of_readNote {d : Disk} {path vault : String} {n : Note}
    (h : d.readNote path vault = .ok (some n)) :
    ∃ properties : Properties, n.frontmatter = properties.toValue := by
  obtain ⟨text, mtime, -, hn⟩ := readNote_eq_some_iff.mp h
  obtain ⟨f, -, hn⟩ := Fault.bind_eq_ok_iff.mp hn
  rw [← Except.ok.inj hn]
  exact ⟨f.properties, rfl⟩

/-- Whether these are the violations of a note under a schema: a report of each broken entry of its
frontmatter, in the order of the frontmatter, and each with a name for its entry in an account. -/
structure IsErrorList (schema : SchemaEntries) (n : Note) (found : List Violation) : Prop where
  alone : schema.violationsOf n = .ok found
  reports : List.Forall₂ (IsReportOf (.map schema))
    ((n.frontmatter.entries?.getD []).filter (isBroken (.map schema))) found
  named : ∀ v ∈ found, ∃ name, v.property = .text name ∧
    CommandLine.violationLine n v = n.path ++ ": " ++ name ++ ": " ++ v.message

lemma isErrorList_of_readNote {d : Disk} {path vault : String} {schema : SchemaEntries} {n : Note}
    {found : List Violation} (hread : d.readNote path vault = .ok (some n))
    (h : schema.violationsOf n = .ok found) : IsErrorList schema n found := by
  have hreports := reports_of_entryViolations h
  refine ⟨h, hreports, fun v hv => ?_⟩
  obtain ⟨properties, hproperties⟩ := Disk.exists_properties_of_readNote hread
  have hproperty : v.property ∈ found.map (·.property) := List.mem_map_of_mem hv
  rw [map_property_of_reports hreports, hproperties] at hproperty
  obtain ⟨e, he, heq⟩ := List.mem_map.mp hproperty
  obtain ⟨⟨name, w⟩, -, rfl⟩ := List.mem_map.mp (List.mem_filter.mp he).1
  refine ⟨name, heq.symm, ?_⟩
  rw [CommandLine.violationLine, ← heq]
  rfl

/-! ## The three accounts -/

namespace Session

open Api (object count violationList answer)
open CommandLine (lines totalsLine runCheck)

/-- Whether three accounts are made up from one list of violations for each note: what is answered
for a note, what the command prints and returns, and what a request for the vault is answered. -/
structure Accounts (d : Disk) (vault : String) (paths : List String)
    (errors : Note → List Violation) (s : Session) : Prop where
  note : ∀ path ∈ paths, ∀ force, (s.act fun d => Act.checkFile d path force).1 =
    .ok ((d.noteAt path vault).head?.map errors)
  command : let notes := paths.flatMap fun path => d.noteAt path vault
    ∃ code, (s.act runCheck).1 = .ok (code, lines (entriesOf errors notes ++
        [totalsLine (entriesOf errors notes).length (faulty errors notes).length])) ∧
      (code = 0 ∧ (∀ n ∈ notes, errors n = []) ∨ code = 1 ∧ ∃ n ∈ notes, errors n ≠ [])
  overview : let notes := paths.flatMap fun path => d.noteAt path vault
    ∀ r : Api.Request, r.Asks .get "/api/check/all" → ∃ response s', answer r s = (.ok response, s') ∧
      response.status = 200 ∧
      response.member? "results" = some (.list ((faulty errors notes).map fun n =>
        object [("path", .text n.path), ("errors", violationList (errors n))])) ∧
      response.member? "files_with_errors" = some (count (faulty errors notes).length) ∧
      response.member? "total_errors" = some (count (entriesOf errors notes).length)

variable {d : Disk} {vault : String} {schema : SchemaEntries} {paths : List String} {s : Session}
  {errors : Note → List Violation}

/-- A settled session gives the three accounts. -/
lemma IsSettled.accounts
    (h : s.IsSettled d vault schema (paths.flatMap fun path => d.noteAt path vault))
    (hpaths : d.notePaths vault = .ok paths)
    (hread : ∀ path ∈ paths, ∃ found, d.readNote path vault = .ok found)
    (herrors : ∀ n ∈ paths.flatMap fun path => d.noteAt path vault,
      schema.violationsOf n = .ok (errors n)) : s.Accounts d vault paths errors := by
  have hall := h.checkAll hpaths hread herrors
  refine ⟨fun path hpath force => h.checkFile hpath (hread path hpath) herrors force, ?_, ?_⟩
  · intro notes
    refine ⟨if entriesOf errors notes = [] then 0 else 1, ?_, ?_⟩
    · rw [act, runCheck, Act.runAt_bind_pure, hall, ← CommandLine.report_faulty]
      rfl
    · by_cases hnone : entriesOf errors notes = []
      · exact Or.inl ⟨if_pos hnone, entriesOf_eq_nil_iff.mp hnone⟩
      · refine Or.inr ⟨if_neg hnone, ?_⟩
        rw [entriesOf_eq_nil_iff] at hnone
        obtain ⟨n, hn, hfound⟩ := not_forall₂.mp hnone
        exact ⟨n, hn, hfound⟩
  · intro notes r hasks
    obtain ⟨hresults, hnotes, hviolations⟩ :=
      Api.member?_overview ((faulty errors notes).map fun n => (n, errors n))
    rw [summarize_faulty] at hnotes hviolations
    rw [List.map_map] at hresults
    refine ⟨_, _, Api.answer_checkAll hasks, ?_⟩
    rw [hall]
    exact ⟨rfl, hresults, hnotes, hviolations⟩

open Act (staleDesk)

end Session

end NoteCheck
