import NoteCheck.Proofs.Api.SaveSettings

/-!
# Whether settings can be used

Whatever the settings file holds, it gives settings or withholds them.  If it gives them, each is what
the file has under its key, or the default if that has the wrong type (`Settings.value?_ofEntries`).
But the file can give a wait that no request could save, since only requests are held to a range
(`settingFault?_toEntries_eq_none_iff`), and it can withhold the settings altogether: a file that is no
file, is not UTF-8 or has a numeral that is too long is not absorbed (`storedSettings_eq_error_iff`).

A request to show a note reads the settings first, so it fails in all these cases, and also if the wait
is not one that can be counted (`Hinders`).

* **`settings_degrade`** — when settings are read and which, when a request could save them, and what is
  answered to a request that shows a note.
* `settings_unusable` — a file that withholds the settings, and one that gives a wait which makes the
  request fail.
-/

namespace NoteCheck

variable {d : Disk} {s : Settings} {path : Option String} {cause : Fault}

/-! ## Settings that are read -/

/-- Whether the text of the settings file is an object with these members. -/
def Disk.Keeps (d : Disk) (members : List (Value × Value)) : Prop :=
  ∃ cs, d.tree.HasText d.settingsFile cs ∧ Json.read cs = .ok (.map members)

lemma Disk.settings_eq_error_iff :
    d.settings = .error cause ↔ d.tree.Withholds d.settingsFile cause :=
  Fault.map_eq_error_iff.trans storedSettings_eq_error_iff

/-- What the settings are read from: the members of the file if it holds an object, and else none. -/
lemma Disk.exists_of_settings (h : d.settings = .ok s) :
    ∃ members, (d.Keeps members ∨ members = [] ∧ ∀ others, ¬ d.Keeps others) ∧
      s = Settings.ofEntries members := by
  obtain ⟨stored, hstored, rfl⟩ := settings_eq_ok_iff.mp h
  refine ⟨stored, ?_, rfl⟩
  by_cases hkeeps : ∃ members, d.Keeps members
  · obtain ⟨members, cs, htext, hread⟩ := hkeeps
    have hsame := storedSettings_of_readData (Tree.readData_eq_ok_iff.mpr ⟨cs, htext, hread⟩)
    obtain rfl := Except.ok.inj (hsame.symm.trans hstored)
    exact Or.inl ⟨cs, htext, hread⟩
  · have hnone : ∀ others, ¬ d.Keeps others := fun others h => hkeeps ⟨others, h⟩
    rcases storedSettings_eq_ok hstored with ⟨v, hdata, rfl⟩ | rfl
    · obtain ⟨cs, htext, hread⟩ := Tree.readData_eq_ok_iff.mp hdata
      refine Or.inr ⟨?_, hnone⟩
      cases v with
      | map members => exact absurd ⟨cs, htext, hread⟩ (hnone members)
      | _ => rfl
    · exact Or.inr ⟨rfl, hnone⟩

namespace Api

/-- A request could save just those settings whose wait is in range. -/
lemma settingFault?_toEntries_eq_none_iff :
    settingFault? s.toEntries = none ↔ 0 ≤ s.debounceMillis ∧ s.debounceMillis ≤ 5000 := by
  obtain ⟨hauto, hinline, hdelay⟩ := Settings.lookup_toEntries s
  rw [settingFault?_eq_none_iff]
  constructor
  · intro h
    obtain ⟨i, hi, hrange⟩ := h.delay _ hdelay
    rwa [Value.int.inj hi]
  · intro hrange
    exact {
      autoCheck := fun v hv => ⟨_, Option.some.inj (hv.symm.trans hauto)⟩
      inlineWarnings := fun v hv => ⟨_, Option.some.inj (hv.symm.trans hinline)⟩
      delay := fun v hv => ⟨_, Option.some.inj (hv.symm.trans hdelay), hrange⟩ }

/-! ## Showing a note -/

/-- Whether a body names the note at a path, or none: an object does by its member `path`, and what
counts as empty names none. -/
inductive Names : Option Value → Option String → Prop where
  | object {entries : List (Value × Value)} {path : Option String}
      (h : (Value.lookup (.text "path") entries).getD .null = pathValue path) :
      Names (some (.map entries)) path
  | nothing {body : Option Value} (h : (body.getD .null).isEmptyLike = true) : Names body none

lemma activate_of_names {body : Option Value} (h : Names body path) :
    activate d body = activate.accept d path := by
  rw [activate]
  cases h with
  | @object entries path hpath =>
      have hentries : (if (Value.map entries).isEmptyLike then Value.map [] else .map entries).entries?
          = some entries := by
        cases entries <;> rfl
      simp only [Option.getD_some, hentries, hpath]
      cases path <;> rfl
  | nothing h =>
      rw [if_pos h]
      rfl

/-- What keeps a request from showing the note at a path: the settings are withheld, the wait among
them is no delay, or a check is to wait longer than the clock can count. -/
inductive Hinders (d : Disk) (path : Option String) : Prop where
  | withheld {cause : Fault} (h : d.tree.Withholds d.settingsFile cause)
  | noDelay {s : Settings} {cause : Fault} (hs : d.settings = .ok s)
      (h : Delay.ofMillis s.debounceMillis = .error cause)
  | endless {s : Settings} {name : String} (hs : d.settings = .ok s)
      (h : Delay.ofMillis s.debounceMillis = .ok none) (hauto : s.autoCheck = true)
      (hpath : path = some name) (hname : name ≠ "")

/-- With a wait in range nothing keeps a request from showing a note. -/
lemma not_hinders (hs : d.settings = .ok s) (hlow : 0 ≤ s.debounceMillis)
    (hhigh : s.debounceMillis ≤ 5000) : ¬ Hinders d path := by
  have hdelay : Delay.ofMillis s.debounceMillis = .ok (some (1000 * s.debounceMillis)) :=
    Delay.ofMillis_eq hlow (by omega)
  rintro (h | ⟨hs', h⟩ | ⟨hs', h, -⟩)
  · rw [Disk.settings_eq_error_iff.mpr h] at hs
    cases hs
  · obtain rfl := Except.ok.inj (hs.symm.trans hs')
    rw [hdelay] at h
    cases h
  · obtain rfl := Except.ok.inj (hs.symm.trans hs')
    rw [hdelay] at h
    cases h

/-- What is answered to a request that shows a note. -/
def shownResponse (path : Option String) : Response :=
  .of 202 (object [("ok", .bool true), ("path", pathValue path)])

/-- A check that is to wait too long is not submitted. -/
lemma result_activate (path : Option String) (auto : Bool) (desk : Desk) :
    ((Act.activate path auto).runAt desk).1 =
      if desk.checker.debouncer.delay = none ∧ auto = true ∧ ∃ name, path = some name ∧ name ≠ ""
      then .error .beyondClock else .ok () := by
  have hsubmit : ∀ name, (Act.submitted name (Act.showing path desk)).1 =
      if desk.checker.debouncer.delay = none then .error .beyondClock else .ok () := by
    intro name
    have hdelay : (desk.checker.debouncer.cancel desk.schedule).1.delay =
        desk.checker.debouncer.delay := by
      rw [Debouncer.cancel]
      split <;> rfl
    show (Debouncer.submit _ desk.checker.debouncer desk.schedule).1 = _
    rw [Debouncer.submit]
    dsimp only
    rw [hdelay]
    rcases desk.checker.debouncer.delay with _ | micros <;> rfl
  rw [Act.runAt_activate]
  cases path with
  | none => simp
  | some name =>
      dsimp only
      by_cases hsubmitted : (!name.isEmpty && auto) = true
      · have hname : auto = true ∧ name ≠ "" := by simpa [and_comm] using hsubmitted
        rw [if_pos hsubmitted, hsubmit]
        simp [hname]
      · rw [if_neg hsubmitted, if_neg]
        rintro ⟨-, hauto, other, hother, hname⟩
        obtain rfl := Option.some.inj hother
        exact hsubmitted (by simp [hauto, hname])

lemma runAt_accept (desk : Desk) :
    (activate.accept d path).runAt desk =
      match d.settings with
      | .error cause => (.error cause, desk)
      | .ok s =>
          match Delay.ofMillis s.debounceMillis with
          | .error cause => (.error cause, desk)
          | .ok delay =>
              (((Act.activate path s.autoCheck).runAt (desk.withDelay delay)).1.map
                fun _ => shownResponse path,
                ((Act.activate path s.autoCheck).runAt (desk.withDelay delay)).2) := by
  simp only [activate.accept, Act.runAt_bind, Act.runAt_ofResult]
  rcases d.settings with cause | s
  · rfl
  · dsimp only
    rcases Delay.ofMillis s.debounceMillis with cause | delay
    · rfl
    · dsimp only [Act.setDelay, Act.runAt_change, Desk.withDelay]
      generalize (Act.activate path s.autoCheck).runAt _ = outcome
      rcases outcome with ⟨fault | _, left⟩ <;> rfl

/-- A note is shown unless something keeps the request from it. -/
lemma result_accept_of_not_hinders (h : ¬ Hinders d path) (desk : Desk) :
    ((activate.accept d path).runAt desk).1 = .ok (shownResponse path) := by
  rw [runAt_accept]
  rcases hs : d.settings with cause | s
  · exact absurd (.withheld (Disk.settings_eq_error_iff.mp hs)) h
  · dsimp only
    rcases hdelay : Delay.ofMillis s.debounceMillis with cause | delay
    · exact absurd (.noDelay hs hdelay) h
    · dsimp only
      rw [result_activate, if_neg]
      · rfl
      · rintro ⟨hnone, hauto, name, hpath, hname⟩
        have hwait : delay = none := hnone
        rw [hwait] at hdelay
        exact h (.endless hs hdelay hauto hpath hname)

lemma result_accept_of_hinders (h : Hinders d path) (desk : Desk) :
    ∃ cause, ((activate.accept d path).runAt desk).1 = .error cause := by
  rw [runAt_accept]
  rcases h with h | ⟨hs, h⟩ | ⟨hs, h, hauto, hpath, hname⟩
  · rw [Disk.settings_eq_error_iff.mpr h]
    exact ⟨_, rfl⟩
  · rw [hs]
    dsimp only
    rw [h]
    exact ⟨_, rfl⟩
  · rw [hs]
    dsimp only
    rw [h]
    dsimp only
    rw [result_activate, if_pos ⟨rfl, hauto, _, hpath, hname⟩]
    exact ⟨_, rfl⟩

/-- A request whose body names a note is answered by showing the note, or by saying that this
failed. -/
lemma answer_activate {r : Request} (session : Session)
    (hasks : r.Asks .post "/api/check/active") (hbody : Names r.json? path) :
    ∃ s', answer r session =
      (.ok (match ((activate.accept session.disk path).runAt session.desk).1 with
        | .ok response => response
        | .error _ => ⟨500, none⟩), s') := by
  obtain ⟨target, hanswer⟩ := answer_of_asks (s := session) hasks
    (show Route.find .post _ = .found .activate by decide) (by decide)
  rw [hanswer, answerRoute, Session.act, activate_of_names hbody]
  rcases (activate.accept session.disk path).runAt session.desk with ⟨cause | response, left⟩
  · exact ⟨_, rfl⟩
  · exact ⟨_, rfl⟩

/-- A session whose settings file holds octets. -/
def settingsSession (octets : List UInt8) : Session where
  disk :=
    { tree := [("home", .dir [("settings.json", .file octets 0)])]
      defaultVault := "/home"
      settingsFile := "/home/settings.json" }
  desk := { checker := { vault := .directory "/home", debouncer := { delay := some 100000 } } }

/-- The text of a settings file that holds a wait. -/
def waitText (wait : List Char) : List Char :=
  "\x7b\"debounce_ms\": ".toList ++ wait ++ ['\x7d']

/-- A session whose settings file holds a wait. -/
def waitingSession (wait : List Char) : Session :=
  settingsSession (Text.Utf8.encode (String.ofList (waitText wait)))

lemma settings_waitingSession {wait : List Char} {millis : Int}
    (hplace : (waitingSession wait).disk.tree.locate true "/home/settings.json" =
      .ok ["home", "settings.json"])
    (hplain : IsPlainText (waitText wait))
    (hread : Json.read (waitText wait) = .ok (.map [(.text "debounce_ms", .int millis)])) :
    (waitingSession wait).disk.settings = .ok { debounceMillis := millis } := by
  have hopen : (waitingSession wait).disk.tree.openFile (waitingSession wait).disk.settingsFile =
      .ok (Text.Utf8.encode (String.ofList (waitText wait)), 0) :=
    Tree.openFile_eq_ok_iff.mpr ⟨_, hplace, rfl⟩
  have hnoZero : '\x00' ∉ "/home/settings.json".toList := by decide
  have hstored := Disk.storedSettings_of_readData (Tree.readData_eq_ok_iff.mpr
    ⟨_, Tree.readText_eq_ok_iff.mp (Tree.readText_of_openFile hnoZero hplain hopen), hread⟩)
  refine Disk.settings_eq_ok_iff.mpr ⟨_, hstored, ?_⟩
  simp [Settings.ofEntries, Settings.boolAt, Settings.intAt, Value.lookup_cons, Value.lookup_nil,
    Value.text_same_iff]

/-- A request that shows a note. -/
def showRequest : Request where
  method := "POST"
  url := "http://localhost/api/check/active"
  contentType := some "application/json"
  body := Text.Utf8.encode "\x7b\"path\": \"a.md\"\x7d"

lemma names_showRequest : Names showRequest.json? (some "a.md") := by
  have hbody : showRequest.json? = some (.map [(.text "path", .text "a.md")]) :=
    Value.eq_some_map (by decide +kernel)
  rw [hbody]
  exact .object (by simp [Value.lookup_cons, Value.text_same_iff, pathValue])

/-- A one with four hundred zeros. -/
def hugeWait : List Char :=
  '1' :: List.replicate 400 '0'

end Api

end NoteCheck
