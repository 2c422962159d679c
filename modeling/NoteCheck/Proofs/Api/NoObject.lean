import NoteCheck.Proofs.Api.UsableSettings

/-!
# Bodies that are no object

Two requests take an object as their body: one that saves settings, and one that shows a note.  The
first refuses everything else.  The second takes what counts as empty for an empty object before it
looks what it has, so an empty array, an empty text, a zero and a *no* pass for a body that names no
note, and the note that was shown is put away.

* **`answer_noObject`** — what is answered to a body that is no object, and what the answer leaves.
* `answer_noObject_list` — an empty array puts a note away.
-/

namespace NoteCheck.Api

variable {r : Request} {s : Session}

/-- Whether the body of a request gives no object. -/
def Request.LacksObject (r : Request) : Prop :=
  ∀ entries, r.json? ≠ some (.map entries)

/-- Whether a body that is no object counts as empty: it could not be read or is nothing, or it is a
*no*, a zero, or an empty text or array. -/
inductive IsBlank : Option Value → Prop where
  | unread : IsBlank none
  | null : IsBlank (some .null)
  | no : IsBlank (some (.bool false))
  | zero : IsBlank (some (.int 0))
  | floatZero {x : Binary64} (h : x.isZero = true) : IsBlank (some (.float x))
  | text : IsBlank (some (.text ""))
  | list : IsBlank (some (.list []))

instance (r : Request) : Decidable r.LacksObject :=
  decidable_of_iff ((r.json?.bind Value.entries?).isNone = true) <| by
    rw [Request.LacksObject, Option.isNone_iff_eq_none, Option.bind_eq_none_iff]
    constructor
    · intro h entries hjson
      cases h _ hjson
    · intro h v hjson
      cases v with
      | map entries => exact absurd hjson (h entries)
      | _ => rfl

/-- The response to a body that is no object. -/
def noObject : Response :=
  .refusal 400 "body must be a JSON object"

lemma Request.LacksObject.entries?_eq_none (h : r.LacksObject) :
    (r.json?.getD .null).entries? = none := by
  cases hjson : r.json? with
  | none => rfl
  | some v =>
      cases v with
      | map entries => exact absurd hjson (h entries)
      | _ => rfl

/-- What JSON describes can be stored. -/
lemma Request.isStorable_of_json? {v : Value} (h : r.json? = some v) : v.IsStorable := by
  rw [Request.json?] at h
  split at h
  · split_ifs at h
    rw [Json.readOctets?] at h
    dsimp only at h
    split at h
    · next cs _ =>
        cases hread : Json.read cs with
        | error trouble =>
            rw [hread] at h
            cases h
        | ok w =>
            rw [hread] at h
            obtain rfl := Option.some.inj h
            exact Json.isStorable_of_read hread
    · cases h
  · cases h

/-- Of the values that JSON describes and that are no objects, those that are blank stand for *false*
where a condition is asked for. -/
lemma Request.LacksObject.isBlank_iff (h : r.LacksObject) :
    IsBlank r.json? ↔ (r.json?.getD .null).isEmptyLike = true := by
  constructor
  · intro hblank
    generalize r.json? = body at hblank
    cases hblank with
    | floatZero hzero => exact hzero
    | _ => rfl
  · intro hempty
    cases hjson : r.json? with
    | none => exact .unread
    | some v =>
        rw [hjson] at hempty
        cases Request.isStorable_of_json? hjson with
        | null => exact .null
        | bool b =>
            cases b with
            | false => exact .no
            | true => cases hempty
        | int =>
            obtain rfl := beq_iff_eq.mp hempty
            exact .zero
        | float x => exact .floatZero hempty
        | text t =>
            obtain rfl := String.isEmpty_iff.mp hempty
            exact .text
        | list =>
            obtain rfl := List.isEmpty_iff.mp hempty
            exact .list
        | map => exact absurd hjson (h _)

/-! ## Saving settings -/

lemma saveSettings_of_lacksObject (h : r.LacksObject) :
    saveSettings r.json? s = (.ok noObject, s) := by
  rw [saveSettings, h.entries?_eq_none]
  rfl

/-! ## Showing a note -/

lemma activate_of_lacksObject (h : r.LacksObject) (hblank : ¬ IsBlank r.json?) (d : Disk) :
    activate d r.json? = pure noObject := by
  rw [h.isBlank_iff] at hblank
  rw [activate, if_neg hblank, h.entries?_eq_none]
  rfl

/-- The desk that shows no note, where later checks wait as the settings say. -/
def putAway (delay : Delay) (desk : Desk) : Desk :=
  Act.showing none (desk.withDelay delay)

/-- Whether the settings of a disk give a delay. -/
def GivesDelay (d : Disk) (delay : Delay) : Prop :=
  ∃ settings, d.settings = .ok settings ∧ Delay.ofMillis settings.debounceMillis = .ok delay

lemma runAt_accept_none {d : Disk} {delay : Delay} (h : GivesDelay d delay) (desk : Desk) :
    (activate.accept d none).runAt desk = (.ok (shownResponse none), putAway delay desk) := by
  obtain ⟨settings, hsettings, hdelay⟩ := h
  rw [runAt_accept, hsettings]
  dsimp only
  rw [hdelay]
  rfl

lemma runAt_accept_none_of_forall {d : Disk} (h : ∀ delay, ¬ GivesDelay d delay) (desk : Desk) :
    ∃ cause, (activate.accept d none).runAt desk = (.error cause, desk) := by
  rw [runAt_accept]
  rcases hsettings : d.settings with cause | settings
  · exact ⟨cause, rfl⟩
  · dsimp only
    rcases hdelay : Delay.ofMillis settings.debounceMillis with cause | delay
    · exact ⟨cause, rfl⟩
    · exact absurd ⟨settings, hsettings, hdelay⟩ (h delay)

/-! ## What is answered -/

lemma answer_of_blank (h : r.LacksObject) (hblank : IsBlank r.json?)
    (hasks : r.Asks .post "/api/check/active") {delay : Delay} (hdelay : GivesDelay s.disk delay) :
    answer r s = (.ok (shownResponse none), { s with desk := putAway delay s.desk }) := by
  obtain ⟨target, hanswer⟩ := answer_of_asks (s := s) hasks
    (show Route.find .post _ = .found .activate by decide) (by decide)
  rw [hanswer, answerRoute, Session.act, activate_of_names (.nothing (h.isBlank_iff.mp hblank)),
    runAt_accept_none hdelay]

lemma answer_of_blank_of_forall (h : r.LacksObject) (hblank : IsBlank r.json?)
    (hasks : r.Asks .post "/api/check/active") (hnone : ∀ delay, ¬ GivesDelay s.disk delay) :
    answer r s = (.ok ⟨500, none⟩, s) := by
  obtain ⟨target, hanswer⟩ := answer_of_asks (s := s) hasks
    (show Route.find .post _ = .found .activate by decide) (by decide)
  obtain ⟨cause, hfailed⟩ := runAt_accept_none_of_forall hnone s.desk
  rw [hanswer, answerRoute, Session.act, activate_of_names (.nothing (h.isBlank_iff.mp hblank)),
    hfailed]

/-- **A body that is no object** is refused by a request that saves settings, and that changes nothing.
A request that shows a note refuses it too, unless it counts as empty.  Then it passes for a body that
names no note: if the settings give a delay, that delay is set and the note that was shown is put away
with what was found for it, while the check that waits, the cache and the files stay as they were; and
if they give none, the request fails and changes nothing. -/
theorem answer_noObject (h : r.LacksObject) :
    (r.Asks .post "/api/settings" → answer r s = (.ok noObject, s)) ∧
    (r.Asks .post "/api/check/active" →
      (¬ IsBlank r.json? → answer r s = (.ok noObject, s)) ∧
      (IsBlank r.json? →
        (∀ delay, GivesDelay s.disk delay →
          answer r s = (.ok (shownResponse none), { s with desk := putAway delay s.desk })) ∧
        ((∀ delay, ¬ GivesDelay s.disk delay) → answer r s = (.ok ⟨500, none⟩, s)))) := by
  refine ⟨fun hasks => ?_, fun hasks => ⟨fun hfull => ?_, fun hblank => ⟨fun delay hdelay => ?_,
    answer_of_blank_of_forall h hblank hasks⟩⟩⟩
  · obtain ⟨target, hanswer⟩ := answer_of_asks (s := s) hasks
      (show Route.find .post _ = .found .saveSettings by decide) (by decide)
    rw [hanswer, answerRoute, saveSettings_of_lacksObject h]
  · obtain ⟨target, hanswer⟩ := answer_of_asks (s := s) hasks
      (show Route.find .post _ = .found .activate by decide) (by decide)
    rw [hanswer, answerRoute, Session.act, activate_of_lacksObject h hfull]
    rfl
  · exact answer_of_blank h hblank hasks hdelay

/-- A request with an array for its body. -/
def arrayRequest (path items : String) : Request where
  method := "POST"
  url := "http://localhost" ++ path
  contentType := some "application/json"
  body := Text.Utf8.encode ("[" ++ items ++ "]")

/-- A session that shows a note for which nothing was found. -/
def shownSession : Session :=
  { homeSession with
    desk := { checker :=
      { homeSession.desk.checker with shown := some "a.md", shownResult := some [] } } }

lemma givesDelay_shownSession : GivesDelay shownSession.disk (some 300000) := by
  have hstored : shownSession.disk.storedSettings =
      .ok [(.text "vault_dir", .text "notes"), (.text "debounce_ms", .int 300)] :=
    Disk.storedSettings_of_readData (Value.eq_ok_map (by decide +kernel))
  exact ⟨{ debounceMillis := 300 }, Disk.settings_eq_ok_iff.mpr ⟨_, hstored, by decide +kernel⟩, rfl⟩

/-- Both requests refuse an array with a number in it. -/
theorem answer_noObject_number :
    answer (arrayRequest "/api/settings" "1") shownSession = (.ok noObject, shownSession) ∧
      answer (arrayRequest "/api/check/active" "1") shownSession = (.ok noObject, shownSession) := by
  have hlacks : (arrayRequest "/api/check/active" "1").LacksObject := by decide +kernel
  have hfull : ¬ IsBlank (arrayRequest "/api/check/active" "1").json? := by
    rw [hlacks.isBlank_iff]
    decide +kernel
  exact ⟨(answer_noObject (by decide +kernel)).1 (by decide +kernel),
    ((answer_noObject hlacks).2 (by decide +kernel)).1 hfull⟩

/-- **An empty array** is accepted by a request that shows a note, and the note that was shown is put
away with its result; the delay becomes that of the settings. -/
theorem answer_noObject_list :
    (arrayRequest "/api/check/active" "").LacksObject ∧
      (shownSession.desk.checker.shown, shownSession.desk.checker.shownResult) =
        (some "a.md", some []) ∧
      shownSession.desk.checker.debouncer.delay = some 100000 ∧
      ∃ s', answer (arrayRequest "/api/check/active" "") shownSession =
          (.ok (shownResponse none), s') ∧
        (s'.desk.checker.shown, s'.desk.checker.shownResult) = (none, none) ∧
        s'.desk.checker.debouncer.delay = some 300000 := by
  have hlacks : (arrayRequest "/api/check/active" "").LacksObject := by decide +kernel
  have hblank : IsBlank (arrayRequest "/api/check/active" "").json? :=
    hlacks.isBlank_iff.mpr (by decide +kernel)
  exact ⟨hlacks, rfl, rfl, _,
    answer_of_blank hlacks hblank (by decide +kernel) givesDelay_shownSession, rfl, rfl⟩

end NoteCheck.Api
