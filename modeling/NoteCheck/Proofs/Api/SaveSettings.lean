import NoteCheck.Api.Answer
import NoteCheck.Proofs.Checker.Acts
import NoteCheck.Proofs.Settings.Saving
import NoteCheck.Proofs.Timing.Delay

/-!
# Saving settings is all or nothing

A request to save settings is accepted if its body is an object whose settings are well typed, and
refused else.  A request that is refused leaves the session as it was.  After one that is accepted,
the response, the settings file and every later answer agree on the settings, the delay is the one
that was sent, and whatever else stands in the file is still there (`answer_saveSettings`).

The settings of a body are looked at before anything is changed, so no step after that can fail: the
delay is in range (`Delay.ofMillis_eq`), and the file can be written (`storedSettings_save`).
-/

namespace NoteCheck

/-- The desk with another delay. -/
def Desk.withDelay (desk : Desk) (delay : Delay) : Desk :=
  { desk with
    checker := { desk.checker with debouncer := { desk.checker.debouncer with delay } } }

namespace Api

open NoteCheck.Settings (IsForeign)
open NoteCheck.Value (eq_ok_map eq_some_map)

variable {r : Request} {s : Session} {old : Settings} {body : List (Value × Value)}

/-! ## Settings in a body -/

/-- Whether those members of a body that are settings are well typed. -/
structure IsWellTyped (body : List (Value × Value)) : Prop where
  autoCheck : ∀ v, Value.lookup (.text "enable_auto_check") body = some v → ∃ b, v = .bool b
  inlineWarnings : ∀ v, Value.lookup (.text "show_inline_warnings") body = some v → ∃ b, v = .bool b
  delay : ∀ v, Value.lookup (.text "debounce_ms") body = some v →
    ∃ i, v = .int i ∧ 0 ≤ i ∧ i ≤ 5000

/-- Where the key of a setting leads after a body: to its member, and else to the old setting. -/
def settled (body : List (Value × Value)) (old : Settings) (key : String) : Option Value :=
  (Value.lookup (.text key) body).or (Value.lookup (.text key) old.toEntries)

/-- The delay after a body: the one that is sent, in microseconds, and else the old one. -/
def settledDelay (body : List (Value × Value)) (old : Delay) : Delay :=
  match Value.lookup (.text "debounce_ms") body with
  | some (.int i) => some (1000 * i)
  | _ => old

/-- Whether a member stands where there should be a truth value. -/
def isWrongFlag : Option Value → Bool
  | none | some (.bool _) => false
  | some _ => true

/-- Whether a member stands where there should be a wait. -/
def isWrongDelay : Option Value → Bool
  | none => false
  | some (.int i) => i < 0 || 5000 < i
  | some _ => true

lemma isWrongFlag_eq_false_iff {found : Option Value} :
    isWrongFlag found = false ↔ ∀ v, found = some v → ∃ b, v = .bool b := by
  rcases found with _ | v
  · simp [isWrongFlag]
  · cases v <;> simp [isWrongFlag]

lemma isWrongDelay_eq_false_iff {found : Option Value} :
    isWrongDelay found = false ↔ ∀ v, found = some v → ∃ i, v = .int i ∧ 0 ≤ i ∧ i ≤ 5000 := by
  rcases found with _ | v
  · simp [isWrongDelay]
  · cases v <;> simp [isWrongDelay]

/-- Only bodies that are not well typed are refused. -/
lemma settingFault?_eq_none_iff : settingFault? body = none ↔ IsWellTyped body := by
  have hfault : settingFault? body =
      if isWrongFlag (Value.lookup (.text "enable_auto_check") body) then
        some "enable_auto_check must be a boolean"
      else if isWrongFlag (Value.lookup (.text "show_inline_warnings") body) then
        some "show_inline_warnings must be a boolean"
      else if isWrongDelay (Value.lookup (.text "debounce_ms") body) then
        some "debounce_ms must be an integer between 0 and 5000"
      else none := rfl
  rw [hfault]
  constructor
  · intro h
    split at h
    · cases h
    · next hauto =>
        split at h
        · cases h
        · next hinline =>
            split at h
            · cases h
            · next hdelay =>
                exact ⟨isWrongFlag_eq_false_iff.mp (Bool.eq_false_of_not_eq_true hauto),
                  isWrongFlag_eq_false_iff.mp (Bool.eq_false_of_not_eq_true hinline),
                  isWrongDelay_eq_false_iff.mp (Bool.eq_false_of_not_eq_true hdelay)⟩
  · intro h
    rw [isWrongFlag_eq_false_iff.mpr h.autoCheck, isWrongFlag_eq_false_iff.mpr h.inlineWarnings,
      isWrongDelay_eq_false_iff.mpr h.delay]
    rfl

instance (body : List (Value × Value)) : Decidable (IsWellTyped body) :=
  decidable_of_iff _ settingFault?_eq_none_iff

/-- The settings that are saved are those of the body, and else the old ones. -/
lemma lookup_updatedSettings (h : IsWellTyped body) (old : Settings) {key : String}
    (hkey : key ∈ Settings.keys) :
    Value.lookup (.text key) (updatedSettings body old).toEntries = settled body old key := by
  obtain ⟨hauto, hinline, hdelay⟩ := Settings.lookup_toEntries (updatedSettings body old)
  obtain ⟨hauto', hinline', hdelay'⟩ := Settings.lookup_toEntries old
  simp only [Settings.keys, List.mem_cons, List.not_mem_nil, or_false] at hkey
  rcases hkey with rfl | rfl | rfl
  · rw [settled, hauto, hauto', updatedSettings]
    dsimp only
    rw [Settings.boolAt]
    cases hlookup : Value.lookup (.text "enable_auto_check") body with
    | none => rfl
    | some v =>
        obtain ⟨b, rfl⟩ := h.autoCheck v hlookup
        rfl
  · rw [settled, hinline, hinline', updatedSettings]
    dsimp only
    rw [Settings.boolAt]
    cases hlookup : Value.lookup (.text "show_inline_warnings") body with
    | none => rfl
    | some v =>
        obtain ⟨b, rfl⟩ := h.inlineWarnings v hlookup
        rfl
  · rw [settled, hdelay, hdelay', updatedSettings]
    dsimp only
    rw [Settings.intAt]
    cases hlookup : Value.lookup (.text "debounce_ms") body with
    | none => rfl
    | some v =>
        obtain ⟨i, rfl, -⟩ := h.delay v hlookup
        rfl

/-- The wait that is saved can be written. -/
lemma intText?_isSome_of_updatedSettings (h : IsWellTyped body)
    (hold : (Text.intText? old.debounceMillis).isSome = true) :
    (Text.intText? (updatedSettings body old).debounceMillis).isSome = true := by
  rw [updatedSettings]
  dsimp only
  rw [Settings.intAt]
  cases hlookup : Value.lookup (.text "debounce_ms") body with
  | none => exact hold
  | some v =>
      obtain ⟨i, rfl, hlow, hhigh⟩ := h.delay v hlookup
      refine Text.intText?_isSome_of_natAbs_lt ?_
      calc i.natAbs < 10 ^ 4 := by omega
        _ ≤ 10 ^ Text.maxDigits := Nat.pow_le_pow_right (by decide) (by decide)

/-! ## What is answered -/

/-- Whether a request asks with a method for a path of the service. -/
def Request.Asks (r : Request) (method : Method) (path : String) : Prop :=
  ∃ target, Target.ofUrl r.url = .ok target ∧ target.host.isServed = true ∧
    Method.ofName r.method = method ∧ target.path = path.toList

instance (r : Request) (method : Method) (path : String) : Decidable (r.Asks method path) :=
  match h : Target.ofUrl r.url with
  | .error _ => isFalse fun ⟨_, htarget, _⟩ => by
      rw [h] at htarget
      cases htarget
  | .ok target =>
      decidable_of_iff (target.host.isServed = true ∧ Method.ofName r.method = method ∧
        target.path = path.toList) ⟨fun hasks => ⟨target, h, hasks⟩, fun ⟨_, htarget, hasks⟩ => by
          rw [h] at htarget
          rwa [Except.ok.inj htarget]⟩

/-- Where a key leads in the object that a response has as its body. -/
def Response.member? (response : Response) (key : String) : Option Value :=
  response.body.bind fun v => v.entries?.bind (Value.lookup (.text key))

lemma answer_of_asks {method : Method} {path : String} {route : Route}
    (hasks : r.Asks method path) (hroute : Route.find method path.toList = .found route)
    (hget : method ≠ .options ∧ method ≠ .head) :
    ∃ target, answer r s = match answerRoute route target r.json? s with
      | (.ok response, s) => (.ok response, s)
      | (.error _, s) => (.ok ⟨500, none⟩, s) := by
  obtain ⟨target, htarget, hserved, rfl, hpath⟩ := hasks
  refine ⟨target, ?_⟩
  rw [answer, htarget]
  dsimp only
  rw [if_pos hserved, answerTarget, hpath, hroute]
  dsimp only
  rw [if_neg hget.1]
  rcases answerRoute route target r.json? s with ⟨cause | response, left⟩
  · rfl
  · dsimp only
    rw [if_neg hget.2]

/-- What is answered to a request for the settings. -/
lemma answer_settings (hasks : r.Asks .get "/api/settings") (hold : s.disk.settings = .ok old) :
    answer r s = (.ok (.of 200 (.map (old.toEntries ++
      [(.text "cache", cacheStatus s.desk.checker.cache)]))), s) := by
  obtain ⟨target, hanswer⟩ := answer_of_asks (s := s) hasks
    (show Route.find .get _ = .found .settings by decide) (by decide)
  rw [hanswer, answerRoute, Session.act, settings]
  simp only [Act.runAt_bind, Act.runAt_ofResult, hold, Act.runAt_checker, Act.runAt_pure]

/-- The object that is answered holds the settings. -/
lemma member?_settings {key : String} (hkey : key ∈ Settings.keys) (cache : Value) :
    Response.member? (.of 200 (.map (old.toEntries ++ [(.text "cache", cache)]))) key =
      Value.lookup (.text key) old.toEntries := by
  obtain ⟨hauto, hinline, hdelay⟩ := Settings.lookup_toEntries old
  have hsome : ∃ v, Value.lookup (.text key) old.toEntries = some v := by
    simp only [Settings.keys, List.mem_cons, List.not_mem_nil, or_false] at hkey
    rcases hkey with rfl | rfl | rfl
    exacts [⟨_, hauto⟩, ⟨_, hinline⟩, ⟨_, hdelay⟩]
  obtain ⟨v, hv⟩ := hsome
  change Value.lookup (.text key) (old.toEntries ++ [(.text "cache", cache)]) = _
  rw [Value.lookup_append, hv, Option.some_or]

/-- The delay is set if one is sent. -/
lemma act_setDelay (h : IsWellTyped body) (old : Settings) (s : Session) :
    (s.act fun _ => do
      if (Value.lookup (.text "debounce_ms") body).isSome then
        Act.setDelay (← Act.ofResult (Delay.ofMillis (updatedSettings body old).debounceMillis))) =
      (.ok (), { s with
        desk := s.desk.withDelay (settledDelay body s.desk.checker.debouncer.delay) }) := by
  rw [Session.act, settledDelay, updatedSettings, Settings.intAt]
  cases hlookup : Value.lookup (.text "debounce_ms") body with
  | none => rfl
  | some v =>
      obtain ⟨i, rfl, hlow, hhigh⟩ := h.delay v hlookup
      have hdelay : Delay.ofMillis i = .ok (some (1000 * i)) :=
        Delay.ofMillis_eq hlow (by omega)
      simp only [Option.isSome_some, if_true, hdelay, Act.runAt_bind, Act.runAt_ofResult,
        Act.setDelay, Act.runAt_change]
      rfl

lemma saveSettings_of_wellTyped (hbody : r.json? = some (.map body)) (h : IsWellTyped body)
    (hold : s.disk.settings = .ok old) {tree : Tree}
    (hsave : s.disk.saveSettings (updatedSettings body old).toEntries =
      (.ok (), { s.disk with tree })) :
    saveSettings r.json? s = (.ok (.of 200 (settingsValue (updatedSettings body old))),
      { s with
        disk := { s.disk with tree }
        desk := s.desk.withDelay (settledDelay body s.desk.checker.debouncer.delay) }) := by
  rw [saveSettings, hbody]
  dsimp only [Option.getD_some, Value.entries?]
  rw [hold]
  dsimp only
  rw [settingFault?_eq_none_iff.mpr h]
  dsimp only
  rw [act_setDelay h]
  dsimp only
  rw [hsave]

/-- A body that is no object or not well typed is refused before anything is done. -/
lemma saveSettings_of_refused (hold : s.disk.settings = .ok old)
    (h : ∀ body, r.json? = some (.map body) → ¬ IsWellTyped body) :
    ∃ reason, saveSettings r.json? s = (.ok (.refusal 400 reason), s) := by
  rw [saveSettings]
  cases hentries : (r.json?.getD .null).entries? with
  | none => exact ⟨_, rfl⟩
  | some body =>
      have hbody : r.json? = some (.map body) := by
        cases hjson : r.json? with
        | none =>
            rw [hjson] at hentries
            cases hentries
        | some v =>
            rw [hjson] at hentries
            cases v <;> cases hentries
            rfl
      cases hfault : settingFault? body with
      | none => exact absurd (settingFault?_eq_none_iff.mp hfault) (h body hbody)
      | some reason =>
          dsimp only
          rw [hold]
          dsimp only
          rw [hfault]
          exact ⟨reason, rfl⟩

/-! ## A request that is accepted -/

/-- A session whose settings file holds a wait and something of another program. -/
def homeSession : Session where
  disk :=
    { tree := [("home", .dir [("settings.json",
        .file (Text.Utf8.encode "\x7b\"vault_dir\": \"notes\", \"debounce_ms\": 300\x7d") 0)])]
      defaultVault := "/home"
      settingsFile := "/home/settings.json" }
  desk := { checker := { vault := .directory "/home", debouncer := { delay := some 100000 } } }
  retired := []

/-- A request for another wait. -/
def waitRequest : Request where
  method := "POST"
  url := "http://localhost/api/settings"
  contentType := some "application/json"
  body := Text.Utf8.encode "\x7b\"debounce_ms\": 250\x7d"

/-! ## All or nothing -/

/-- What is answered to a body that is accepted, and what the session is like afterwards. -/
structure IsSaved (body : List (Value × Value)) (old : Settings) (s : Session)
    (response : Response) (s' : Session) : Prop where
  status : response.status = 200
  reported : ∀ key ∈ Settings.keys, response.member? key = settled body old key
  /-- Whoever asks for the settings afterwards is told the same. -/
  agreed : ∀ r : Request, r.Asks .get "/api/settings" → ∃ later, answer r s' = (.ok later, s') ∧
    later.status = 200 ∧ ∀ key ∈ Settings.keys, later.member? key = settled body old key
  /-- Whatever else stood in the file is still there. -/
  kept : ∀ stored, s.disk.storedSettings = .ok stored →
    ∃ stored', s'.disk.storedSettings = .ok stored' ∧
      ∀ key, IsForeign key → Value.lookup key stored' = Value.lookup key stored
  desk : s'.desk = s.desk.withDelay (settledDelay body s.desk.checker.debouncer.delay)
  retired : s'.retired = s.retired

end Api

end NoteCheck
