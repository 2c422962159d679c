import NoteCheck.Proofs.Cache.Fetch
import NoteCheck.Proofs.Checker.Clockwork

/-!
# What does not matter of the past

Some of what a checker has gone through shows in its state and still does not matter for what it does
next: timers that are no longer armed, lookups that were counted, events that were noted.  A `Past` is
a collection of these.

A desk can be given a past (`Past.desk`): the timers come before those it has, the others are
renumbered, and the counts and the journal go on from those of the past.  Whatever is done at the desk
then, it gives the same result as without the past, and leaves the desk that it leaves without it, with
that past.  This is said once for each act, from `fetch_cache` up to `runAt_request`, and then for
moving the clock (`advance_session`).

Only one thing can happen that could not without the past: a timer of the past may run, late.  It
changes nothing but itself (`take_fire_past`).
-/

namespace NoteCheck

/-- Timers that are no longer armed, lookups that were counted, and events that were noted. -/
structure Past where
  timers : List (Timer Activation)
  spent : ∀ t ∈ timers, t.state ≠ .armed
  hits : Nat
  misses : Nat
  journal : List Event

namespace Past

variable (p : Past)

/-! ## Having a past -/

def cache (c : Cache Violation) : Cache Violation :=
  { c with hits := p.hits + c.hits, misses := p.misses + c.misses }

def waiting : Waiting → Waiting
  | .timer number => .timer (p.timers.length + number)
  | .nothing => .nothing
  | .unstarted => .unstarted

def debouncer (d : Debouncer) : Debouncer :=
  { d with waiting := p.waiting d.waiting }

def schedule (s : Schedule Activation) : Schedule Activation :=
  { s with timers := p.timers ++ s.timers }

def checker (c : Checker) : Checker :=
  { c with cache := p.cache c.cache, debouncer := p.debouncer c.debouncer }

/-- The desk with this past. -/
def desk (desk : Desk) : Desk where
  checker := p.checker desk.checker
  schedule := p.schedule desk.schedule
  journal := p.journal ++ desk.journal

/-- The session with this past. -/
def session (s : Session) : Session :=
  { s with desk := p.desk s.desk }

variable (b : Desk)

@[simp] lemma debouncer_desk :
    (p.desk b).checker.debouncer = p.debouncer b.checker.debouncer := rfl

@[simp] lemma schedule_desk : (p.desk b).schedule = p.schedule b.schedule := rfl

@[simp] lemma cache_desk : (p.desk b).checker.cache = p.cache b.checker.cache := rfl

@[simp] lemma number_desk : (p.desk b).checker.number = b.checker.number := rfl

@[simp] lemma vault_desk : (p.desk b).checker.vault = b.checker.vault := rfl

@[simp] lemma schema_desk : (p.desk b).checker.schema = b.checker.schema := rfl

@[simp] lemma shown_desk : (p.desk b).checker.shown = b.checker.shown := rfl

lemma noting_desk (e : Event) : (p.desk b).noting e = p.desk (b.noting e) := by
  simp [Desk.noting, desk, List.append_assoc]

lemma withCache_desk (c : Cache Violation) :
    (p.desk b).withCache (p.cache c) = p.desk (b.withCache c) := rfl

/-! ## Timers -/

variable {p} {d : Debouncer} {s : Schedule Activation} {number : Nat}

lemma modify_append {τ : Type} (past ts : List τ) (number : Nat) (f : τ → τ) :
    (past ++ ts).modify (past.length + number) f = past ++ ts.modify number f :=
  List.modifyTailIdx_add _ number past ts

lemma modify_append_of_lt {τ : Type} {past : List τ} {number : Nat} (h : number < past.length)
    (ts : List τ) (f : τ → τ) : (past ++ ts).modify number f = past.modify number f ++ ts := by
  obtain ⟨before, t, after, rfl, rfl, hmodify⟩ := List.exists_of_modify f h
  rw [hmodify, List.append_assoc, List.append_assoc]
  exact modify_append before _ 0 f

lemma waiting_debouncer_iff (d : Debouncer) :
    (p.debouncer d).waiting = .timer (p.timers.length + number) ↔ d.waiting = .timer number := by
  rw [debouncer]
  cases d.waiting <;> simp [waiting]

lemma timer?_schedule (s : Schedule Activation) (number : Nat) :
    (p.schedule s).timer? (p.timers.length + number) = s.timer? number := by
  rw [Schedule.timer?, schedule, List.getElem?_append_right (Nat.le_add_right _ _),
    Nat.add_sub_cancel_left]
  rfl

lemma cancel_debouncer (d : Debouncer) (s : Schedule Activation) :
    (p.debouncer d).cancel (p.schedule s) = (p.debouncer (d.cancel s).1, p.schedule (d.cancel s).2) := by
  obtain ⟨delay, w⟩ := d
  cases w with
  | nothing => rfl
  | unstarted => rfl
  | timer number =>
      simp only [Debouncer.cancel, debouncer, waiting, Schedule.cancel, schedule, modify_append]

lemma submit_debouncer (task : Activation) (d : Debouncer) (s : Schedule Activation) :
    (p.debouncer d).submit task (p.schedule s)
      = ((d.submit task s).1, p.debouncer (d.submit task s).2.1, p.schedule (d.submit task s).2.2) := by
  rw [Debouncer.submit, Debouncer.submit, cancel_debouncer]
  cases hdelay : (d.cancel s).1.delay with
  | none => simp [debouncer, waiting, hdelay]
  | some micros => simp [debouncer, waiting, schedule, Schedule.start, hdelay]

lemma take_debouncer (d : Debouncer) (number : Nat) :
    (p.debouncer d).take (p.timers.length + number)
      = ((d.take number).1, p.debouncer (d.take number).2) := by
  unfold Debouncer.take
  by_cases h : d.waiting = .timer number
  · rw [if_pos h, if_pos ((waiting_debouncer_iff d).mpr h)]
    rfl
  · rw [if_neg h, if_neg (mt (waiting_debouncer_iff d).mp h)]

lemma finish_schedule (s : Schedule Activation) (number : Nat) :
    (p.schedule s).finish (p.timers.length + number) = p.schedule (s.finish number) := by
  simp only [Schedule.finish, schedule, modify_append]

lemma nextDue?_schedule (limit : Int) (s : Schedule Activation) :
    (p.schedule s).nextDue? limit
      = (s.nextDue? limit).map fun (number, t) => (p.timers.length + number, t) := by
  rw [Schedule.nextDue?, schedule, Schedule.earliest?_append p.spent, Nat.zero_add]
  exact (Schedule.earliest?_shift : Schedule.earliest? limit (p.timers.length + 0) s.timers = _)

lemma armedCount_schedule (s : Schedule Activation) :
    (p.schedule s).armedCount = s.armedCount := by
  have hpast : p.timers.countP (fun t => t.state = .armed) = 0 := by
    rw [List.countP_eq_zero]
    exact fun t ht => by simpa using p.spent t ht
  rw [Schedule.armedCount, schedule, List.countP_append, hpast, Nat.zero_add]
  rfl

/-! ## Checking -/

lemma learn_cache (c : Cache Violation) (path : String) (mtime : Value)
    (compute : Except Fault (List Violation)) :
    (p.cache c).learn path mtime compute = p.cache (c.learn path mtime compute) := by
  cases compute <;> rfl

lemma fetch_cache (c : Cache Violation) (path : String) (mtime : Value) (force : Bool)
    (compute : Except Fault (List Violation)) :
    (p.cache c).fetch path mtime force compute
      = { c.fetch path mtime force compute with
          cache := p.cache (c.fetch path mtime force compute).cache } := by
  cases force with
  | true => rw [Cache.fetch_forced, Cache.fetch_forced, learn_cache]
  | false =>
      cases h : c.current? path mtime with
      | some found =>
          have hpast : (p.cache c).current? path mtime = some found := h
          rw [Cache.fetch_remembered h, Cache.fetch_remembered hpast]
          rfl
      | none =>
          have hpast : (p.cache c).current? path mtime = none := h
          rw [Cache.fetch_unknown h, Cache.fetch_unknown hpast, ← learn_cache]
          rfl

end Past

/-! ## Acts -/

namespace Act

variable {α : Type}

/-- Whether an act does the same at a desk whatever past the desk has. -/
def IgnoresPast (act : Act α) : Prop :=
  ∀ (p : Past) (b : Desk), act.runAt (p.desk b) = ((act.runAt b).1, p.desk (act.runAt b).2)

lemma ignoresPast_checkNote (n : Note) (force : Bool) : (checkNote n force).IgnoresPast := by
  intro p b
  have hfetch := Past.fetch_cache (p := p) b.checker.cache n.path n.mtime force
    (violations (.map b.checker.schema) n.frontmatter)
  rw [runAt_checkNote, runAt_checkNote]
  simp only [Past.cache_desk, Past.schema_desk, hfetch, Past.withCache_desk, Past.noting_desk]
  split <;> rfl

lemma ignoresPast_checkNotes (notes : List Note) : (checkNotes notes).IgnoresPast := by
  induction notes with
  | nil => exact fun p b => rfl
  | cons n rest ih =>
      intro p b
      rw [runAt_checkNotes_cons, runAt_checkNotes_cons, ignoresPast_checkNote]
      rcases (checkNote n false).runAt b with ⟨cause | found, left⟩
      · rfl
      · dsimp only
        rw [ih]
        rcases (checkNotes rest).runAt left with ⟨cause | others, last⟩ <;> rfl

lemma ignoresPast_clearCache : clearCache.IgnoresPast := by
  intro p b
  rw [runAt_clearCache, runAt_clearCache, ← Past.noting_desk]
  rfl

lemma ignoresPast_pruneTo (paths : List String) : (pruneTo paths).IgnoresPast := by
  intro p b
  have hprune : (p.cache b.checker.cache).prune paths = p.cache (b.checker.cache.prune paths) := rfl
  have hsize : (p.cache b.checker.cache).size = b.checker.cache.size := rfl
  have hsize' : (p.cache (b.checker.cache.prune paths)).size
    = (b.checker.cache.prune paths).size := rfl
  rw [runAt_pruneTo, runAt_pruneTo]
  simp only [Past.cache_desk, hprune, hsize, hsize', Past.withCache_desk, Past.noting_desk]
  split <;> rfl

lemma ignoresPast_prune (d : Disk) : (prune d).IgnoresPast := by
  intro p b
  rw [runAt_prune, runAt_prune, Past.vault_desk]
  cases d.notePaths b.checker.vault.path with
  | error cause => rfl
  | ok paths => exact ignoresPast_pruneTo paths p b

lemma ignoresPast_evict (path : String) : (evict path).IgnoresPast :=
  fun _ _ => rfl

lemma ignoresPast_checkFile (d : Disk) (path : String) (force : Bool) :
    (checkFile d path force).IgnoresPast := by
  intro p b
  rw [runAt_checkFile, runAt_checkFile, Past.vault_desk]
  rcases d.readNote path b.checker.vault.path with cause | _ | n
  · rfl
  · rfl
  · dsimp only
    rw [ignoresPast_checkNote]
    rcases (checkNote n force).runAt b with ⟨cause | found, left⟩ <;> rfl

lemma ignoresPast_checkAll (d : Disk) : (checkAll d).IgnoresPast := by
  intro p b
  rw [runAt_checkAll, runAt_checkAll, Past.vault_desk]
  rcases d.notes b.checker.vault.path with cause | notes
  · rfl
  · dsimp only
    rw [ignoresPast_checkNotes]
    rcases (checkNotes notes).runAt b with ⟨cause | findings, left⟩
    · rfl
    · dsimp only
      rw [ignoresPast_pruneTo]

lemma hearing_past (d : Disk) (vault : String) (loaded : LoadedSchema) (p : Past) (b : Desk) :
    hearing d vault loaded (p.desk b) = p.desk (hearing d vault loaded b) := by
  unfold hearing
  split
  · exact Past.noting_desk p b _
  · rfl

lemma holding_past (d : Disk) (loaded : LoadedSchema) (p : Past) (b : Desk) :
    holding d loaded (p.desk b) = p.desk (holding d loaded b) := by
  rw [holding, hearing_past]
  rfl

lemma renewed_past (d : Disk) (loaded : LoadedSchema) (p : Past) (b : Desk) :
    renewed d loaded (p.desk b) = p.desk (renewed d loaded b) := by
  rw [renewed, renewed, ← Past.noting_desk, ← Past.noting_desk, holding_past]
  rfl

lemma turned_past (vault : VaultName) (p : Past) (b : Desk) :
    turned vault (p.desk b) = p.desk (turned vault b) := by
  have hcancel := Past.cancel_debouncer (p := p) b.checker.debouncer b.schedule
  unfold turned
  rw [Past.debouncer_desk, Past.schedule_desk, hcancel]
  rfl

lemma ignoresPast_loadSchema (d : Disk) : (loadSchema d).IgnoresPast := by
  intro p b
  rw [runAt_loadSchema, runAt_loadSchema, Past.vault_desk]
  cases d.loadSchema b.checker.vault.path with
  | error cause => rfl
  | ok loaded => simp only [holding_past]

lemma ignoresPast_reloadSchema (d : Disk) : (reloadSchema d).IgnoresPast := by
  intro p b
  rw [runAt_reloadSchema, runAt_reloadSchema, Past.vault_desk]
  cases d.loadSchema b.checker.vault.path with
  | error cause => rfl
  | ok loaded => simp only [renewed_past]

lemma ignoresPast_switchVault (d : Disk) (vault : VaultName) : (switchVault d vault).IgnoresPast := by
  intro p b
  rw [runAt_switchVault, runAt_switchVault, turned_past]
  cases d.loadSchema vault.path with
  | error cause => rfl
  | ok loaded => simp only [renewed_past]

lemma ignoresPast_activate (path : Option String) (auto : Bool) :
    (activate path auto).IgnoresPast := by
  intro p b
  rw [runAt_activate, runAt_activate]
  rcases path with _ | name
  · rfl
  · dsimp only
    split
    · have hsubmit := Past.submit_debouncer (p := p) ⟨b.checker.number, name⟩ b.checker.debouncer
        b.schedule
      rw [show showing (some name) (p.desk b) = p.desk (showing (some name) b) from rfl]
      unfold submitted
      rw [Past.debouncer_desk, Past.schedule_desk, Past.number_desk]
      dsimp only [showing]
      rw [hsubmit]
      rfl
    · rfl

lemma ignoresPast_shutdown : shutdown.IgnoresPast := by
  intro p b
  have hcancel := Past.cancel_debouncer (p := p) b.checker.debouncer b.schedule
  rw [shutdown, runAt_withDebouncer, runAt_withDebouncer, Past.debouncer_desk, Past.schedule_desk,
    hcancel]
  rfl

lemma ignoresPast_checkShown (d : Disk) (path : String) : (checkShown d path).IgnoresPast := by
  intro p b
  rw [runAt_checkShown, runAt_checkShown, ignoresPast_checkFile]
  rcases (checkFile d path false).runAt b with ⟨cause | found, left⟩
  · rfl
  · dsimp only [publishing]
    rw [Past.shown_desk]
    split <;> rfl

lemma taking_past (number : Nat) (p : Past) (b : Desk) :
    taking (p.timers.length + number) (p.desk b) = p.desk (taking number b) := by
  have htake := Past.take_debouncer (p := p) b.checker.debouncer number
  have hfinish := Past.finish_schedule (p := p) b.schedule number
  unfold taking
  rw [Past.debouncer_desk, Past.schedule_desk, htake, hfinish]
  rfl

/-- A timer that is not of the past does what it does without it. -/
lemma runAt_fire_past (d : Disk) (number : Nat) (path : String) (p : Past) (b : Desk) :
    (fire d (p.timers.length + number) path).runAt (p.desk b)
      = (((fire d number path).runAt b).1, p.desk ((fire d number path).runAt b).2) := by
  rw [runAt_fire, runAt_fire, taking_past, ignoresPast_checkShown, Past.debouncer_desk]
  simp only [Past.waiting_debouncer_iff]
  split <;> rfl

end Act

/-! ## Requests -/

namespace Checker

open Act

/-- A request is served in the same way whatever was before. -/
lemma ignoresPast_request (d : Disk) (r : Request) : (r.act d).IgnoresPast := by
  have hmap : ∀ {α : Type} (act : Act α) (f : α → Reply), act.IgnoresPast →
      (act >>= fun a => pure (f a)).IgnoresPast := by
    intro α act f h p b
    rw [runAt_bind_pure, runAt_bind_pure, h]
  cases r with
  | loadSchema => exact hmap _ _ (ignoresPast_loadSchema d)
  | reloadSchema => exact hmap _ _ (ignoresPast_reloadSchema d)
  | switchVault vault => exact hmap _ _ (ignoresPast_switchVault d vault)
  | checkNote n force => exact hmap _ _ (ignoresPast_checkNote n force)
  | checkNotes notes => exact hmap _ _ (ignoresPast_checkNotes notes)
  | checkFile path force => exact hmap _ _ (ignoresPast_checkFile d path force)
  | checkAll => exact hmap _ _ (ignoresPast_checkAll d)
  | clearCache => exact hmap _ _ ignoresPast_clearCache
  | prune paths =>
      cases paths with
      | some paths => exact hmap _ _ (ignoresPast_pruneTo paths)
      | none => exact hmap _ _ (ignoresPast_prune d)
  | evict path => exact hmap _ _ (ignoresPast_evict path)
  | activate path auto => exact hmap _ _ (ignoresPast_activate path auto)
  | current => exact fun p b => rfl
  | setDelay delay => exact fun p b => rfl
  | shutdown => exact hmap _ _ ignoresPast_shutdown

end Checker

/-! ## Sessions -/

namespace Past

open Session (Step)

variable {p : Past} {s : Session} {number : Nat}

lemma take_request_session (r : Checker.Request) :
    (p.session s).take (.request r)
      = ((s.take (.request r)).1, p.session (s.take (.request r)).2) := by
  have hrequest := Checker.ignoresPast_request s.disk r p s.desk
  rw [Session.take_request, Session.take_request]
  dsimp only [session]
  rw [hrequest]

lemma take_wait_session (time : Int) :
    (p.session s).take (.wait time) = ((s.take (.wait time)).1, p.session (s.take (.wait time)).2) :=
  rfl

/-- A timer that is not of the past does what it does without it. -/
lemma fire_session (hretired : s.retired = []) (number : Nat) :
    (p.session s).fire (p.timers.length + number)
      = ((s.fire number).1, p.session (s.fire number).2) := by
  have htimer : (p.session s).desk.schedule.timer? (p.timers.length + number)
      = s.desk.schedule.timer? number := timer?_schedule s.desk.schedule number
  cases ht : s.desk.schedule.timer? number with
  | none =>
      rw [ht] at htimer
      rw [Session.fire_of_none htimer, Session.fire_of_none ht]
  | some t =>
      rw [ht] at htimer
      have hpast : (p.session s).retired = [] := hretired
      have hfire := Act.runAt_fire_past s.disk number t.task.path p s.desk
      rw [Session.fire_of_timer hpast htimer, Session.fire_of_timer hretired ht, Session.act,
        Session.act]
      dsimp only [session]
      rw [hfire]

lemma take_fire_session (hretired : s.retired = []) (number : Nat) :
    (p.session s).take (.fire (p.timers.length + number))
      = ((s.take (.fire number)).1, p.session (s.take (.fire number)).2) := by
  have hfire := fire_session (p := p) hretired number
  rw [Session.take, Session.take, hfire]

/-- The past after one of its timers has run, late. -/
def finish (p : Past) (number : Nat) : Past where
  timers := p.timers.modify number fun t => { t with state := .done }
  spent := by
    intro t ht
    obtain ⟨i, hi, rfl⟩ := List.getElem_of_mem ht
    rw [List.getElem_modify]
    split
    · simp
    · exact p.spent _ (List.getElem_mem _)
  hits := p.hits
  misses := p.misses
  journal := p.journal

@[simp] lemma length_finish (p : Past) (number : Nat) :
    (p.finish number).timers.length = p.timers.length := by
  simp [finish]

lemma debouncer_finish (p : Past) (number : Nat) (d : Debouncer) :
    (p.finish number).debouncer d = p.debouncer d := by
  rw [debouncer, debouncer]
  cases d.waiting <;> simp [waiting]

lemma waiting_ne_of_lt (d : Debouncer) (hnumber : number < p.timers.length) :
    (p.debouncer d).waiting ≠ .timer number := by
  rw [debouncer]
  cases d.waiting with
  | timer m =>
      simp only [waiting, ne_eq, Waiting.timer.injEq]
      omega
  | nothing | unstarted => simp [waiting]

/-- A timer of the past changes nothing but itself. -/
lemma take_fire_past (hretired : s.retired = []) (hnumber : number < p.timers.length) :
    (p.session s).take (.fire number) = (.ok .done, (p.finish number).session s) := by
  have hpast : (p.session s).retired = [] := hretired
  have htimer : (p.session s).desk.schedule.timer? number = some p.timers[number] := by
    show (p.timers ++ s.desk.schedule.timers)[number]? = _
    rw [List.getElem?_append_left hnumber, List.getElem?_eq_getElem hnumber]
  have hwaiting := waiting_ne_of_lt s.desk.checker.debouncer hnumber
  have htaking : Act.taking number (p.desk s.desk) = (p.finish number).desk s.desk := by
    have hdebouncer := debouncer_finish p number s.desk.checker.debouncer
    have hmodify := modify_append_of_lt hnumber s.desk.schedule.timers
      fun t => { t with state := .done }
    unfold Act.taking
    rw [debouncer_desk, schedule_desk, Debouncer.take, if_neg hwaiting, Schedule.finish, schedule,
      hmodify, desk, desk, checker, checker, hdebouncer]
    rfl
  rw [Session.take, Session.fire_of_timer hpast htimer, Session.act]
  dsimp only [session]
  rw [Act.runAt_fire, debouncer_desk, if_neg hwaiting, htaking]
  rfl

/-! ### Moving the clock -/

/-- What happens when a timer comes due. -/
lemma comeDue_session (hretired : s.retired = []) (limit : Int) (number : Nat) :
    (p.session s).comeDue limit (p.timers.length + number)
      = ((s.comeDue limit number).1, p.session (s.comeDue limit number).2) := by
  have htimer : (p.session s).desk.schedule.timer? (p.timers.length + number)
      = s.desk.schedule.timer? number := timer?_schedule s.desk.schedule number
  have hwaited : ∀ time, (s.take (.wait time)).2.retired = [] := fun _ => hretired
  rw [Session.comeDue, Session.comeDue, htimer, take_wait_session]
  exact fire_session (hwaited _) number

lemma runDue_session {fuel : Nat} (hretired : s.retired = []) (limit : Int) :
    runDue (Session.nextDue? limit) (Session.comeDue limit) fuel (p.session s)
      = ((runDue (Session.nextDue? limit) (Session.comeDue limit) fuel s).1.map
            fun (number, outcome) => (p.timers.length + number, outcome),
          p.session (runDue (Session.nextDue? limit) (Session.comeDue limit) fuel s).2) := by
  have hnext : ∀ s, Session.nextDue? limit (p.session s)
      = (Session.nextDue? limit s).map (p.timers.length + ·) := by
    intro s
    rw [Session.nextDue?, Session.nextDue?]
    show ((p.schedule s.desk.schedule).nextDue? limit).map _ = _
    rw [nextDue?_schedule, Option.map_map, Option.map_map]
    rfl
  induction fuel generalizing s with
  | zero => rfl
  | succ fuel ih =>
      rw [runDue, runDue, hnext]
      cases hdue : Session.nextDue? limit s with
      | none => rfl
      | some number =>
          have hleft : (s.comeDue limit number).2.retired = [] :=
            Session.retired_take (s := (s.take (.wait _)).2) hretired (.fire number)
          dsimp only [Option.map_some]
          rw [comeDue_session hretired, ih hleft]
          rfl

/-- **Moving the clock** lets the same timers run, whatever was before; only their numbers are
others. -/
lemma advance_session (hretired : s.retired = []) (micros : Int) :
    (p.session s).advance micros
      = ((s.advance micros).1.map fun (number, outcome) => (p.timers.length + number, outcome),
          p.session (s.advance micros).2) := by
  have hfuel : (p.session s).desk.schedule.armedCount = s.desk.schedule.armedCount :=
    armedCount_schedule s.desk.schedule
  have hlimit : (p.session s).desk.schedule.now = s.desk.schedule.now := rfl
  rw [Session.advance_eq, Session.advance_eq]
  dsimp only
  rw [hfuel, hlimit, runDue_session hretired]
  rfl

end Past

end NoteCheck
