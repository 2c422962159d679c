import NoteCheck.Proofs.Checker.Past

/-!
# A new vault, a new checker

A checker that turns to another vault is from then on like one that has just been set up for it.
Nothing of the old vault stays: no remembered violations, no schema, no note that is shown, no check
that waits.

What does stay is a past in the sense of `Past`: timers that have run or were cancelled, numbers of
lookups, and the journal.  A checker that has just been set up has a past, too, a small one.  Both are
the same bare checker with different pasts (`exists_past_switchVault`, `exists_past_open`), so
whatever happens to both of them, they stay the same but for these pasts (`live_session`).

* **`switchVault_as_new`** — the same replies, the same note and result shown, the same entries in the
  cache, the same schema, and the same pending checks; only the counts and the journal go on from what
  they were.
-/

namespace NoteCheck

/-- Whether two checkers look the same from outside, their counts apart. -/
structure Checker.SameFace (a b : Checker) : Prop where
  vault : a.vault = b.vault
  schema : a.schema = b.schema
  entries : a.cache.entries = b.cache.entries
  shown : a.shown = b.shown
  shownResult : a.shownResult = b.shownResult
  pending : a.debouncer.isPending = b.debouncer.isPending
  delay : a.debouncer.delay = b.debouncer.delay

namespace Session

/-! ## What happens -/

/-- A step, or the clock moves on and lets the timers run that come due. -/
inductive Happening where
  | step (step : Step)
  | advance (micros : Int)

/-- What is seen of it: the reply to a step, or which timers ran and how. -/
inductive Answer where
  | reply (reply : Except Fault Checker.Reply)
  | ran (outcomes : List (Nat × Except Fault Unit))

/-- Lets something happen. -/
def happen (s : Session) : Happening → Answer × Session
  | .step step => (.reply (s.take step).1, (s.take step).2)
  | .advance micros => (.ran (s.advance micros).1, (s.advance micros).2)

/-- Lets one thing happen after the other. -/
def live (s : Session) : List Happening → Session
  | [] => s
  | h :: rest => (s.happen h).2.live rest

/-- The same happening where the first timers, so many of them, were never started.  If one of them
runs, then nothing happens there. -/
def Happening.since (count : Nat) : Happening → Option Happening
  | .step (.fire number) => if number < count then none else some (.step (.fire (number - count)))
  | h => some h

/-- The same answer where so many timers were started before. -/
def Answer.renumber (count : Nat) : Answer → Answer
  | .reply r => .reply r
  | .ran outcomes => .ran (outcomes.map fun (number, outcome) => (count + number, outcome))

lemma Happening.since_zero (h : Happening) : h.since 0 = some h := by
  rcases h with ⟨r | number | tree | time⟩ | micros <;> rfl

lemma Answer.renumber_zero (answer : Answer) : answer.renumber 0 = answer := by
  cases answer <;> simp [renumber]

variable {s : Session}

lemma exists_run_of_happen (s : Session) (h : Happening) : ∃ steps, (s.happen h).2 = s.run steps := by
  cases h with
  | step step => exact ⟨[step], rfl⟩
  | advance micros => exact ⟨s.advanceSteps micros, advance_eq_run s micros⟩

/-- Whatever happens is a run. -/
lemma exists_run_of_live (s : Session) (later : List Happening) :
    ∃ steps, s.live later = s.run steps := by
  induction later generalizing s with
  | nil => exact ⟨[], rfl⟩
  | cons h rest ih =>
      obtain ⟨first, hfirst⟩ := exists_run_of_happen s h
      obtain ⟨others, hothers⟩ := ih (s.happen h).2
      refine ⟨first ++ others, ?_⟩
      rw [run_append, live, hothers, hfirst]

lemma retired_happen (hretired : s.retired = []) (h : Happening) :
    (s.happen h).2.retired = [] := by
  obtain ⟨steps, hsteps⟩ := exists_run_of_happen s h
  rw [hsteps]
  exact retired_run hretired steps

end Session

/-! ## With a past -/

namespace Past

open Session (Happening)

variable {p : Past} {s : Session}

/-- Whether two pasts differ only in what became of their timers. -/
structure Like (q p : Past) : Prop where
  length : q.timers.length = p.timers.length
  hits : q.hits = p.hits
  misses : q.misses = p.misses
  journal : q.journal = p.journal

lemma Like.refl (p : Past) : p.Like p := ⟨rfl, rfl, rfl, rfl⟩

lemma Like.trans {q r : Past} (hq : q.Like r) (hr : r.Like p) : q.Like p :=
  ⟨hq.length.trans hr.length, hq.hits.trans hr.hits, hq.misses.trans hr.misses,
    hq.journal.trans hr.journal⟩

lemma finish_like (p : Past) (number : Nat) : (p.finish number).Like p :=
  ⟨length_finish p number, rfl, rfl, rfl⟩

/-- **What happens with a past** is what happens without it, or a timer of the past runs. -/
lemma happen_session (hretired : s.retired = []) (h : Happening) :
    match h.since p.timers.length with
    | some h' => (p.session s).happen h
        = ((s.happen h').1.renumber p.timers.length, p.session (s.happen h').2)
    | none => ∃ q : Past, q.Like p ∧ (p.session s).happen h = (.reply (.ok .done), q.session s) := by
  cases h with
  | advance micros =>
      have hadvance := advance_session (p := p) hretired micros
      dsimp only [Happening.since, Session.happen]
      rw [hadvance]
      rfl
  | step step =>
      cases step with
      | request r =>
          have hrequest := take_request_session (p := p) (s := s) r
          dsimp only [Happening.since, Session.happen]
          rw [hrequest]
          rfl
      | edit tree => rfl
      | wait time => rfl
      | fire number =>
          by_cases hnumber : number < p.timers.length
          · rw [Happening.since, if_pos hnumber]
            refine ⟨p.finish number, finish_like p number, ?_⟩
            rw [Session.happen, take_fire_past hretired hnumber]
          · have hfire := take_fire_session (p := p) hretired (number - p.timers.length)
            rw [Nat.add_sub_cancel' (Nat.le_of_not_lt hnumber)] at hfire
            rw [Happening.since, if_neg hnumber]
            dsimp only [Session.happen]
            rw [hfire]
            rfl

/-- A life with a past is the life without it, with a past that is like this one. -/
lemma live_session (hretired : s.retired = []) (later : List Happening) :
    ∃ q : Past, q.Like p ∧ (p.session s).live later
      = q.session (s.live (later.filterMap (·.since p.timers.length))) := by
  induction later generalizing p s with
  | nil => exact ⟨p, Like.refl p, rfl⟩
  | cons h rest ih =>
      have hstep := happen_session (p := p) hretired h
      rw [Session.live]
      cases hsince : h.since p.timers.length with
      | some h' =>
          rw [hsince] at hstep
          dsimp only at hstep
          rw [List.filterMap_cons_some hsince, hstep]
          exact ih (Session.retired_happen hretired h')
      | none =>
          rw [hsince] at hstep
          obtain ⟨r, hr, hstep⟩ := hstep
          obtain ⟨q, hq, hlive⟩ := ih (p := r) hretired
          rw [List.filterMap_cons_none hsince, hstep]
          refine ⟨q, hq.trans hr, ?_⟩
          rw [hlive, hr.length]

lemma sameFace_checker (p q : Past) (c : Checker) : (p.checker c).SameFace (q.checker c) := by
  have hpending : ∀ r : Past, (r.debouncer c.debouncer).isPending = c.debouncer.isPending := by
    intro r
    rw [Debouncer.isPending, Debouncer.isPending, debouncer]
    cases c.debouncer.waiting <;> rfl
  exact ⟨rfl, rfl, rfl, rfl, rfl, (hpending p).trans (hpending q).symm, rfl⟩

end Past

/-! ## Two ways to a vault -/

namespace Act

open Checker

/-- A checker of a vault that nothing has happened to, and whose clock has no timers. -/
def bare (number : Nat) (vault : String) (loaded : LoadedSchema) (delay : Delay) (now : Int) : Desk where
  checker := {
    number
    vault := .directory vault
    schema := loaded.entries
    debouncer := ⟨delay, .nothing⟩ }
  schedule := { now }

lemma desk_ext {a b : Desk} (hchecker : a.checker = b.checker) (hschedule : a.schedule = b.schedule)
    (hjournal : a.journal = b.journal) : a = b := by
  cases a
  cases b
  simp_all

variable {d : Disk} {desk : Desk} {vault : String} {loaded : LoadedSchema}

/-- A checker that turns to a vault is a bare one with a past: its timers are no longer armed. -/
lemma exists_past_switchVault (htracks : desk.checker.debouncer.Tracks desk.schedule)
    (hload : d.loadSchema vault = .ok loaded) :
    ∃ p : Past, ((switchVault d (.directory vault)).runAt desk).2
      = p.desk (bare desk.checker.number vault loaded desk.checker.debouncer.delay
          desk.schedule.now) := by
  have hcancel := htracks.cancel
  have hfst := Debouncer.cancel_fst desk.checker.debouncer desk.schedule
  have hnow := Debouncer.now_cancel desk.checker.debouncer desk.schedule
  have hspent : ∀ t ∈ (desk.checker.debouncer.cancel desk.schedule).2.timers, t.state ≠ .armed := by
    have hnil := hcancel.armed_eq_nil (by simp [hfst])
    intro t ht harmed
    exact absurd ((List.filter_eq_nil_iff.mp hnil) t ht) (by simp [harmed])
  have hload' : d.loadSchema (VaultName.directory vault).path = .ok loaded := hload
  rw [runAt_switchVault, hload']
  refine ⟨⟨_, hspent, desk.checker.cache.hits, desk.checker.cache.misses,
    (renewed d loaded (turned (.directory vault) desk)).journal⟩, desk_ext ?_ ?_ ?_⟩
  · rw [checker_renewed]
    dsimp only [turned]
    rw [hfst]
    simp [Past.desk, Past.checker, bare, Past.cache, Past.debouncer, Past.waiting, Cache.clear,
      Cache.keep, Cache.empty]
  · rw [schedule_renewed]
    show (desk.checker.debouncer.cancel desk.schedule).2
      = ⟨desk.schedule.now, (desk.checker.debouncer.cancel desk.schedule).2.timers ++ []⟩
    rw [List.append_nil, ← hnow]
  · exact (List.append_nil _).symm

/-- So is a checker that is set up; its past is nothing but what the journal says of its schema. -/
lemma exists_past_open (hvault : vault ≠ "") (hload : d.loadSchema vault = .ok loaded)
    (number : Nat) (delay : Delay) (now : Int) :
    ∃ p : Past, p.timers = [] ∧ p.hits = 0 ∧ p.misses = 0 ∧
      Desk.open? d number vault delay { now }
        = (.ok loaded.entries, p.desk (bare number vault loaded delay now)) := by
  have hdir : d.vaultDir vault = vault := by simp [Disk.vaultDir, hvault]
  have hload' : d.loadSchema (VaultName.directory vault).path = .ok loaded := hload
  rw [Desk.open?, hdir, runAt_loadSchema, hload']
  dsimp only
  generalize hblank : (⟨{ number, vault := .directory vault, debouncer := ⟨delay, .nothing⟩ },
    { now }, []⟩ : Desk) = blank
  refine ⟨⟨[], by simp, 0, 0, (holding d loaded blank).journal⟩, rfl, rfl, rfl, ?_⟩
  refine congrArg (Prod.mk _) (desk_ext ?_ ?_ (List.append_nil _).symm)
  · rw [← hblank]
    rfl
  · have hclockwork := Checker.clockwork_hearing d blank.checker.vault.path loaded blank
    rw [← hblank] at hclockwork ⊢
    exact congrArg Prod.snd hclockwork

end Act

/-! ## The rest of the life -/

namespace Session

variable {s : Session}

/-- **One checker, two pasts.**  Whatever happens to it, the checker looks the same and answers the
same, up to the numbers of timers; and the counts and the journal go on from those of its past. -/
lemma same_of_pasts (hretired : s.retired = []) (p q : Past) (htimers : q.timers = [])
    (hhits : q.hits = 0) (hmisses : q.misses = 0) (later : List Happening) :
    let count := p.timers.length
    let x := (p.session s).live later
    let y := (q.session s).live (later.filterMap (·.since count))
    x.disk = y.disk
      ∧ x.desk.checker.SameFace y.desk.checker
      ∧ x.desk.checker.cache.hits = p.hits + y.desk.checker.cache.hits
      ∧ x.desk.checker.cache.misses = p.misses + y.desk.checker.cache.misses
      ∧ (∃ since, x.desk.journal = p.journal ++ since ∧ y.desk.journal = q.journal ++ since)
      ∧ ∀ h : Happening, match h.since count with
          | some h' => (x.happen h).1 = (y.happen h').1.renumber count
          | none => (x.happen h).1 = .reply (.ok .done) := by
  intro count x y
  obtain ⟨p', hp', hx⟩ := Past.live_session (p := p) hretired later
  obtain ⟨q', hq', hy⟩ := Past.live_session (p := q) hretired (later.filterMap (·.since count))
  have hcount : q.timers.length = 0 := by rw [htimers, List.length_nil]
  have hsame : (later.filterMap (·.since count)).filterMap (·.since q.timers.length)
      = later.filterMap (·.since count) := by
    simp only [hcount, Happening.since_zero, List.filterMap_some]
  -- Without a past, the two of them are one and the same session.
  rw [hsame] at hy
  generalize hz : s.live (later.filterMap (·.since count)) = z at hx hy
  have hretiredLeft : z.retired = [] := by
    obtain ⟨steps, hsteps⟩ := exists_run_of_live s (later.filterMap (·.since count))
    rw [← hz, hsteps]
    exact retired_run hretired steps
  have hx : x = p'.session z := hx
  have hy : y = q'.session z := hy
  rw [hx, hy]
  refine ⟨rfl, Past.sameFace_checker p' q' z.desk.checker, ?_, ?_, ⟨z.desk.journal, ?_, ?_⟩,
    fun h => ?_⟩
  · show p'.hits + z.desk.checker.cache.hits = p.hits + (q'.hits + z.desk.checker.cache.hits)
    rw [hp'.hits, hq'.hits, hhits, Nat.zero_add]
  · show p'.misses + z.desk.checker.cache.misses
      = p.misses + (q'.misses + z.desk.checker.cache.misses)
    rw [hp'.misses, hq'.misses, hmisses, Nat.zero_add]
  · rw [← hp'.journal]
    rfl
  · rw [← hq'.journal]
    rfl
  · have hfirst := Past.happen_session (p := p') hretiredLeft h
    rw [hp'.length] at hfirst
    cases hsince : h.since count with
    | none =>
        rw [hsince] at hfirst
        obtain ⟨_, -, hfirst⟩ := hfirst
        exact congrArg Prod.fst hfirst
    | some h' =>
        have hsecond := Past.happen_session (p := q') hretiredLeft h'
        rw [hq'.length, hcount, Happening.since_zero] at hsecond
        rw [hsince] at hfirst
        dsimp only at hfirst hsecond ⊢
        rw [hfirst, hsecond, Answer.renumber_zero]

lemma exists_loaded_of_switchVault {vault : String}
    (hok : (s.take (.request (.switchVault (.directory vault)))).1.isOk = true) :
    ∃ loaded, s.disk.loadSchema vault = .ok loaded := by
  rw [take_request, Checker.Request.act, Act.runAt_bind_pure, Act.runAt_switchVault] at hok
  change ∃ loaded, s.disk.loadSchema (VaultName.directory vault).path = .ok loaded
  cases hload : s.disk.loadSchema (VaultName.directory vault).path with
  | error cause =>
      rw [hload] at hok
      exact absurd hok (by simp [Except.map, Except.isOk, Except.toBool])
  | ok loaded => exact ⟨loaded, rfl⟩

/-- **A new vault, a new checker.**  A checker is set up, and anything happens to it and around it.
Then it turns to a vault that has a path, and does not fail.  A checker that is set up for that vault
at that moment, on a clock without timers and with the same delay, is set up without failure; and
whatever happens to the two of them from then on, they answer the same and look the same: they show the
same note with the same result, remember the same violations, have the same schema, and wait for a
check at the same times.  A timer that was started before does nothing, even if it runs late.  The
counts and the journal of the first one go on from what they were. -/
theorem switchVault_as_new {d : Disk} {number : Nat} {home : String} {delay : Delay} {now : Int}
    {entries : SchemaEntries} {desk : Desk}
    (hopen : Desk.open? d number home delay { now } = (.ok entries, desk))
    (before : List Happening) {vault : String} (hvault : vault ≠ "")
    (hok : ((live ⟨d, desk, []⟩ before).take
      (.request (.switchVault (.directory vault)))).1.isOk = true) :
    let s := live ⟨d, desk, []⟩ before
    let turned := (s.take (.request (.switchVault (.directory vault)))).2
    let count := turned.desk.schedule.timers.length
    ∃ schema fresh,
      Desk.open? s.disk s.desk.checker.number vault s.desk.checker.debouncer.delay
          { now := s.desk.schedule.now } = (.ok schema, fresh) ∧
        ∀ later : List Happening,
          let x := turned.live later
          let y := (⟨s.disk, fresh, []⟩ : Session).live (later.filterMap (·.since count))
          x.disk = y.disk
            ∧ x.desk.checker.SameFace y.desk.checker
            ∧ x.desk.checker.cache.hits = turned.desk.checker.cache.hits + y.desk.checker.cache.hits
            ∧ x.desk.checker.cache.misses
              = turned.desk.checker.cache.misses + y.desk.checker.cache.misses
            ∧ (∃ since, x.desk.journal = turned.desk.journal ++ since ∧
                y.desk.journal = fresh.journal ++ since)
            ∧ ∀ h : Happening, match h.since count with
                | some h' => (x.happen h).1 = (y.happen h').1.renumber count
                | none => (x.happen h).1 = .reply (.ok .done) := by
  intro s turned count
  obtain ⟨steps, hsteps⟩ := exists_run_of_live ⟨d, desk, []⟩ before
  have hretired : s.retired = [] := by
    rw [show s = _ from hsteps]
    exact retired_run rfl steps
  have htracks : s.desk.checker.debouncer.Tracks s.desk.schedule := by
    have hclockwork := Desk.clockwork_open hopen
    rw [show s = _ from hsteps]
    exact tracks_run rfl (Debouncer.tracks_of_nothing (congrArg (·.1.waiting) hclockwork)
      (congrArg (·.2.timers) hclockwork)) steps
  obtain ⟨loaded, hload⟩ := exists_loaded_of_switchVault hok
  obtain ⟨p, hp⟩ := Act.exists_past_switchVault htracks hload
  obtain ⟨q, htimers, hhits, hmisses, hfresh⟩ := Act.exists_past_open hvault hload
    s.desk.checker.number s.desk.checker.debouncer.delay s.desk.schedule.now
  generalize hblank : Act.bare s.desk.checker.number vault loaded s.desk.checker.debouncer.delay
    s.desk.schedule.now = blank at hp hfresh
  have hturned : turned = p.session ⟨s.disk, blank, []⟩ := by
    show (s.take (.request (.switchVault (.directory vault)))).2 = _
    rw [take_request, Checker.Request.act, Act.runAt_bind_pure, hp, hretired]
    rfl
  have hcount : count = p.timers.length := by
    show turned.desk.schedule.timers.length = _
    rw [hturned, ← hblank]
    exact congrArg List.length (List.append_nil p.timers)
  have hhitsTurned : turned.desk.checker.cache.hits = p.hits := by
    rw [hturned, ← hblank]
    rfl
  have hmissesTurned : turned.desk.checker.cache.misses = p.misses := by
    rw [hturned, ← hblank]
    rfl
  have hjournalTurned : turned.desk.journal = p.journal := by
    rw [hturned, ← hblank]
    exact List.append_nil p.journal
  have hjournalFresh : (q.desk blank).journal = q.journal := by
    rw [← hblank]
    exact List.append_nil q.journal
  refine ⟨loaded.entries, q.desk blank, hfresh, fun later => ?_⟩
  have hsame := same_of_pasts (s := ⟨s.disk, blank, []⟩) rfl p q htimers hhits hmisses later
  rw [← hcount, ← hturned] at hsame
  rw [hhitsTurned, hmissesTurned, hjournalTurned, hjournalFresh]
  exact hsame

/-! ### A vault that is turned to while a check waits -/

/-- A timer runs late, a note is put on show, and its check is made. -/
def shownAnew : List Happening :=
  [.step (.fire 0), .step (.request (.activate (some "a.md") true)), .advance 100000]

/-- A note is put on show, and its check still waits when the checker turns to a vault, here to the one
that it has.  Its timer runs late; then the note is put on show again, and this time it is checked.
All is as if the checker had just been set up. -/
theorem switchVault_as_new_oneWord :
    let s := live ⟨oneWordDisk, oneWordDesk, []⟩
      [.step (.request (.activate (some "a.md") true)), .advance 50000]
    let turned := (s.take (.request (.switchVault (.directory "/v")))).2
    let count := turned.desk.schedule.timers.length
    s.desk.checker.debouncer.isPending = true ∧ count = 1 ∧
      (turned.live shownAnew).desk.checker.shownResult.isSome = true ∧
      ∃ schema fresh,
        Desk.open? s.disk s.desk.checker.number "/v" s.desk.checker.debouncer.delay
            { now := s.desk.schedule.now } = (.ok schema, fresh) ∧
          (turned.live shownAnew).desk.checker.SameFace
            ((⟨s.disk, fresh, []⟩ : Session).live
              (shownAnew.filterMap (·.since count))).desk.checker := by
  dsimp only
  refine ⟨by decide +kernel, by decide +kernel, by decide +kernel, ?_⟩
  obtain ⟨entries, hopen⟩ := open_oneWord
  obtain ⟨schema, fresh, hfresh, hlater⟩ := switchVault_as_new hopen
    [.step (.request (.activate (some "a.md") true)), .advance 50000] (show "/v" ≠ "" by decide)
    (by decide +kernel)
  exact ⟨schema, fresh, hfresh, (hlater shownAnew).2.1⟩

end Session

end NoteCheck
