import Mathlib.Tactic.Lemma
import NoteCheck.Proofs.Timing.LastSubmission

/-!
# The timer that is armed

A debouncer knows one timer at most, the one that it waits for.  The schedule knows every timer that
was ever started, and what became of it.  The two agree (`Debouncer.Tracks`): the timer that is waited
for is armed, and no other one is.  This holds of a debouncer that has just been set up, and whatever
is done to it keeps it.

It follows that moving the clock has little to choose from: the timer that comes due, if one does, is
the one that is waited for (`Tracks.nextDue?_eq_some`), and if none does, then the one that is waited
for is due later (`Tracks.lt_due`).
-/

namespace NoteCheck

namespace Schedule

variable {τ : Type} {s : Schedule τ} {number first k : Nat} {t : Timer τ} {limit : Int}
  {ts past : List (Timer τ)}

lemma timer?_modify (s : Schedule τ) (m number : Nat) (f : Timer τ → Timer τ) :
    ({ s with timers := s.timers.modify m f } : Schedule τ).timer? number
      = (s.timer? number).map fun t => if m = number then f t else t := by
  simp only [timer?, List.getElem?_modify]
  rfl

/-! ## The first timer that is due -/

lemma earliest?_eq_some (h : earliest? limit first ts = some (number, t)) :
    ∃ i, number = first + i ∧ ts[i]? = some t ∧ t.state = .armed ∧ t.due ≤ limit := by
  induction ts generalizing first with
  | nil => exact absurd h (by simp [earliest?])
  | cons u rest ih =>
      rw [earliest?] at h
      split at h
      · next hu =>
          obtain ⟨rfl, rfl⟩ := Prod.mk.inj (Option.some.inj h)
          simp only [Bool.and_eq_true, decide_eq_true_eq] at hu
          exact ⟨0, rfl, rfl, hu.1.1, hu.1.2⟩
      · obtain ⟨i, rfl, hi⟩ := ih h
        exact ⟨i + 1, by omega, hi⟩

lemma earliest?_eq_none (h : earliest? limit first ts = none) (ht : t ∈ ts)
    (harmed : t.state = .armed) : limit < t.due := by
  induction ts generalizing first with
  | nil => exact absurd ht List.not_mem_nil
  | cons u rest ih =>
      rw [earliest?] at h
      split at h
      · exact absurd h (by simp)
      · next hu =>
          rcases List.mem_cons.mp ht with rfl | ht
          · rw [h] at hu
            simp only [harmed, Option.all_none, Bool.and_true, decide_true, Bool.true_and,
              decide_eq_true_eq] at hu
            omega
          · exact ih h ht

/-- The timer that comes due first is armed, and due. -/
lemma nextDue?_eq_some (h : s.nextDue? limit = some (number, t)) :
    s.timer? number = some t ∧ t.state = .armed ∧ t.due ≤ limit := by
  obtain ⟨i, rfl, hi⟩ := earliest?_eq_some h
  rw [Nat.zero_add]
  exact hi

/-- Timers that are not armed do not come due. -/
lemma earliest?_append (hpast : ∀ t ∈ past, t.state ≠ .armed) :
    earliest? limit first (past ++ ts) = earliest? limit (first + past.length) ts := by
  induction past generalizing first with
  | nil => rfl
  | cons u rest ih =>
      obtain ⟨hu, hrest⟩ := List.forall_mem_cons.mp hpast
      rw [List.cons_append, earliest?, ih hrest, List.length_cons]
      simp only [hu, decide_false, Bool.false_and, Bool.false_eq_true, if_false]
      congr 1
      omega

/-- What comes due does not depend on how the timers are numbered. -/
lemma earliest?_shift :
    earliest? limit (k + first) ts = (earliest? limit first ts).map fun (n, t) => (k + n, t) := by
  induction ts generalizing first with
  | nil => rfl
  | cons u rest ih =>
      have hrest : earliest? limit (k + first + 1) rest
          = (earliest? limit (first + 1) rest).map fun (n, t) => (k + n, t) := by
        rw [Nat.add_assoc, ih]
      rw [earliest?, earliest?, hrest]
      cases earliest? limit (first + 1) rest <;> simp only [Option.map_none, Option.map_some,
        Option.all_none, Option.all_some] <;> split <;> rfl

end Schedule

namespace Debouncer

variable {τ : Type} {d : Debouncer} {s : Schedule τ} {number : Nat} {t : Timer τ} {limit : Int}

lemma now_cancel (d : Debouncer) (s : Schedule τ) : (d.cancel s).2.now = s.now := by
  rw [cancel]
  split <;> rfl

/-- Whether the timer that is waited for is armed, and no other one is. -/
structure Tracks (d : Debouncer) (s : Schedule τ) : Prop where
  started : ∀ number, d.waiting = .timer number → number < s.timers.length
  armed : ∀ number t, s.timer? number = some t → (t.state = .armed ↔ d.waiting = .timer number)

lemma tracks_of_nothing (hwaiting : d.waiting = .nothing) (htimers : s.timers = []) :
    d.Tracks s := by
  constructor
  · intro number h
    exact absurd (hwaiting.symm.trans h) (by simp)
  · intro number t ht
    exact absurd ht (by simp [Schedule.timer?, htimers])

/-! ## What keeps it -/

namespace Tracks

lemma cancel (h : d.Tracks s) : (d.cancel s).1.Tracks (d.cancel s).2 := by
  constructor
  · intro number hwaiting
    rw [cancel_fst] at hwaiting
    exact absurd hwaiting (by simp)
  · intro number t ht
    rw [cancel_fst]
    simp only [reduceCtorEq, iff_false]
    intro harmed
    cases hwaiting : d.waiting with
    | timer m =>
        simp only [Debouncer.cancel, hwaiting, Schedule.cancel, Schedule.timer?_modify] at ht
        obtain ⟨u, hu, rfl⟩ := Option.map_eq_some_iff.mp ht
        have hstate := h.armed number u hu
        rw [hwaiting, Waiting.timer.injEq] at hstate
        by_cases hm : m = number
        · simp [hm, hstate.mpr hm] at harmed
        · rw [if_neg hm] at harmed
          exact hm (hstate.mp harmed)
    | nothing | unstarted =>
        simp only [Debouncer.cancel, hwaiting] at ht
        have hstate := (h.armed number t ht).mp harmed
        exact absurd (hwaiting.symm.trans hstate) (by simp)

lemma submit (h : d.Tracks s) (task : τ) :
    (d.submit task s).2.1.Tracks (d.submit task s).2.2 := by
  have hcancel := h.cancel
  have hfst := cancel_fst d s
  rw [Debouncer.submit]
  generalize d.cancel s = cancelled at hcancel hfst
  obtain ⟨quiet, left⟩ := cancelled
  obtain rfl : quiet = { d with waiting := .nothing } := hfst
  dsimp only at hcancel ⊢
  cases hdelay : d.delay with
  | none =>
      constructor
      · intro number hwaiting
        exact absurd hwaiting (by simp)
      · intro number t ht
        have hstate := hcancel.armed number t ht
        simpa using hstate
  | some micros =>
      constructor
      · intro number hwaiting
        obtain rfl := Waiting.timer.inj hwaiting
        simp
      · intro number t ht
        simp only [Schedule.timer?, Schedule.start, Waiting.timer.injEq] at ht ⊢
        rcases Nat.lt_trichotomy number left.timers.length with hlt | rfl | hgt
        · rw [List.getElem?_append_left hlt] at ht
          have hstate := hcancel.armed number t ht
          have hne : left.timers.length ≠ number := by omega
          simpa [hne] using hstate
        · rw [List.getElem?_concat_length] at ht
          obtain rfl := Option.some.inj ht
          simp
        · rw [List.getElem?_eq_none (by simp; omega)] at ht
          exact absurd ht (by simp)

/-- When a timer has run, it is neither armed nor waited for any more. -/
lemma take (h : d.Tracks s) (number : Nat) :
    (d.take number).2.Tracks (s.finish number) := by
  constructor
  · intro m hwaiting
    rw [Schedule.length_finish]
    refine h.started m ?_
    rw [Debouncer.take] at hwaiting
    split at hwaiting
    · exact absurd hwaiting (by simp)
    · exact hwaiting
  · intro m t ht
    rw [Schedule.finish, Schedule.timer?_modify] at ht
    obtain ⟨u, hu, rfl⟩ := Option.map_eq_some_iff.mp ht
    have hstate := h.armed m u hu
    rw [Debouncer.take]
    by_cases hm : number = m
    · subst hm
      by_cases hwaiting : d.waiting = .timer number <;> simp [hwaiting]
    · by_cases hwaiting : d.waiting = .timer number <;> simp [hwaiting, hm, hstate]

lemma moveTo (h : d.Tracks s) (time : Int) : d.Tracks (s.moveTo time) :=
  ⟨h.started, h.armed⟩

lemma setDelay (h : d.Tracks s) (delay : Delay) : { d with delay }.Tracks s :=
  ⟨h.started, h.armed⟩

/-! ## What follows from it -/

lemma exists_timer (h : d.Tracks s) (hwaiting : d.waiting = .timer number) :
    ∃ t, s.timer? number = some t ∧ t.state = .armed := by
  have hlt := h.started number hwaiting
  have ht : s.timer? number = some s.timers[number] := List.getElem?_eq_getElem hlt
  exact ⟨_, ht, (h.armed number _ ht).mpr hwaiting⟩

lemma nextDue?_eq_some (h : d.Tracks s) (hdue : s.nextDue? limit = some (number, t)) :
    d.waiting = .timer number ∧ s.timer? number = some t ∧ t.due ≤ limit := by
  obtain ⟨ht, harmed, hle⟩ := Schedule.nextDue?_eq_some hdue
  exact ⟨(h.armed number t ht).mp harmed, ht, hle⟩

lemma lt_due (h : d.Tracks s) (hdue : s.nextDue? limit = none)
    (hwaiting : d.waiting = .timer number) (ht : s.timer? number = some t) : limit < t.due :=
  Schedule.earliest?_eq_none hdue (List.mem_of_getElem? ht) ((h.armed number t ht).mpr hwaiting)

lemma armed_eq_nil (h : d.Tracks s) (hwaiting : ∀ number, d.waiting ≠ .timer number) :
    s.timers.filter (·.state = .armed) = [] := by
  rw [List.filter_eq_nil_iff]
  intro t ht harmed
  obtain ⟨number, hnumber⟩ := List.mem_iff_getElem?.mp ht
  exact hwaiting number ((h.armed number t hnumber).mp (by simpa using harmed))

lemma armed_eq_singleton (h : d.Tracks s) (hwaiting : d.waiting = .timer number)
    (ht : s.timer? number = some t) : s.timers.filter (·.state = .armed) = [t] := by
  have hne : ∀ (m : Nat) (u : Timer τ), s.timers[m]? = some u → m ≠ number → u.state ≠ .armed := by
    intro m u hu hm harmed
    have hm' := (h.armed m u hu).mp harmed
    rw [hwaiting, Waiting.timer.injEq] at hm'
    exact hm hm'.symm
  obtain ⟨hlt, hget⟩ := List.getElem?_eq_some_iff.mp ht
  have hbefore : (s.timers.take number).filter (·.state = .armed) = [] := by
    rw [List.filter_eq_nil_iff]
    intro u hu
    obtain ⟨m, hm, rfl⟩ := List.mem_take_iff_getElem.mp hu
    have hm' := hne m _ (List.getElem?_eq_getElem (by omega)) (by omega)
    simpa using hm'
  have hafter : (s.timers.drop (number + 1)).filter (·.state = .armed) = [] := by
    rw [List.filter_eq_nil_iff]
    intro u hu
    obtain ⟨m, hm, rfl⟩ := List.mem_drop_iff_getElem.mp hu
    have hm' := hne (number + 1 + m) _ (List.getElem?_eq_getElem (by omega)) (by omega)
    simpa using hm'
  have harmed := (h.armed number t ht).mpr hwaiting
  have hsplit : s.timers = s.timers.take number ++ t :: s.timers.drop (number + 1) := by
    rw [← hget, List.getElem_cons_drop, List.take_append_drop]
  rw [hsplit, List.filter_append, hbefore, List.filter_cons, hafter]
  simp [harmed]

lemma armedCount_le (h : d.Tracks s) : s.armedCount ≤ 1 := by
  rw [Schedule.armedCount, List.countP_eq_length_filter]
  cases hwaiting : d.waiting with
  | timer number =>
      obtain ⟨t, ht, -⟩ := h.exists_timer hwaiting
      rw [h.armed_eq_singleton hwaiting ht]
      exact Nat.le_refl 1
  | nothing | unstarted =>
      rw [h.armed_eq_nil (by simp [hwaiting])]
      exact Nat.zero_le 1

lemma armedCount_eq_one_iff (h : d.Tracks s) :
    s.armedCount = 1 ↔ ∃ number, d.waiting = .timer number := by
  rw [Schedule.armedCount, List.countP_eq_length_filter]
  cases hwaiting : d.waiting with
  | timer number =>
      obtain ⟨t, ht, -⟩ := h.exists_timer hwaiting
      rw [h.armed_eq_singleton hwaiting ht]
      simp
  | nothing | unstarted =>
      rw [h.armed_eq_nil (by simp [hwaiting])]
      simp

/-- **What is pending** is an armed timer, or one that could not be started. -/
lemma isPending_iff (h : d.Tracks s) :
    d.isPending = true ↔ s.armedCount = 1 ∨ d.waiting = .unstarted := by
  rw [h.armedCount_eq_one_iff, isPending]
  cases d.waiting <;> simp

end Tracks

end Debouncer

end NoteCheck
