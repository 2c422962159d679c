import Mathlib.Tactic.Lemma
import NoteCheck.Fault

/-!
# Steps that can fail

Most of what is computed can end in a fault, and then nothing after it is computed.  These lemmas
take such a computation apart: it succeeds if each of its steps does, and it fails with the fault of
the first step that fails.
-/

namespace NoteCheck.Fault

variable {ε α β : Type} {first : Except ε α} {next : α → Except ε β}

@[simp] lemma ok_bind (a : α) : ((.ok a : Except ε α) >>= next) = next a := rfl

@[simp] lemma error_bind (cause : ε) : ((.error cause : Except ε α) >>= next) = .error cause := rfl

@[simp] lemma pure_eq_ok (a : α) : (pure a : Except ε α) = .ok a := rfl

lemma bind_eq_ok_iff {b : β} :
    (first >>= next) = .ok b ↔ ∃ a, first = .ok a ∧ next a = .ok b := by
  cases first with
  | error cause => simp
  | ok a => simp

lemma map_eq_ok_iff {f : α → β} {b : β} : first.map f = .ok b ↔ ∃ a, first = .ok a ∧ f a = b := by
  cases first with
  | error cause => simp [Except.map]
  | ok a => simp [Except.map]

lemma map_eq_error_iff {f : α → β} {cause : ε} :
    first.map f = .error cause ↔ first = .error cause := by
  cases first with
  | error cause => simp [Except.map]
  | ok a => simp [Except.map]

lemma bind_eq_error_iff {cause : ε} :
    (first >>= next) = .error cause ↔
      first = .error cause ∨ ∃ a, first = .ok a ∧ next a = .error cause := by
  cases first with
  | error cause => simp
  | ok a => simp

lemma toOption_eq_some_iff {a : α} : first.toOption = some a ↔ first = .ok a := by
  cases first <;> simp [Except.toOption]

lemma isOk_iff : first.isOk = true ↔ ∃ a, first = .ok a := by
  cases first <;> simp [Except.isOk, Except.toBool]

/-- What every step keeps holds after all of them. -/
lemma foldlM_keeps {step : β → α → Except ε β} {P : β → Prop}
    (hstep : ∀ b a c, P b → step b a = .ok c → P c) {as : List α} {b last : β} (hb : P b)
    (h : as.foldlM step b = .ok last) : P last := by
  induction as generalizing b with
  | nil =>
      rw [← Except.ok.inj h]
      exact hb
  | cons a as ih =>
      rw [List.foldlM_cons] at h
      obtain ⟨c, hc, h⟩ := bind_eq_ok_iff.mp h
      exact ih (hstep b a c hb hc) h

/-- The fault of a computation, if it ends in one. -/
def of? : Except Fault α → Option Fault
  | .ok _ => none
  | .error cause => some cause

lemma of?_eq_some_iff {result : Except Fault α} {cause : Fault} :
    of? result = some cause ↔ result = .error cause := by
  cases result <;> simp [of?]

end NoteCheck.Fault
