import Mathlib.Data.List.Basic
import NoteCheck.Proofs.Text.Characters
import NoteCheck.Proofs.Text.Pieces
import NoteCheck.Typing.DateText

/-!
# What the forms of dates look for in a text

The tests of `DateText` take digits and signs off the front of a text one by one.  Here they are
turned into statements about the text as a whole: taking off digits and signs is splitting a text
(`dropDigits?_eq_some_iff`, `dropSign?_eq_some_iff`), and the search for a time of day is a search
for a capital T, or for a space and a colon among digits (`hasTimeOfDay_iff`).
-/

namespace NoteCheck

namespace DateText

open NoteCheck.Text

/-! ## Taking off digits and signs -/

lemma dropDigits?_eq_some_iff {count : Nat} {cs rest : List Char} :
    dropDigits? count cs = some rest ↔
      ∃ ds : List Char, ds.length = count ∧ (∀ d ∈ ds, isDecimal d = true) ∧ ds ++ rest = cs := by
  induction count generalizing cs with
  | zero =>
      rw [dropDigits?, Option.some.injEq]
      constructor
      · rintro rfl
        exact ⟨[], rfl, by simp, rfl⟩
      · rintro ⟨ds, hlength, -, rfl⟩
        rw [List.length_eq_zero_iff.mp hlength, List.nil_append]
  | succ count ih =>
      cases cs with
      | nil =>
          constructor
          · intro h
            cases h
          · rintro ⟨ds, hlength, -, hds⟩
            rw [(List.append_eq_nil_iff.mp hds).1] at hlength
            cases hlength
      | cons c cs =>
          rw [dropDigits?]
          constructor
          · intro h
            split at h
            · next hc =>
                obtain ⟨ds, rfl, hds, rfl⟩ := ih.mp h
                exact ⟨c :: ds, rfl, by simpa using ⟨hc, hds⟩, rfl⟩
            · cases h
          · rintro ⟨ds, hlength, hds, happend⟩
            cases ds with
            | nil => cases hlength
            | cons d ds =>
                obtain ⟨rfl, rfl⟩ := List.cons.inj happend
                rw [if_pos (hds d List.mem_cons_self)]
                exact ih.mpr ⟨ds, Nat.succ.inj hlength,
                  fun e he => hds e (List.mem_cons_of_mem _ he), rfl⟩

lemma dropSign?_eq_some_iff {sign : Char} {cs rest : List Char} :
    dropSign? sign cs = some rest ↔ sign :: rest = cs := by
  cases cs with
  | nil => simp [dropSign?]
  | cons c cs =>
      rw [dropSign?]
      split
      · next hc => rw [hc, Option.some.injEq, List.cons.injEq, eq_comm, and_iff_right rfl]
      · next hc => simp [Ne.symm hc]

/-! ## The search for a time of day -/

/-- Whether a colon stands in a text with a digit before it and two digits after it. -/
def ShowsMinute (cs : List Char) : Prop :=
  ∃ d e f, isDecimal d = true ∧ isDecimal e = true ∧ isDecimal f = true ∧ [d, ':', e, f] <:+: cs

lemma dropSign?_bind_dropDigits?_isSome {cs : List Char} :
    ((dropSign? ':' cs).bind (dropDigits? 2)).isSome = true ↔
      ∃ e f, isDecimal e = true ∧ isDecimal f = true ∧ [':', e, f] <+: cs := by
  constructor
  · intro h
    obtain ⟨rest, hrest⟩ := Option.isSome_iff_exists.mp h
    obtain ⟨after, hafter, htwo⟩ := Option.bind_eq_some_iff.mp hrest
    obtain ⟨ds, hlength, hds, rfl⟩ := dropDigits?_eq_some_iff.mp htwo
    obtain ⟨e, f, rfl⟩ := List.length_eq_two.mp hlength
    exact ⟨e, f, hds e (by simp), hds f (by simp), rest, dropSign?_eq_some_iff.mp hafter⟩
  · rintro ⟨e, f, he, hf, rest, rfl⟩
    have hafter : dropSign? ':' ([':', e, f] ++ rest) = some (e :: f :: rest) :=
      dropSign?_eq_some_iff.mpr rfl
    have htwo : dropDigits? 2 (e :: f :: rest) = some rest :=
      dropDigits?_eq_some_iff.mpr ⟨[e, f], rfl, by simp [he, hf], rfl⟩
    rw [hafter, Option.bind_some, htwo]
    rfl

/-- A clock begins with a digit and goes on as a minute shows, at once or after another digit. -/
lemma showsMinute_of_startsWithClock {cs : List Char} (h : startsWithClock cs = true) :
    ShowsMinute cs := by
  rw [startsWithClock, Option.any_eq_true] at h
  obtain ⟨after, hafter, h⟩ := h
  obtain ⟨ds, hlength, hds, rfl⟩ := dropDigits?_eq_some_iff.mp hafter
  obtain ⟨d, rfl⟩ := List.length_eq_one_iff.mp hlength
  rcases (Bool.or_eq_true _ _).mp h with h | h
  · obtain ⟨e, f, he, hf, rest, rfl⟩ := dropSign?_bind_dropDigits?_isSome.mp h
    exact ⟨d, e, f, hds d List.mem_cons_self, he, hf, [], rest, rfl⟩
  · obtain ⟨rest, hrest⟩ := Option.isSome_iff_exists.mp h
    obtain ⟨colon, hcolon, hminute⟩ := Option.bind_eq_some_iff.mp hrest
    obtain ⟨ds', hlength', hds', rfl⟩ := dropDigits?_eq_some_iff.mp hcolon
    obtain ⟨d', rfl⟩ := List.length_eq_one_iff.mp hlength'
    obtain ⟨e, f, he, hf, rest, rfl⟩ :=
      dropSign?_bind_dropDigits?_isSome.mp (Option.isSome_iff_exists.mpr ⟨_, hminute⟩)
    exact ⟨d', e, f, hds' d' List.mem_cons_self, he, hf, [d], rest, rfl⟩

lemma startsWithClock_of_front {d e f : Char} {cs : List Char} (hd : isDecimal d = true)
    (he : isDecimal e = true) (hf : isDecimal f = true) (h : [d, ':', e, f] <+: cs) :
    startsWithClock cs = true := by
  obtain ⟨rest, rfl⟩ := h
  have hone : dropDigits? 1 ([d, ':', e, f] ++ rest) = some (':' :: e :: f :: rest) :=
    dropDigits?_eq_some_iff.mpr ⟨[d], rfl, by simpa using hd, rfl⟩
  have htwo : ((dropSign? ':' (':' :: e :: f :: rest)).bind (dropDigits? 2)).isSome = true :=
    dropSign?_bind_dropDigits?_isSome.mpr ⟨e, f, he, hf, rest, rfl⟩
  rw [startsWithClock, hone, Option.any_some, htwo, Bool.true_or]

lemma holdsClock_iff {cs : List Char} : holdsClock cs = true ↔ ShowsMinute cs := by
  induction cs with
  | nil => simp [holdsClock, ShowsMinute]
  | cons c cs ih =>
      rw [holdsClock, Bool.or_eq_true, ih]
      constructor
      · rintro (hstart | ⟨d, e, f, hd, he, hf, hpart⟩)
        · exact showsMinute_of_startsWithClock hstart
        · exact ⟨d, e, f, hd, he, hf, hpart.trans (List.suffix_cons c cs).isInfix⟩
      · rintro ⟨d, e, f, hd, he, hf, hpart⟩
        rcases List.infix_cons_iff.mp hpart with hfront | hpart
        · exact Or.inl (startsWithClock_of_front hd he hf hfront)
        · exact Or.inr ⟨d, e, f, hd, he, hf, hpart⟩

/-- What counts as a time of day. -/
lemma hasTimeOfDay_iff {cs : List Char} :
    hasTimeOfDay cs = true ↔ 'T' ∈ cs ∨ ' ' ∈ cs ∧ ShowsMinute cs := by
  rw [hasTimeOfDay, Bool.or_eq_true, Bool.and_eq_true, List.contains_iff_mem,
    List.contains_iff_mem, holdsClock_iff]

end DateText

end NoteCheck
