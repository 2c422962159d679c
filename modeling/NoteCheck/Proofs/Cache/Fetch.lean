import Mathlib.Tactic.Lemma
import NoteCheck.Check.Cache

/-!
# Looking up, or computing and remembering

`Cache.fetch` gives what is remembered for a path at a modification time, and otherwise computes it.
The three equations below say which of the two happens and what is counted; `fetch_result` and
`find?_fetch` say what follows for the result and for the entries, whichever it was.
-/

namespace NoteCheck.Cache

variable {α : Type}

/-- The cache after a computation that was asked for: a result is remembered, a fault is not. -/
def learn (c : Cache α) (path : String) (mtime : Value) : Except Fault (List α) → Cache α
  | .ok found => c.put path mtime found
  | .error _ => c

lemma fetch_remembered {c : Cache α} {path : String} {mtime : Value} {found : List α}
    (h : c.current? path mtime = some found) (compute : Except Fault (List α)) :
    c.fetch path mtime false compute = ⟨.ok found, true, { c with hits := c.hits + 1 }⟩ := by
  simp [fetch, get, h]

lemma fetch_unknown {c : Cache α} {path : String} {mtime : Value}
    (h : c.current? path mtime = none) (compute : Except Fault (List α)) :
    c.fetch path mtime false compute
      = ⟨compute, false, { c with misses := c.misses + 1 }.learn path mtime compute⟩ := by
  cases compute <;> simp [fetch, get, h, learn]

lemma fetch_forced (c : Cache α) (path : String) (mtime : Value)
    (compute : Except Fault (List α)) :
    c.fetch path mtime true compute = ⟨compute, false, c.learn path mtime compute⟩ := by
  cases compute <;> simp [fetch, learn]

lemma find?_learn (c : Cache α) (path : String) (mtime : Value)
    (compute : Except Fault (List α)) (p : String) :
    (c.learn path mtime compute).find? p = c.find? p ∨
      ∃ found, compute = .ok found ∧ p = path ∧
        (c.learn path mtime compute).find? p = some ⟨path, mtime, found⟩ := by
  cases compute with
  | error cause => exact Or.inl rfl
  | ok found =>
      by_cases hp : p = path
      · exact Or.inr ⟨found, rfl, hp, by rw [learn, find?_put, if_pos hp]⟩
      · exact Or.inl (by rw [learn, find?_put, if_neg hp])

/-- What is fetched was computed now, or is remembered for the path at this time. -/
lemma fetch_result (c : Cache α) (path : String) (mtime : Value) (force : Bool)
    (compute : Except Fault (List α)) :
    (c.fetch path mtime force compute).result = compute ∨
      ∃ found, c.current? path mtime = some found ∧
        (c.fetch path mtime force compute).result = .ok found := by
  cases force with
  | true => exact Or.inl (by rw [fetch_forced])
  | false =>
      cases h : c.current? path mtime with
      | none => exact Or.inl (by rw [fetch_unknown h])
      | some found => exact Or.inr ⟨found, rfl, by rw [fetch_remembered h]⟩

/-- An entry that is there after fetching was there before, or is what was computed now. -/
lemma find?_fetch (c : Cache α) (path : String) (mtime : Value) (force : Bool)
    (compute : Except Fault (List α)) (p : String) :
    (c.fetch path mtime force compute).cache.find? p = c.find? p ∨
      ∃ found, compute = .ok found ∧ p = path ∧
        (c.fetch path mtime force compute).cache.find? p = some ⟨path, mtime, found⟩ := by
  cases force with
  | true =>
      rw [fetch_forced]
      exact find?_learn c path mtime compute p
  | false =>
      cases h : c.current? path mtime with
      | none =>
          rw [fetch_unknown h]
          exact find?_learn { c with misses := c.misses + 1 } path mtime compute p
      | some found =>
          rw [fetch_remembered h]
          exact Or.inl rfl

/-- What is fetched without force is what is remembered, or else what is computed. -/
lemma fetch_result_eq (c : Cache α) (path : String) (mtime : Value)
    (compute : Except Fault (List α)) :
    (c.fetch path mtime false compute).result =
      (c.current? path mtime).elim compute .ok := by
  cases h : c.current? path mtime with
  | none =>
      rw [fetch_unknown h]
      rfl
  | some found =>
      rw [fetch_remembered h]
      rfl

/-- What is asked for by force, or is not remembered, is computed. -/
lemma fetch_result_of_looked {c : Cache α} {path : String} {mtime : Value} {force : Bool}
    (h : force = true ∨ c.current? path mtime = none) (compute : Except Fault (List α)) :
    (c.fetch path mtime force compute).result = compute := by
  cases force with
  | true => rw [fetch_forced]
  | false => rw [fetch_unknown (h.resolve_left Bool.false_ne_true)]

/-- A lookup is counted by what it finds, even if nothing can be computed then. -/
lemma counts_fetch (c : Cache α) (path : String) (mtime : Value)
    (compute : Except Fault (List α)) :
    (c.fetch path mtime false compute).cache.hits =
        c.hits + (if (c.current? path mtime).isSome then 1 else 0) ∧
      (c.fetch path mtime false compute).cache.misses =
        c.misses + if (c.current? path mtime).isSome then 0 else 1 := by
  cases hc : c.current? path mtime with
  | some found =>
      rw [fetch_remembered hc]
      exact ⟨rfl, rfl⟩
  | none =>
      rw [fetch_unknown hc]
      cases compute <;> exact ⟨rfl, rfl⟩

/-- Fetching does not touch the entries of other paths. -/
lemma find?_fetch_of_ne (c : Cache α) {path p : String} (hp : p ≠ path) (mtime : Value)
    (force : Bool) (compute : Except Fault (List α)) :
    (c.fetch path mtime force compute).cache.find? p = c.find? p := by
  rcases c.find?_fetch path mtime force compute p with h | ⟨_, -, hpath, -⟩
  · exact h
  · exact absurd hpath hp

/-- Fetching does not touch what is remembered for other paths. -/
lemma current?_fetch_of_ne (c : Cache α) {path p : String} (hp : p ≠ path) (mtime m : Value)
    (force : Bool) (compute : Except Fault (List α)) :
    (c.fetch path mtime force compute).cache.current? p m = c.current? p m := by
  rw [current?, current?, c.find?_fetch_of_ne hp]

/-- What has been fetched is remembered, if its time is the same as itself. -/
lemma current?_fetch_self {c : Cache α} {path : String} {mtime : Value}
    (hself : mtime.same mtime = true) {compute : Except Fault (List α)} {found : List α}
    (h : (c.fetch path mtime false compute).result = .ok found) :
    (c.fetch path mtime false compute).cache.current? path mtime = some found := by
  cases hc : c.current? path mtime with
  | some remembered =>
      rw [fetch_remembered hc] at h ⊢
      rw [← Except.ok.inj h]
      exact hc
  | none =>
      rw [fetch_unknown hc] at h ⊢
      dsimp only at h
      rw [h, learn, current?, find?_put, if_pos rfl]
      simp [hself]

/-- What is remembered for a path at a time is the entry of the path, if that was made at the
same time. -/
lemma current?_eq_some_iff (c : Cache α) (path : String) (mtime : Value) (found : List α) :
    c.current? path mtime = some found ↔
      ∃ e, c.find? path = some e ∧ e.mtime.same mtime = true ∧ e.found = found := by
  unfold current?
  cases h : c.find? path with
  | none => simp
  | some e => by_cases hm : e.mtime.same mtime = true <;> simp [hm]

end NoteCheck.Cache
