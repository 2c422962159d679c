import NoteCheck.Fault
import NoteCheck.Value.Same

/-!
# Remembered results

A `Cache` remembers, for each path, what was found at the modification time at which the path was
last looked at. A result is used again only while that time is the same. The cache counts how often
it had the answer (`hits`) and how often not (`misses`).

What `put`, `evict`, `prune` and `clear` do is said by what `find?` finds afterwards (`find?_put`,
`find?_evict`, `find?_prune`, `find?_clear`).
-/

namespace NoteCheck

/-- What was found for a path at a modification time. -/
structure Remembered (α : Type) where
  path : String
  mtime : Value
  found : List α

namespace Remembered

variable {α : Type}

/-- Sets the entry of a path: in place if the path has one, else at the end. -/
def place (e : Remembered α) : List (Remembered α) → List (Remembered α)
  | [] => [e]
  | x :: rest => if x.path = e.path then e :: rest else x :: place e rest

theorem mem_paths_place (e : Remembered α) (xs : List (Remembered α)) (p : String) :
    p ∈ (place e xs).map path ↔ p = e.path ∨ p ∈ xs.map path := by
  induction xs with
  | nil => simp [place]
  | cons x rest ih =>
      unfold place
      split
      · next h => simp [h]
      · simp only [List.map_cons, List.mem_cons, ih]
        constructor <;> rintro (h | h | h) <;> simp [h]

theorem nodup_place (e : Remembered α) {xs : List (Remembered α)} (h : (xs.map path).Nodup) :
    ((place e xs).map path).Nodup := by
  induction xs with
  | nil => simp [place]
  | cons x rest ih =>
      simp only [List.map_cons, List.nodup_cons] at h
      unfold place
      split
      · next hx =>
          simp only [List.map_cons, List.nodup_cons, ← hx]
          exact h
      · next hx =>
          simp only [List.map_cons, List.nodup_cons, mem_paths_place]
          exact ⟨by simpa [hx] using h.1, ih h.2⟩

end Remembered

/-- Remembered results by path, and how often they were of use. -/
structure Cache (α : Type) where
  entries : List (Remembered α) := []
  hits : Nat := 0
  misses : Nat := 0
  one_per_path : (entries.map Remembered.path).Nodup := by simp

namespace Cache

variable {α : Type}

/-- A cache that remembers nothing. -/
def empty : Cache α := {}

instance : Inhabited (Cache α) := ⟨empty⟩

/-- The entry of a path. -/
def find? (c : Cache α) (path : String) : Option (Remembered α) :=
  c.entries.find? (·.path = path)

/-- Whether a path has an entry. -/
def contains (c : Cache α) (path : String) : Bool :=
  (c.find? path).isSome

/-- The number of entries. -/
def size (c : Cache α) : Nat :=
  c.entries.length

/-- What was found for a path at this modification time, if it is remembered. -/
def current? (c : Cache α) (path : String) (mtime : Value) : Option (List α) :=
  match c.find? path with
  | some e => if e.mtime.same mtime then some e.found else none
  | none => none

/-- Asks for what was found at this modification time, and counts whether it was there. -/
def get (c : Cache α) (path : String) (mtime : Value) : Option (List α) × Cache α :=
  match c.current? path mtime with
  | some found => (some found, { c with hits := c.hits + 1 })
  | none => (none, { c with misses := c.misses + 1 })

/-- Remembers what was found, in place of what the path had. -/
def put (c : Cache α) (path : String) (mtime : Value) (found : List α) : Cache α :=
  { c with
    entries := Remembered.place ⟨path, mtime, found⟩ c.entries
    one_per_path := Remembered.nodup_place _ c.one_per_path }

/-- Keeps the entries of some paths only. -/
def keep (c : Cache α) (wanted : String → Bool) : Cache α :=
  { c with
    entries := c.entries.filter fun e => wanted e.path
    one_per_path := c.one_per_path.sublist (List.filter_sublist.map _) }

/-- Forgets a path. -/
def evict (c : Cache α) (path : String) : Cache α :=
  c.keep (· ≠ path)

/-- Forgets all paths but these. -/
def prune (c : Cache α) (paths : List String) : Cache α :=
  c.keep (paths.contains ·)

/-- Forgets everything; the counts stay. -/
def clear (c : Cache α) : Cache α :=
  c.keep fun _ => false

theorem find?_put (c : Cache α) (path : String) (mtime : Value) (found : List α) (p : String) :
    (c.put path mtime found).find? p =
      if p = path then some ⟨path, mtime, found⟩ else c.find? p := by
  simp only [find?, put]
  induction c.entries with
  | nil =>
      unfold Remembered.place
      by_cases h : path = p
      · simp [h]
      · simp [h, Ne.symm h]
  | cons x rest ih =>
      unfold Remembered.place
      split
      · next hx =>
          by_cases h : path = p
          · simp [h]
          · simp [hx, h, Ne.symm h]
      · next hx =>
          by_cases hp : x.path = p
          · simp [← hp, hx]
          · simp [hp, ih]

theorem find?_keep (c : Cache α) (wanted : String → Bool) (p : String) :
    (c.keep wanted).find? p = if wanted p then c.find? p else none := by
  simp only [find?, keep]
  induction c.entries with
  | nil => simp
  | cons x rest ih =>
      by_cases hx : wanted x.path <;> by_cases hp : x.path = p <;> grind

theorem find?_evict (c : Cache α) (path p : String) :
    (c.evict path).find? p = if p = path then none else c.find? p := by
  by_cases h : p = path <;> simp [evict, find?_keep, h]

theorem find?_prune (c : Cache α) (paths : List String) (p : String) :
    (c.prune paths).find? p = if p ∈ paths then c.find? p else none := by
  simp [prune, find?_keep]

theorem find?_clear (c : Cache α) (p : String) : c.clear.find? p = none := by
  simp [clear, find?_keep]

/-- What looking a path up came to. -/
structure Fetched (α : Type) where
  /-- What was found, now or earlier. -/
  result : Except Fault (List α)
  /-- Whether it was remembered. -/
  remembered : Bool
  cache : Cache α

/-- Gives what is remembered for a path at this modification time, and otherwise computes and
remembers it. `force` computes it in any case, and then nothing is counted. What fails is not
remembered. -/
def fetch (c : Cache α) (path : String) (mtime : Value) (force : Bool)
    (compute : Except Fault (List α)) : Fetched α :=
  match if force then (none, c) else c.get path mtime with
  | (some found, c) => ⟨.ok found, true, c⟩
  | (none, c) =>
      match compute with
      | .ok found => ⟨.ok found, false, c.put path mtime found⟩
      | .error cause => ⟨.error cause, false, c⟩

end Cache

end NoteCheck
