import Mathlib.Data.Set.Card
import NoteCheck.Check.Cache

/-!
# A cache is what its history says

`find?_put`, `find?_evict`, `find?_prune` and `find?_clear` say what one operation does to a cache.
This file says what any number of them come to, in terms of the requests alone: nothing below
`Answers` mentions how a cache keeps its entries.

Of the requests made so far only those that *affect* a path matter for it — a `put` or an `evict` of
it, a `clear`, a `prune` that does not keep it — and of these only the latest (`latest?`).  The path
is held exactly if that one is a `put` (`IsHeld`), and what it put is what is found
(`find?_after`).  A found list may be empty and is still found.

* **`serveAll_answers`** — every reply of every sequence of requests to an empty cache is the one
  its history calls for, the three counts are those of the history, and a request leaves all
  entries alone that it does not affect.
-/

namespace NoteCheck.Cache

variable {α : Type}

/-! ## Requests and replies -/

/-- Something that is asked of a cache. -/
inductive Request (α : Type) where
  | get (path : String) (mtime : Value)
  | put (path : String) (mtime : Value) (found : List α)
  | evict (path : String)
  | prune (paths : List String)
  | clear
  | contains (path : String)

/-- What a cache replies. -/
inductive Reply (α : Type) where
  /-- What was found, if it is remembered. -/
  | found (result : Option (List α))
  /-- Whether a path has, or had, an entry. -/
  | held (yes : Bool)
  /-- How many entries were removed. -/
  | removed (count : Nat)
  | done

namespace Reply

/-- Whether a lookup found something. -/
def isHit : Reply α → Bool
  | found (some _) => true
  | _ => false

/-- Whether a lookup found nothing. -/
def isMiss : Reply α → Bool
  | found none => true
  | _ => false

end Reply

namespace Request

/-- Whether a request is a lookup. -/
def isGet : Request α → Bool
  | get _ _ => true
  | _ => false

/-- Whether a request settles anew what is remembered for a path. -/
def affects (p : String) : Request α → Bool
  | put path _ _ => path = p
  | evict path => path = p
  | prune paths => !paths.contains p
  | clear => true
  | get _ _ | contains _ => false

/-- The entry that a request leaves for the paths that it affects. -/
def entry? : Request α → Option (Remembered α)
  | put path mtime found => some ⟨path, mtime, found⟩
  | _ => none

end Request

/-- Serves a request. -/
def serve (c : Cache α) : Request α → Reply α × Cache α
  | .get path mtime =>
      let (result, c) := c.get path mtime
      (.found result, c)
  | .put path mtime found => (.done, c.put path mtime found)
  | .evict path => (.held (c.contains path), c.evict path)
  | .prune paths => (.removed (c.size - (c.prune paths).size), c.prune paths)
  | .clear => (.done, c.clear)
  | .contains path => (.held (c.contains path), c)

/-- Serves requests in turn. -/
def serveAll (c : Cache α) : List (Request α) → List (Reply α) × Cache α
  | [] => ([], c)
  | r :: rest =>
      let (reply, c) := c.serve r
      let (replies, c) := c.serveAll rest
      (reply :: replies, c)

/-- The cache that is left when an empty one has served some requests. -/
def after (history : List (Request α)) : Cache α :=
  (empty.serveAll history).2

/-! ## What the history calls for -/

/-- The latest request that affects a path. -/
def latest? (p : String) (history : List (Request α)) : Option (Request α) :=
  history.reverse.find? (·.affects p)

/-- Whether the latest request that affects a path put something there. -/
def IsHeld (p : String) (history : List (Request α)) : Prop :=
  ∃ mtime found, latest? p history = some (.put p mtime found)

/-- Whether a reply is the one that the requests made before call for. -/
def Answers (before : List (Request α)) : Request α → Reply α → Prop
  | .get p mtime, .found result => ∀ found, result = some found ↔
      ∃ stored, latest? p before = some (.put p stored found) ∧ stored.same mtime = true
  | .contains p, .held yes => yes = true ↔ IsHeld p before
  | .evict p, .held yes => yes = true ↔ IsHeld p before
  | .prune paths, .removed count =>
      (count : ℕ∞) = {p | IsHeld p before ∧ p ∉ paths}.encard
  | .put _ _ _, .done => True
  | .clear, .done => True
  | _, _ => False

/-! ## One request -/

lemma latest?_concat (p : String) (history : List (Request α)) (r : Request α) :
    latest? p (history ++ [r]) = if r.affects p then some r else latest? p history := by
  simp only [latest?, List.reverse_append, List.reverse_singleton, List.singleton_append,
    List.find?_cons]
  cases r.affects p <;> rfl

lemma get_snd_entries (c : Cache α) (path : String) (mtime : Value) :
    (c.get path mtime).2.entries = c.entries := by
  unfold get
  split <;> rfl

/-- A request replaces the entries of the paths that it affects and of no others. -/
lemma find?_serve (c : Cache α) (r : Request α) (p : String) :
    (c.serve r).2.find? p = if r.affects p then r.entry? else c.find? p := by
  cases r with
  | get path mtime =>
      show (c.get path mtime).2.find? p = c.find? p
      rw [find?, get_snd_entries, find?]
  | put path mtime found =>
      rw [serve, find?_put]
      by_cases h : p = path
      · simp [Request.affects, Request.entry?, h]
      · simp [Request.affects, h, Ne.symm h]
  | evict path =>
      rw [serve, find?_evict]
      by_cases h : p = path
      · simp [Request.affects, Request.entry?, h]
      · simp [Request.affects, h, Ne.symm h]
  | prune paths =>
      rw [serve, find?_prune]
      by_cases h : p ∈ paths <;> simp [Request.affects, Request.entry?, h]
  | clear => simp [serve, find?_clear, Request.affects, Request.entry?]
  | contains path => rfl

lemma hits_serve (c : Cache α) (r : Request α) :
    (c.serve r).2.hits = c.hits + if (c.serve r).1.isHit then 1 else 0 := by
  cases r with
  | get path mtime =>
      cases hc : c.current? path mtime <;> simp [serve, get, hc, Reply.isHit]
  | _ => rfl

lemma misses_serve (c : Cache α) (r : Request α) :
    (c.serve r).2.misses = c.misses + if (c.serve r).1.isMiss then 1 else 0 := by
  cases r with
  | get path mtime =>
      cases hc : c.current? path mtime <;> simp [serve, get, hc, Reply.isMiss]
  | _ => rfl

/-- Only a lookup is a hit or a miss, and it is one of the two. -/
lemma isHit_add_isMiss (c : Cache α) (r : Request α) :
    (if (c.serve r).1.isHit then 1 else 0) + (if (c.serve r).1.isMiss then 1 else 0)
      = if r.isGet then 1 else 0 := by
  cases r with
  | get path mtime =>
      cases hc : c.current? path mtime <;>
        simp [serve, get, hc, Reply.isHit, Reply.isMiss, Request.isGet]
  | _ => rfl

/-! ## How many entries there are -/

lemma contains_iff_mem_paths (c : Cache α) (p : String) :
    c.contains p = true ↔ p ∈ c.entries.map Remembered.path := by
  simp [contains, find?]

/-- No path has two entries, so their number is that of the paths that have one. -/
lemma encard_contains (c : Cache α) : {p | c.contains p = true}.encard = c.size := by
  have hset : {p | c.contains p = true}
      = ((c.entries.map Remembered.path).toFinset : Set String) := by
    ext p
    simp only [contains_iff_mem_paths, List.coe_toFinset]
  rw [hset, Set.encard_coe_eq_coe_finsetCard, List.toFinset_card_of_nodup c.one_per_path,
    List.length_map, size]

/-- What a `prune` removes is a cache of its own, the one of the paths that are not kept. -/
lemma encard_pruned (c : Cache α) (paths : List String) :
    ((c.size - (c.prune paths).size : ℕ) : ℕ∞)
      = {p | c.contains p = true ∧ p ∉ paths}.encard := by
  have hparts : c.size = (c.prune paths).size + (c.keep fun p => !paths.contains p).size :=
    c.entries.length_eq_length_filter_add fun e => paths.contains e.path
  have hset : {p | c.contains p = true ∧ p ∉ paths}
      = {p | (c.keep fun p => !paths.contains p).contains p = true} := by
    ext p
    by_cases h : p ∈ paths <;> simp [contains, find?_keep, h]
  rw [hset, encard_contains, hparts, Nat.add_sub_cancel_left]

/-! ## Any number of requests -/

lemma serveAll_append (c : Cache α) (before rest : List (Request α)) :
    c.serveAll (before ++ rest)
      = ((c.serveAll before).1 ++ ((c.serveAll before).2.serveAll rest).1,
          ((c.serveAll before).2.serveAll rest).2) := by
  induction before generalizing c with
  | nil => rfl
  | cons r before ih => simp only [List.cons_append, serveAll, ih]

lemma length_serveAll (c : Cache α) (history : List (Request α)) :
    (c.serveAll history).1.length = history.length := by
  induction history generalizing c with
  | nil => rfl
  | cons r history ih => simp only [serveAll, List.length_cons, ih]

lemma after_concat (history : List (Request α)) (r : Request α) :
    after (history ++ [r]) = ((after history).serve r).2 := by
  rw [after, serveAll_append]
  rfl

/-- **What is found for a path is what the latest request that affects it put there.**  The
induction is on the history from its end: the last request either affects the path, and then
`find?_serve` gives its entry, or it does not, and then both sides are as before. -/
lemma find?_after (history : List (Request α)) (p : String) :
    (after history).find? p = (latest? p history).bind Request.entry? := by
  induction history using List.reverseRecOn with
  | nil => rfl
  | append_singleton history r ih =>
      rw [after_concat, find?_serve, latest?_concat, ih]
      cases r.affects p <;> rfl

lemma latest?_affects {p : String} {history : List (Request α)} {r : Request α}
    (h : latest? p history = some r) : r.affects p = true := by
  simpa using List.find?_some h

/-- An entry is found exactly if the latest request that affects the path put it there. -/
lemma find?_after_eq_some_iff (history : List (Request α)) (p : String) (e : Remembered α) :
    (after history).find? p = some e ↔
      latest? p history = some (.put p e.mtime e.found) ∧ e.path = p := by
  rw [find?_after, Option.bind_eq_some_iff]
  constructor
  · rintro ⟨r, hr, he⟩
    cases r with
    | put path mtime found =>
        have hp : path = p := by simpa [Request.affects] using latest?_affects hr
        simp only [Request.entry?, Option.some.injEq] at he
        subst he hp
        exact ⟨hr, rfl⟩
    | _ => simp [Request.entry?] at he
  · rintro ⟨hr, rfl⟩
    exact ⟨_, hr, rfl⟩

lemma contains_after_iff (history : List (Request α)) (p : String) :
    (after history).contains p = true ↔ IsHeld p history := by
  rw [contains, Option.isSome_iff_exists]
  constructor
  · rintro ⟨e, he⟩
    exact ⟨e.mtime, e.found, ((find?_after_eq_some_iff history p e).mp he).1⟩
  · rintro ⟨mtime, found, h⟩
    exact ⟨⟨p, mtime, found⟩, (find?_after_eq_some_iff history p _).mpr ⟨h, rfl⟩⟩

lemma get_after_iff (history : List (Request α)) (p : String) (mtime : Value) (found : List α) :
    ((after history).get p mtime).1 = some found ↔
      ∃ stored, latest? p history = some (.put p stored found) ∧ stored.same mtime = true := by
  have hget : ((after history).get p mtime).1 = (after history).current? p mtime := by
    unfold get
    split <;> next h => rw [h]
  rw [hget, current?]
  constructor
  · intro h
    split at h
    · next e he =>
        split at h
        · next hsame =>
            obtain rfl := Option.some.inj h
            exact ⟨e.mtime, ((find?_after_eq_some_iff history p e).mp he).1, hsame⟩
        · exact absurd h (by simp)
    · exact absurd h (by simp)
  · rintro ⟨stored, h, hsame⟩
    have he := (find?_after_eq_some_iff history p ⟨p, stored, found⟩).mpr ⟨h, rfl⟩
    simp only [he, hsame, if_true]

/-- The reply to one more request is the one that the history calls for. -/
lemma answers_serve_after (history : List (Request α)) (r : Request α) :
    Answers history r ((after history).serve r).1 := by
  cases r with
  | get p mtime => exact fun found => get_after_iff history p mtime found
  | put path mtime found => trivial
  | evict p => exact contains_after_iff history p
  | prune paths =>
      show (((after history).size - ((after history).prune paths).size : ℕ) : ℕ∞) = _
      simp only [encard_pruned, contains_after_iff]
  | clear => trivial
  | contains p => exact contains_after_iff history p

lemma hits_serveAll (c : Cache α) (history : List (Request α)) :
    (c.serveAll history).2.hits = c.hits + (c.serveAll history).1.countP Reply.isHit := by
  induction history generalizing c with
  | nil => rfl
  | cons r history ih =>
      simp only [serveAll, ih, hits_serve, List.countP_cons]
      omega

lemma misses_serveAll (c : Cache α) (history : List (Request α)) :
    (c.serveAll history).2.misses = c.misses + (c.serveAll history).1.countP Reply.isMiss := by
  induction history generalizing c with
  | nil => rfl
  | cons r history ih =>
      simp only [serveAll, ih, misses_serve, List.countP_cons]
      omega

lemma countP_isHit_add_countP_isMiss (c : Cache α) (history : List (Request α)) :
    (c.serveAll history).1.countP Reply.isHit + (c.serveAll history).1.countP Reply.isMiss
      = history.countP Request.isGet := by
  induction history generalizing c with
  | nil => rfl
  | cons r history ih =>
      have hr := isHit_add_isMiss c r
      have hrest := ih (c.serve r).2
      simp only [serveAll, List.countP_cons]
      omega

/-- **A cache is what its history says.**  Whatever is asked of an empty cache: each reply is the
one that the requests before it call for; the number of entries is that of the paths held, the
counts are those of the lookups that found something and of those that did not, which are all the
lookups; and a request replaces the entries of the paths that it affects and of no others. -/
theorem serveAll_answers (before : List (Request α)) (r : Request α) (rest : List (Request α)) :
    (∃ reply, (empty.serveAll (before ++ r :: rest)).1[before.length]? = some reply
        ∧ Answers before r reply)
      ∧ ((after before).size : ℕ∞) = {p | IsHeld p before}.encard
      ∧ (after before).hits = (empty.serveAll before).1.countP Reply.isHit
      ∧ (after before).misses = (empty.serveAll before).1.countP Reply.isMiss
      ∧ (after before).hits + (after before).misses = before.countP Request.isGet
      ∧ ∀ p, (after (before ++ [r])).find? p
          = if r.affects p then r.entry? else (after before).find? p := by
  have hhits : (after before).hits = (empty.serveAll before).1.countP Reply.isHit := by
    rw [after, hits_serveAll]
    exact Nat.zero_add _
  have hmisses : (after before).misses = (empty.serveAll before).1.countP Reply.isMiss := by
    rw [after, misses_serveAll]
    exact Nat.zero_add _
  refine ⟨⟨_, ?_, answers_serve_after before r⟩, ?_, hhits, hmisses, ?_, ?_⟩
  · rw [serveAll_append, List.getElem?_append_right (length_serveAll _ _).le, length_serveAll,
      Nat.sub_self]
    rfl
  · rw [← encard_contains]
    simp only [contains_after_iff]
  · rw [hhits, hmisses, countP_isHit_add_countP_isMiss]
  · intro p
    rw [after_concat, find?_serve]

end NoteCheck.Cache
