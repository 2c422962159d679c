import NoteCheck.Proofs.Value.Lookup
import NoteCheck.Settings.Basic

/-!
# Laying settings over the members of a file

Saving lays what is given for the keys of settings over the members of the settings file, one key
after another.  Each step says where every key leads afterwards and in which order the keys stand
(`lookup_lay_self`, `lookup_lay_of_ne`, `keys_lay`), and the whole run is these steps in turn
(`isLaidOver_overlay`).  To lay the same over the members once more changes nothing
(`overlay_overlay`).

Reading is pickier than saving: where a member is not of the type of the default, the default is read
(`value?_ofEntries`).
-/

namespace NoteCheck.Settings

variable {given data : List (Value × Value)} {ks : List String} {k : String} {key : Value}

/-- Whether a key is none of a setting. -/
def IsForeign (key : Value) : Prop :=
  ∀ k ∈ keys, key ≠ .text k

/-! ## One key -/

/-- Lays what is given for a key over the data. -/
def lay (given data : List (Value × Value)) (k : String) : List (Value × Value) :=
  match Value.lookup (.text k) given with
  | some v => Value.insert (.text k) v data
  | none => data

/-- Whether a key is given and the data does not have it. -/
def isNew (given data : List (Value × Value)) (k : String) : Bool :=
  (Value.lookup (.text k) given).isSome && (Value.lookup (.text k) data).isNone

lemma lookup_lay_self : Value.lookup (.text k) (lay given data k) =
    (Value.lookup (.text k) given).or (Value.lookup (.text k) data) := by
  rw [lay]
  split
  · next v hgiven => rw [Value.lookup_insert_self, hgiven, Option.some_or]
  · next hgiven => rw [hgiven, Option.none_or]

lemma lookup_lay_of_ne (h : key ≠ .text k) :
    Value.lookup key (lay given data k) = Value.lookup key data := by
  rw [lay]
  split
  · exact Value.lookup_insert_of_ne h
  · rfl

lemma keys_lay : (lay given data k).map (·.1) =
    data.map (·.1) ++ if isNew given data k then [.text k] else [] := by
  rw [lay, isNew]
  split
  · next v hgiven =>
      rw [Value.keys_insert, hgiven]
      cases Value.lookup (.text k) data <;> rfl
  · next hgiven => simp [hgiven]

/-- A key that leads already to what is given for it is left alone. -/
lemma lay_of_lookup (h : ∀ v, Value.lookup (.text k) given = some v →
    Value.lookup (.text k) data = some v) : lay given data k = data := by
  rw [lay]
  split
  · next v hgiven => exact Value.insert_of_lookup (h v hgiven)
  · rfl

/-! ## All keys -/

lemma lookup_foldl_lay_of_ne (h : ∀ k ∈ ks, key ≠ .text k) :
    Value.lookup key (ks.foldl (lay given) data) = Value.lookup key data := by
  induction ks generalizing data with
  | nil => rfl
  | cons first rest ih =>
      obtain ⟨hfirst, hrest⟩ := List.forall_mem_cons.mp h
      rw [List.foldl_cons, ih hrest, lookup_lay_of_ne hfirst]

lemma lookup_foldl_lay (hk : k ∈ ks) : Value.lookup (.text k) (ks.foldl (lay given) data) =
    (Value.lookup (.text k) given).or (Value.lookup (.text k) data) := by
  induction ks generalizing data with
  | nil => cases hk
  | cons first rest ih =>
      rw [List.foldl_cons]
      by_cases hrest : k ∈ rest
      · rw [ih hrest]
        by_cases hfirst : k = first
        · rw [hfirst, lookup_lay_self, ← Option.or_assoc, Option.or_self]
        · rw [lookup_lay_of_ne (by simpa using hfirst)]
      · obtain rfl := (List.mem_cons.mp hk).resolve_right hrest
        have hne : ∀ l ∈ rest, Value.text k ≠ .text l := fun l hl heq =>
          hrest (Value.text.inj heq ▸ hl)
        rw [lookup_foldl_lay_of_ne hne, lookup_lay_self]

lemma keys_foldl_lay (h : ks.Nodup) : (ks.foldl (lay given) data).map (·.1) =
    data.map (·.1) ++ (ks.filter (isNew given data)).map .text := by
  induction ks generalizing data with
  | nil => simp
  | cons first rest ih =>
      obtain ⟨hfirst, hrest⟩ := List.nodup_cons.mp h
      -- No later key is the first one, so none becomes an old key by laying the first.
      have hsame : rest.filter (isNew given (lay given data first)) =
          rest.filter (isNew given data) := by
        refine List.filter_congr fun k hk => ?_
        have hne : Value.text k ≠ .text first := fun heq => hfirst (Value.text.inj heq ▸ hk)
        rw [isNew, isNew, lookup_lay_of_ne hne]
      rw [List.foldl_cons, ih hrest, hsame, keys_lay, List.append_assoc, List.filter_cons]
      split <;> rfl

lemma foldl_lay_of_lookup (h : ∀ k ∈ ks, ∀ v, Value.lookup (.text k) given = some v →
    Value.lookup (.text k) data = some v) : ks.foldl (lay given) data = data := by
  induction ks with
  | nil => rfl
  | cons first rest ih =>
      obtain ⟨hfirst, hrest⟩ := List.forall_mem_cons.mp h
      rw [List.foldl_cons, lay_of_lookup hfirst, ih hrest]

lemma mem_lay {e : Value × Value} (h : e ∈ lay given data k) :
    e ∈ data ∨ e.1 = .text k ∧ Value.lookup (.text k) given = some e.2 := by
  rw [lay] at h
  split at h
  · next v hgiven =>
      rcases Value.mem_insert h with rfl | h
      · exact Or.inr ⟨rfl, hgiven⟩
      · exact Or.inl h
  · exact Or.inl h

/-- A member was there before, or it is given for one of the keys. -/
lemma mem_foldl_lay {e : Value × Value} (h : e ∈ ks.foldl (lay given) data) :
    e ∈ data ∨ ∃ k ∈ ks, e.1 = .text k ∧ Value.lookup (.text k) given = some e.2 := by
  induction ks generalizing data with
  | nil => exact Or.inl h
  | cons first rest ih =>
      rcases ih h with h | ⟨k, hk, hgiven⟩
      · rcases mem_lay h with h | hgiven
        · exact Or.inl h
        · exact Or.inr ⟨first, List.mem_cons_self, hgiven⟩
      · exact Or.inr ⟨k, List.mem_cons_of_mem _ hk, hgiven⟩

/-! ## The members of the file -/

/-- What it means that settings are laid over members, and that nothing else is done to them. -/
structure IsLaidOver (given before after : List (Value × Value)) : Prop where
  settled : ∀ k ∈ keys, Value.lookup (.text k) after =
    (Value.lookup (.text k) given).or (Value.lookup (.text k) before)
  kept : ∀ key, IsForeign key → Value.lookup key after = Value.lookup key before
  /-- Keys keep their places, and new ones come last. -/
  order : after.map (·.1) = before.map (·.1) ++ (keys.filter (isNew given before)).map .text

/-- **What is given is laid over** the members, and they stay as they are otherwise. -/
theorem isLaidOver_overlay (given data : List (Value × Value)) :
    IsLaidOver given data (overlay given data) where
  settled _ hk := lookup_foldl_lay hk
  kept _ hkey := lookup_foldl_lay_of_ne hkey
  order := keys_foldl_lay (by decide)

/-- To lay the same over the members again changes nothing. -/
lemma overlay_overlay (given data : List (Value × Value)) :
    overlay given (overlay given data) = overlay given data := by
  refine foldl_lay_of_lookup fun k hk v hgiven => ?_
  rw [(isLaidOver_overlay given data).settled k hk, hgiven, Option.some_or]

/-! ## Reading the members -/

/-- The value of the setting that a key is of. -/
def value? (s : Settings) (k : String) : Option Value :=
  Value.lookup (.text k) s.toEntries

/-- Where the key of a setting leads among the settings. -/
lemma lookup_toEntries (s : Settings) :
    Value.lookup (.text "enable_auto_check") s.toEntries = some (.bool s.autoCheck) ∧
      Value.lookup (.text "show_inline_warnings") s.toEntries = some (.bool s.inlineWarnings) ∧
      Value.lookup (.text "debounce_ms") s.toEntries = some (.int s.debounceMillis) := by
  simp [toEntries, Value.lookup_cons, Value.text_same_iff]

/-- Whether a value is of the same type as a truth value or an integer; a truth value is not an
integer. -/
def isLike : Value → Value → Bool
  | .bool _, .bool _ => true
  | .int _, .int _ => true
  | _, _ => false

/-- What a setting is read as: what stands there if it is of the type of the default, and else the
default. -/
def orDefault (default : Value) : Option Value → Value
  | some v => if isLike v default then v else default
  | none => default

lemma bool_boolAt (data : List (Value × Value)) (k : String) (b : Bool) :
    Value.bool (boolAt data k b) = orDefault (.bool b) (Value.lookup (.text k) data) := by
  rw [boolAt]
  rcases Value.lookup (.text k) data with _ | v
  · rfl
  · cases v <;> rfl

lemma int_intAt (data : List (Value × Value)) (k : String) (i : Int) :
    Value.int (intAt data k i) = orDefault (.int i) (Value.lookup (.text k) data) := by
  rw [intAt]
  rcases Value.lookup (.text k) data with _ | v
  · rfl
  · cases v <;> rfl

/-- **What is read for a setting** is what stands under its key, or the default in its place. -/
theorem value?_ofEntries (hk : k ∈ keys) : (ofEntries data).value? k =
    (value? {} k).map (orDefault · (Value.lookup (.text k) data)) := by
  obtain ⟨hauto, hinline, hdelay⟩ := lookup_toEntries (ofEntries data)
  obtain ⟨hauto', hinline', hdelay'⟩ := lookup_toEntries {}
  simp only [keys, List.mem_cons, List.not_mem_nil, or_false] at hk
  rcases hk with rfl | rfl | rfl
  · rw [value?, value?, hauto, hauto', Option.map_some, ← bool_boolAt]
    rfl
  · rw [value?, value?, hinline, hinline', Option.map_some, ← bool_boolAt]
    rfl
  · rw [value?, value?, hdelay, hdelay', Option.map_some, ← int_intAt]
    rfl

end NoteCheck.Settings
