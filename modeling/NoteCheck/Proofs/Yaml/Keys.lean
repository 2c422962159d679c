import NoteCheck.Proofs.Outcome
import NoteCheck.Proofs.Value.Lookup
import NoteCheck.Yaml.Meaning

/-!
# The keys of a mapping

No key is a collection.  A key is built before its pair is set down, and a pair whose key has not
become an atom is refused.  From then on the key stays what it is: only a node that has not been
built yet is built, and only a collection is filled.  So the keys of all mappings are atoms at any
time (`Site.Sound`), and at the end in particular.

* **`isAtom_of_load`**: the keys of the mapping that a text describes are atoms.
-/

namespace NoteCheck

/-- Whether a value is not made of others. -/
def Value.isAtom : Value → Bool
  | .list _ | .tuple _ | .set _ | .map _ | .cycle _ => false
  | .null | .bool _ | .int _ | .float _ | .text _ | .bytes _ | .date _ | .timestamp _ => true

namespace Yaml

lemma isAtom_of_map {α : Type} {x : Except Trouble α} {f : α → Value} {v : Value}
    (hf : ∀ a, (f a).isAtom = true) (h : x.map f = .ok v) : v.isAtom = true := by
  cases x with
  | error trouble => cases h
  | ok a =>
      rw [← Except.ok.inj h]
      exact hf a

lemma isAtom_of_scalarValue {tag : Tag} {cs : List Char} {v : Value}
    (h : scalarValue tag cs = .ok v) : v.isAtom = true := by
  cases tag with
  | bool => exact isAtom_of_map (fun _ => rfl) h
  | int => exact isAtom_of_map (fun _ => rfl) h
  | float => exact isAtom_of_map (fun _ => rfl) h
  | binary => exact isAtom_of_map (fun _ => rfl) h
  | timestamp =>
      rw [scalarValue, readMomentValue] at h
      split at h
      · rw [← Except.ok.inj h]
        rfl
      · rw [← Except.ok.inj h]
        rfl
      · cases h
  | null =>
      rw [← Except.ok.inj h]
      rfl
  | str =>
      rw [← Except.ok.inj h]
      rfl
  | omap => cases h
  | pairs => cases h
  | set => cases h
  | seq => cases h
  | map => cases h
  | merge => cases h
  | value => cases h
  | unknown => cases h

/-- Whether what a node has been built to can be a key. -/
def Built.IsKey : Built → Prop
  | .atom v => v.isAtom = true
  | .nan => True
  | .list _ | .pairs _ | .set _ | .map _ => False

namespace Site

variable {s t : Site} {n : Nat} {b : Built}

/-! ## What stays as it is -/

/-- Noting what one node has been built to changes nothing for the others. -/
lemma at?_note_of_ne {m : Nat} (hm : m ≠ n) : (s.note n b).at? m = s.at? m := by
  rw [at?, at?, note]
  dsimp only
  rw [Array.getElem?_setIfInBounds_ne hm.symm]

lemma at?_note_eq_some {m : Nat} {c : Built} (h : (s.note n b).at? m = some c) :
    (m = n ∧ c = b) ∨ s.at? m = some c := by
  by_cases hm : m = n
  · subst hm
    rw [at?, note] at h
    dsimp only at h
    rw [Array.getElem?_setIfInBounds_self] at h
    split at h
    · exact Or.inl ⟨rfl, (Option.some.inj h).symm⟩
    · cases h
  · rw [at?_note_of_ne hm] at h
    exact Or.inr h

/-- A later state at which every node is still what it was built to before. -/
def Extends (s t : Site) : Prop :=
  ∀ n b, s.at? n = some b → t.at? n = some b

lemma Extends.refl (s : Site) : s.Extends s := fun _ _ h => h

lemma Extends.trans {u : Site} (hst : s.Extends t) (htu : t.Extends u) : s.Extends u :=
  fun n b h => htu n b (hst n b h)

lemma extends_note (h : s.at? n = none) (b : Built) : s.Extends (s.note n b) := by
  intro m c hc
  have hm : m ≠ n := by
    rintro rfl
    rw [h] at hc
    cases hc
  rw [at?_note_of_ne hm]
  exact hc

/-- Whether a node has been built to something that can be a key. -/
def HasKey (s : Site) (n : Nat) : Prop :=
  ∃ b, s.at? n = some b ∧ b.IsKey

lemma HasKey.mono (h : s.HasKey n) (hst : s.Extends t) : t.HasKey n := by
  obtain ⟨b, hb, hkey⟩ := h
  exact ⟨b, hst n b hb, hkey⟩

/-- Whether no two keys of a mapping are one. -/
def Apart (s : Site) (entries : List (Nat × Nat)) : Prop :=
  entries.Pairwise fun e d => s.sameKey e.1 d.1 = false

/-- Whether two keys are one does not change while they stay what they are. -/
lemma sameKey_congr {m : Nat} (hm : t.at? m = s.at? m) (hn : t.at? n = s.at? n) :
    t.sameKey m n = s.sameKey m n := by
  rw [sameKey, sameKey, hm, hn]

lemma Extends.at?_eq (hst : s.Extends t) (h : s.HasKey n) : t.at? n = s.at? n := by
  obtain ⟨b, hb, -⟩ := h
  rw [hb, hst n b hb]

lemma Apart.congr {entries : List (Nat × Nat)} (h : s.Apart entries)
    (hkeeps : ∀ e ∈ entries, t.at? e.1 = s.at? e.1) : t.Apart entries :=
  h.imp_of_mem fun he hd hsame => by rwa [sameKey_congr (hkeeps _ he) (hkeeps _ hd)]

/-- Whether the keys of a mapping can be keys and differ. -/
structure Keyed (s : Site) (entries : List (Nat × Nat)) : Prop where
  keys : ∀ e ∈ entries, s.HasKey e.1
  apart : s.Apart entries

lemma keyed_nil (s : Site) : s.Keyed [] :=
  ⟨by simp, .nil⟩

lemma Keyed.mono {entries : List (Nat × Nat)} (h : s.Keyed entries) (hst : s.Extends t) :
    t.Keyed entries :=
  ⟨fun e he => (h.keys e he).mono hst, h.apart.congr fun e he => hst.at?_eq (h.keys e he)⟩

/-- Whether all atoms are atoms, and the keys of all mappings that have been built are among them
and differ. -/
structure Sound (s : Site) : Prop where
  atom : ∀ n v, s.at? n = some (.atom v) → v.isAtom = true
  keyed : ∀ n entries, s.at? n = some (.map entries) → s.Keyed entries

lemma Sound.of_built (hs : s.Sound) (h : t.built = s.built) : t.Sound := by
  have hat : ∀ n, t.at? n = s.at? n := by
    intro n
    rw [at?, at?, h]
  refine ⟨fun n v hv => hs.atom n v (by rwa [← hat]), fun n entries hentries => ?_⟩
  exact (hs.keyed n entries (by rwa [← hat])).mono fun m b hb => by rwa [hat]

/-- A later state that is sound too. -/
structure Grown (s t : Site) : Prop where
  keeps : s.Extends t
  sound : t.Sound

lemma Grown.trans {u : Site} (hst : s.Grown t) (htu : t.Grown u) : s.Grown u :=
  ⟨hst.keeps.trans htu.keeps, htu.sound⟩

lemma Sound.hasKey (hs : s.Sound) (h : (s.keyValue? n).isSome = true) : s.HasKey n := by
  rw [keyValue?] at h
  split at h
  · next v hv => exact ⟨_, hv, hs.atom n v hv⟩
  · next hv => exact ⟨_, hv, trivial⟩
  · cases h

/-- To build one more node, or to fill one that is a collection, spoils nothing, as long as the
keys are there. -/
lemma Sound.note (hs : s.Sound) (hn : ¬ s.HasKey n)
    (hatom : ∀ v, b = .atom v → v.isAtom = true)
    (hkeyed : ∀ entries, b = .map entries → s.Keyed entries) : (s.note n b).Sound := by
  have hsame : ∀ m, s.HasKey m → (s.note n b).at? m = s.at? m := by
    rintro m hm
    refine at?_note_of_ne ?_
    rintro rfl
    exact hn hm
  have hkeeps : ∀ entries, s.Keyed entries → (s.note n b).Keyed entries := fun entries h =>
    ⟨fun e he => by
      obtain ⟨c, hc, hcKey⟩ := h.keys e he
      exact ⟨c, (hsame _ (h.keys e he)).trans hc, hcKey⟩,
      h.apart.congr fun e he => hsame _ (h.keys e he)⟩
  constructor
  · intro m v hv
    rcases at?_note_eq_some hv with ⟨-, rfl⟩ | hv
    · exact hatom v rfl
    · exact hs.atom m v hv
  · intro m entries hentries
    rcases at?_note_eq_some hentries with ⟨-, rfl⟩ | hentries
    · exact hkeeps entries (hkeyed entries rfl)
    · exact hkeeps entries (hs.keyed m entries hentries)

/-! ## Building -/

lemma buildAtom_eq_ok {g : Graph} (h : buildAtom g n = .ok b) : b.IsKey := by
  obtain ⟨text, -, h⟩ := Fault.bind_eq_ok_iff.mp h
  have hatom : ∀ tag, (scalarValue tag text).map Built.atom = .ok b → b.IsKey := by
    intro tag h
    cases hv : scalarValue tag text with
    | error trouble =>
        rw [hv] at h
        cases h
    | ok v =>
        rw [hv] at h
        rw [← Except.ok.inj h]
        exact isAtom_of_scalarValue hv
  split at h
  · cases h
  · split at h
    · rw [← Except.ok.inj h]
      trivial
    · exact hatom _ h
  · exact hatom _ h

/-- Building a node, or reserving it, leaves all others as they are. -/
lemma build_eq_ok (hs : s.Sound) (h : s.build n = .ok t) : s.Grown t := by
  rw [build] at h
  split at h
  · rw [← Except.ok.inj h]
    exact ⟨.refl s, hs⟩
  · next hnone =>
      have hn : ¬ s.HasKey n := by
        rintro ⟨b, hb, -⟩
        rw [hnone] at hb
        cases hb
      have hreserve : ∀ b, (∀ v, b ≠ .atom v) → (∀ entries, b = .map entries → entries = []) →
          (.ok { s.note n b with queue := s.queue ++ [n] } : Except Trouble Site) = .ok t →
          s.Grown t := by
        intro b hatom hentries h
        have hsound : (s.note n b).Sound := by
          refine hs.note hn (fun v hv => absurd hv (hatom v)) fun entries heq => ?_
          rw [hentries entries heq]
          exact keyed_nil s
        rw [← Except.ok.inj h]
        exact ⟨extends_note hnone b, hsound.of_built rfl⟩
      have hatom : (do
          let b ← buildAtom s.graph n
          return s.note n b) = .ok t → s.Grown t := by
        intro h
        obtain ⟨b, hb, h⟩ := Fault.bind_eq_ok_iff.mp h
        have hkey := buildAtom_eq_ok hb
        rw [← Except.ok.inj h]
        refine ⟨extends_note hnone b, hs.note hn (fun v hv => ?_) fun entries heq => ?_⟩
        · rwa [hv] at hkey
        · rw [heq] at hkey
          exact absurd hkey id
      dsimp only at h
      -- Collections are reserved, nodes without a meaning are refused, and the others are built.
      split at h
      all_goals first
        | exact hreserve _ (by simp) (by simp) h
        | cases h
        | exact hatom h

/-- Building several nodes, or reserving them. -/
lemma foldlM_build_eq_ok {items : List Nat} (hs : s.Sound) (h : items.foldlM build s = .ok t) :
    s.Grown t :=
  Fault.foldlM_keeps (P := s.Grown)
    (fun _ _ _ hgrown hbuild => hgrown.trans (build_eq_ok hgrown.sound hbuild)) ⟨.refl s, hs⟩ h

lemma mem_insertKey {k v : Nat} {entries : List (Nat × Nat)} {e : Nat × Nat}
    (he : e ∈ s.insertKey k v entries) : e.1 = k ∨ ∃ w, (e.1, w) ∈ entries := by
  induction entries with
  | nil =>
      rw [insertKey, List.mem_singleton] at he
      rw [he]
      exact Or.inl rfl
  | cons entry rest ih =>
      obtain ⟨l, w⟩ := entry
      rw [insertKey] at he
      split at he
      · rcases List.mem_cons.mp he with rfl | he
        · exact Or.inr ⟨w, List.mem_cons_self⟩
        · exact Or.inr ⟨e.2, List.mem_cons_of_mem _ he⟩
      · rcases List.mem_cons.mp he with rfl | he
        · exact Or.inr ⟨w, List.mem_cons_self⟩
        · rcases ih he with heq | ⟨w', hw'⟩
          · exact Or.inl heq
          · exact Or.inr ⟨w', List.mem_cons_of_mem _ hw'⟩

/-- A key that is there is not inserted again. -/
lemma Apart.insertKey {k v : Nat} {entries : List (Nat × Nat)} (h : s.Apart entries) :
    s.Apart (s.insertKey k v entries) := by
  induction entries with
  | nil => exact List.pairwise_singleton _ _
  | cons entry rest ih =>
      obtain ⟨l, w⟩ := entry
      obtain ⟨hfirst, hrest⟩ := List.pairwise_cons.mp h
      rw [Site.insertKey]
      split
      · exact List.pairwise_cons.mpr ⟨hfirst, hrest⟩
      · next hnew =>
          refine List.pairwise_cons.mpr ⟨fun e he => ?_, ih hrest⟩
          rcases mem_insertKey he with heq | ⟨w', hw'⟩
          · rw [heq]
            exact Bool.eq_false_iff.mpr hnew
          · exact hfirst (e.1, w') hw'

/-- Building pairs: the keys are there when the last pair has been built. -/
lemma buildPairs_eq_ok {pairs entries : List (Nat × Nat)} (hs : s.Sound)
    (h : s.buildPairs pairs = .ok (t, entries)) : s.Grown t ∧ t.Keyed entries := by
  refine Fault.foldlM_keeps (P := fun p => s.Grown p.1 ∧ p.1.Keyed p.2) ?_
    ⟨⟨.refl s, hs⟩, keyed_nil s⟩ h
  rintro ⟨s', found⟩ ⟨k, v⟩ ⟨t', found'⟩ ⟨hgrown, hkeyed⟩ hstep
  obtain ⟨u, hu, hstep⟩ := Fault.bind_eq_ok_iff.mp hstep
  have hk := build_eq_ok hgrown.sound hu
  split at hstep
  · cases hstep
  · next hsome =>
      obtain ⟨w, hw, hstep⟩ := Fault.bind_eq_ok_iff.mp hstep
      have hv := build_eq_ok hk.sound hw
      obtain ⟨rfl, rfl⟩ := Prod.mk.inj (Except.ok.inj hstep)
      have hkey : u.HasKey k :=
        hk.sound.hasKey (Option.isSome_iff_ne_none.mpr fun hnone => hsome (by rw [hnone]; rfl))
      have hthen := (hkeyed.mono hk.keeps).mono hv.keeps
      refine ⟨(hgrown.trans hk).trans hv, fun e he => ?_, hthen.apart.insertKey⟩
      rcases mem_insertKey he with heq | ⟨w', hw'⟩
      · rw [heq]
        exact hkey.mono hv.keeps
      · exact hthen.keys (e.1, w') hw'

lemma buildMapping_eq_ok {entries : List (Nat × Nat)} (hs : s.Sound)
    (h : s.buildMapping n = .ok (t, entries)) : s.Grown t ∧ t.Keyed entries := by
  obtain ⟨g, -, h⟩ := Fault.bind_eq_ok_iff.mp h
  have hflat : Sound { s with graph := g } := hs.of_built rfl
  split at h
  · obtain ⟨hgrown, hkeyed⟩ := buildPairs_eq_ok hflat h
    exact ⟨⟨hgrown.keeps, hgrown.sound⟩, hkeyed⟩
  · cases h

lemma buildSingles_eq_ok {items : List Nat} {found : List (Nat × Nat)} (hs : s.Sound)
    (h : s.buildSingles items = .ok (t, found)) : s.Grown t := by
  refine Fault.foldlM_keeps (P := fun p => s.Grown p.1) ?_ ⟨.refl s, hs⟩ h
  rintro ⟨s', found'⟩ item ⟨t', found''⟩ hgrown hstep
  dsimp only at hstep
  split at hstep
  · obtain ⟨u, hu, hstep⟩ := Fault.bind_eq_ok_iff.mp hstep
    obtain ⟨w, hw, hstep⟩ := Fault.bind_eq_ok_iff.mp hstep
    obtain ⟨rfl, -⟩ := Prod.mk.inj (Except.ok.inj hstep)
    have hk := build_eq_ok hgrown.sound hu
    exact (hgrown.trans hk).trans (build_eq_ok hk.sound hw)
  · cases hstep

/-- A collection is filled with others of its kind; the keys stay atoms. -/
lemma fill_eq_ok (hs : s.Sound) (h : s.fill n = .ok t) : t.Sound := by
  have hfree : ∀ {u : Site} {b : Built}, s.at? n = some b → ¬ b.IsKey → s.Grown u →
      ¬ u.HasKey n := by
    rintro u b hb hkey hgrown ⟨c, hc, hcKey⟩
    rw [hgrown.keeps n b hb] at hc
    rw [← Option.some.inj hc] at hcKey
    exact hkey hcKey
  rw [fill] at h
  split at h
  · next hn =>
      split at h
      · obtain ⟨u, hu, h⟩ := Fault.bind_eq_ok_iff.mp h
        have hgrown := foldlM_build_eq_ok hs hu
        rw [← Except.ok.inj h]
        exact hgrown.sound.note (hfree hn id hgrown) (by simp) (by simp)
      · cases h
  · next hn =>
      split at h
      · obtain ⟨⟨u, found⟩, hu, h⟩ := Fault.bind_eq_ok_iff.mp h
        have hgrown := buildSingles_eq_ok hs hu
        rw [← Except.ok.inj h]
        exact hgrown.sound.note (hfree hn id hgrown) (by simp) (by simp)
      · cases h
  · next hn =>
      obtain ⟨⟨u, entries⟩, hu, h⟩ := Fault.bind_eq_ok_iff.mp h
      obtain ⟨hgrown, -⟩ := buildMapping_eq_ok hs hu
      rw [← Except.ok.inj h]
      exact hgrown.sound.note (hfree hn id hgrown) (by simp) (by simp)
  · next hn =>
      obtain ⟨⟨u, entries⟩, hu, h⟩ := Fault.bind_eq_ok_iff.mp h
      obtain ⟨hgrown, hkeyed⟩ := buildMapping_eq_ok hs hu
      rw [← Except.ok.inj h]
      refine hgrown.sound.note (hfree hn id hgrown) (by simp) fun found heq => ?_
      rw [← Built.map.inj heq]
      exact hkeyed
  · rw [← Except.ok.inj h]
    exact hs

lemma fillAll_eq_ok {fuel : Nat} (hs : s.Sound) (h : s.fillAll fuel = .ok t) : t.Sound := by
  induction fuel generalizing s with
  | zero =>
      rw [← Except.ok.inj h]
      exact hs
  | succ fuel ih =>
      rw [fillAll] at h
      split at h
      · rw [← Except.ok.inj h]
        exact hs
      · next n rest hqueue =>
          have hrest : Sound { s with queue := rest } := hs.of_built rfl
          obtain ⟨u, hu, h⟩ := Fault.bind_eq_ok_iff.mp h
          exact ih (fill_eq_ok hrest hu) h

/-- What a node that can be a key unfolds to. -/
lemma HasKey.value_eq (h : s.HasKey n) : ∃ v, s.value n = v ∧ v.isAtom = true ∧
    (s.at? n = some (.atom v) ∨ s.at? n = some .nan ∧ v = .float Binary64.nan) := by
  obtain ⟨b, hb, hkey⟩ := h
  refine ⟨_, rfl, ?_⟩
  rw [value, unfold]
  dsimp only [List.findIdx?_nil]
  rw [hb]
  cases b with
  | atom v => exact ⟨hkey, .inl rfl⟩
  | nan => exact ⟨rfl, .inr ⟨rfl, rfl⟩⟩
  | list items => exact absurd hkey id
  | pairs items => exact absurd hkey id
  | set members => exact absurd hkey id
  | map entries => exact absurd hkey id

/-- Keys that are not one have values that are not the same. -/
lemma same_value_eq_false {m : Nat} (hm : s.HasKey m) (hn : s.HasKey n)
    (h : s.sameKey m n = false) : (s.value m).same (s.value n) = false := by
  obtain ⟨v, hv, hvatom, hvbuilt⟩ := hm.value_eq
  obtain ⟨w, hw, hwatom, hwbuilt⟩ := hn.value_eq
  rw [sameKey, Bool.or_eq_false_iff] at h
  rw [hv, hw]
  obtain ⟨-, h⟩ := h
  rcases hvbuilt with hvbuilt | ⟨hvbuilt, rfl⟩
  · rcases hwbuilt with hwbuilt | ⟨hwbuilt, rfl⟩
    · rwa [hvbuilt, hwbuilt] at h
    · exact (Value.same_eq_false_of_isNaN rfl v).2
  · exact (Value.same_eq_false_of_isNaN rfl w).1

end Site

/-- The entries of the mapping that a document describes are those of a node. -/
lemma Document.load_eq_entries {d : Document} {es : List (Value × Value)}
    (h : d.load = .ok (.entries es)) : ∃ (s : Site) (entries : List (Nat × Nat)),
      s.Keyed entries ∧ es = entries.map fun e => (s.value e.1, s.value e.2) := by
  obtain ⟨s, hs, h⟩ := Fault.bind_eq_ok_iff.mp h
  obtain ⟨t, ht, h⟩ := Fault.bind_eq_ok_iff.mp h
  have hempty : ∀ n, Site.at? { graph := d.nodes, built := Array.replicate d.nodes.size none } n
      = none := by
    intro n
    rw [Site.at?, Array.getElem?_replicate]
    split <;> rfl
  have hstart : Site.Sound { graph := d.nodes, built := Array.replicate d.nodes.size none } :=
    ⟨fun n v hv => by simp [hempty] at hv, fun n entries hn => by simp [hempty] at hn⟩
  have hsound := Site.fillAll_eq_ok (Site.build_eq_ok hstart hs).sound ht
  have hloaded := Except.ok.inj h
  split at hloaded
  · next entries hroot =>
      exact ⟨t, entries, hsound.keyed _ _ hroot, (Loaded.entries.inj hloaded).symm⟩
  · cases hloaded

lemma load_eq_entries {cs : List Char} {es : List (Value × Value)}
    (h : load cs = .ok (.entries es)) : ∃ (s : Site) (entries : List (Nat × Nat)),
      s.Keyed entries ∧ es = entries.map fun e => (s.value e.1, s.value e.2) := by
  obtain ⟨found, -, h⟩ := Fault.bind_eq_ok_iff.mp h
  cases found with
  | none => cases h
  | some d => exact d.load_eq_entries h

/-- **Keys.**  No key of the mapping that a text describes is a collection. -/
theorem isAtom_of_load {cs : List Char} {es : List (Value × Value)}
    (h : load cs = .ok (.entries es)) : ∀ e ∈ es, e.1.isAtom = true := by
  obtain ⟨s, entries, hkeyed, rfl⟩ := load_eq_entries h
  intro e he
  obtain ⟨pair, hpair, rfl⟩ := List.mem_map.mp he
  obtain ⟨v, hv, hatom, -⟩ := (hkeyed.keys pair hpair).value_eq
  rw [hv]
  exact hatom

/-- **Different keys.**  No two keys of the mapping that a text describes are the same value. -/
theorem apart_of_load {cs : List Char} {es : List (Value × Value)}
    (h : load cs = .ok (.entries es)) : es.Pairwise fun e d => e.1.same d.1 = false := by
  obtain ⟨s, entries, hkeyed, rfl⟩ := load_eq_entries h
  rw [List.pairwise_map]
  exact hkeyed.apart.imp_of_mem fun he hd hsame =>
    Site.same_value_eq_false (hkeyed.keys _ he) (hkeyed.keys _ hd) hsame

end Yaml

end NoteCheck
