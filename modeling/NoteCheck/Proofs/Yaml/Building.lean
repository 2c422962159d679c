import NoteCheck.Proofs.Outcome
import NoteCheck.Proofs.Yaml.Grammar
import NoteCheck.Yaml.Meaning

/-!
# What building values can run into

Here most faults arise.  A scalar whose text looks like a number, a truth value or a day need not
name one (`scalarFaults`); and where a scalar is asked for, a mapping may stand that gives it by
default, perhaps by way of itself (`buildingFaults`).

* **`load_trouble`**: the faults of loading a text.
-/

namespace NoteCheck.Yaml

/-! ## Scalars -/

/-- The faults of texts that name no value of their type. -/
def scalarFaults : List Fault :=
  [.emptyNumeral, .malformedNumeral, .beyondDouble, .unknownTruthValue, .malformedMoment,
    .noSuchMoment]

lemma within_orFault {α : Type} {causes : List Fault} {cause : Fault} (h : cause ∈ causes)
    (result : Option α) : Within causes (orFault cause result) := by
  cases result with
  | none => exact within_fault h
  | some a => exact within_ok a

lemma within_readUnsignedInt (cs : List Char) : Within scalarFaults (readUnsignedInt cs) := by
  rw [readUnsignedInt.eq_def]
  split
  · exact within_fault (by decide)
  · exact within_ok _
  · exact within_orFault (by decide) _
  · exact within_orFault (by decide) _
  · exact within_orFault (by decide) _
  · exact within_ite (within_orFault (by decide) _) (within_orFault (by decide) _)

lemma within_readInteger (cs : List Char) : Within scalarFaults (readInteger cs) := by
  rw [readInteger]
  split
  · exact within_fault (by decide)
  · exact within_bind (within_readUnsignedInt _) fun _ => within_ok _

lemma within_sumSixtieths (sum : Binary64) (power : Nat) (digits : List Binary64) :
    Within scalarFaults (sumSixtieths sum power digits) := by
  induction digits generalizing sum power with
  | nil => exact within_ok sum
  | cons d ds ih => exact within_bind (within_orFault (by decide) _) fun p => ih _ _

lemma within_readUnsignedFloat (cs : List Char) : Within scalarFaults (readUnsignedFloat cs) := by
  refine within_ite (within_ok _) (within_ite (within_ok _) (within_ite ?_ ?_))
  · exact within_bind (within_orFault (by decide) _) fun parts => within_sumSixtieths _ _ _
  · exact within_orFault (by decide) _

lemma within_readFloat (cs : List Char) : Within scalarFaults (readFloat cs) := by
  rw [readFloat]
  split
  · exact within_fault (by decide)
  · exact within_bind (within_readUnsignedFloat _) fun _ => within_ok _

lemma within_readBool (cs : List Char) : Within scalarFaults (readBool cs) := by
  rw [readBool]
  split
  · exact within_ok _
  · exact within_fault (by decide)

lemma within_readBinary (cs : List Char) : Within scalarFaults (readBinary cs) := by
  refine within_ite ?_ within_malformed
  split
  · exact within_ok _
  · exact within_malformed

lemma readMoment_eq_error {cs : List Char} {cause : Fault} (h : readMoment cs = .error cause) :
    cause = .malformedMoment ∨ cause = .noSuchMoment := by
  rw [readMoment] at h
  split at h
  · exact Or.inl (Except.error.inj h).symm
  · split at h
    · exact Or.inr (Except.error.inj h).symm
    · cases h
    · split at h
      · exact Or.inr (Except.error.inj h).symm
      · cases h
      · split at h
        · cases h
        · exact Or.inr (Except.error.inj h).symm

lemma within_readMomentValue (cs : List Char) : Within scalarFaults (readMomentValue cs) := by
  rw [readMomentValue]
  split
  · exact within_ok _
  · exact within_ok _
  · next cause h =>
      rcases readMoment_eq_error h with rfl | rfl
      · exact within_fault (by decide)
      · exact within_fault (by decide)

lemma within_scalarValue (tag : Tag) (cs : List Char) :
    Within scalarFaults (scalarValue tag cs) := by
  cases tag with
  | null => exact within_ok _
  | bool => exact within_map _ (within_readBool cs)
  | int => exact within_map _ (within_readInteger cs)
  | float => exact within_map _ (within_readFloat cs)
  | binary => exact within_map _ (within_readBinary cs)
  | timestamp => exact within_readMomentValue cs
  | str => exact within_ok _
  | omap => exact within_malformed
  | pairs => exact within_malformed
  | set => exact within_malformed
  | seq => exact within_malformed
  | map => exact within_malformed
  | merge => exact within_malformed
  | value => exact within_malformed
  | unknown => exact within_malformed

/-! ## Collections -/

/-- The faults of building values: those of scalars, and two of mappings that stand for a scalar. -/
def buildingFaults : List Fault :=
  .momentOfCollection :: .endless :: scalarFaults

lemma Within.ofScalar {α : Type} {x : Except Trouble α} (h : Within scalarFaults x) :
    Within buildingFaults x :=
  h.mono fun _ hcause => List.mem_cons_of_mem _ (List.mem_cons_of_mem _ hcause)

namespace Site

lemma within_flatten (merges n : Nat) (merged : List (Nat × Nat)) (g : Graph) :
    Within buildingFaults (flatten merges n merged g) := by
  induction merges generalizing n merged g with
  | zero =>
      rw [flatten]
      split
      · exact within_ok _
      · dsimp only
        split
        · exact within_ok _
        · exact within_malformed
  | succ merges ih =>
      rw [flatten]
      split
      · exact within_ok _
      · dsimp only
        split
        · exact within_ok _
        · split
          · exact within_malformed
          · exact within_bind (ih _ _ _) fun g => ih _ _ g
          · refine within_bind (within_foldlM ?_ _ _) fun p => ih _ _ p.2
            intro ⟨found, g⟩ item
            dsimp only
            split
            · exact within_bind (ih _ _ g) fun g => within_ok _
            · exact within_malformed

lemma within_scalarText (fuel : Nat) (g : Graph) (n : Nat) :
    Within buildingFaults (scalarText fuel g n) := by
  induction fuel generalizing n with
  | zero => exact within_fault (by decide)
  | succ fuel ih =>
      rw [scalarText]
      split
      · exact within_ok _
      · exact within_malformed
      · split
        · exact ih _
        · exact within_malformed

lemma within_buildAtom (g : Graph) (n : Nat) : Within buildingFaults (buildAtom g n) := by
  refine within_bind (within_scalarText _ g n) fun text => ?_
  split
  · exact within_fault (by decide)
  · exact within_ite (within_ok _) (within_map _ (within_scalarValue _ _).ofScalar)
  · exact within_map _ (within_scalarValue _ _).ofScalar

lemma within_build (s : Site) (n : Nat) : Within buildingFaults (s.build n) := by
  rw [build]
  split
  · exact within_ok _
  · dsimp only
    -- Collections are reserved, nodes without a meaning are refused, and the others are built.
    split
    all_goals first
      | exact within_ok _
      | exact within_malformed
      | exact within_bind (within_buildAtom _ _) fun b => within_ok _

lemma within_buildPairs (s : Site) (pairs : List (Nat × Nat)) :
    Within buildingFaults (s.buildPairs pairs) := by
  refine within_foldlM ?_ _ _
  intro ⟨s, entries⟩ ⟨k, v⟩
  refine within_bind (within_build s k) fun s => within_ite within_malformed ?_
  exact within_bind (within_build s v) fun s => within_ok _

lemma within_buildMapping (s : Site) (n : Nat) : Within buildingFaults (s.buildMapping n) := by
  refine within_bind (within_flatten _ _ _ _) fun g => ?_
  split
  · exact within_buildPairs _ _
  · exact within_malformed

lemma within_buildSingles (s : Site) (items : List Nat) :
    Within buildingFaults (s.buildSingles items) := by
  refine within_foldlM ?_ _ _
  intro ⟨s, found⟩ item
  dsimp only
  split
  · exact within_bind (within_build s _) fun s => within_bind (within_build s _) fun s =>
      within_ok _
  · exact within_malformed

lemma within_fill (s : Site) (n : Nat) : Within buildingFaults (s.fill n) := by
  rw [fill]
  split
  · split
    · exact within_bind (within_foldlM within_build s _) fun _ => within_ok _
    · exact within_malformed
  · split
    · exact within_bind (within_buildSingles s _) fun _ => within_ok _
    · exact within_malformed
  · exact within_bind (within_buildMapping s n) fun _ => within_ok _
  · exact within_bind (within_buildMapping s n) fun _ => within_ok _
  · exact within_ok s

lemma within_fillAll (fuel : Nat) (s : Site) : Within buildingFaults (s.fillAll fuel) := by
  induction fuel generalizing s with
  | zero => exact within_ok s
  | succ fuel ih =>
      rw [fillAll]
      split
      · exact within_ok s
      · exact within_bind (within_fill _ _) ih

end Site

lemma Document.within_load (d : Document) : Within buildingFaults d.load :=
  within_bind (Site.within_build _ _) fun s => within_bind (s.within_fillAll _) fun _ => within_ok _

/-- **Faults of a text.**  What is met in loading a text is a fault of cutting or of building. -/
theorem load_trouble {cs : List Char} {cause : Fault} (h : load cs = .error (.fault cause)) :
    cause ∈ cuttingFaults ∨ cause ∈ buildingFaults := by
  rw [load] at h
  rcases Fault.bind_eq_error_iff.mp h with h | ⟨found, -, h⟩
  · exact Or.inl (tokens_trouble (document?_trouble h))
  · cases found with
    | none => cases h
    | some d => exact Or.inr (d.within_load cause h)

end NoteCheck.Yaml
