import Mathlib.Tactic.Lemma
import NoteCheck.Yaml.Stream

/-!
# What cutting a text into tokens can run into

A text that is not YAML is malformed, and whoever reads a note is prepared for that.  A *fault* is
something else: the text is as it should be, but what it names does not exist.  Cutting a text meets
such a thing in two places only, the escapes of a quoted scalar and the version in a directive.

`Within` bounds the faults of a computation, and `within_bind` carries a bound through the steps of
the computation, so that each reader needs one lemma and the lemma follows the reader's text.

* **`tokens_trouble`**: the trouble behind the tokens of a text is malformed text or one of
  `cuttingFaults`.
-/

namespace NoteCheck.Yaml

variable {α β : Type} {causes : List Fault}

/-! ## Bounds -/

/-- Whether a computation that ends in a fault ends in one of these. -/
def Within (causes : List Fault) (x : Except Trouble α) : Prop :=
  ∀ cause, x = .error (.fault cause) → cause ∈ causes

lemma within_ok (a : α) : Within causes (.ok a) := by
  intro cause h
  cases h

lemma within_malformed : Within causes (.error .malformed : Except Trouble α) := by
  intro cause h
  cases h

lemma within_fault {cause : Fault} (h : cause ∈ causes) :
    Within causes (.error (.fault cause) : Except Trouble α) := by
  intro other hother
  cases hother
  exact h

lemma within_bind {x : Except Trouble α} {next : α → Except Trouble β} (hx : Within causes x)
    (hnext : ∀ a, Within causes (next a)) : Within causes (x >>= next) := by
  intro cause h
  cases x with
  | ok a => exact hnext a cause h
  | error trouble =>
      have hfault : trouble = .fault cause := Except.error.inj h
      rw [hfault] at hx
      exact hx cause rfl

lemma within_ite {p : Prop} [Decidable p] {x y : Except Trouble α} (hx : Within causes x)
    (hy : Within causes y) : Within causes (if p then x else y) := by
  split
  · exact hx
  · exact hy

lemma within_map {x : Except Trouble α} (f : α → β) (hx : Within causes x) :
    Within causes (x.map f) := by
  intro cause h
  cases x with
  | ok a => cases h
  | error trouble =>
      have hfault : trouble = .fault cause := Except.error.inj h
      rw [hfault] at hx
      exact hx cause rfl

lemma within_foldlM {f : β → α → Except Trouble β} (hf : ∀ b a, Within causes (f b a)) (init : β)
    (as : List α) : Within causes (as.foldlM f init) := by
  induction as generalizing init with
  | nil => exact within_ok init
  | cons a as ih =>
      rw [List.foldlM_cons]
      exact within_bind (hf init a) ih

lemma Within.mono {more : List Fault} {x : Except Trouble α} (h : Within causes x)
    (hmore : causes ⊆ more) : Within more x :=
  fun cause hcause => hmore (h cause hcause)

/-- The faults of texts that are cut: an escape without a character, and a number in the version
that is too long. -/
def cuttingFaults : List Fault := [.codePointTooLarge, .noSuchCodePoint, .numeralTooLong]

/-! ## Names, tags and directives -/

lemma within_readAnchorName (c : Cursor) : Within cuttingFaults (readAnchorName c) := by
  rw [readAnchorName]
  split
  split
  · exact within_malformed
  · split
    · exact within_ok _
    · exact within_malformed

lemma within_readEscapes (fuel : Nat) (c : Cursor) (octets : List UInt8) :
    Within cuttingFaults (readEscapes fuel c octets) := by
  induction fuel generalizing c octets with
  | zero => exact within_ok _
  | succ fuel ih =>
      rw [readEscapes]
      split
      · split
        · exact ih _ _
        · exact within_malformed
      · exact within_ok _

lemma within_readLocatorFrom (fuel : Nat) (c : Cursor) (read : List Char) :
    Within cuttingFaults (readLocatorFrom fuel c read) := by
  induction fuel generalizing c read with
  | zero => exact within_ok _
  | succ fuel ih =>
      rw [readLocatorFrom]
      split
      · exact within_ok _
      · split
        · refine within_bind (within_readEscapes _ _ _) fun ⟨octets, c⟩ => ?_
          dsimp only
          split
          · exact ih _ _
          · exact within_malformed
        · split
          · exact ih _ _
          · exact within_ok _

lemma within_readLocator (c : Cursor) : Within cuttingFaults (readLocator c) := by
  refine within_bind (within_readLocatorFrom _ _ _) fun ⟨text, d⟩ => ?_
  dsimp only
  split
  · exact within_malformed
  · exact within_ok _

lemma within_readHandle (c : Cursor) : Within cuttingFaults (readHandle c) := by
  rw [readHandle]
  split
  · exact within_malformed
  · split
    · exact within_ok _
    · dsimp only
      split
      · exact within_ok _
      · exact within_malformed

lemma within_readTag (c : Cursor) : Within cuttingFaults (readTag c) := by
  have hend : ∀ p : Token × Cursor, Within cuttingFaults
      (if isGap p.2.head then .ok (p.1, p.2) else .error .malformed) := fun p =>
    within_ite (within_ok _) within_malformed
  rw [readTag]
  refine within_ite (within_bind (within_readLocator _) fun p => ?_)
    (within_ite (within_bind (within_ok _) hend) (within_ite ?_ ?_))
  · exact within_ite (within_bind (within_ok _) hend) (within_bind within_malformed hend)
  · exact within_bind (within_readHandle c) fun p =>
      within_bind (within_readLocator p.2) fun q => within_bind (within_ok _) hend
  · exact within_bind (within_ok _) fun p =>
      within_bind (within_readLocator p.2) fun q => within_bind (within_ok _) hend

lemma within_readVersionNumber (c : Cursor) : Within cuttingFaults (readVersionNumber c) := by
  rw [readVersionNumber]
  dsimp only
  split
  · exact within_malformed
  · split
    · exact within_ok _
    · exact within_fault (by decide)

lemma within_readVersion (c : Cursor) : Within cuttingFaults (readVersion c) := by
  refine within_bind (within_readVersionNumber _) fun ⟨major, c⟩ => ?_
  dsimp only
  split
  · exact within_malformed
  · refine within_bind (within_readVersionNumber _) fun ⟨minor, c⟩ => ?_
    dsimp only
    split
    · exact within_ok _
    · exact within_malformed

lemma within_readExpansion (c : Cursor) : Within cuttingFaults (readExpansion c) := by
  refine within_bind (within_readHandle _) fun ⟨name, c⟩ => ?_
  dsimp only
  split
  · exact within_malformed
  · refine within_bind (within_readLocator _) fun ⟨expansion, c⟩ => ?_
    dsimp only
    split
    · exact within_ok _
    · exact within_malformed

lemma within_readDirective (c : Cursor) : Within cuttingFaults (readDirective c) := by
  rw [readDirective]
  refine within_ite within_malformed (within_ite (within_bind (within_readVersion _) ?_)
    (within_ite (within_bind (within_readExpansion _) ?_) (within_bind (within_ok _) ?_)))
  all_goals
    intro p
    dsimp only
    split
    · exact within_ok _
    · exact within_malformed

/-! ## Quoted and block scalars -/

lemma within_charOfCode (code : Nat) : Within cuttingFaults (charOfCode code) := by
  rw [charOfCode]
  split
  · exact within_fault (by decide)
  · split
    · exact within_fault (by decide)
    · split <;> exact within_ok _

lemma within_readFoldedBreaks (fuel : Nat) (c : Cursor) (breaks : List Char) :
    Within cuttingFaults (readFoldedBreaks fuel c breaks) := by
  induction fuel generalizing c breaks with
  | zero => exact within_ok _
  | succ fuel ih =>
      rw [readFoldedBreaks]
      split
      · exact within_malformed
      · dsimp only
        split
        · split
          · exact ih _ _
          · exact within_ok _
        · exact within_ok _

lemma within_readQuotedSpaces (c : Cursor) : Within cuttingFaults (readQuotedSpaces c) := by
  rw [readQuotedSpaces]
  dsimp only
  split
  · exact within_malformed
  · split
    · refine within_bind (within_readFoldedBreaks _ _ _) fun ⟨breaks, c⟩ => ?_
      dsimp only
      split
      · exact within_ok _
      · split <;> exact within_ok _
    · exact within_ok _

lemma within_readQuotedText (double : Bool) (fuel : Nat) (c : Cursor) (read : List Char) :
    Within cuttingFaults (readQuotedText double fuel c read) := by
  induction fuel generalizing c read with
  | zero => exact within_ok _
  | succ fuel ih =>
      rw [readQuotedText]
      dsimp only
      split
      · exact within_ok _
      · split
        · exact ih _ _
        · split
          · exact ih _ _
          · split
            · split
              · exact within_malformed
              · split
                · exact ih _ _
                · split
                  · exact within_bind (within_charOfCode _) fun y => ih _ _
                  · exact within_malformed
                · split
                  · exact within_bind (within_readFoldedBreaks _ _ _) fun ⟨breaks, c⟩ => ih _ _
                  · exact within_malformed
            · exact within_ok _

lemma within_readQuotedRest (double : Bool) (fuel : Nat) (c : Cursor) (read : List Char) :
    Within cuttingFaults (readQuotedRest double fuel c read) := by
  induction fuel generalizing c read with
  | zero => exact within_malformed
  | succ fuel ih =>
      rw [readQuotedRest]
      refine within_ite (within_ok _) (within_bind (within_readQuotedSpaces c) ?_)
      intro ⟨blanks, c⟩
      refine within_bind (within_readQuotedText double _ _ _) ?_
      intro ⟨text, c⟩
      exact ih _ _

lemma within_readQuoted (double : Bool) (c : Cursor) :
    Within cuttingFaults (readQuoted double c) :=
  within_bind (within_readQuotedText double _ _ _) fun ⟨_, _⟩ =>
    within_bind (within_readQuotedRest double _ _ _) fun ⟨_, _⟩ => within_ok _

lemma within_readBlockSigns (c : Cursor) : Within cuttingFaults (readBlockSigns c) :=
  within_ite within_malformed (within_ok _)

lemma within_readBlock (folded : Bool) (parentIndent : Int) (c : Cursor) :
    Within cuttingFaults (readBlock folded parentIndent c) := by
  refine within_bind (within_readBlockSigns _) fun ⟨⟨chomping, increment⟩, c⟩ => ?_
  dsimp only
  split
  · exact within_malformed
  · exact within_ok _

/-! ## Steps of the cutting -/

namespace Scanner

lemma within_dropLapsed (s : Scanner) : Within cuttingFaults s.dropLapsed :=
  within_ite within_malformed (within_ok _)

lemma within_dropCandidate (s : Scanner) : Within cuttingFaults s.dropCandidate := by
  rw [dropCandidate]
  split
  · exact within_ok _
  · exact within_ite within_malformed (within_ok _)

lemma within_saveCandidate (s : Scanner) : Within cuttingFaults s.saveCandidate :=
  within_ite (within_bind s.within_dropCandidate fun _ => within_ok _) (within_ok _)

lemma within_atMargin (s : Scanner) : Within cuttingFaults s.atMargin :=
  within_bind (within_dropCandidate _) fun _ => within_ok _

lemma within_openFlow (t : Token) (s : Scanner) : Within cuttingFaults (s.openFlow t) :=
  within_bind s.within_saveCandidate fun _ => within_ok _

lemma within_closeFlow (t : Token) (s : Scanner) : Within cuttingFaults (s.closeFlow t) :=
  within_ite within_malformed (within_bind s.within_dropCandidate fun _ => within_ok _)

lemma within_flowEntry (s : Scanner) : Within cuttingFaults s.flowEntry :=
  within_bind (within_dropCandidate _) fun _ => within_ok _

/-- The three marks of the block style differ only in the block they open and in what they allow
behind them. -/
lemma within_blockMark {s : Scanner} {next : Scanner → Scanner} (opened : Scanner) :
    Within cuttingFaults (if !s.inFlow && !s.keyAllowed then .error .malformed
      else do .ok (next (← opened.dropCandidate))) :=
  within_ite within_malformed (within_bind opened.within_dropCandidate fun _ => within_ok _)

lemma within_blockEntry (s : Scanner) : Within cuttingFaults s.blockEntry :=
  within_blockMark _

lemma within_complexKey (s : Scanner) : Within cuttingFaults s.complexKey :=
  within_blockMark _

lemma within_value (s : Scanner) : Within cuttingFaults s.value := by
  rw [value]
  split
  · exact within_ok _
  · exact within_blockMark _

lemma within_keyLike {read : Cursor → Except Trouble (Token × Cursor)}
    (hread : ∀ c, Within cuttingFaults (read c)) (s : Scanner) :
    Within cuttingFaults (s.keyLike read) :=
  within_bind s.within_saveCandidate fun s => within_bind (hread s.cursor) fun _ => within_ok _

lemma within_plain (s : Scanner) : Within cuttingFaults s.plain :=
  within_bind s.within_saveCandidate fun _ => within_ok _

lemma within_block (folded : Bool) (s : Scanner) : Within cuttingFaults (s.block folded) :=
  within_bind (within_dropCandidate _) fun _ =>
    within_bind (within_readBlock folded _ _) fun _ => within_ok _

lemma within_named (token : List Char → Token) (s : Scanner) :
    Within cuttingFaults (s.named token) :=
  within_keyLike (fun c => within_bind (within_readAnchorName c) fun _ => within_ok _) s

lemma within_cut (x : Char) (s : Scanner) : Within cuttingFaults (s.cut x) := by
  have hdirective : Within cuttingFaults (do
      let s ← s.atMargin
      let p ← readDirective s.cursor
      .ok (s.push p.1 |>.moveTo p.2)) :=
    within_bind s.within_atMargin fun s => within_bind (within_readDirective s.cursor) fun _ =>
      within_ok _
  have hmarker : ∀ t, Within cuttingFaults (do
      let s ← s.atMargin
      .ok (s.pushMark t 3)) :=
    fun _ => within_bind s.within_atMargin fun _ => within_ok _
  rw [cut]
  refine within_ite hdirective (within_ite (hmarker _) (within_ite (hmarker _) ?_))
  refine within_ite (s.within_openFlow _) (within_ite (s.within_openFlow _) ?_)
  refine within_ite (s.within_closeFlow _) (within_ite (s.within_closeFlow _) ?_)
  refine within_ite s.within_flowEntry (within_ite s.within_blockEntry ?_)
  refine within_ite s.within_complexKey (within_ite s.within_value ?_)
  refine within_ite (s.within_named _) (within_ite (s.within_named _) ?_)
  refine within_ite (within_keyLike within_readTag s) ?_
  refine within_ite (s.within_block false) (within_ite (s.within_block true) ?_)
  refine within_ite (within_keyLike (within_readQuoted false) s) ?_
  refine within_ite (within_keyLike (within_readQuoted true) s) ?_
  exact within_ite s.within_plain within_malformed

lemma within_step (s : Scanner) : Within cuttingFaults s.step := by
  refine within_bind (within_dropLapsed _) fun s => ?_
  dsimp only
  split
  · exact within_bind (within_bind (within_dropCandidate _) fun _ => within_ok _) fun _ =>
      within_ok _
  · exact within_bind (within_cut _ _) fun _ => within_ok _

/-- However far the cutting gets, the trouble it meets is bounded. -/
lemma run_trouble {cause : Fault} (fuel : Nat) (s : Scanner)
    (h : (s.run fuel).trouble = some (.fault cause)) : cause ∈ cuttingFaults := by
  induction fuel generalizing s with
  | zero => exact absurd h (by simp [run])
  | succ fuel ih =>
      rw [run] at h
      split at h
      · next hlapsed =>
          rw [Option.some.inj h] at hlapsed
          exact s.within_dropLapsed cause hlapsed
      · next s hlapsed =>
          split at h
          · next hstep =>
              rw [Option.some.inj h] at hstep
              exact s.within_step cause hstep
          · exact absurd h (by simp)
          · exact ih _ h

end Scanner

/-- **Trouble behind the tokens.**  A text that cannot be cut to its end is malformed there, or
meets one of the faults of cutting. -/
theorem tokens_trouble {cs : List Char} {cause : Fault}
    (h : (tokens cs).trouble = some (.fault cause)) : cause ∈ cuttingFaults := by
  rw [tokens] at h
  split at h
  · exact Scanner.run_trouble _ _ h
  · exact absurd h (by simp)

end NoteCheck.Yaml
