import NoteCheck.Proofs.Yaml.Cutting
import NoteCheck.Yaml.Document

/-!
# What reading the grammar can run into

The grammar adds no fault of its own.  Tokens that do not follow it are malformed; else the reading
only passes on the trouble that waits behind the tokens, once it gets there.  A step of the reading
of this kind is `Steady`, and it is enough to look at each step alone: steady steps make a steady
reading, and calls between the functions of the grammar spend fuel, on which the induction is.

* **`document?_trouble`**: the only fault of reading a document is the one behind its tokens.
-/

namespace NoteCheck.Yaml

namespace Reader

variable {α β : Type}

/-- Whether a step of the reading leaves the trouble behind the tokens as it is, and fails, if it
does, with this trouble or with malformed text. -/
structure Steady (r : Reader α) : Prop where
  trouble : ∀ d a e, r.run d = .ok (a, e) → e.trouble = d.trouble
  failure : ∀ d trouble, r.run d = .error trouble → trouble = .malformed ∨ trouble = d.trouble

/-! ## Single steps -/

lemma steady_pure (a : α) : Steady (pure a) where
  trouble := by
    intro d b e h
    cases h
    rfl
  failure := by
    intro d trouble h
    cases h

lemma steady_malformed : Steady (malformed : Reader α) where
  trouble := by
    intro d a e h
    cases h
  failure := by
    intro d trouble h
    cases h
    exact Or.inl rfl

lemma steady_bind {r : Reader α} {next : α → Reader β} (hr : Steady r)
    (hnext : ∀ a, Steady (next a)) : Steady (r >>= next) := by
  constructor
  · intro d b e h
    rw [StateT.run_bind] at h
    cases hd : r.run d with
    | error trouble =>
        rw [hd] at h
        cases h
    | ok p =>
        obtain ⟨a, m⟩ := p
        rw [hd] at h
        rw [(hnext a).trouble m b e h, hr.trouble d a m hd]
  · intro d trouble h
    rw [StateT.run_bind] at h
    cases hd : r.run d with
    | error met =>
        rw [hd] at h
        cases h
        exact hr.failure d _ hd
    | ok p =>
        obtain ⟨a, m⟩ := p
        rw [hd] at h
        rw [← hr.trouble d a m hd]
        exact (hnext a).failure m trouble h

lemma steady_ite {p : Prop} [Decidable p] {r q : Reader α} (hr : Steady r) (hq : Steady q) :
    Steady (if p then r else q) := by
  split
  · exact hr
  · exact hq

lemma steady_get : Steady (get : Reader Draft) where
  trouble := by
    intro d a e h
    cases h
    rfl
  failure := by
    intro d trouble h
    cases h

/-- Draft by draft, anything but the trouble may be changed. -/
lemma steady_modify {f : Draft → Draft} (hf : ∀ d, (f d).trouble = d.trouble) :
    Steady (modify f : Reader Unit) where
  trouble := by
    intro d a e h
    cases h
    exact hf d
  failure := by
    intro d trouble h
    cases h

/-- The trouble behind the tokens shows where the tokens end. -/
lemma steady_peek : Steady peek := by
  constructor
  · intro d t e h
    rcases d with ⟨_ | ⟨t', rest⟩, trouble, nodes, anchors, handles⟩
    · cases h
    · cases h
      rfl
  · intro d trouble h
    rcases d with ⟨_ | ⟨t', rest⟩, trouble', nodes, anchors, handles⟩
    · cases h
      exact Or.inr rfl
    · cases h

lemma steady_pop : Steady pop :=
  steady_bind steady_peek fun t => steady_bind (steady_modify fun _ => rfl) fun _ => steady_pure t

lemma steady_add (x : Node) : Steady (add x) where
  trouble := by
    intro d n e h
    cases h
    rfl
  failure := by
    intro d trouble h
    cases h

lemma steady_addEmpty : Steady addEmpty :=
  steady_add _

lemma steady_fill (n : Nat) (c : Content) : Steady (fill n c) :=
  steady_modify fun _ => rfl

/-! ## Properties of nodes -/

lemma steady_properties : Steady properties := by
  refine steady_bind steady_peek fun t => ?_
  split
  · refine steady_bind steady_pop fun _ => steady_bind steady_peek fun t => ?_
    split
    · exact steady_bind steady_pop fun _ => steady_pure _
    · exact steady_pure _
  · refine steady_bind steady_pop fun _ => steady_bind steady_peek fun t => ?_
    split
    · exact steady_bind steady_pop fun _ => steady_pure _
    · exact steady_pure _
  · exact steady_pure _

lemma steady_expand (p : Properties) : Steady (expand p) := by
  rw [expand]
  split
  · exact steady_pure _
  · exact steady_pure _
  · refine steady_bind steady_get fun d => ?_
    split
    · exact steady_pure _
    · exact steady_bind steady_malformed fun _ => steady_pure _

lemma steady_addNamed (anchor : Option (List Char)) (x : Node) : Steady (addNamed anchor x) := by
  cases anchor with
  | none => exact steady_add x
  | some a =>
      have hadd : Steady (do
          let n ← add x
          modify fun d => { d with anchors := (a, n) :: d.anchors }
          return n) :=
        steady_bind (steady_add x) fun n => steady_bind (steady_modify fun _ => rfl) fun _ =>
          steady_pure n
      refine steady_bind steady_get fun d => ?_
      exact steady_ite (steady_bind steady_malformed fun _ => hadd) hadd

lemma steady_emptyNode (p : Properties) (tag : Option (List Char)) : Steady (emptyNode p tag) :=
  steady_ite (steady_addNamed _ _) steady_malformed

/-! ## The grammar -/

/-- A collection is added first and filled when its members have been read. -/
lemma steady_collection (anchor : Option (List Char)) (x : Node) {members : Reader α}
    (content : α → Content) (hmembers : Steady members) :
    Steady (do
      let n ← addNamed anchor x
      fill n (content (← members))
      return n) :=
  steady_bind (steady_addNamed anchor x) fun n => steady_bind hmembers fun found =>
    steady_bind (steady_fill n (content found)) fun _ => steady_pure n

/-- Between two entries in brackets a comma must stand, before the first one it need not. -/
lemma steady_comma (first : Bool) (t : Token) {next : Unit → Reader α}
    (hnext : ∀ u, Steady (next u)) :
    Steady (if !first then
      if t = .flowEntry then do
        let _ ← pop
        next ()
      else do
        let u ← malformed
        next u
      else next ()) :=
  steady_ite
    (steady_ite (steady_bind steady_pop fun _ => hnext ()) (steady_bind steady_malformed hnext))
    (hnext ())

mutual

lemma steady_node : (fuel : Nat) → (block indentless : Bool) → Steady (node fuel block indentless)
  | 0, _, _ => steady_malformed
  | fuel + 1, block, indentless => by
      rw [node]
      refine steady_bind steady_peek fun t => ?_
      split
      · refine steady_bind steady_pop fun _ => steady_bind steady_get fun d => ?_
        split
        · exact steady_pure _
        · exact steady_malformed
      · refine steady_bind steady_properties fun p => ?_
        refine steady_bind (steady_expand p) fun tag => ?_
        refine steady_bind steady_peek fun t => ?_
        split
        · exact steady_ite (steady_collection _ _ _ (steady_indentlessEntries fuel []))
            (steady_emptyNode p tag)
        · exact steady_bind steady_pop fun _ => steady_addNamed _ _
        · exact steady_bind steady_pop fun _ =>
            steady_collection _ _ _ (steady_flowEntries fuel true [])
        · exact steady_bind steady_pop fun _ =>
            steady_collection _ _ _ (steady_flowPairs fuel true [])
        · exact steady_ite (steady_bind steady_pop fun _ =>
            steady_collection _ _ _ (steady_blockEntries fuel [])) (steady_emptyNode p tag)
        · exact steady_ite (steady_bind steady_pop fun _ =>
            steady_collection _ _ _ (steady_blockPairs fuel [])) (steady_emptyNode p tag)
        · exact steady_emptyNode p tag

lemma steady_blockEntries : (fuel : Nat) → (items : List Nat) → Steady (blockEntries fuel items)
  | 0, _ => steady_malformed
  | fuel + 1, items => by
      have hrest : ∀ n, Steady (blockEntries fuel (items ++ [n])) := fun n =>
        steady_blockEntries fuel _
      rw [blockEntries]
      refine steady_bind steady_pop fun t => ?_
      split
      · refine steady_bind steady_peek fun t => ?_
        dsimp only
        split
        · exact steady_bind steady_addEmpty hrest
        · exact steady_bind steady_addEmpty hrest
        · exact steady_bind (steady_node fuel true false) hrest
      · exact steady_pure _
      · exact steady_malformed

lemma steady_indentlessEntries : (fuel : Nat) → (items : List Nat) →
    Steady (indentlessEntries fuel items)
  | 0, _ => steady_malformed
  | fuel + 1, items => by
      have hrest : ∀ n, Steady (indentlessEntries fuel (items ++ [n])) := fun n =>
        steady_indentlessEntries fuel _
      rw [indentlessEntries]
      refine steady_bind steady_peek fun t => ?_
      split
      · refine steady_bind steady_pop fun _ => steady_bind steady_peek fun t => ?_
        dsimp only
        split
        · exact steady_bind steady_addEmpty hrest
        · exact steady_bind steady_addEmpty hrest
        · exact steady_bind steady_addEmpty hrest
        · exact steady_bind steady_addEmpty hrest
        · exact steady_bind (steady_node fuel true false) hrest
      · exact steady_pure _

lemma steady_blockPairs : (fuel : Nat) → (pairs : List (Nat × Nat)) →
    Steady (blockPairs fuel pairs)
  | 0, _ => steady_malformed
  | fuel + 1, pairs => by
      have hrest : ∀ k, Steady (do
          let v ← blockValue fuel
          blockPairs fuel (pairs ++ [(k, v)])) := fun k =>
        steady_bind (steady_blockValue fuel) fun v => steady_blockPairs fuel _
      rw [blockPairs]
      refine steady_bind steady_peek fun t => ?_
      split
      · refine steady_bind steady_pop fun _ => steady_bind steady_peek fun t => ?_
        dsimp only
        split
        · exact steady_bind steady_addEmpty hrest
        · exact steady_bind steady_addEmpty hrest
        · exact steady_bind steady_addEmpty hrest
        · exact steady_bind (steady_node fuel true true) hrest
      · exact steady_bind steady_pop fun _ => steady_pure _
      · exact steady_malformed

lemma steady_blockValue : (fuel : Nat) → Steady (blockValue fuel)
  | 0 => steady_malformed
  | fuel + 1 => by
      rw [blockValue]
      refine steady_bind steady_peek fun t => ?_
      split
      · refine steady_bind steady_pop fun _ => steady_bind steady_peek fun t => ?_
        split
        · exact steady_addEmpty
        · exact steady_addEmpty
        · exact steady_addEmpty
        · exact steady_node fuel true true
      · exact steady_addEmpty

lemma steady_flowEntries : (fuel : Nat) → (first : Bool) → (items : List Nat) →
    Steady (flowEntries fuel first items)
  | 0, _, _ => steady_malformed
  | fuel + 1, first, items => by
      have hrest : ∀ n, Steady (flowEntries fuel false (items ++ [n])) := fun n =>
        steady_flowEntries fuel false _
      rw [flowEntries]
      refine steady_bind steady_peek fun t => ?_
      split
      · exact steady_bind steady_pop fun _ => steady_pure _
      · refine steady_comma first t fun _ => steady_bind steady_peek fun t => ?_
        split
        · exact steady_bind steady_pop fun _ => steady_pure _
        · refine steady_bind steady_pop fun _ => steady_bind (steady_add _) fun n => ?_
          have hpair : ∀ k, Steady (do
              let v ← flowValue fuel .flowSequenceEnd
              fill n (.mapping [(k, v)])
              flowEntries fuel false (items ++ [n])) := fun k =>
            steady_bind (steady_flowValue fuel .flowSequenceEnd) fun v =>
              steady_bind (steady_fill n _) fun _ => hrest n
          refine steady_bind steady_peek fun t => ?_
          dsimp only
          split
          · exact steady_bind steady_addEmpty hpair
          · exact steady_bind steady_addEmpty hpair
          · exact steady_bind steady_addEmpty hpair
          · exact steady_bind (steady_node fuel false false) hpair
        · exact steady_bind (steady_node fuel false false) hrest

lemma steady_flowValue : (fuel : Nat) → (closing : Token) → Steady (flowValue fuel closing)
  | 0, _ => steady_malformed
  | fuel + 1, closing => by
      rw [flowValue]
      refine steady_bind steady_peek fun t => ?_
      split
      · refine steady_bind steady_pop fun _ => steady_bind steady_peek fun t => ?_
        exact steady_ite steady_addEmpty (steady_node fuel false false)
      · exact steady_addEmpty

lemma steady_flowPairs : (fuel : Nat) → (first : Bool) → (pairs : List (Nat × Nat)) →
    Steady (flowPairs fuel first pairs)
  | 0, _, _ => steady_malformed
  | fuel + 1, first, pairs => by
      have hpair : ∀ k, Steady (do
          let v ← flowValue fuel .flowMappingEnd
          flowPairs fuel false (pairs ++ [(k, v)])) := fun k =>
        steady_bind (steady_flowValue fuel .flowMappingEnd) fun v => steady_flowPairs fuel false _
      rw [flowPairs]
      refine steady_bind steady_peek fun t => ?_
      split
      · exact steady_bind steady_pop fun _ => steady_pure _
      · refine steady_comma first t fun _ => steady_bind steady_peek fun t => ?_
        split
        · exact steady_bind steady_pop fun _ => steady_pure _
        · refine steady_bind steady_pop fun _ => steady_bind steady_peek fun t => ?_
          dsimp only
          split
          · exact steady_bind steady_addEmpty hpair
          · exact steady_bind steady_addEmpty hpair
          · exact steady_bind steady_addEmpty hpair
          · exact steady_bind (steady_node fuel false false) hpair
        · exact steady_bind (steady_node fuel false false) fun k =>
            steady_bind steady_addEmpty fun v => steady_flowPairs fuel false _

end

/-! ## Documents -/

lemma steady_directives (fuel : Nat) (versioned : Bool)
    (handles : List (List Char × List Char)) : Steady (directives fuel versioned handles) := by
  induction fuel generalizing versioned handles with
  | zero => exact steady_malformed
  | succ fuel ih =>
      rw [directives]
      refine steady_bind steady_peek fun t => ?_
      split
      · refine steady_bind steady_pop fun _ => ?_
        split
        · exact steady_ite (steady_bind steady_malformed fun _ => ih _ _) (ih _ _)
        · exact steady_ite (steady_bind steady_malformed fun _ => ih _ _) (ih _ _)
        · exact ih _ _
      · exact steady_modify fun _ => rfl

lemma steady_skipEnds (fuel : Nat) : Steady (skipEnds fuel) := by
  induction fuel with
  | zero => exact steady_pure ()
  | succ fuel ih =>
      rw [skipEnds]
      refine steady_bind steady_peek fun t => ?_
      split
      · exact steady_bind steady_pop fun _ => ih
      · exact steady_pure ()

lemma steady_startedContent (fuel : Nat) : Steady (startedContent fuel) := by
  refine steady_bind steady_peek fun t => ?_
  split
  · exact steady_addEmpty
  · exact steady_addEmpty
  · exact steady_addEmpty
  · exact steady_addEmpty
  · exact steady_node fuel true false

lemma steady_startedDocument (fuel : Nat) : Steady (startedDocument fuel) := by
  refine steady_bind (steady_directives fuel false []) fun _ => steady_bind steady_peek fun t => ?_
  split
  · exact steady_bind steady_pop fun _ => steady_startedContent fuel
  · exact steady_malformed

lemma steady_noMore (fuel : Nat) : Steady (noMore fuel) := by
  refine steady_bind (steady_skipEnds fuel) fun _ => steady_bind steady_peek fun t => ?_
  split
  · exact steady_pure ()
  · exact steady_bind (steady_directives fuel false []) fun _ => steady_malformed

lemma steady_stream (fuel : Nat) : Steady (stream fuel) := by
  have hend : ∀ n : Nat, Steady (do
      noMore fuel
      return some n) := fun n =>
    steady_bind (steady_noMore fuel) fun _ => steady_pure (some n)
  refine steady_bind steady_peek fun t => ?_
  split
  · exact steady_bind (steady_startedDocument fuel) hend
  · exact steady_bind (steady_startedDocument fuel) hend
  · exact steady_pure none
  · exact steady_bind (steady_modify fun _ => rfl) fun _ =>
      steady_bind (steady_node fuel true false) hend

end Reader

/-- **Trouble in a document.**  Reading a document from its tokens meets no fault but the one that
waits behind them. -/
theorem document?_trouble {ts : Tokens} {cause : Fault}
    (h : document? ts = .error (.fault cause)) : ts.trouble = some (.fault cause) := by
  have hsteady := Reader.steady_stream (2 * ts.all.length + 4)
  rw [document?] at h
  cases hread : (Reader.stream (2 * ts.all.length + 4)).run
      { tokens := ts.all, trouble := ts.trouble.getD .malformed } with
  | ok p =>
      rw [hread] at h
      cases h
  | error trouble =>
      rw [hread] at h
      cases h
      rcases hsteady.failure _ _ hread with hnone | hmet
      · cases hnone
      · cases htrouble : ts.trouble with
        | none =>
            rw [htrouble] at hmet
            cases hmet
        | some met =>
            rw [htrouble] at hmet
            rw [hmet]
            rfl

end NoteCheck.Yaml
