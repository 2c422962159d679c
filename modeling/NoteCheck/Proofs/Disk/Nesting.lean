import Mathlib.Data.Finset.Card
import NoteCheck.Proofs.Disk.Resolution

/-!
# Links are never nested too deep

A link is resolved only while it is not remembered, and it is remembered from the moment on when its
resolution begins.  So links can be nested no deeper than there are links in the tree, and the bound
that `Tree.realPath` puts on their nesting is never reached: resolving a path fails for a character
zero in a name and for nothing else (`realPath_eq_error`).

What is counted are the links that are *unmet* (`unmet`).  Every resolution leaves at most as many
of them as it finds, and one that goes into a link begins with one less.
-/

namespace NoteCheck

namespace Tree

/-! ## The links of a tree -/

mutual

/-- The places of the links in an entry. -/
def linkPlaces (here : Place) : Entry → List Place
  | .file _ _ => []
  | .link _ => [here]
  | .dir children => linkPlacesIn here children

/-- The places of the links in a directory. -/
def linkPlacesIn (here : Place) : List (String × Entry) → List Place
  | [] => []
  | (name, e) :: rest => linkPlaces (here ++ [name]) e ++ linkPlacesIn here rest

end

mutual

lemma length_linkPlaces (here : Place) : ∀ e, (linkPlaces here e).length = countLinks e
  | .file _ _ => by simp [linkPlaces, countLinks]
  | .link _ => by simp [linkPlaces, countLinks]
  | .dir children => by rw [linkPlaces, countLinks, length_linkPlacesIn here children]

lemma length_linkPlacesIn (here : Place) :
    ∀ children, (linkPlacesIn here children).length = countLinksIn children
  | [] => by simp [linkPlacesIn, countLinksIn]
  | (name, e) :: rest => by
      rw [linkPlacesIn, countLinksIn, List.length_append, length_linkPlaces (here ++ [name]) e,
        length_linkPlacesIn here rest]

end

lemma linkPlaces_subset {name : String} {e : Entry} {children : Tree} (h : (name, e) ∈ children)
    (here : Place) : linkPlaces (here ++ [name]) e ⊆ linkPlacesIn here children := by
  induction children with
  | nil => exact absurd h (by simp)
  | cons child rest ih =>
      obtain ⟨n, e'⟩ := child
      rw [linkPlacesIn]
      rcases List.mem_cons.mp h with heq | h
      · obtain ⟨rfl, rfl⟩ := Prod.mk.inj heq
        exact List.subset_append_left _ _
      · exact List.Subset.trans (ih h) (List.subset_append_right _ _)

lemma mem_of_child? {t : Tree} {name : String} {e : Entry} (h : t.child? name = some e) :
    (name, e) ∈ t := by
  obtain ⟨⟨n, e'⟩, hfind, rfl⟩ := Option.map_eq_some_iff.mp h
  have hn := List.find?_some hfind
  rw [decide_eq_true_eq] at hn
  rw [← hn]
  exact List.mem_of_find?_eq_some hfind

/-- A link is among the links of the tree. -/
lemma mem_linkPlacesIn {target : String} : ∀ {place : Place} {t : Tree} (here : Place),
    t.at? place = some (.link target) → here ++ place ∈ linkPlacesIn here t
  | [], _, _, h => absurd h (by simp [at?])
  | [name], t, here, h => by
      refine linkPlaces_subset (mem_of_child? h) here ?_
      simp [linkPlaces]
  | name :: next :: rest, t, here, h => by
      simp only [at?] at h
      split at h
      · next children hdir =>
          have hbelow := mem_linkPlacesIn (here ++ [name]) h
          rw [List.append_assoc, List.singleton_append] at hbelow
          refine linkPlaces_subset (mem_of_child? hdir) here ?_
          rwa [linkPlaces]
      · exact absurd h (by simp)

/-! ## Links that are unmet -/

/-- The links of a tree that are not remembered. -/
def unmet (t : Tree) (links : List (Place × Option Place)) : Finset Place :=
  (linkPlacesIn [] t).toFinset \ (links.map (·.1)).toFinset

variable {t : Tree} {links more : List (Place × Option Place)} {place : Place}

lemma unmet_subset (h : links.map (·.1) ⊆ more.map (·.1)) : t.unmet more ⊆ t.unmet links := by
  intro p hp
  rw [unmet, Finset.mem_sdiff, List.mem_toFinset, List.mem_toFinset] at hp ⊢
  exact ⟨hp.1, fun hmem => hp.2 (h hmem)⟩

/-- A link that is met for the first time is one link less. -/
lemma card_unmet_lt {target : String} (hlink : t.linkAt? place = some target)
    (hnew : links.find? (·.1 = place) = none) (resolved : Option Place) :
    (t.unmet ((place, resolved) :: links)).card < (t.unmet links).card := by
  have hat : t.at? place = some (.link target) := by
    rw [linkAt?] at hlink
    split at hlink
    · next h => rw [h, Option.some.inj hlink]
    · exact absurd hlink (by simp)
  have hunmet : place ∈ t.unmet links := by
    rw [unmet, Finset.mem_sdiff, List.mem_toFinset, List.mem_toFinset]
    refine ⟨mem_linkPlacesIn [] hat, fun hmem => ?_⟩
    obtain ⟨entry, hentry, hplace⟩ := List.mem_map.mp hmem
    exact absurd hplace (by simpa using List.find?_eq_none.mp hnew entry hentry)
  refine Finset.card_lt_card ⟨unmet_subset (by simp), fun hsub => ?_⟩
  have hmet := hsub hunmet
  rw [unmet, Finset.mem_sdiff] at hmet
  exact hmet.2 (by simp)

/-! ## Resolving never goes too deep -/

/-- Whether a resolution that begins with these links remembered forgets none of them, or else fails
for a character zero. -/
structure Proceeds (links : List (Place × Option Place)) (outcome : Except Fault Resolution) :
    Prop where
  fault : ∀ cause, outcome = .error cause → cause = .zeroInPath
  keeps : ∀ r, outcome = .ok r → links.map (·.1) ⊆ r.links.map (·.1)

lemma Proceeds.mono {outcome : Except Fault Resolution} (h : Proceeds more outcome)
    (hsub : links.map (·.1) ⊆ more.map (·.1)) : Proceeds links outcome :=
  ⟨h.fault, fun r hr => List.Subset.trans hsub (h.keeps r hr)⟩

/-- A resolver that works for fewer than so many unmet links makes one that works for one more. -/
lemma proceeds_realPathVia {bound : Nat}
    {resolve : Place → List String → List (Place × Option Place) → Except Fault Resolution}
    (hresolve : ∀ here pieces links, (∀ piece ∈ pieces, '/' ∉ piece.toList) →
      (t.unmet links).card < bound → Proceeds links (resolve here pieces links))
    (here : Place) {pieces : List String} (hpieces : ∀ piece ∈ pieces, '/' ∉ piece.toList)
    (hlinks : (t.unmet links).card < bound + 1) :
    Proceeds links (t.realPathVia resolve here pieces links) := by
  induction pieces generalizing here links with
  | nil => exact ⟨by simp [realPathVia], fun r hr => by rw [← Except.ok.inj hr]; simp⟩
  | cons piece rest ih =>
      have hrest : ∀ p ∈ rest, '/' ∉ p.toList := fun p hp => hpieces p (List.mem_cons_of_mem _ hp)
      rcases Path.blank_or_up_or_isName (hpieces piece List.mem_cons_self) with hblank | rfl | hname
      · rw [realPathVia_blank hblank]
        exact ih here hrest hlinks
      · rw [realPathVia_up]
        exact ih here.dropLast hrest hlinks
      · rw [realPathVia_name hname]
        split
        · exact ⟨by simp [eq_comm], by simp⟩
        · split
          · exact ih (here ++ [piece]) hrest hlinks
          · next target hlink =>
              split
              · next resolved hfind => exact ih resolved hrest hlinks
              · exact ⟨by simp, fun r hr => by rw [← Except.ok.inj hr]; simp⟩
              · next hfind =>
                  have hnew := Option.map_eq_none_iff.mp hfind
                  have hless := card_unmet_lt hlink hnew none
                  have hinner := hresolve (if Path.isAbsolute target then [] else here)
                    (Path.pieces target) ((here ++ [piece], none) :: links)
                    (fun _ hp => Path.slashless_of_mem_pieces hp) (by omega)
                  replace hinner := hinner.mono (List.subset_cons_self _ _)
                  cases hr : resolve (if Path.isAbsolute target then [] else here)
                    (Path.pieces target) ((here ++ [piece], none) :: links) with
                  | error cause => exact ⟨fun c hc => hinner.fault c (hr.trans hc), by simp⟩
                  | ok r =>
                      have hkeeps := hinner.keeps r hr
                      rw [Fault.ok_bind]
                      split
                      · have hsub : links.map (·.1) ⊆
                            (((here ++ [piece], some r.path.names) :: r.links).map (·.1)) :=
                          List.Subset.trans hkeeps (List.subset_cons_self _ _)
                        have hless := Finset.card_le_card (unmet_subset (t := t) hsub)
                        exact (ih r.path.names hrest (by omega)).mono hsub
                      · refine ⟨by simp, fun r' hr' => ?_⟩
                        rw [← Except.ok.inj hr']
                        exact hkeeps

lemma proceeds_realPathFrom : ∀ (depth : Nat) (here : Place) {pieces : List String},
    (∀ piece ∈ pieces, '/' ∉ piece.toList) → ∀ links, (t.unmet links).card < depth + 1 →
    Proceeds links (t.realPathFrom depth here pieces links)
  | 0, here, _, hpieces, _, hlinks =>
      proceeds_realPathVia (fun _ _ _ _ h => absurd h (by omega)) here hpieces hlinks
  | depth + 1, here, _, hpieces, _, hlinks =>
      proceeds_realPathVia (fun here _ links hp h => proceeds_realPathFrom depth here hp links h)
        here hpieces hlinks

/-- **Resolving a path fails for a character zero only.** -/
theorem realPath_eq_error {path : String} {cause : Fault} (h : t.realPath path = .error cause) :
    cause = .zeroInPath := by
  have hfirst : (t.unmet []).card < countLinksIn t + 1 + 1 := by
    have hcard := Finset.card_le_card (Finset.sdiff_subset (s := (linkPlacesIn [] t).toFinset)
      (t := (List.map (·.1) ([] : List (Place × Option Place))).toFinset))
    have hlist := List.toFinset_card_le (linkPlacesIn [] t)
    rw [length_linkPlacesIn] at hlist
    rw [unmet]
    omega
  rw [realPath, Fault.bind_eq_error_iff] at h
  rcases h with h | ⟨r, -, h⟩
  · exact (proceeds_realPathFrom _ _ (fun _ hp => Path.slashless_of_mem_pieces hp) [] hfirst).fault
      cause h
  · exact absurd h (by simp)

end Tree

end NoteCheck
