import NoteCheck.Proofs.Disk.PathText
import NoteCheck.Proofs.Outcome

/-!
# What a resolved path is good for

A path is resolved in order to know where a file lies.  It does tell that, as long as no loop of
links was met on the way: then no link is left in the path (`Resolution.Sound.plain`), so whoever
looks the path up goes through its names one by one and ends where they end
(`locate_text_of_plain`).

Links that were resolved earlier are not resolved again, so what is carried through a resolution is
that everything remembered about them is free of links, too (`KnowsPlain`).  From a loop on nothing
of this is known; only that what is left consists of names.
-/

namespace NoteCheck

namespace Tree

open NoteCheck.Path (IsName)

variable {t : Tree} {place here : Place}

/-! ## Places without links -/

/-- A place that is reached by names, none of them that of a link. -/
structure Plain (t : Tree) (place : Place) : Prop where
  named : ∀ name ∈ place, IsName name
  linkFree : ∀ upper, upper <+: place → t.linkAt? upper = none

lemma Plain.nil (t : Tree) : t.Plain [] := by
  refine ⟨by simp, fun upper h => ?_⟩
  rw [List.prefix_nil.mp h]
  rfl

lemma Plain.concat (h : t.Plain here) {name : String} (hname : IsName name)
    (hlink : t.linkAt? (here ++ [name]) = none) : t.Plain (here ++ [name]) := by
  constructor
  · intro n hn
    rcases List.mem_append.mp hn with hn | hn
    · exact h.named n hn
    · rw [List.mem_singleton.mp hn]
      exact hname
  · intro upper hupper
    rcases List.prefix_concat_iff.mp hupper with rfl | hupper
    · exact hlink
    · exact h.linkFree upper hupper

lemma Plain.dropLast (h : t.Plain here) : t.Plain here.dropLast :=
  ⟨fun n hn => h.named n (List.dropLast_subset _ hn),
    fun upper hupper => h.linkFree upper (hupper.trans (List.dropLast_prefix _))⟩

/-! ## Looking up a place without links -/

/-- Names that lead through no link lead to the place that they name. -/
lemma locateFrom_of_linkFree (through : Bool) (links : Nat) {pieces : List String}
    (hpieces : ∀ piece ∈ pieces, piece ≠ "" → IsName piece)
    (hfree : ∀ upper, upper <+: here ++ pieces.filter (· ≠ "") → t.linkAt? upper = none)
    (h : t.locateFrom through links here pieces = .ok place) :
    place = here ++ pieces.filter (· ≠ "") := by
  have hvia : ∃ follow, t.locateVia through follow here pieces = .ok place := by
    cases links with
    | zero => exact ⟨_, h⟩
    | succ links => exact ⟨_, h⟩
  obtain ⟨follow, hvia⟩ := hvia
  clear h
  induction pieces generalizing here with
  | nil =>
      rw [locateVia] at hvia
      simpa using (Except.ok.inj hvia).symm
  | cons piece rest ih =>
      have hrest : ∀ p ∈ rest, p ≠ "" → IsName p := fun p hp =>
        hpieces p (List.mem_cons_of_mem _ hp)
      rw [locateVia] at hvia
      by_cases hempty : piece = ""
      · subst hempty
        exact ih hrest hfree hvia
      · have hname := hpieces piece List.mem_cons_self hempty
        have hfilter : (piece :: rest).filter (· ≠ "") = piece :: rest.filter (· ≠ "") := by
          rw [List.filter_cons_of_pos (by simpa using hempty)]
        rw [hfilter, List.append_cons] at hfree ⊢
        have hhere : t.linkAt? (here ++ [piece]) = none := hfree _ (List.prefix_append _ _)
        rw [if_neg (by simp [hempty, hname.ne_here]), if_neg hname.ne_up] at hvia
        split at hvia
        · exact absurd hvia (by simp)
        · split at hvia
          · exact absurd hvia (by simp)
          · exact ih hrest hfree hvia
          · split at hvia
            · next hlast =>
                rw [List.isEmpty_iff.mp hlast]
                simpa using (Except.ok.inj hvia).symm
            · exact absurd hvia (by simp)
          · next target hat =>
              rw [linkAt?, hat] at hhere
              exact absurd hhere (by simp)

/-- A resolved path through no link names the place that consists of its names. -/
lemma locate_text_of_linkFree {p : RealPath} (hnamed : ∀ name ∈ p.names, IsName name)
    (hfree : ∀ upper, upper <+: p.names → t.linkAt? upper = none)
    (h : t.locate true p.text = .ok place) : place = p.names := by
  have hnames : (Path.pieces p.text).filter (· ≠ "") = p.names := RealPath.namesOf_text hnamed
  have habsolute : Path.isAbsolute p.text = true := by
    rw [RealPath.text]
    cases p.doubled <;> simp [Path.isAbsolute]
  rw [locate, if_pos habsolute] at h
  split at h
  · exact absurd h (by simp)
  · split at h
    · exact absurd h (by simp)
    · have hplace := locateFrom_of_linkFree true maxLinks (fun piece hp hne => ?_) (by
        rwa [List.nil_append, hnames]) h
      · rwa [List.nil_append, hnames] at hplace
      · exact hnamed piece (hnames ▸ List.mem_filter.mpr ⟨hp, by simpa using hne⟩)

/-! ## Resolving a path -/

/-- Everything that links are remembered to resolve to is free of links. -/
def KnowsPlain (t : Tree) (links : List (Place × Option Place)) : Prop :=
  ∀ place resolved, (place, some resolved) ∈ links → t.Plain resolved

lemma KnowsPlain.met {links : List (Place × Option Place)} (h : t.KnowsPlain links)
    (place : Place) : t.KnowsPlain ((place, none) :: links) := by
  intro p resolved hmem
  rcases List.mem_cons.mp hmem with heq | hmem
  · exact absurd (Prod.mk.inj heq).2 (by simp)
  · exact h p resolved hmem

lemma KnowsPlain.resolved {links : List (Place × Option Place)} (h : t.KnowsPlain links)
    (place : Place) (hhere : t.Plain here) : t.KnowsPlain ((place, some here) :: links) := by
  intro p resolved hmem
  rcases List.mem_cons.mp hmem with heq | hmem
  · rw [Option.some.inj (Prod.mk.inj heq).2]
    exact hhere
  · exact h p resolved hmem

lemma KnowsPlain.of_find? {links : List (Place × Option Place)} (h : t.KnowsPlain links)
    {resolved : Place} (hfind : (links.find? (·.1 = place)).map (·.2) = some (some resolved)) :
    t.Plain resolved := by
  obtain ⟨⟨p, found⟩, hp, rfl⟩ := Option.map_eq_some_iff.mp hfind
  exact h p resolved (List.mem_of_find?_eq_some hp)

end Tree

deriving instance DecidableEq for Resolution

/-- What is true of every resolution: the path consists of names, and if no loop was met then there
is no link in it, nor in what links were found to resolve to. -/
structure Resolution.Sound (t : Tree) (r : Resolution) : Prop where
  named : ∀ name ∈ r.path.names, Path.IsName name
  plain : r.settled = true → t.Plain r.path.names
  knows : r.settled = true → t.KnowsPlain r.links

namespace RealPath

open NoteCheck.Path (IsName)

/-- Taking pieces as they are written keeps a path one of names. -/
lemma isName_of_mem_foldl_step {pieces : List String}
    (hpieces : ∀ piece ∈ pieces, '/' ∉ piece.toList) {names : List String}
    (hnames : ∀ name ∈ names, IsName name) : ∀ name ∈ pieces.foldl step names, IsName name := by
  induction pieces generalizing names with
  | nil => exact hnames
  | cons piece rest ih =>
      refine ih (fun p hp => hpieces p (List.mem_cons_of_mem _ hp)) fun name hname => ?_
      have hslashless := hpieces piece List.mem_cons_self
      rcases Path.blank_or_up_or_isName hslashless with hblank | rfl | hpiece
      · rw [step, if_pos (by simpa using hblank)] at hname
        exact hnames name hname
      · exact hnames name (List.dropLast_subset _ hname)
      · rw [step, if_neg (by simp [hpiece.ne_empty, hpiece.ne_here]), if_neg hpiece.ne_up] at hname
        rcases List.mem_append.mp hname with hname | hname
        · exact hnames name hname
        · rwa [List.mem_singleton.mp hname]

lemma isName_of_mem_follow {p : RealPath} {pieces : List String}
    (hpieces : ∀ piece ∈ pieces, '/' ∉ piece.toList) (hp : ∀ name ∈ p.names, IsName name) :
    ∀ name ∈ (p.follow pieces).names, IsName name := by
  rw [follow]
  split
  · exact isName_of_mem_foldl_step hpieces (by simp)
  · exact isName_of_mem_foldl_step hpieces hp

end RealPath

namespace Tree

open NoteCheck.Path (IsName)

variable {t : Tree} {place here : Place}

section

variable {resolve : Place → List String → List (Place × Option Place) → Except Fault Resolution}
  {piece : String} {rest : List String} {links : List (Place × Option Place)}

lemma realPathVia_blank (h : piece = "" ∨ piece = ".") :
    t.realPathVia resolve here (piece :: rest) links = t.realPathVia resolve here rest links := by
  rw [realPathVia, if_pos (by simpa using h)]

lemma realPathVia_up :
    t.realPathVia resolve here (".." :: rest) links
      = t.realPathVia resolve here.dropLast rest links := by
  rw [realPathVia, if_neg (by decide), if_pos rfl]

/-- A name is taken as it is, or for what the link of that name resolves to. -/
lemma realPathVia_name (h : IsName piece) :
    t.realPathVia resolve here (piece :: rest) links =
      if piece.toList.contains '\x00' then .error .zeroInPath
      else match t.linkAt? (here ++ [piece]) with
        | none => t.realPathVia resolve (here ++ [piece]) rest links
        | some target =>
            match (links.find? (·.1 = here ++ [piece])).map (·.2) with
            | some (some resolved) => t.realPathVia resolve resolved rest links
            | some none => .ok ⟨RealPath.follow ⟨false, here ++ [piece]⟩ rest, false, links⟩
            | none => do
                let r ← resolve (if Path.isAbsolute target then [] else here) (Path.pieces target)
                  ((here ++ [piece], none) :: links)
                if r.settled then
                  t.realPathVia resolve r.path.names rest
                    ((here ++ [piece], some r.path.names) :: r.links)
                else return { r with path := r.path.follow rest } := by
  have hblank : ¬ (piece = "" || piece = ".") = true := by simp [h.ne_empty, h.ne_here]
  rw [realPathVia]
  exact (if_neg hblank).trans (if_neg h.ne_up)

end

/-- What a function that resolves links must keep to. -/
def ResolvesSoundly (t : Tree)
    (resolve : Place → List String → List (Place × Option Place) → Except Fault Resolution) :
    Prop :=
  ∀ {here pieces links r}, t.Plain here → t.KnowsPlain links →
    (∀ piece ∈ pieces, '/' ∉ piece.toList) → resolve here pieces links = .ok r → r.Sound t

/-- One link deeper: pieces are taken one by one, and each of them keeps what is reached free of
links. -/
lemma resolvesSoundly_realPathVia
    {resolve : Place → List String → List (Place × Option Place) → Except Fault Resolution}
    (hresolve : t.ResolvesSoundly resolve) : t.ResolvesSoundly (t.realPathVia resolve) := by
  intro here pieces links r hhere hlinks hpieces h
  induction pieces generalizing here links with
  | nil =>
      rw [realPathVia] at h
      rw [← Except.ok.inj h]
      exact ⟨hhere.named, fun _ => hhere, fun _ => hlinks⟩
  | cons piece rest ih =>
      have hrest : ∀ p ∈ rest, '/' ∉ p.toList := fun p hp => hpieces p (List.mem_cons_of_mem _ hp)
      rcases Path.blank_or_up_or_isName (hpieces piece List.mem_cons_self) with hblank | rfl | hname
      · rw [realPathVia_blank hblank] at h
        exact ih hhere hlinks hrest h
      · rw [realPathVia_up] at h
        exact ih hhere.dropLast hlinks hrest h
      · have hplace : ∀ name ∈ here ++ [piece], IsName name := by
          intro name hmem
          rcases List.mem_append.mp hmem with hmem | hmem
          · exact hhere.named name hmem
          · rwa [List.mem_singleton.mp hmem]
        rw [realPathVia_name hname] at h
        split at h
        · exact absurd h (by simp)
        · split at h
          · next hlink => exact ih (hhere.concat hname hlink) hlinks hrest h
          · next target hlink =>
              split at h
              · next resolved hfind => exact ih (hlinks.of_find? hfind) hlinks hrest h
              · -- a loop: nothing is claimed but that names are left
                rw [← Except.ok.inj h]
                exact ⟨RealPath.isName_of_mem_follow hrest hplace, by simp, by simp⟩
              · have hstart : t.Plain (if Path.isAbsolute target then [] else here) := by
                  split
                  · exact Plain.nil t
                  · exact hhere
                obtain ⟨inner, hr, h⟩ := Fault.bind_eq_ok_iff.mp h
                have hinner := hresolve hstart (hlinks.met _)
                  (fun _ hp => Path.slashless_of_mem_pieces hp) hr
                split at h
                · next hsettled =>
                    have hplain := hinner.plain hsettled
                    exact ih hplain ((hinner.knows hsettled).resolved _ hplain) hrest h
                · next hsettled =>
                    rw [← Except.ok.inj h]
                    exact ⟨RealPath.isName_of_mem_follow hrest hinner.named,
                      fun hs => absurd hs hsettled, fun hs => absurd hs hsettled⟩

/-- However deep links may be nested, resolving is sound. -/
lemma resolvesSoundly_realPathFrom : ∀ depth, t.ResolvesSoundly (t.realPathFrom depth)
  | 0 => resolvesSoundly_realPathVia fun _ _ _ h => absurd h (by simp)
  | depth + 1 => resolvesSoundly_realPathVia (resolvesSoundly_realPathFrom depth)

/-- What a path resolves to, together with whether a loop was met. -/
def resolution (t : Tree) (path : String) : Except Fault Resolution :=
  t.realPathFrom (countLinksIn t + 1) (if Path.isAbsolute path then [] else workingPlace)
    (Path.pieces path) []

lemma realPath_eq_ok_iff {path : String} {p : RealPath} :
    t.realPath path = .ok p ↔ ∃ r, t.resolution path = .ok r ∧ r.path = p := by
  rw [realPath, ← resolution]
  rw [Fault.bind_eq_ok_iff]
  simp

/-- **Resolutions are sound** for paths from the root, and for others if the working directory is a
directory by its own name. -/
theorem resolution_sound {path : String} {r : Resolution}
    (hstart : Path.isAbsolute path = true ∨ t.linkAt? workingPlace = none)
    (h : t.resolution path = .ok r) : r.Sound t := by
  have hplain : t.Plain (if Path.isAbsolute path then [] else workingPlace) := by
    split
    · exact Plain.nil t
    · next hrelative =>
        have hcwd := hstart.resolve_left hrelative
        exact (Plain.nil t).concat ⟨by decide, by decide, by decide, by decide⟩ hcwd
  exact resolvesSoundly_realPathFrom _ hplain (fun _ _ hmem => absurd hmem (by simp))
    (fun _ hp => Path.slashless_of_mem_pieces hp) h

end Tree

end NoteCheck
