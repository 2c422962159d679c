import Mathlib.Data.Nat.Find
import NoteCheck.Proofs.Disk.Walk
import NoteCheck.Proofs.Disk.ZeroFree

/-!
# A path that leads somewhere is resolved to where it leads

There are two ways to find out where a path leads.  Whoever opens a file follows each link whenever it
is met.  Resolving a path follows each link once, remembers what came of it, and gives up at a link that
is met while it is being resolved.  If there is a walk along the path at all, the two agree
(`resolution_of_leadsTo`).

A walk to its end can be cut at each link into a walk along the link's target and the rest.  Walks are
determined by where they start and along what, so a link that was resolved before has been resolved to
where the walk along its target ends (`IsFaithful`).  And a link is never met while it is being
resolved: of the walks along its target take one that follows as few links as possible; if the link were
met on it, the walk along its target from there on would follow fewer (`NotShorter`).

A resolved path leads through no link, so a file that a path leads to is found by the resolved path
too, unless the text of that has become too long (`locate_text_of_leadsTo`).
-/

namespace NoteCheck.Tree

variable {t : Tree} {here place end₁ end₂ : Place} {pieces rest : List String} {name : String}
  {budget fewer : Nat}

/-! ## Walks are determined -/

lemma Walk.more {more : Nat} (h : t.Walk budget here pieces place) (hle : budget ≤ more) :
    t.Walk more here pieces place :=
  h.mono (fun _ e he => ⟨e, he, rfl⟩) hle

/-- However many links may be followed, a walk ends in one place. -/
lemma Walk.unique (h₁ : t.Walk budget here pieces end₁) (h₂ : t.Walk fewer here pieces end₂) :
    end₁ = end₂ := by
  have hfirst := walk_iff.mpr (h₁.more (Nat.le_max_left budget fewer))
  have hsecond := walk_iff.mpr (h₂.more (Nat.le_max_right budget fewer))
  exact Except.ok.inj (hfirst.symm.trans hsecond)

/-! ## What is remembered of links -/

/-- Whether there is a walk along the target of the link at a place, following at most so many
links. -/
def TargetWalk (t : Tree) (links : Nat) (link place : Place) : Prop :=
  ∃ target, t.linkAt? link = some target ∧
    t.Walk links (targetStart link.dropLast target) (Path.pieces target) place

/-- What is remembered of the link at a place, if anything. -/
def recalled (links : List (Place × Option Place)) (link : Place) : Option (Option Place) :=
  (links.find? (·.1 = link)).map (·.2)

/-- Whether each link that was resolved is remembered with where its target leads. -/
def IsFaithful (t : Tree) (links : List (Place × Option Place)) : Prop :=
  ∀ link resolved, recalled links link = some (some resolved) →
    ∃ budget, t.TargetWalk budget link resolved

/-- Whether no walk along the target of a link that is being resolved follows fewer links than
this. -/
def NotShorter (t : Tree) (budget : Nat) (links : List (Place × Option Place)) : Prop :=
  ∀ link, recalled links link = some none → ∀ fewer place, t.TargetWalk fewer link place →
    budget ≤ fewer

section Remembered

variable {links more : List (Place × Option Place)} {link : Place}

lemma recalled_cons (found : Option Place) (other : Place) :
    recalled ((link, found) :: links) other =
      if other = link then some found else recalled links other := by
  rw [recalled, List.find?_cons]
  by_cases h : other = link
  · simp [h]
  · simp [h, Ne.symm h, recalled]

lemma TargetWalk.unique (h₁ : t.TargetWalk budget link end₁) (h₂ : t.TargetWalk fewer link end₂) :
    end₁ = end₂ := by
  obtain ⟨target, htarget, h₁⟩ := h₁
  obtain ⟨target', htarget', h₂⟩ := h₂
  obtain rfl := Option.some.inj (htarget.symm.trans htarget')
  exact h₁.unique h₂

/-- Of the walks along the target of a link there is one that follows as few links as possible. -/
lemma TargetWalk.exists_shortest (h : t.TargetWalk budget link place) :
    ∃ least ≤ budget, t.TargetWalk least link place ∧
      ∀ fewer other, t.TargetWalk fewer link other → least ≤ fewer := by
  classical
  have hexists : ∃ links, t.TargetWalk links link place := ⟨budget, h⟩
  refine ⟨Nat.find hexists, Nat.find_min' hexists h, Nat.find_spec hexists, fun fewer other hother => ?_⟩
  rw [← h.unique hother] at hother
  exact Nat.find_min' hexists hother

lemma isFaithful_nil (t : Tree) : t.IsFaithful [] := by
  intro link resolved h
  cases h

lemma notShorter_nil (t : Tree) (budget : Nat) : t.NotShorter budget [] := by
  intro link h
  cases h

/-- A link that begins to be resolved. -/
lemma IsFaithful.met (h : t.IsFaithful links) (link : Place) :
    t.IsFaithful ((link, none) :: links) := by
  intro other resolved hother
  rw [recalled_cons] at hother
  split at hother
  · cases hother
  · exact h other resolved hother

lemma IsFaithful.resolved (h : t.IsFaithful links) (hlink : t.TargetWalk budget link place) :
    t.IsFaithful ((link, some place) :: links) := by
  intro other resolved hother
  rw [recalled_cons] at hother
  split at hother
  · next heq =>
      rw [heq, ← Option.some.inj (Option.some.inj hother)]
      exact ⟨budget, hlink⟩
  · exact h other resolved hother

lemma NotShorter.met (h : t.NotShorter budget links) (hle : fewer ≤ budget)
    (hleast : ∀ n other, t.TargetWalk n link other → fewer ≤ n) :
    t.NotShorter fewer ((link, none) :: links) := by
  intro other hother n place hn
  rw [recalled_cons] at hother
  split at hother
  · next heq =>
      rw [heq] at hn
      exact hleast n place hn
  · exact hle.trans (h other hother n place hn)

/-- As long as no more links are being resolved, and fewer may be followed. -/
lemma NotShorter.of_le (h : t.NotShorter budget links) (hle : fewer ≤ budget)
    (hopen : ∀ link, recalled more link = some none → recalled links link = some none) :
    t.NotShorter fewer more :=
  fun link hlink n place hn => hle.trans (h link (hopen link hlink) n place hn)

end Remembered

/-! ## Resolving along a walk -/

lemma linkAt?_of_link {target : String} (h : t.at? place = some (.link target)) :
    t.linkAt? place = some target := by
  rw [linkAt?, h]

lemma IsDirAt.linkAt?_eq_none (h : t.IsDirAt place) : t.linkAt? place = none := by
  obtain ⟨children, hdir⟩ := h
  rw [linkAt?, hdir]

/-- A walk along the target of a link and further can be cut behind the target. -/
lemma Walk.cut_target {target : String} (hlink : t.at? (here ++ [name]) = some (.link target))
    (h : t.Walk budget (targetStart here target) (Path.pieces target ++ rest) place) :
    ∃ mid fewer, fewer ≤ budget ∧ t.TargetWalk budget (here ++ [name]) mid ∧
      t.Walk fewer mid rest place := by
  have htarget : ∀ mid, t.Walk budget (targetStart here target) (Path.pieces target) mid →
      t.TargetWalk budget (here ++ [name]) mid := fun mid hmid =>
    ⟨target, linkAt?_of_link hlink, by rwa [List.dropLast_concat]⟩
  by_cases hrest : rest = []
  · subst hrest
    rw [List.append_nil] at h
    exact ⟨place, budget, Nat.le_refl _, htarget place h, .done⟩
  · obtain ⟨mid, fewer, hle, -, hfirst, hsecond⟩ := h.split (isDirAt_targetStart hlink) (Or.inl hrest)
    exact ⟨mid, fewer, hle, htarget mid hfirst, hsecond⟩

section

variable {resolve : Place → List String → List (Place × Option Place) → Except Fault Resolution}
  {links : List (Place × Option Place)}

lemma realPathVia_lookedUp (hname : IsLookedUp name) (hzero : '\x00' ∉ name.toList) :
    t.realPathVia resolve here (name :: rest) links =
      match t.linkAt? (here ++ [name]) with
      | none => t.realPathVia resolve (here ++ [name]) rest links
      | some target =>
          match recalled links (here ++ [name]) with
          | some (some resolved) => t.realPathVia resolve resolved rest links
          | some none => .ok ⟨RealPath.follow ⟨false, here ++ [name]⟩ rest, false, links⟩
          | none => do
              let r ← resolve (targetStart here target) (Path.pieces target)
                ((here ++ [name], none) :: links)
              if r.settled then
                t.realPathVia resolve r.path.names rest
                  ((here ++ [name], some r.path.names) :: r.links)
              else return { r with path := r.path.follow rest } := by
  have hblank : ¬ (name = "" || name = ".") = true := by simp [hname.ne_empty, hname.ne_here]
  have hzero : ¬ name.toList.contains '\x00' = true := by simpa using hzero
  rw [realPathVia]
  exact (if_neg hblank).trans ((if_neg hname.ne_up).trans (if_neg hzero))

end

/-- Whether a resolution that began with some links remembered has come to a place and met no loop,
remembers what is so of links, and is at work on no more links than before. -/
structure Arrives (t : Tree) (links : List (Place × Option Place)) (place : Place)
    (r : Resolution) : Prop where
  path : r.path = ⟨false, place⟩
  settled : r.settled = true
  faithful : t.IsFaithful r.links
  atWork : ∀ link, recalled r.links link = some none → recalled links link = some none

/-- When a link has been resolved, the links at work are those from before. -/
lemma Arrives.atWork_of_met {links : List (Place × Option Place)} {link : Place} {r : Resolution}
    (h : t.Arrives ((link, none) :: links) place r) (resolved : Place) (other : Place)
    (hother : recalled ((link, some resolved) :: r.links) other = some none) :
    recalled links other = some none := by
  rw [recalled_cons] at hother
  split at hother
  · cases hother
  · next hne =>
      have hmet := h.atWork other hother
      rwa [recalled_cons, if_neg hne] at hmet

/-- What a function that resolves links must keep to: where there is a walk it arrives at its end,
unless links are nested too deep. -/
def FollowsWalks (t : Tree)
    (resolve : Place → List String → List (Place × Option Place) → Except Fault Resolution) :
    Prop :=
  ∀ {budget here pieces place links}, t.Walk budget here pieces place →
    (∀ piece ∈ pieces, '\x00' ∉ piece.toList) → t.IsFaithful links → t.NotShorter budget links →
    resolve here pieces links = .error (.access .tooManyLinks) ∨
      ∃ r, resolve here pieces links = .ok r ∧ t.Arrives links place r

/-- The target of a link that is met for the first time is resolved along a walk that follows as few
links as possible. -/
lemma FollowsWalks.arrives_at_target (ht : t.ZeroFree)
    {resolve : Place → List String → List (Place × Option Place) → Except Fault Resolution}
    (hresolve : t.FollowsWalks resolve) {links : List (Place × Option Place)} {target : String}
    (hlink : t.at? (here ++ [name]) = some (.link target))
    (hwalk : t.TargetWalk budget (here ++ [name]) place) (hfaithful : t.IsFaithful links)
    (hshort : t.NotShorter budget links) :
    resolve (targetStart here target) (Path.pieces target) ((here ++ [name], none) :: links)
        = .error (.access .tooManyLinks) ∨
      ∃ r, resolve (targetStart here target) (Path.pieces target) ((here ++ [name], none) :: links)
          = .ok r ∧ t.Arrives ((here ++ [name], none) :: links) place r := by
  obtain ⟨least, hleast, ⟨target', htarget, hinner⟩, hshortest⟩ := hwalk.exists_shortest
  obtain rfl := Option.some.inj (htarget.symm.trans (linkAt?_of_link hlink))
  rw [List.dropLast_concat] at hinner
  have hfree : ∀ piece ∈ Path.pieces target', '\x00' ∉ piece.toList := fun _ hp =>
    Path.zeroFree_of_mem_pieces (ht.of_linkAt? htarget) hp
  exact hresolve hinner hfree (hfaithful.met _) (hshort.met hleast hshortest)

/-- One link deeper: pieces are taken one by one, each as the walk takes it. -/
lemma followsWalks_realPathVia (ht : t.ZeroFree)
    {resolve : Place → List String → List (Place × Option Place) → Except Fault Resolution}
    (hresolve : t.FollowsWalks resolve) : t.FollowsWalks (t.realPathVia resolve) := by
  intro budget here pieces place links hwalk hpieces hfaithful hshort
  induction pieces generalizing budget here links with
  | nil =>
      cases hwalk
      exact Or.inr ⟨_, rfl, rfl, rfl, hfaithful, fun _ h => h⟩
  | cons name rest ih =>
      obtain ⟨hzero, hrest⟩ := List.forall_mem_cons.mp hpieces
      cases hwalk with
      | blank hname h =>
          rw [realPathVia_blank hname]
          exact ih h hrest hfaithful hshort
      | up h =>
          rw [realPathVia_up]
          exact ih h hrest hfaithful hshort
      | dir hname hdir h =>
          rw [realPathVia_lookedUp hname hzero, hdir.linkAt?_eq_none]
          exact ih h hrest hfaithful hshort
      | file hname hfile =>
          have hlink : t.linkAt? (here ++ [name]) = none := by rw [linkAt?, hfile]
          rw [realPathVia_lookedUp hname hzero, hlink]
          exact Or.inr ⟨_, rfl, rfl, rfl, hfaithful, fun _ h => h⟩
      | @link budget _ _ _ _ target hname hlink h =>
          obtain ⟨mid, fewer, hle, hmid, hbehind⟩ := h.cut_target hlink
          rw [realPathVia_lookedUp hname hzero, linkAt?_of_link hlink]
          dsimp only
          rcases hrecalled : recalled links (here ++ [name]) with _ | _ | resolved
          · have hless := hshort.of_le (Nat.le_succ budget) fun _ h => h
            rcases hresolve.arrives_at_target ht hlink hmid hfaithful hless with
              hdeep | ⟨r, hr, harrives⟩
            · rw [hdeep]
              exact Or.inl rfl
            · have hatWork := harrives.atWork_of_met mid
              rw [hr, Fault.ok_bind, if_pos harrives.settled, harrives.path]
              rcases ih hbehind hrest (harrives.faithful.resolved hmid)
                (hshort.of_le (by omega) hatWork) with hdeep | ⟨r', hr', hend⟩
              · exact Or.inl hdeep
              · exact Or.inr ⟨r', hr', hend.path, hend.settled, hend.faithful,
                  fun link hlink => hatWork link (hend.atWork link hlink)⟩
          · -- A walk from here on would be shorter than the shortest.
            exact absurd (hshort _ hrecalled _ _ hmid) (Nat.not_succ_le_self budget)
          · obtain ⟨_, hresolved⟩ := hfaithful _ _ hrecalled
            obtain rfl := hresolved.unique hmid
            exact ih hbehind hrest hfaithful (hshort.of_le (by omega) fun _ h => h)

lemma followsWalks_realPathFrom (ht : t.ZeroFree) : ∀ depth, t.FollowsWalks (t.realPathFrom depth)
  | 0 => followsWalks_realPathVia ht fun _ _ _ _ => Or.inl rfl
  | depth + 1 => followsWalks_realPathVia ht (followsWalks_realPathFrom ht depth)

/-- Whether a path leads to a place, however many links are followed on the way. -/
def LeadsTo (t : Tree) (path : String) (place : Place) : Prop :=
  ∃ links, t.Walk links (targetStart workingPlace path) (Path.pieces path) place

lemma LeadsTo.of_locate {path : String} (h : t.locate true path = .ok place) :
    t.LeadsTo path place :=
  ⟨maxLinks, (locate_eq_ok_iff.mp h).2.2⟩

/-- **A path that leads somewhere** is resolved to where it leads, and no loop is met. -/
theorem resolution_of_leadsTo (ht : t.ZeroFree) {path : String} (hpath : '\x00' ∉ path.toList)
    (h : t.LeadsTo path place) :
    ∃ r, t.resolution path = .ok r ∧ r.path = ⟨false, place⟩ ∧ r.settled = true := by
  obtain ⟨budget, hwalk⟩ := h
  rcases followsWalks_realPathFrom ht (countLinksIn t + 1) hwalk
    (fun _ hp => Path.zeroFree_of_mem_pieces hpath hp) (isFaithful_nil t)
    (notShorter_nil t budget) with hdeep | ⟨r, hr, hend⟩
  · have hfault : t.realPath path = .error (.access .tooManyLinks) :=
      Fault.bind_eq_error_iff.mpr (Or.inl hdeep)
    cases realPath_eq_error hfault
  · exact ⟨r, hr, hend.path, hend.settled⟩

lemma realPath_of_leadsTo (ht : t.ZeroFree) {path : String} (hpath : '\x00' ∉ path.toList)
    (h : t.LeadsTo path place) : t.realPath path = .ok ⟨false, place⟩ := by
  obtain ⟨r, hr, hplace, -⟩ := resolution_of_leadsTo ht hpath h
  exact realPath_eq_ok_iff.mpr ⟨r, hr, hplace⟩

/-! ## Names -/

section Names

open NoteCheck.Path (IsName)

/-- Whether links are remembered to resolve to names only. -/
def KnowsNames (links : List (Place × Option Place)) : Prop :=
  ∀ link resolved, recalled links link = some (some resolved) → ∀ name ∈ resolved, IsName name

lemma KnowsNames.cons {links : List (Place × Option Place)} (h : KnowsNames links)
    {found : Option Place} (hfound : ∀ resolved, found = some resolved → ∀ name ∈ resolved, IsName name)
    (link : Place) : KnowsNames ((link, found) :: links) := by
  intro other resolved hother
  rw [recalled_cons] at hother
  split at hother
  · exact hfound resolved (Option.some.inj hother)
  · exact h other resolved hother

/-- What a function that resolves links must keep to: from names it comes to names. -/
def ResolvesToNames
    (resolve : Place → List String → List (Place × Option Place) → Except Fault Resolution) :
    Prop :=
  ∀ {here pieces links r}, (∀ name ∈ here, IsName name) → KnowsNames links →
    (∀ piece ∈ pieces, '/' ∉ piece.toList) → resolve here pieces links = .ok r →
    (∀ name ∈ r.path.names, IsName name) ∧ KnowsNames r.links

lemma resolvesToNames_realPathVia
    {resolve : Place → List String → List (Place × Option Place) → Except Fault Resolution}
    (hresolve : ResolvesToNames resolve) : ResolvesToNames (t.realPathVia resolve) := by
  intro here pieces links r hhere hlinks hpieces h
  induction pieces generalizing here links with
  | nil =>
      rw [realPathVia] at h
      rw [← Except.ok.inj h]
      exact ⟨hhere, hlinks⟩
  | cons piece rest ih =>
      obtain ⟨hpiece, hrest⟩ := List.forall_mem_cons.mp hpieces
      rcases Path.blank_or_up_or_isName hpiece with hblank | rfl | hname
      · rw [realPathVia_blank hblank] at h
        exact ih hhere hlinks hrest h
      · rw [realPathVia_up] at h
        exact ih (fun n hn => hhere n (List.dropLast_subset _ hn)) hlinks hrest h
      · have hplace : ∀ n ∈ here ++ [piece], IsName n :=
          List.forall_mem_append.mpr ⟨hhere, List.forall_mem_singleton.mpr hname⟩
        rw [realPathVia_name hname] at h
        split at h
        · cases h
        split at h
        · exact ih hplace hlinks hrest h
        · next target hlink =>
            split at h
            · next resolved hfind => exact ih (hlinks _ _ hfind) hlinks hrest h
            · rw [← Except.ok.inj h]
              exact ⟨RealPath.isName_of_mem_follow hrest hplace, hlinks⟩
            · have hstart : ∀ n ∈ targetStart here target, IsName n := by
                rw [targetStart]
                split
                · simp
                · exact hhere
              obtain ⟨inner, hr, h⟩ := Fault.bind_eq_ok_iff.mp h
              obtain ⟨hnames, hknows⟩ := hresolve hstart (hlinks.cons (by simp) _)
                (fun _ hp => Path.slashless_of_mem_pieces hp) hr
              split at h
              · refine ih hnames (hknows.cons (fun resolved hresolved => ?_) _) hrest h
                rw [← Option.some.inj hresolved]
                exact hnames
              · rw [← Except.ok.inj h]
                exact ⟨RealPath.isName_of_mem_follow hrest hnames, hknows⟩

lemma resolvesToNames_realPathFrom (t : Tree) : ∀ depth, ResolvesToNames (t.realPathFrom depth)
  | 0 => resolvesToNames_realPathVia fun _ _ _ h => by cases h
  | depth + 1 => resolvesToNames_realPathVia (resolvesToNames_realPathFrom t depth)

/-- **A resolved path consists of names.** -/
theorem isName_of_realPath {path : String} {p : RealPath} (h : t.realPath path = .ok p) :
    ∀ name ∈ p.names, IsName name := by
  obtain ⟨r, hr, rfl⟩ := realPath_eq_ok_iff.mp h
  refine (resolvesToNames_realPathFrom t _ ?_ ?_
    (fun _ hp => Path.slashless_of_mem_pieces hp) hr).1
  · split
    · simp
    · exact List.forall_mem_singleton.mpr (by decide)
  · intro link resolved hlink
    cases hlink

end Names

/-! ## Finding what a path leads to once more -/

section Found

variable {names : Place}

/-- No name is too long where a walk ends. -/
lemma Walk.short (h : t.Walk budget here pieces place)
    (hhere : ∀ n ∈ here, n.utf8ByteSize ≤ maxName) : ∀ n ∈ place, n.utf8ByteSize ≤ maxName := by
  induction h with
  | done => exact hhere
  | blank _ _ ih => exact ih hhere
  | up _ ih => exact ih fun n hn => hhere n (List.dropLast_subset _ hn)
  | dir hname _ _ ih =>
      exact ih (List.forall_mem_append.mpr ⟨hhere, List.forall_mem_singleton.mpr hname.short⟩)
  | file hname _ =>
      exact List.forall_mem_append.mpr ⟨hhere, List.forall_mem_singleton.mpr hname.short⟩
  | link _ _ _ ih =>
      refine ih ?_
      rw [targetStart]
      split
      · simp
      · exact hhere

/-- Names lead to the file that they name. -/
lemma walk_of_file {octets : List UInt8} {mtime : Int}
    (hnames : ∀ n ∈ names, IsLookedUp n) (hne : names ≠ [])
    (hat : t.at? (here ++ names) = some (.file octets mtime)) (links : Nat) :
    t.Walk links here names (here ++ names) := by
  induction names generalizing here with
  | nil => exact absurd rfl hne
  | cons name rest ih =>
      obtain ⟨hname, hrest⟩ := List.forall_mem_cons.mp hnames
      cases rest with
      | nil => exact .file hname hat
      | cons next more =>
          rw [List.append_cons] at hat ⊢
          refine .dir hname ?_ (ih hrest (List.cons_ne_nil _ _) hat)
          rw [at?_append] at hat
          obtain ⟨e, he, hbelow⟩ := Option.bind_eq_some_iff.mp hat
          cases e with
          | dir children => exact ⟨children, he⟩
          | _ => cases hbelow

lemma pieces_intercalate (hnames : ∀ n ∈ names, Path.IsName n) (hne : names ≠ []) :
    Path.pieces ("/".intercalate names) = names := by
  induction names with
  | nil => exact absurd rfl hne
  | cons name rest ih =>
      obtain ⟨hname, hrest⟩ := List.forall_mem_cons.mp hnames
      cases rest with
      | nil => rw [String.intercalate_singleton, Path.pieces_of_isName hname]
      | cons next more =>
          rw [String.intercalate_cons_cons, Path.pieces_append_slash, Path.pieces_of_isName hname,
            ih hrest (List.cons_ne_nil _ _)]
          rfl

/-- The pieces of a resolved path are its names behind the root. -/
lemma pieces_text (hnames : ∀ n ∈ names, Path.IsName n) (hne : names ≠ []) :
    Path.pieces (RealPath.text ⟨false, names⟩) = "" :: names := by
  have hroot := Path.pieces_append_slash "" ("/".intercalate names)
  rw [String.empty_append, pieces_intercalate hnames hne] at hroot
  exact hroot

/-- **A file that a path leads to** is found by the resolved path too, unless that is too long. -/
theorem locate_text_of_leadsTo (ht : t.ZeroFree) {path : String} (hpath : '\x00' ∉ path.toList)
    (h : t.LeadsTo path place) {octets : List UInt8} {mtime : Int}
    (hat : t.at? place = some (.file octets mtime))
    (hlong : (RealPath.text ⟨false, place⟩).utf8ByteSize ≤ maxPath) :
    t.locate true (RealPath.text ⟨false, place⟩) = .ok place := by
  have hnames := isName_of_realPath (realPath_of_leadsTo ht hpath h)
  obtain ⟨budget, hwalk⟩ := h
  have hhere : ∀ n ∈ targetStart workingPlace path, n.utf8ByteSize ≤ maxName := by
    rw [targetStart]
    split
    · simp
    · exact List.forall_mem_singleton.mpr (by decide)
  have hshort := hwalk.short hhere
  have hlooked : ∀ n ∈ place, IsLookedUp n := fun n hn =>
    ⟨(hnames n hn).ne_empty, (hnames n hn).ne_here, (hnames n hn).ne_up, hshort n hn⟩
  have hne : place ≠ [] := by
    rintro rfl
    rw [at?_nil] at hat
    cases hat
  have hpieces := pieces_text hnames hne
  refine locate_eq_ok_iff.mpr ⟨fun hempty => ?_, hlong, ?_⟩
  · rw [hempty, show Path.pieces "" = [""] by decide] at hpieces
    exact hne (List.cons.inj hpieces).2.symm
  · have habsolute : Path.isAbsolute (RealPath.text ⟨false, place⟩) = true := by
      simp [RealPath.text, Path.isAbsolute]
    rw [hpieces, targetStart, if_pos habsolute]
    exact .blank (Or.inl rfl) (walk_of_file hlooked hne hat maxLinks)

end Found

end NoteCheck.Tree
