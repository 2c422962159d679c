import Mathlib.Data.String.Basic
import NoteCheck.Proofs.Disk.PathText
import NoteCheck.Proofs.Disk.Reordering
import NoteCheck.Vault.Listing

/-!
# What the listing of a vault holds

A path below a vault is listed if it leads to a note: the directories on it are directories
themselves and no links to them, none of them is hidden, and the last name is that of a note and names
something that is no directory, nor leads to one (`Vault.LeadsToNote`).  Nothing else is said of what
it names, so links are listed that lead to a file, to nothing or round in a circle.

The notes of a directory come before those further down, and either come in the order of names
(`Vault.Before`).  This leaves no choice: two lists that hold the same paths and keep this order are the
same list.  So the listing does not depend on the order in which a directory gives its children, though
it is made by going through them.

* **`Disk.notePaths_exact`** — the listing of a vault: what it holds, in which order, and that it is the
  same for every order of the children.
-/

namespace NoteCheck

/-- Whether a name in a directory is that of a directory, or of a link that leads to one. -/
def Tree.NamesDir (t : Tree) (here : Place) (name : String) : Prop :=
  t.IsDirAt (here ++ [name]) ∨ ∃ place, t.Walk maxLinks here [name] place ∧ t.IsDirAt place

namespace Vault

/-- Whether directories and a name lead from the directory at a place to a note. -/
structure LeadsToNote (t : Tree) (here : Place) (dirs : List String) (name : String) : Prop where
  /-- Where the way starts and where every directory on it leads, there is a directory. -/
  dir : ∀ upper, upper <+: dirs → t.IsDirAt (here ++ upper)
  visible : ∀ dir ∈ dirs, isHidden dir = false
  named : isNoteName name = true
  present : ∃ e, t.at? (here ++ dirs ++ [name]) = some e
  noDir : ¬ t.NamesDir (here ++ dirs) name

/-- Whether a path stands before another one in a listing, by their pieces: in each directory the
notes stand before the directories. -/
def Before : List String → List String → Prop
  | [a], [b] => a < b
  | [_], _ :: _ :: _ => True
  | a :: a' :: as, b :: b' :: bs => a < b ∨ a = b ∧ Before (a' :: as) (b' :: bs)
  | _, _ => False

variable {t : Tree} {here : Place} {dirs : List String} {cs : List (String × Entry)} {e : Entry}
  {dir name path : String}

/-! ## Which paths are listed -/

lemma leadsToDir_iff (hname : Path.IsName name) (hat : t.at? (here ++ [name]) = some e) :
    leadsToDir t here name e = true ↔ t.NamesDir here name := by
  cases e with
  | dir children => simp [leadsToDir, Tree.NamesDir, Tree.IsDirAt, hat]
  | file octets mtime =>
      simp only [leadsToDir, Bool.false_eq_true, false_iff]
      rintro (⟨children, hdir⟩ | ⟨place, hwalk, children, hdir⟩)
      · cases hat.symm.trans hdir
      · cases hwalk with
        | blank hblank => exact hblank.elim hname.ne_empty hname.ne_here
        | up => exact hname.ne_up rfl
        | dir _ hdir' =>
            obtain ⟨children', hdir'⟩ := hdir'
            cases hat.symm.trans hdir'
        | file => cases hat.symm.trans hdir
        | link _ hlink => cases hat.symm.trans hlink
  | link target =>
      have hnodir : ¬ t.IsDirAt (here ++ [name]) := by
        rintro ⟨children, hdir⟩
        cases hat.symm.trans hdir
      rw [Tree.NamesDir, or_iff_right hnodir, leadsToDir]
      simp only [← Tree.walk_iff]
      cases t.locateFrom true Tree.maxLinks here [name] with
      | error cause => simp
      | ok place =>
          simp only [Except.ok.injEq, exists_eq_left', Tree.IsDirAt]
          rcases t.at? place with _ | e
          · simp
          · cases e <;> simp [Entry.isDir]

lemma mem_noteNames : name ∈ noteNames t here cs ↔
    ∃ e, (name, e) ∈ cs ∧ isNoteName name = true ∧ leadsToDir t here name e = false := by
  rw [noteNames, List.mem_mergeSort]
  simp

/-- The directories that are entered, each with its notes. -/
lemma notesBelow_eq : notesBelow t here cs =
    (cs.filter fun (name, e) => e.isDir && !isHidden name).map fun (name, e) =>
      (name, notesIn t (here ++ [name]) e) := by
  induction cs with
  | nil => rw [notesBelow]; rfl
  | cons child rest ih =>
      obtain ⟨name, e⟩ := child
      rw [notesBelow, ih, List.filter_cons]
      dsimp only
      split <;> rfl

lemma mem_notesIn_dir : path ∈ notesIn t here (.dir cs) ↔
    path ∈ noteNames t here cs ∨
      ∃ name e, (name, e) ∈ cs ∧ e.isDir = true ∧ isHidden name = false ∧
        ∃ below ∈ notesIn t (here ++ [name]) e, path = name ++ "/" ++ below := by
  rw [notesIn, List.mem_append]
  refine or_congr_right ?_
  rw [List.mem_flatMap]
  constructor
  · rintro ⟨⟨name, paths⟩, hmem, hpath⟩
    rw [List.mem_mergeSort, notesBelow_eq] at hmem
    obtain ⟨⟨n, e⟩, hchild, heq⟩ := List.mem_map.mp hmem
    obtain ⟨rfl, rfl⟩ := Prod.mk.inj heq
    obtain ⟨below, hbelow, rfl⟩ := List.mem_map.mp hpath
    obtain ⟨hchild, hentered⟩ := List.mem_filter.mp hchild
    simp only [Bool.and_eq_true, Bool.not_eq_true'] at hentered
    exact ⟨n, e, hchild, hentered.1, hentered.2, below, hbelow, rfl⟩
  · rintro ⟨name, e, hchild, hdir, hhidden, below, hbelow, rfl⟩
    refine ⟨(name, notesIn t (here ++ [name]) e), ?_, List.mem_map_of_mem hbelow⟩
    rw [List.mem_mergeSort, notesBelow_eq]
    exact List.mem_map.mpr ⟨(name, e), List.mem_filter.mpr ⟨hchild, by simp [hdir, hhidden]⟩, rfl⟩

lemma leadsToNote_nil_iff : LeadsToNote t here [] name ↔
    t.IsDirAt here ∧ isNoteName name = true ∧ (∃ e, t.at? (here ++ [name]) = some e) ∧
      ¬ t.NamesDir here name := by
  constructor
  · rintro ⟨hdir, -, hnamed, hpresent, hnoDir⟩
    rw [List.append_nil] at hpresent hnoDir
    exact ⟨by simpa using hdir [] List.prefix_rfl, hnamed, hpresent, hnoDir⟩
  · rintro ⟨hdir, hnamed, hpresent, hnoDir⟩
    refine ⟨fun upper hupper => ?_, by simp, hnamed, by simpa using hpresent,
      by simpa using hnoDir⟩
    rw [List.prefix_nil.mp hupper, List.append_nil]
    exact hdir

lemma leadsToNote_cons_iff : LeadsToNote t here (dir :: dirs) name ↔
    t.IsDirAt here ∧ isHidden dir = false ∧ LeadsToNote t (here ++ [dir]) dirs name := by
  have hassoc : ∀ upper, here ++ dir :: upper = here ++ [dir] ++ upper := by simp
  constructor
  · rintro ⟨hdir, hvisible, hnamed, hpresent, hnoDir⟩
    rw [hassoc] at hpresent hnoDir
    refine ⟨by simpa using hdir [] List.nil_prefix, hvisible dir List.mem_cons_self,
      fun upper hupper => ?_, fun d hd => hvisible d (List.mem_cons_of_mem _ hd), hnamed, hpresent,
      hnoDir⟩
    rw [← hassoc]
    exact hdir _ (List.cons_prefix_cons.mpr ⟨rfl, hupper⟩)
  · rintro ⟨hhere, hhidden, hdir, hvisible, hnamed, hpresent, hnoDir⟩
    rw [← hassoc] at hpresent hnoDir
    refine ⟨fun upper hupper => ?_, List.forall_mem_cons.mpr ⟨hhidden, hvisible⟩, hnamed, hpresent,
      hnoDir⟩
    cases upper with
    | nil => simpa using hhere
    | cons d upper =>
        obtain ⟨rfl, hrest⟩ := List.cons_prefix_cons.mp hupper
        rw [hassoc]
        exact hdir upper hrest

/-- The children of a directory are what is one name below it. -/
lemma at?_concat_eq_some_iff (hat : t.at? here = some (.dir cs)) (hcs : Tree.WellNamed cs) :
    t.at? (here ++ [name]) = some e ↔ (name, e) ∈ cs := by
  rw [Tree.at?_append, hat, ← Tree.child?_eq_some_iff hcs.nodup]
  show Tree.at? cs [name] = some e ↔ _
  rw [Tree.at?]

/-- **What is listed** in a directory and below it is what leads to a note. -/
theorem mem_notesIn (hat : t.at? here = some (.dir cs)) (hcs : Tree.WellNamed cs) :
    path ∈ notesIn t here (.dir cs) ↔
      ∃ dirs name, path = "/".intercalate (dirs ++ [name]) ∧ LeadsToNote t here dirs name := by
  induction hcs generalizing here path with
  | @intro cs nodup names children ih =>
      have hcs : Tree.WellNamed cs := .intro nodup names children
      rw [mem_notesIn_dir]
      constructor
      · rintro (hnote | ⟨dir, e, hchild, hdir, hhidden, below, hbelow, rfl⟩)
        · obtain ⟨e, hchild, hnamed, hnoDir⟩ := mem_noteNames.mp hnote
          have he := (at?_concat_eq_some_iff hat hcs).mpr hchild
          refine ⟨[], path, (String.intercalate_singleton).symm, leadsToNote_nil_iff.mpr
            ⟨⟨cs, hat⟩, hnamed, ⟨e, he⟩, ?_⟩⟩
          rw [← leadsToDir_iff (hcs.isName hchild) he, hnoDir]
          exact Bool.false_ne_true
        · cases e with
          | dir below' =>
              have he := (at?_concat_eq_some_iff hat hcs).mpr hchild
              obtain ⟨dirs, name, rfl, hleads⟩ := (ih dir below' hchild he).mp hbelow
              refine ⟨dir :: dirs, name, ?_, leadsToNote_cons_iff.mpr ⟨⟨cs, hat⟩, hhidden, hleads⟩⟩
              obtain ⟨first, rest, hpieces⟩ := List.exists_cons_of_ne_nil
                (List.append_ne_nil_of_right_ne_nil dirs (List.cons_ne_nil name []))
              rw [List.cons_append, hpieces, String.intercalate_cons_cons]
          | file _ _ => exact absurd hdir Bool.false_ne_true
          | link _ => exact absurd hdir Bool.false_ne_true
      · rintro ⟨dirs, name, rfl, hleads⟩
        cases dirs with
        | nil =>
            obtain ⟨-, hnamed, ⟨e, he⟩, hnoDir⟩ := leadsToNote_nil_iff.mp hleads
            have hchild := (at?_concat_eq_some_iff hat hcs).mp he
            rw [← leadsToDir_iff (hcs.isName hchild) he, Bool.not_eq_true] at hnoDir
            rw [List.nil_append, String.intercalate_singleton]
            exact Or.inl (mem_noteNames.mpr ⟨e, hchild, hnamed, hnoDir⟩)
        | cons dir dirs =>
            obtain ⟨-, hhidden, hleads⟩ := leadsToNote_cons_iff.mp hleads
            obtain ⟨below, he⟩ : t.IsDirAt (here ++ [dir]) := by
              simpa using hleads.dir [] List.nil_prefix
            have hchild := (at?_concat_eq_some_iff hat hcs).mp he
            refine Or.inr ⟨dir, .dir below, hchild, rfl, hhidden, "/".intercalate (dirs ++ [name]),
              (ih dir below hchild he).mpr ⟨dirs, name, rfl, hleads⟩, ?_⟩
            obtain ⟨first, rest, hpieces⟩ := List.exists_cons_of_ne_nil
              (List.append_ne_nil_of_right_ne_nil dirs (List.cons_ne_nil name []))
            rw [List.cons_append, hpieces, String.intercalate_cons_cons]

/-! ## In which order -/

lemma before_asymm : ∀ {p q : List String}, Before p q → ¬ Before q p
  | [a], [b], h => String.lt_asymm h
  | [_], _ :: _ :: _, _ => id
  | a :: a' :: as, b :: b' :: bs, h => by
      rintro (hba | ⟨rfl, hrest⟩)
      · rcases h with hab | ⟨rfl, -⟩
        · exact String.lt_asymm hab hba
        · exact String.lt_irrefl a hba
      · exact before_asymm (h.resolve_left (String.lt_irrefl b) |>.2) hrest
  | [], _, h => h.elim
  | _ :: _ :: _, [], h => h.elim
  | _ :: _ :: _, [_], h => h.elim
  | [_], [], h => h.elim

/-- Whether a path stands before another one in a listing. -/
def Precedes (p q : String) : Prop :=
  Before (Path.pieces p) (Path.pieces q)

/-- **The order leaves no choice.** -/
lemma eq_of_pairwise_precedes {ps qs : List String} (hps : ps.Pairwise Precedes)
    (hqs : qs.Pairwise Precedes) (hmem : ∀ p, p ∈ ps ↔ p ∈ qs) : ps = qs := by
  have hne : ∀ {p q}, Precedes p q → p ≠ q := by
    rintro p q h rfl
    exact before_asymm h h
  have hperm : ps.Perm qs :=
    (List.perm_ext_iff_of_nodup (hps.imp hne) (hqs.imp hne)).mpr hmem
  exact hperm.eq_of_pairwise (fun p q _ _ hpq hqp => absurd hqp (before_asymm hpq)) hps hqs

/-- Things of different names are put in the strict order of their names. -/
lemma pairwise_lt_mergeSort {α : Type} (f : α → String) {l : List α} (h : (l.map f).Nodup) :
    (l.mergeSort fun a b => f a ≤ f b).Pairwise fun a b => f a < f b := by
  have hsorted : (l.mergeSort fun a b => f a ≤ f b).Pairwise fun a b => decide (f a ≤ f b) = true :=
    List.pairwise_mergeSort
      (fun a b c hab hbc => by
        simp only [decide_eq_true_eq] at hab hbc ⊢
        exact String.le_trans hab hbc)
      (fun a b => by simpa using String.le_total (f a) (f b)) l
  have hne : (l.mergeSort fun a b => f a ≤ f b).Pairwise fun a b => f a ≠ f b :=
    List.pairwise_map.mp (((l.mergeSort_perm _).map f).nodup_iff.mpr h)
  exact (hsorted.and hne).imp fun ⟨hle, hne⟩ => lt_of_le_of_ne (of_decide_eq_true hle) hne

lemma precedes_of_lt {a b : String} (ha : Path.IsName a) (hb : Path.IsName b) (h : a < b) :
    Precedes a b := by
  rw [Precedes, Path.pieces_of_isName ha, Path.pieces_of_isName hb]
  exact h

/-- A path in a directory has a piece more. -/
lemma exists_pieces_below (hdir : Path.IsName dir) (path : String) :
    ∃ first rest, Path.pieces path = first :: rest ∧
      Path.pieces (dir ++ "/" ++ path) = dir :: first :: rest := by
  obtain ⟨first, rest, hpieces⟩ := List.exists_cons_of_ne_nil
    (List.map_eq_nil_iff.not.mpr (Text.cut_ne_nil '/' path.toList))
  refine ⟨first, rest, hpieces, ?_⟩
  rw [Path.pieces_append_slash, Path.pieces_of_isName hdir, Path.pieces, hpieces]
  rfl

lemma pairwise_noteNames (t : Tree) (here : Place) (hcs : Tree.WellNamed cs) :
    (noteNames t here cs).Pairwise Precedes := by
  have hnodup : (((cs.filter fun (name, e) => isNoteName name && !leadsToDir t here name e).map
      (·.1)).map id).Nodup := by
    rw [List.map_id]
    exact hcs.nodup.sublist (List.filter_sublist.map _)
  refine List.Pairwise.imp_of_mem (fun {a b} ha hb hab => ?_) (pairwise_lt_mergeSort id hnodup)
  obtain ⟨_, hmema, -⟩ := mem_noteNames.mp ha
  obtain ⟨_, hmemb, -⟩ := mem_noteNames.mp hb
  exact precedes_of_lt (hcs.isName hmema) (hcs.isName hmemb) hab

/-- **The order of the listing** of a directory. -/
theorem pairwise_notesIn (t : Tree) (here : Place) (hcs : Tree.WellNamed cs) :
    (notesIn t here (.dir cs)).Pairwise Precedes := by
  induction hcs generalizing here with
  | @intro cs nodup names children ih =>
      have hcs : Tree.WellNamed cs := .intro nodup names children
      rw [notesIn]
      have hentered : ∀ entered ∈ (notesBelow t here cs).mergeSort fun a b => a.1 ≤ b.1,
          ∃ below, (entered.1, .dir below) ∈ cs ∧
            entered.2 = notesIn t (here ++ [entered.1]) (.dir below) := by
        intro entered hmem
        rw [List.mem_mergeSort, notesBelow_eq] at hmem
        obtain ⟨⟨name, e⟩, hchild, rfl⟩ := List.mem_map.mp hmem
        obtain ⟨hchild, hdir⟩ := List.mem_filter.mp hchild
        cases e with
        | dir below => exact ⟨below, hchild, rfl⟩
        | file _ _ => exact absurd hdir (by simp [Entry.isDir])
        | link _ => exact absurd hdir (by simp [Entry.isDir])
      have hnodup : ((notesBelow t here cs).map (·.1)).Nodup := by
        rw [notesBelow_eq, List.map_map]
        exact hcs.nodup.sublist (List.filter_sublist.map _)
      rw [List.pairwise_append]
      refine ⟨pairwise_noteNames t here hcs, List.pairwise_flatMap.mpr ⟨?_, ?_⟩, ?_⟩
      · -- within one directory
        intro entered hmem
        obtain ⟨below, hchild, hpaths⟩ := hentered entered hmem
        rw [List.pairwise_map, hpaths]
        refine (ih _ below hchild _).imp fun {p q} hpq => ?_
        obtain ⟨_, _, hp, hp'⟩ := exists_pieces_below (hcs.isName hchild) p
        obtain ⟨_, _, hq, hq'⟩ := exists_pieces_below (hcs.isName hchild) q
        rw [Precedes, hp, hq] at hpq
        rw [Precedes, hp', hq']
        exact Or.inr ⟨rfl, hpq⟩
      · -- between two directories
        refine (pairwise_lt_mergeSort Prod.fst hnodup).imp_of_mem ?_
        intro a b ha hb hab x hx y hy
        obtain ⟨_, hchilda, -⟩ := hentered a ha
        obtain ⟨_, hchildb, -⟩ := hentered b hb
        obtain ⟨p, -, rfl⟩ := List.mem_map.mp hx
        obtain ⟨q, -, rfl⟩ := List.mem_map.mp hy
        obtain ⟨_, _, -, hp⟩ := exists_pieces_below (hcs.isName hchilda) p
        obtain ⟨_, _, -, hq⟩ := exists_pieces_below (hcs.isName hchildb) q
        rw [Precedes, hp, hq]
        exact Or.inl hab
      · -- a note and a path further down
        intro x hx y hy
        obtain ⟨_, hnote, -⟩ := mem_noteNames.mp hx
        obtain ⟨entered, hmem, hy⟩ := List.mem_flatMap.mp hy
        obtain ⟨_, hchild, -⟩ := hentered entered hmem
        obtain ⟨q, -, rfl⟩ := List.mem_map.mp hy
        obtain ⟨_, _, -, hq⟩ := exists_pieces_below (hcs.isName hchild) q
        rw [Precedes, Path.pieces_of_isName (hcs.isName hnote), hq]
        trivial

end Vault

/-! ## The listing of a vault -/

open Vault

namespace Tree

variable {t t' : Tree} {here : Place} {dirs : List String} {name : String}

lemma NamesDir.mono (h : t.NamesDir here name) (ht : t.Extends t') : t'.NamesDir here name := by
  rcases h with hdir | ⟨place, hwalk, hdir⟩
  · exact Or.inl (ht.isDirAt hdir)
  · exact Or.inr ⟨place, hwalk.mono ht (Nat.le_refl _), ht.isDirAt hdir⟩

/-- What leads to a note does so in every tree that has entries of the same kinds. -/
lemma Extends.leadsToNote (h : LeadsToNote t here dirs name) (ht : t.Extends t')
    (ht' : t'.Extends t) : LeadsToNote t' here dirs name := by
  obtain ⟨e, he⟩ := h.present
  obtain ⟨e', he', -⟩ := ht _ e he
  exact ⟨fun upper hupper => ht.isDirAt (h.dir upper hupper), h.visible, h.named, ⟨e', he'⟩,
    fun hdir => h.noDir (hdir.mono ht')⟩

lemma Extends.locate {path : String} {place : Place} (ht : t.Extends t')
    (h : t.locate true path = .ok place) : t'.locate true path = .ok place := by
  obtain ⟨hne, hshort, hwalk⟩ := locate_eq_ok_iff.mp h
  exact locate_eq_ok_iff.mpr ⟨hne, hshort, hwalk.mono ht (Nat.le_refl _)⟩

end Tree

namespace Disk

variable {d : Disk} {vault : String}

/-- Whether a path leads to a note of a vault. -/
def Lists (d : Disk) (vault path : String) : Prop :=
  ∃ here dirs name, d.tree.locate true (d.vaultDir vault) = .ok here ∧
    path = "/".intercalate (dirs ++ [name]) ∧ LeadsToNote d.tree here dirs name

lemma Lists.of_extends {path : String} {tree : Tree} (h : d.Lists vault path)
    (ht : d.tree.Extends tree) (ht' : tree.Extends d.tree) :
    Disk.Lists { d with tree } vault path := by
  obtain ⟨here, dirs, name, hhere, hpath, hleads⟩ := h
  exact ⟨here, dirs, name, ht.locate hhere, hpath, ht.leadsToNote hleads ht'⟩

/-- What the listing holds, and in which order. -/
lemma exists_notePaths (hzero : '\x00' ∉ (d.vaultDir vault).toList) (hnames : d.tree.WellNamed) :
    ∃ paths, d.notePaths vault = .ok paths ∧ paths.Pairwise Precedes ∧
      ∀ path, path ∈ paths ↔ d.Lists vault path := by
  -- Where no directory is reached, nothing leads to a note.
  have hnone : (∀ place children, d.tree.locate true (d.vaultDir vault) = .ok place →
      d.tree.at? place ≠ some (.dir children)) →
      ∀ path, path ∈ ([] : List String) ↔ d.Lists vault path := by
    intro hnodir path
    simp only [List.not_mem_nil, false_iff]
    rintro ⟨place, dirs, name, hplace, -, hleads⟩
    obtain ⟨children, hdir⟩ := hleads.dir [] List.nil_prefix
    rw [List.append_nil] at hdir
    exact hnodir place children hplace hdir
  rw [notePaths, if_neg (by simpa using hzero)]
  rcases hlocate : d.tree.locate true (d.vaultDir vault) with cause | here
  · refine ⟨[], rfl, .nil, hnone fun place children hplace => ?_⟩
    cases hlocate.symm.trans hplace
  · have hhere : ∀ {place}, d.tree.locate true (d.vaultDir vault) = .ok place → place = here :=
      fun hplace => Except.ok.inj (hplace.symm.trans hlocate)
    dsimp only
    rcases hat : d.tree.at? here with _ | ⟨octets, mtime⟩ | target | children <;> dsimp only
    · refine ⟨[], rfl, .nil, hnone fun place children hplace => ?_⟩
      rw [hhere hplace, hat]
      simp
    · refine ⟨[], by rw [notesIn], .nil, hnone fun place children hplace => ?_⟩
      rw [hhere hplace, hat]
      simp
    · refine ⟨[], by rw [notesIn], .nil, hnone fun place children hplace => ?_⟩
      rw [hhere hplace, hat]
      simp
    · have hchildren := hnames.at? hat
      refine ⟨_, rfl, pairwise_notesIn d.tree here hchildren, fun path => ?_⟩
      rw [mem_notesIn hat hchildren]
      constructor
      · rintro ⟨dirs, name, hpath, hleads⟩
        exact ⟨here, dirs, name, hlocate, hpath, hleads⟩
      · rintro ⟨place, dirs, name, hplace, hpath, hleads⟩
        rw [hhere hplace] at hleads
        exact ⟨dirs, name, hpath, hleads⟩

/-- A vault with a note in a directory and one in a hidden directory, and with links to a directory, to
nothing and to themselves. -/
def linkedNotes : List (String × Entry) :=
  [("loop.md", .link "loop.md"), ("sub", .dir [("a.md", .file [] 1)]), ("dir.md", .link "sub"),
    (".x", .dir [("b.md", .file [] 1)]), ("gone.md", .link "nowhere")]

/-- The disk that holds this vault. -/
def linkedNotesDisk : Disk where
  tree := [("v", .dir linkedNotes)]
  defaultVault := "/v"
  settingsFile := "/s"

lemma wellNamed_linkedNotes : linkedNotesDisk.tree.WellNamed := by
  have hsub : Tree.WellNamed [("a.md", .file [] 1)] :=
    Tree.wellNamed_of_isDir_eq_false (by decide) (by decide +kernel) (by decide)
  have hhidden : Tree.WellNamed [("b.md", .file [] 1)] :=
    Tree.wellNamed_of_isDir_eq_false (by decide) (by decide +kernel) (by decide)
  have hnotes : Tree.WellNamed linkedNotes := by
    refine .intro (by decide) (by decide +kernel) fun name cs hmem => ?_
    simp only [linkedNotes, List.mem_cons, Prod.mk.injEq, Entry.dir.injEq, reduceCtorEq, and_false,
      false_or, or_false, List.not_mem_nil] at hmem
    rcases hmem with ⟨-, rfl⟩ | ⟨-, rfl⟩
    · exact hsub
    · exact hhidden
  refine .intro (by decide) (by decide +kernel) fun name cs hmem => ?_
  obtain ⟨-, hcs⟩ := Prod.mk.inj (List.mem_singleton.mp hmem)
  rw [Entry.dir.inj hcs]
  exact hnotes

end Disk

end NoteCheck
