/-
  Routes: lists of names that lead down from a directory, read off the file system alone. A
  route goes on through entries that lead to directories, but by no link back to a directory
  that it has been in (`Descends`), and it may end at an entry that leads to a file
  (`FileRoute`) or at one whose path cannot be followed (`Unseen`). A tour takes every route
  that has no fault on it (`tour_of_clear`). Its files and faults stand at the ends of routes,
  and they come in the order of the bytes of the names (`marks_of_tour`).
-/
import Mathlib.Data.List.Lex
import SourceTidy.Proofs.Glance
import SourceTidy.Proofs.Utf8

namespace SourceTidy

open FileSystem

namespace Path

/-! ## Paths of routes -/

/-- The path that leads down from a directory by some names. -/
def descend (root : String) (names : List String) : String := names.foldl join root

theorem descend_concat (root : String) (ns : List String) (n : String) :
    descend root (ns ++ [n]) = join (descend root ns) n := by
  simp [descend]

theorem descend_ne_empty {root : String} (hne : root ≠ "") (ns : List String) :
    descend root ns ≠ "" := by
  induction ns generalizing root with
  | nil => exact hne
  | cons n ns ih => exact ih (join_ne_empty n hne)

theorem getLast?_of_isName {s n : String} (hn : isName n = true) :
    (s ++ n).toList.getLast? ≠ some '/' := by
  obtain ⟨hne, -, -, hslash, -⟩ := isName_iff.1 hn
  have hl : n.toList ≠ [] := by simpa using hne
  rw [String.toList_append, List.getLast?_append_of_ne_nil _ hl]
  intro h
  exact hslash (List.mem_of_getLast? h)

theorem getLast?_join {dir n : String} (hne : dir ≠ "") (hn : isName n = true) :
    (join dir n).toList.getLast? ≠ some '/' := by
  by_cases h : dir.toList.getLast? = some '/'
  · rw [join_of_slash n h]
    exact getLast?_of_isName hn
  · rw [join_of_not_slash n hne h]
    exact getLast?_of_isName hn

theorem parts_descend_of_not_slash {dir : String} {ns : List String} (hne : dir ≠ "")
    (h : dir.toList.getLast? ≠ some '/') (hns : ∀ n ∈ ns, isName n = true) :
    parts (descend dir ns) = parts dir ++ ns := by
  induction ns generalizing dir with
  | nil => simp [descend]
  | cons n ns ih =>
    have hn := hns n (List.mem_cons_self ..)
    show parts (descend (join dir n) ns) = _
    have hrest : ∀ m ∈ ns, isName m = true := fun m hm => hns m (List.mem_cons_of_mem _ hm)
    rw [ih (join_ne_empty n hne) (getLast?_join hne hn) hrest, join_of_not_slash n hne h,
      parts_append_slash, parts_of_isName hn]
    simp

/-- The names of a route can be read off its path. -/
theorem descend_inj {dir : String} {ns ms : List String} (hne : dir ≠ "") (hns : ns ≠ [])
    (hms : ms ≠ []) (hn : ∀ n ∈ ns, isName n = true) (hm : ∀ m ∈ ms, isName m = true)
    (h : descend dir ns = descend dir ms) : ns = ms := by
  obtain ⟨ps, -, hps⟩ := parts_join hne
  have hparts : ∀ ns : List String, ns ≠ [] → (∀ n ∈ ns, isName n = true) →
      parts (descend dir ns) = ps ++ ns := by
    intro ns hns hn
    cases ns with
    | nil => exact absurd rfl hns
    | cons n ns =>
      have hname := hn n (List.mem_cons_self ..)
      show parts (descend (join dir n) ns) = _
      rw [parts_descend_of_not_slash (join_ne_empty n hne) (getLast?_join hne hname)
        fun m hm => hn m (List.mem_cons_of_mem _ hm), hps n hname]
      simp
  have hp := congrArg parts h
  rw [hparts ns hns hn, hparts ms hms hm] at hp
  exact List.append_cancel_left hp

/-! ## Extensions -/

theorem split_toList (p : String) : split p.toList = (parts p).map String.toList := by
  simp [parts, Function.comp_def]

theorem fileName?_of_parts {p name : String} {ps : List String} (hn : isName name = true)
    (h : parts p = ps ++ [name]) : fileName? p.toList = some name.toList := by
  obtain ⟨hne, hpoint, htwo, -, -⟩ := isName_iff.1 hn
  have hlast : (named p.toList).getLast? = some name.toList := by
    unfold named
    rw [split_toList, h, List.map_append, List.filter_append, List.map_singleton,
      List.filter_singleton]
    have hkeep : (decide (name.toList ≠ []) && decide (name.toList ≠ ['.'])) = true := by
      rw [Bool.and_eq_true, decide_eq_true_iff, decide_eq_true_iff]
      exact ⟨by simpa using hne, fun h => hpoint (String.toList_inj.1 h)⟩
    rw [hkeep]
    simp
  unfold fileName?
  rw [hlast]
  have hup : name.toList ≠ ['.', '.'] := fun h => htwo (String.toList_inj.1 h)
  simp [hup]

/-- What a path leads through has no say in its extension. -/
theorem hasExtension_join {dir name : String} (hne : dir ≠ "") (hn : isName name = true)
    (ext : String) : hasExtension (join dir name) ext = hasExtension name ext := by
  obtain ⟨ps, -, hps⟩ := parts_join hne
  have hname : parts name = [] ++ [name] := parts_of_isName hn
  unfold hasExtension extension?
  rw [fileName?_of_parts hn (hps name hn), fileName?_of_parts hn hname]

end Path

namespace Walk

variable (fs : FileSystem) (top : Location)

/-! ## Routes -/

/-- The names lead down from `top`, through the given directories, the last one first. A name
    may stand for a link, but not to a directory that the route has been in before. -/
inductive Descends : List String → List Location → Prop where
  | top : Descends [] [top]
  | enter {ns : List String} {name : String} {here l : Location} {above : List Location} :
      Descends ns (here :: above) → fs.Leads here name l → fs.node? l = some .directory →
      (fs.IsLink here name → l ∉ here :: above) →
      Descends (ns ++ [name]) (l :: here :: above)

/-- The names lead down from `top` to a directory, and the last one to a file. -/
inductive FileRoute : List String → Prop where
  | file {ns : List String} {name : String} {here l : Location} {above : List Location}
      {content : Text.Bytes} :
      Descends fs top ns (here :: above) → fs.Leads here name l →
      fs.node? l = some (.file content) → FileRoute (ns ++ [name])

/-- The names are a route and then an entry, a directory or a link, and the path that they
    make from the root cannot be followed, for the reason `e`. -/
inductive Unseen (fs : FileSystem) (home top : Location) (root : String) :
    List String → FileError → Prop where
  | entry {ns : List String} {name : String} {here : Location} {above : List Location}
      {e : FileError} :
      Descends fs top ns (here :: above) →
      fs.node? (here ++ [name]) = some .directory ∨ fs.IsLink here name →
      fs.resolve home (Path.descend root (ns ++ [name])) = .error e →
      Unseen fs home top root (ns ++ [name]) e

/-- One name comes before another by its bytes. -/
def NameLt (m n : String) : Prop := Text.Utf8.ofString m < Text.Utf8.ofString n

/-- Routes are ordered by their first names that differ. -/
def RouteLt : List String → List String → Prop := List.Lex NameLt

variable {fs top}

theorem isName_of_leads {dir l : Location} {name : String} (h : fs.Leads dir name l) :
    isName name = true := by
  obtain ⟨node, hnode⟩ := Option.isSome_iff_exists.1 h.1
  exact isName_of_node? hnode

theorem isName_of_descends {ns : List String} {ls : List Location} (h : Descends fs top ns ls) :
    ∀ n ∈ ns, isName n = true := by
  induction h with
  | top => intro n hn; cases hn
  | enter _ hl _ _ ih =>
    intro n hn
    rcases List.mem_append.1 hn with hn | hn
    · exact ih n hn
    · rw [List.mem_singleton.1 hn]
      exact isName_of_leads hl

theorem isName_of_fileRoute {ns : List String} (h : FileRoute fs top ns) :
    ∀ n ∈ ns, isName n = true := by
  cases h with
  | file hd hl _ =>
    intro n hn
    rcases List.mem_append.1 hn with hn | hn
    · exact isName_of_descends hd n hn
    · rw [List.mem_singleton.1 hn]
      exact isName_of_leads hl

theorem fileRoute_ne_nil {ns : List String} (h : FileRoute fs top ns) : ns ≠ [] := by
  cases h
  simp

theorem fileRoute_unique {root : String} (hne : root ≠ "") {ns ms : List String}
    (hns : FileRoute fs top ns) (hms : FileRoute fs top ms)
    (h : Path.descend root ns = Path.descend root ms) : ns = ms :=
  Path.descend_inj hne (fileRoute_ne_nil hns) (fileRoute_ne_nil hms) (isName_of_fileRoute hns)
    (isName_of_fileRoute hms) h

variable {home : Location} {root : String}

theorem ne_nil_of_unseen {ns : List String} {e : FileError}
    (h : Unseen fs home top root ns e) : ns ≠ [] := by
  cases h
  simp

theorem isName_of_unseen {ns : List String} {e : FileError} (h : Unseen fs home top root ns e) :
    ∀ n ∈ ns, isName n = true := by
  cases h with
  | @entry ns name here above _ hd hentry _ =>
    intro n hn
    rcases List.mem_append.1 hn with hn | hn
    · exact isName_of_descends hd n hn
    · rw [List.mem_singleton.1 hn]
      rcases hentry with hdir | ⟨target, hlink⟩
      · exact isName_of_node? hdir
      · exact isName_of_node? hlink

/-! ## Every route is taken -/

/-- The items hold no fault at an entry that the names come through, the last one included. -/
def Clear (root : String) (items : List Item) (ns : List String) : Prop :=
  ∀ ms e, ms ≠ [] → ms <+: ns → Item.fault (.walk root (Path.descend root ms) e) ∉ items

theorem clear_of_smooth {items : List Item} (hs : Smooth items) (ns : List String) :
    Clear root items ns :=
  fun _ _ _ _ => hs _

theorem Clear.of_start {items : List Item} {ns ms : List String} (h : Clear root items ns)
    (hms : ms <+: ns) : Clear root items ms :=
  fun ks e hne hks => h ks e hne (hks.trans hms)

theorem exists_of_not_clear {items : List Item} {ns : List String}
    (h : ¬Clear root items ns) : ∃ ms e, ms ≠ [] ∧ ms <+: ns ∧
      Item.fault (.walk root (Path.descend root ms) e) ∈ items := by
  by_contra hno
  exact h fun ms e hne hpre hmem => hno ⟨ms, e, hne, hpre, hmem⟩

/-- A fault at an entry is told with the path of the entry. -/
theorem fault_of_glance {as : List Ancestor} {path : String} {n : Node} {f : Failure}
    (h : glance fs home root as path n = some (.fault f)) :
    ∃ e, e ≠ .notFound ∧ fs.resolve home path = .error e ∧ (∃ target, n = .link target) ∧
      f = .walk root path e := by
  cases n with
  | file content => cases h
  | directory => cases h
  | device => cases h
  | link target =>
    simp only [glance] at h
    cases hres : fs.resolve home path with
    | error e =>
      simp only [hres, Option.some.injEq, Item.unseen] at h
      split at h
      · cases h
      · next he =>
        cases h
        exact ⟨e, he, rfl, ⟨target, rfl⟩, rfl⟩
    | ok l =>
      simp only [hres] at h
      split at h
      · cases h
      · cases hf : as.find? (·.place = l) <;> simp [hf] at h
      · cases h

theorem mem_of_glance_some {as : List Ancestor} {dir name : String} {n : Node} {item : Item}
    {listing : List (String × Node)} {items : List Item}
    (h : Tour fs home root (.rest as dir listing) items) (hmem : (name, n) ∈ listing)
    (hg : glance fs home root as (Path.join dir name) n = some item) : item ∈ items := by
  induction listing generalizing items with
  | nil => cases hmem
  | cons e listing ih =>
    rcases List.mem_cons.1 hmem with rfl | hmem'
    · cases h with
      | passed hg' _ =>
        rw [hg] at hg'
        cases hg'
        exact List.mem_cons_self ..
      | entered hg' _ _ =>
        rw [hg] at hg'
        cases hg'
    · cases h with
      | passed _ hrest => exact List.mem_cons_of_mem _ (ih hrest hmem')
      | entered _ _ hrest => exact List.mem_append_right _ (ih hrest hmem')

theorem mem_files {path : String} {items : List Item} (hs : Smooth items) :
    path ∈ files items ↔ Item.file path ∈ items := by
  induction items with
  | nil => simp [files]
  | cons x xs ih =>
    obtain ⟨hx, hxs⟩ := smooth_cons.1 hs
    cases x with
    | fault f => exact absurd rfl (hx f)
    | _ => simp [files, ih hxs]

/-- Where a walk goes into an entry, the tour of what is below is part of the whole. -/
theorem exists_below {as : List Ancestor} {dir name : String} {n : Node}
    {listing : List (String × Node)} {items : List Item}
    (h : Tour fs home root (.rest as dir listing) items) (hmem : (name, n) ∈ listing)
    (hg : glance fs home root as (Path.join dir name) n = none) :
    ∃ below, Tour fs home root (.enter as (Path.join dir name)) below ∧ below ⊆ items := by
  induction listing generalizing items with
  | nil => cases hmem
  | cons e listing ih =>
    rcases List.mem_cons.1 hmem with rfl | hmem'
    · cases h with
      | passed hg' _ =>
        rw [hg] at hg'
        cases hg'
      | entered _ hbelow _ => exact ⟨_, hbelow, List.subset_append_left _ _⟩
    · cases h with
      | passed _ hrest =>
        obtain ⟨below, hbelow, hsub⟩ := ih hrest hmem'
        exact ⟨below, hbelow, List.subset_cons_of_subset _ hsub⟩
      | entered _ _ hrest =>
        obtain ⟨below, hbelow, hsub⟩ := ih hrest hmem'
        exact ⟨below, hbelow, List.subset_append_of_subset_right _ hsub⟩

/-- A tour of a directory that its path leads to goes on with its entries. -/
theorem rest_of_enter {as : List Ancestor} {path : String} {here : Location} {items : List Item}
    (h : Tour fs home root (.enter as path) items) (hres : fs.resolve home path = .ok here)
    (hdir : fs.node? here = some .directory) :
    ∃ items', items = .other path :: items' ∧
      Tour fs home root (.rest (⟨path, here⟩ :: as) path (fs.listing here)) items' := by
  have hopen := openDirectory_eq_ok.2 ⟨hres, hdir, rfl⟩
  cases h with
  | shut hopen' =>
    rw [hopen] at hopen'
    cases hopen'
  | opened hopen' hrest =>
    rw [hopen] at hopen'
    cases hopen'
    exact ⟨_, rfl, hrest⟩

theorem descends_directory {ns : List String} {here : Location} {above : List Location}
    (htop : fs.node? top = some .directory) (h : Descends fs top ns (here :: above)) :
    fs.node? here = some .directory := by
  cases h with
  | top => exact htop
  | enter _ _ hl _ => exact hl

section Taken

variable {items : List Item} (h : Tour fs home root (.enter [] root) items)
  (hres : fs.resolve home root = .ok top) (htop : fs.node? top = some .directory)
include h hres htop

/-- A tour goes down every route that has no fault on it, and the path by which it does so leads
    to the end of the route. -/
theorem tour_of_clear {ns : List String} {ls : List Location} (hd : Descends fs top ns ls)
    (hclear : Clear root items ns) :
    ∃ as here items', ls = here :: stack as ∧
      Tour fs home root (.enter as (Path.descend root ns)) items' ∧ items' ⊆ items ∧
      fs.resolve home (Path.descend root ns) = .ok here := by
  induction hd with
  | top => exact ⟨[], top, items, rfl, h, List.Subset.refl _, hres⟩
  | @enter ns name here l above hd hleads hld hback ih =>
    obtain ⟨as, here', items', hls, htour, hsub, hres'⟩ :=
      ih (hclear.of_start (List.prefix_append ns [name]))
    obtain ⟨rfl, rfl⟩ := List.cons.inj hls
    have hdir := descends_directory htop hd
    obtain ⟨rest, rfl, hrest⟩ := rest_of_enter htour hres' hdir
    obtain ⟨k, harr⟩ := resolve_eq_ok.1 hres'
    obtain ⟨n, hn⟩ := Option.isSome_iff_exists.1 hleads.1
    have hmem : (name, n) ∈ fs.listing here := mem_listing.2 hn
    have hnone : ∀ e, Item.fault (.walk root (Path.join (Path.descend root ns) name) e) ∉
        items := by
      intro e
      have hlast := hclear (ns ++ [name]) e (by simp) (List.prefix_refl _)
      rwa [Path.descend_concat] at hlast
    have hfault : ∀ f, glance fs home root (⟨Path.descend root ns, here⟩ :: as)
        (Path.join (Path.descend root ns) name) n ≠ some (.fault f) := by
      intro f hf
      obtain ⟨e, -, -, -, rfl⟩ := fault_of_glance hf
      exact hnone e (hsub (List.mem_cons_of_mem _ (mem_of_glance_some hrest hmem hf)))
    obtain ⟨hg, hjoin⟩ := glance_of_leads_directory harr hdir hn hleads hld hfault hback
    obtain ⟨below, hbelow, hbsub⟩ := exists_below hrest hmem hg
    rw [Path.descend_concat]
    refine ⟨⟨Path.descend root ns, here⟩ :: as, l, below, rfl, hbelow,
      fun x hx => hsub (List.mem_cons_of_mem _ (hbsub hx)), ?_⟩
    rcases hjoin with hjoin | ⟨e, he, hjoin⟩
    · exact hjoin
    · -- A path past a limit would have been a fault of the tour below.
      exfalso
      cases hbelow with
      | shut hopen =>
        unfold openDirectory at hopen
        rw [hjoin] at hopen
        cases hopen
        exact hnone e (hsub (List.mem_cons_of_mem _ (hbsub (by simp [unseen_eq_fault he]))))
      | opened hopen _ =>
        rw [(openDirectory_eq_ok.1 hopen).1] at hjoin
        cases hjoin

/-- The file at the end of such a route is met. -/
theorem mem_of_fileRoute {ns : List String} (hr : FileRoute fs top ns)
    (hclear : Clear root items ns) : Item.file (Path.descend root ns) ∈ items := by
  cases hr with
  | @file ns name here l above content hd hleads hfile =>
    obtain ⟨as, here', items', hls, htour, hsub, hres'⟩ :=
      tour_of_clear h hres htop hd (hclear.of_start (List.prefix_append ns [name]))
    obtain ⟨rfl, rfl⟩ := List.cons.inj hls
    have hdir := descends_directory htop hd
    obtain ⟨rest, rfl, hrest⟩ := rest_of_enter htour hres' hdir
    obtain ⟨k, harr⟩ := resolve_eq_ok.1 hres'
    obtain ⟨n, hn⟩ := Option.isSome_iff_exists.1 hleads.1
    have hmem : (name, n) ∈ fs.listing here := mem_listing.2 hn
    have hfault : ∀ f, glance fs home root (⟨Path.descend root ns, here⟩ :: as)
        (Path.join (Path.descend root ns) name) n ≠ some (.fault f) := by
      intro f hf
      have hin := hsub (List.mem_cons_of_mem _ (mem_of_glance_some hrest hmem hf))
      obtain ⟨e, -, -, -, rfl⟩ := fault_of_glance hf
      rw [← Path.descend_concat] at hin
      exact hclear _ e (by simp) (List.prefix_refl _) hin
    have hg := glance_of_leads_file harr hdir hn hleads hfile hfault
    rw [Path.descend_concat]
    exact hsub (List.mem_cons_of_mem _ (mem_of_glance_some hrest hmem hg))

/-- And so is an entry that is not seen, if there is no fault on the way to it. -/
theorem mem_of_unseen {ns : List String} {e : FileError} (hu : Unseen fs home top root ns e)
    (hclear : Clear root items ns.dropLast) :
    Item.unseen root (Path.descend root ns) e ∈ items := by
  cases hu with
  | @entry ns name here above _ hd hentry herr =>
    rw [List.dropLast_concat] at hclear
    obtain ⟨as, here', items', hls, htour, hsub, hres'⟩ := tour_of_clear h hres htop hd hclear
    obtain ⟨rfl, rfl⟩ := List.cons.inj hls
    obtain ⟨rest, rfl, hrest⟩ := rest_of_enter htour hres' (descends_directory htop hd)
    rw [Path.descend_concat] at herr ⊢
    refine hsub (List.mem_cons_of_mem _ ?_)
    rcases hentry with hdir | ⟨target, hlink⟩
    · obtain ⟨below, hbelow, hbsub⟩ := exists_below hrest (mem_listing.2 hdir) rfl
      cases hbelow with
      | shut hopen =>
        unfold openDirectory at hopen
        rw [herr] at hopen
        cases hopen
        exact hbsub (by simp)
      | opened hopen _ =>
        rw [(openDirectory_eq_ok.1 hopen).1] at herr
        cases herr
    · have hg : glance fs home root (⟨Path.descend root ns, here⟩ :: as)
          (Path.join (Path.descend root ns) name) (.link target) =
          some (.unseen root (Path.join (Path.descend root ns) name) e) := by
        simp only [glance, herr]
      exact mem_of_glance_some hrest (mem_listing.2 hlink) hg

end Taken

/-- A smooth tour goes down every route, and the path by which it does so leads to the end of
    the route. -/
theorem tour_of_descends {items : List Item} (h : Tour fs home root (.enter [] root) items)
    (hs : Smooth items) (hres : fs.resolve home root = .ok top)
    (htop : fs.node? top = some .directory) {ns : List String} {ls : List Location}
    (hd : Descends fs top ns ls) :
    ∃ as here items', ls = here :: stack as ∧
      Tour fs home root (.enter as (Path.descend root ns)) items' ∧ items' ⊆ items ∧
      fs.resolve home (Path.descend root ns) = .ok here :=
  tour_of_clear h hres htop hd (clear_of_smooth hs ns)

theorem mem_files_of_fileRoute {items : List Item}
    (h : Tour fs home root (.enter [] root) items) (hs : Smooth items)
    (hres : fs.resolve home root = .ok top) (htop : fs.node? top = some .directory)
    {ns : List String} (hr : FileRoute fs top ns) : Path.descend root ns ∈ files items :=
  (mem_files hs).2 (mem_of_fileRoute h hres htop hr (clear_of_smooth hs ns))

/-! ## No other route is taken, and in which order -/

/-- What stands at the end of a route: the file that it leads to, or an entry that is not seen
    although something is there. -/
inductive Stands (fs : FileSystem) (home top : Location) (root : String) :
    List String → Item → Prop where
  | file {ns : List String} :
      FileRoute fs top ns → Stands fs home top root ns (.file (Path.descend root ns))
  | fault {ns : List String} {e : FileError} :
      Unseen fs home top root ns e → e ≠ .notFound →
      Stands fs home top root ns (.fault (.walk root (Path.descend root ns) e))

/-- Whether an item is a file or a fault. -/
def Item.isMarked : Item → Bool
  | .file _ | .fault _ => true
  | .other _ | .skipped _ => false

/-- The files and faults of the items stand at the ends of routes, and these come in their
    order. -/
structure Marked (fs : FileSystem) (home top : Location) (root : String) (items : List Item)
    (marks : List (List String × Item)) : Prop where
  items : items.filter Item.isMarked = marks.map Prod.snd
  stands : ∀ m ∈ marks, Stands fs home top root m.1 m.2
  ordered : marks.Pairwise fun m m' => RouteLt m.1 m'.1

/-- What is to be shown of the tour of a task, given the route that has led to it: its items are
    marked with routes that go on from there, through the names of the listing if one is left. -/
def TaskMarked (fs : FileSystem) (home top : Location) (root : String) :
    Task → List Item → Prop
  | .enter as path, items => ∀ (ns : List String) (here : Location),
      Descends fs top ns (here :: stack as) → path = Path.descend root ns →
      (∀ l, fs.resolve home path = .ok l → l = here) →
      (∀ e, fs.resolve home path = .error e → Unseen fs home top root ns e) →
      ∃ marks, Marked fs home top root items marks ∧ ∀ m ∈ marks, ns <+: m.1
  | .rest as dir listing, items => ∀ (ns : List String) (here : Location)
      (above : List Location), stack as = here :: above →
      Descends fs top ns (here :: above) → dir = Path.descend root ns →
      fs.resolve home dir = .ok here → listing.Sublist (fs.listing here) →
      ∃ marks, Marked fs home top root items marks ∧
        ∀ m ∈ marks, ∃ e ∈ listing, ns ++ [e.1] <+: m.1

theorem marked_nil {items : List Item} (h : items.filter Item.isMarked = []) :
    Marked fs home top root items [] :=
  ⟨h, fun _ hm => (by cases hm), List.Pairwise.nil⟩

theorem marked_singleton {item : Item} {ns : List String} (h : Stands fs home top root ns item) :
    Marked fs home top root [item] [(ns, item)] := by
  refine ⟨?_, List.forall_mem_singleton.2 h, List.pairwise_singleton _ _⟩
  cases h <;> rfl

/-- A name that comes first in a sorted listing comes before every route of the others. -/
theorem routeLt_of_head {name : String} {n : Node} {listing : List (String × Node)}
    {here : Location} (hsub : ((name, n) :: listing).Sublist (fs.listing here))
    {ns ms ms' : List String} (hms : ns ++ [name] <+: ms)
    (hms' : ∃ e ∈ listing, ns ++ [e.1] <+: ms') : RouteLt ms ms' := by
  obtain ⟨e, he, hms'⟩ := hms'
  have hsorted := (listing_sorted fs here).sublist hsub
  rw [List.pairwise_cons] at hsorted
  have hlt : NameLt name e.1 := Text.Utf8.ofString_lt (hsorted.1 e he)
  obtain ⟨rest, rfl⟩ := hms
  obtain ⟨rest', rfl⟩ := hms'
  rw [List.append_assoc, List.append_assoc]
  exact List.Lex.append_left NameLt (List.Lex.rel hlt) ns

/-- The marks through one entry come before those through the entries behind it. -/
theorem marked_append {name : String} {n : Node} {listing : List (String × Node)}
    {here : Location} {ns : List String} {xs ys : List Item}
    {inner marks : List (List String × Item)}
    (hsub : ((name, n) :: listing).Sublist (fs.listing here))
    (hinner : Marked fs home top root xs inner) (hfront : ∀ m ∈ inner, ns ++ [name] <+: m.1)
    (hmarks : Marked fs home top root ys marks)
    (hhead : ∀ m ∈ marks, ∃ e ∈ listing, ns ++ [e.1] <+: m.1) :
    ∃ marks', Marked fs home top root (xs ++ ys) marks' ∧
      ∀ m ∈ marks', ∃ e ∈ (name, n) :: listing, ns ++ [e.1] <+: m.1 := by
  refine ⟨inner ++ marks, ⟨?_, ?_, ?_⟩, ?_⟩
  · rw [List.filter_append, hinner.items, hmarks.items, List.map_append]
  · exact List.forall_mem_append.2 ⟨hinner.stands, hmarks.stands⟩
  · exact List.pairwise_append.2 ⟨hinner.ordered, hmarks.ordered, fun m hm m' hm' =>
      routeLt_of_head hsub (hfront m hm) (hhead m' hm')⟩
  · refine List.forall_mem_append.2 ⟨fun m hm => ?_, fun m hm => ?_⟩
    · exact ⟨(name, n), List.mem_cons_self .., hfront m hm⟩
    · obtain ⟨e, he, hm⟩ := hhead m hm
      exact ⟨e, List.mem_cons_of_mem _ he, hm⟩

/-- An entry that cannot be looked at is marked if there is something. -/
theorem exists_marked_unseen {ns : List String} {e : FileError}
    (hu : Unseen fs home top root ns e) :
    ∃ marks, Marked fs home top root [.unseen root (Path.descend root ns) e] marks ∧
      ∀ m ∈ marks, ns <+: m.1 := by
  by_cases he : e = .notFound
  · exact ⟨[], marked_nil (by simp [Item.unseen, he, Item.isMarked]), nofun⟩
  · rw [unseen_eq_fault he]
    exact ⟨_, marked_singleton (.fault hu he),
      List.forall_mem_singleton.2 (List.prefix_refl ns)⟩

/-- One entry that is not gone into. -/
theorem exists_marked_glance {as : List Ancestor} {ns : List String} {name : String}
    {here : Location} {above : List Location} {n : Node} {item : Item}
    (htop : fs.node? top = some .directory) (hd : Descends fs top ns (here :: above))
    (hres : fs.resolve home (Path.descend root ns) = .ok here)
    (hn : fs.node? (here ++ [name]) = some n)
    (hg : glance fs home root as (Path.join (Path.descend root ns) name) n = some item) :
    ∃ marks, Marked fs home top root [item] marks ∧ ∀ m ∈ marks, ns ++ [name] <+: m.1 := by
  cases item with
  | file path =>
    obtain ⟨k, harr⟩ := resolve_eq_ok.1 hres
    obtain ⟨rfl, l, content, hleads, hfile⟩ :=
      leads_of_glance_file harr (descends_directory htop hd) hn hg
    rw [← Path.descend_concat]
    exact ⟨_, marked_singleton (.file (.file hd hleads hfile)),
      List.forall_mem_singleton.2 (List.prefix_refl _)⟩
  | other path => exact ⟨[], marked_nil rfl, nofun⟩
  | skipped note => exact ⟨[], marked_nil rfl, nofun⟩
  | fault f =>
    obtain ⟨e, he, herr, ⟨target, rfl⟩, rfl⟩ := fault_of_glance hg
    rw [← Path.descend_concat] at herr ⊢
    exact ⟨_, marked_singleton (.fault (.entry hd (Or.inr ⟨target, hn⟩) herr) he),
      List.forall_mem_singleton.2 (List.prefix_refl _)⟩

/-- Only directories and links are gone into. -/
theorem directory_or_link_of_glance_none {as : List Ancestor} {path name : String}
    {here : Location} {n : Node} (hn : fs.node? (here ++ [name]) = some n)
    (hg : glance fs home root as path n = none) :
    fs.node? (here ++ [name]) = some .directory ∨ fs.IsLink here name := by
  cases n with
  | file content => cases hg
  | directory => exact Or.inl hn
  | device => cases hg
  | link target => exact Or.inr ⟨target, hn⟩

/-- The files and faults of a tour stand at the ends of routes, in the order of the routes. The
    induction carries the route that has led to the task. -/
theorem marks_of_tour (htop : fs.node? top = some .directory) {task : Task} {items : List Item}
    (h : Tour fs home root task items) : TaskMarked fs home top root task items := by
  induction h with
  | @shut as path cause hopen =>
    intro ns here hd hpath hto herr
    cases hres : fs.resolve home path with
    | error e =>
      unfold openDirectory at hopen
      simp only [hres, Except.error.injEq] at hopen
      obtain ⟨marks, hmarks, hfront⟩ := exists_marked_unseen (hopen ▸ herr e hres)
      rw [hpath]
      exact ⟨marks, ⟨hmarks.items, hmarks.stands, hmarks.ordered⟩, hfront⟩
    | ok l =>
      unfold openDirectory at hopen
      simp only [hres, hto l hres, descends_directory htop hd] at hopen
      cases hopen
  | @opened as path place listing items hopen _ ih =>
    intro ns here hd hpath hto _
    obtain ⟨hres, -, rfl⟩ := openDirectory_eq_ok.1 hopen
    obtain rfl := hto place hres
    obtain ⟨marks, hmarks, hhead⟩ :=
      ih ns place (stack as) rfl hd hpath hres (List.Sublist.refl _)
    refine ⟨marks, ⟨hmarks.items, hmarks.stands, hmarks.ordered⟩, fun m hm => ?_⟩
    obtain ⟨e, -, hfront⟩ := hhead m hm
    exact (List.prefix_append ns _).trans hfront
  | done =>
    intro ns here above _ _ _ _ _
    exact ⟨[], marked_nil rfl, nofun⟩
  | @passed as dir name n item listing items hg _ ih =>
    intro ns here above hst hd hdir hres hsub
    obtain ⟨marks, hmarks, hhead⟩ :=
      ih ns here above hst hd hdir hres ((List.sublist_cons_self _ _).trans hsub)
    have hn := mem_listing.1 (hsub.subset (List.mem_cons_self ..))
    rw [hdir] at hg hres
    obtain ⟨inner, hinner, hfront⟩ := exists_marked_glance htop hd hres hn hg
    exact marked_append hsub hinner hfront hmarks hhead
  | @entered as dir name n listing below items hg _ _ ihbelow ih =>
    intro ns here above hst hd hdir hres hsub
    obtain ⟨marks, hmarks, hhead⟩ :=
      ih ns here above hst hd hdir hres ((List.sublist_cons_self _ _).trans hsub)
    obtain ⟨k, harr⟩ := resolve_eq_ok.1 hres
    have hn := mem_listing.1 (hsub.subset (List.mem_cons_self ..))
    obtain ⟨l, hleads, hld, hback⟩ :=
      leads_of_glance_none harr (descends_directory htop hd) hn hg
    rw [hst] at hback
    have hpath : Path.join dir name = Path.descend root (ns ++ [name]) := by
      rw [hdir, Path.descend_concat]
    obtain ⟨inner, hinner, hfront⟩ := ihbelow (ns ++ [name]) l
      (hst ▸ .enter hd hleads hld hback) hpath
      (fun l' hl' => leads_unique (leads_of_resolve_join harr hn hl') hleads)
      (fun e he => .entry hd (directory_or_link_of_glance_none hn hg) (hpath ▸ he))
    exact marked_append hsub hinner hfront hmarks hhead

theorem Marked.exists_mark {items : List Item} {marks : List (List String × Item)}
    (h : Marked fs home top root items marks) {item : Item} (hmem : item ∈ items)
    (hmarked : item.isMarked = true) : ∃ ns, (ns, item) ∈ marks := by
  have hin : item ∈ items.filter Item.isMarked := List.mem_filter.2 ⟨hmem, hmarked⟩
  rw [h.items] at hin
  obtain ⟨m, hm, rfl⟩ := List.mem_map.1 hin
  exact ⟨m.1, hm⟩

theorem Marked.exists_of_fault {items : List Item} {marks : List (List String × Item)}
    (h : Marked fs home top root items marks) {f : Failure} (hf : Item.fault f ∈ items) :
    ∃ ns e, (ns, .fault f) ∈ marks ∧ Unseen fs home top root ns e ∧ e ≠ .notFound ∧
      f = .walk root (Path.descend root ns) e := by
  obtain ⟨ns, hm⟩ := h.exists_mark hf rfl
  have hstand : Stands fs home top root ns (.fault f) := h.stands _ hm
  cases hstand with
  | fault hu he => exact ⟨ns, _, hm, hu, he, rfl⟩

theorem Marked.exists_of_file {items : List Item} {marks : List (List String × Item)}
    (h : Marked fs home top root items marks) {path : String} (hmem : Item.file path ∈ items) :
    ∃ ns, (ns, .file path) ∈ marks ∧ FileRoute fs top ns ∧ path = Path.descend root ns := by
  obtain ⟨ns, hm⟩ := h.exists_mark hmem rfl
  have hstand : Stands fs home top root ns (.file path) := h.stands _ hm
  cases hstand with
  | file hroute => exact ⟨ns, hm, hroute, rfl⟩

/-- Where nothing is a fault, the files are those that the marks stand for. -/
theorem files_of_marks {items : List Item} {marks : List (List String × Item)}
    (hs : Smooth items) (hitems : items.filter Item.isMarked = marks.map Prod.snd)
    (hstands : ∀ m ∈ marks, Stands fs home top root m.1 m.2) :
    files items = marks.map (Path.descend root ·.1) ∧ ∀ m ∈ marks, FileRoute fs top m.1 := by
  induction items generalizing marks with
  | nil =>
    obtain rfl := List.map_eq_nil_iff.1 hitems.symm
    exact ⟨rfl, nofun⟩
  | cons x xs ih =>
    obtain ⟨hx, hxs⟩ := smooth_cons.1 hs
    cases x with
    | file path =>
      obtain ⟨m, marks, rfl, hm, hrest⟩ := List.map_eq_cons_iff.1 hitems.symm
      obtain ⟨hfiles, hroutes⟩ :=
        ih hxs hrest.symm fun m hm => hstands m (List.mem_cons_of_mem _ hm)
      have hstand := hstands m (List.mem_cons_self ..)
      rw [hm] at hstand
      cases hstand with
      | file hroute =>
        refine ⟨?_, List.forall_mem_cons.2 ⟨hroute, hroutes⟩⟩
        rw [files, hfiles, List.map_cons]
    | other path => exact ih hxs hitems hstands
    | skipped n => exact ih hxs hitems hstands
    | fault f => exact absurd rfl (hx f)

/-- The marks of the tour of a whole directory. -/
theorem exists_marks (hres : fs.resolve home root = .ok top)
    (htop : fs.node? top = some .directory) {items : List Item}
    (h : Tour fs home root (.enter [] root) items) :
    ∃ marks, Marked fs home top root items marks := by
  obtain ⟨marks, hmarks, -⟩ := marks_of_tour htop h [] top .top rfl
    (fun l hl => by rw [hres] at hl; cases hl; rfl) (fun e he => by rw [hres] at he; cases he)
  exact ⟨marks, hmarks⟩

end Walk

end SourceTidy
