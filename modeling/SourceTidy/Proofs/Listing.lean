/-
  Listings of directories, and file systems of the same shape. A listing is in strictly rising
  order and holds exactly the entries (`names_sorted`, `mem_listing`). Two file systems have
  the same shape when they differ in nothing but the contents of files (`SameShape`); then
  they have the same names, and every path leads to the same place or fails in the same way.
-/
import Mathlib.Data.List.Basic
import SourceTidy.Proofs.Resolution

namespace SourceTidy

/-- What a node is, apart from the content of a file. -/
def Node.shape : Node → Node := FileSystem.withContent []

@[simp]
theorem Node.shape_file (content : Text.Bytes) : (Node.file content).shape = .file [] := rfl

theorem Node.shape_withContent (content : Text.Bytes) (n : Node) :
    (FileSystem.withContent content n).shape = n.shape := by
  cases n <;> rfl

theorem Node.eq_of_shape {m n : Node} (h : m.shape = n.shape) :
    m = n ∨ ∃ b c, m = .file b ∧ n = .file c := by
  cases m with
  | file b =>
    cases n with
    | file c => exact Or.inr ⟨b, c, rfl, rfl⟩
    | _ => cases h
  | _ =>
    cases n with
    | file c => cases h
    | _ => exact Or.inl h

namespace FileSystem

variable {fs fs' : FileSystem}

/-! ## Names in order -/

theorem nameIn?_eq_some {dir l : Location} {n : String} :
    nameIn? dir l = some n ↔ l = dir ++ [n] := by
  unfold nameIn?
  constructor
  · intro h
    split at h
    · next hd =>
      obtain ⟨ms, rfl⟩ := List.getLast?_eq_some_iff.1 h
      rw [← hd, List.dropLast_concat]
    · cases h
  · intro h
    simp [h]

theorem isSome_node? {l : Location} (hl : l ≠ []) :
    (fs.node? l).isSome ↔ l ∈ fs.entries.map Prod.fst := by
  cases l with
  | nil => exact absurd rfl hl
  | cons a l =>
    show (fs.entries.lookup (a :: l)).isSome ↔ _
    rw [List.lookup_isSome_iff, List.mem_map]
    simp only [beq_iff_eq, eq_comm (a := a :: l)]

theorem mem_names {dir : Location} {n : String} :
    n ∈ fs.names dir ↔ (fs.node? (dir ++ [n])).isSome := by
  unfold names
  rw [List.mem_mergeSort, List.mem_filterMap, isSome_node? (by simp), List.mem_map]
  simp only [nameIn?_eq_some]

theorem names_nodup (fs : FileSystem) (dir : Location) : (fs.names dir).Nodup := by
  unfold names
  rw [(List.mergeSort_perm _ _).nodup_iff]
  unfold List.Nodup
  rw [List.pairwise_filterMap]
  have hd := fs.distinct
  unfold List.Nodup at hd
  rw [List.pairwise_map] at hd
  apply hd.imp
  intro e e' hne n hn n' hn' h
  rw [nameIn?_eq_some] at hn hn'
  exact hne (by rw [hn, hn', h])

theorem names_sorted (fs : FileSystem) (dir : Location) :
    (fs.names dir).Pairwise (· < ·) := by
  have hle : (fs.names dir).Pairwise fun a b => decide (a ≤ b) = true := by
    apply List.pairwise_mergeSort
    · intro a b c hab hbc
      simp only [decide_eq_true_eq] at hab hbc ⊢
      exact String.le_trans hab hbc
    · intro a b
      simp only [Bool.or_eq_true, decide_eq_true_eq]
      exact String.le_total a b
  refine (hle.and (names_nodup fs dir)).imp ?_
  intro a b h
  rw [← String.not_le]
  intro hba
  exact h.2 (String.le_antisymm (of_decide_eq_true h.1) hba)

/-- Names that stand in their order are not moved. -/
theorem names_of_sorted {dir : Location} {ns : List String}
    (h : (fs.entries.filterMap fun e => nameIn? dir e.1) = ns)
    (hns : ns.Pairwise fun a b => decide (a ≤ b) = true) : fs.names dir = ns := by
  unfold names
  rw [h]
  exact List.mergeSort_of_pairwise hns

theorem mem_listing {dir : Location} {n : String} {node : Node} :
    (n, node) ∈ fs.listing dir ↔ fs.node? (dir ++ [n]) = some node := by
  unfold listing
  rw [List.mem_filterMap]
  constructor
  · rintro ⟨m, -, hm⟩
    rw [Option.map_eq_some_iff] at hm
    obtain ⟨node', hnode, heq⟩ := hm
    cases heq
    exact hnode
  · intro h
    exact ⟨n, mem_names.2 (by simp [h]), by simp [h]⟩

theorem listing_map_fst (fs : FileSystem) (dir : Location) :
    (fs.listing dir).map Prod.fst = fs.names dir := by
  unfold listing
  rw [List.map_filterMap]
  have hkeep : ∀ n ∈ fs.names dir,
      ((fs.node? (dir ++ [n])).map (n, ·)).map Prod.fst = some n := by
    intro n hn
    obtain ⟨node, hnode⟩ := Option.isSome_iff_exists.1 (mem_names.1 hn)
    simp [hnode]
  rw [List.filterMap_congr hkeep]
  exact List.filterMap_some

theorem listing_sorted (fs : FileSystem) (dir : Location) :
    (fs.listing dir).Pairwise fun a b => a.1 < b.1 := by
  rw [← List.pairwise_map, listing_map_fst]
  exact names_sorted fs dir

/-! ## Directories by their paths -/

theorem openDirectory_eq_ok {home place : Location} {path : String}
    {listing : List (String × Node)} :
    fs.openDirectory home path = .ok (place, listing) ↔
      fs.resolve home path = .ok place ∧ fs.node? place = some .directory ∧
        listing = fs.listing place := by
  unfold openDirectory
  cases fs.resolve home path with
  | error e => simp
  | ok l =>
    simp only [Except.ok.injEq]
    constructor
    · intro h
      split at h
      · next hl =>
        cases h
        exact ⟨rfl, hl, rfl⟩
      · cases h
      · cases h
    · rintro ⟨rfl, hl, rfl⟩
      simp [hl]

/-- A directory whose entries stand in the order of their names. -/
theorem openDirectory_of_sorted {home place : Location} {path : String}
    {listing : List (String × Node)} (hres : fs.resolve home path = .ok place)
    (hdir : fs.node? place = some .directory)
    (hnames : (fs.entries.filterMap fun e => nameIn? place e.1) = listing.map Prod.fst)
    (hsorted : (listing.map Prod.fst).Pairwise fun a b => decide (a ≤ b) = true)
    (hnodes : ∀ e ∈ listing, fs.node? (place ++ [e.1]) = some e.2) :
    fs.openDirectory home path = .ok (place, listing) := by
  refine openDirectory_eq_ok.2 ⟨hres, hdir, ?_⟩
  unfold FileSystem.listing
  rw [names_of_sorted hnames hsorted, List.filterMap_map]
  have hkeep : ∀ e ∈ listing,
      ((fun n => (fs.node? (place ++ [n])).map (n, ·)) ∘ Prod.fst) e = some e := by
    intro e he
    simp [hnodes e he]
  rw [List.filterMap_congr hkeep]
  exact List.filterMap_some.symm

theorem look_eq_ok {home : Location} {path : String} {n : Node} :
    fs.look home path = .ok n ↔
      ∃ l, fs.resolve home path = .ok l ∧ fs.node? l = some n := by
  unfold look
  cases fs.resolve home path with
  | error e => simp
  | ok l =>
    simp only [Except.ok.injEq, exists_eq_left']
    cases fs.node? l with
    | none => simp
    | some m => simp

/-! ## The same shape -/

/-- The same directories, links, files and names; only what the files hold may differ. -/
def SameShape (fs fs' : FileSystem) : Prop :=
  ∀ l, (fs.node? l).map Node.shape = (fs'.node? l).map Node.shape

theorem SameShape.refl (fs : FileSystem) : fs.SameShape fs := fun _ => rfl

theorem SameShape.symm (h : fs.SameShape fs') : fs'.SameShape fs := fun l => (h l).symm

theorem SameShape.trans {fs'' : FileSystem} (h : fs.SameShape fs') (h' : fs'.SameShape fs'') :
    fs.SameShape fs'' := fun l => (h l).trans (h' l)

theorem sameShape_setContent (fs : FileSystem) (l : Location) (content : Text.Bytes) :
    fs.SameShape (fs.setContent l content) := by
  intro m
  rw [node?_setContent]
  split
  · cases fs.node? m with
    | none => rfl
    | some n => simp [Node.shape_withContent]
  · rfl

theorem SameShape.node?_cases (h : fs.SameShape fs') (l : Location) :
    fs.node? l = fs'.node? l ∨
      ∃ b c, fs.node? l = some (.file b) ∧ fs'.node? l = some (.file c) := by
  have hs := h l
  cases hn : fs.node? l with
  | none =>
    rw [hn, eq_comm, Option.map_none, Option.map_eq_none_iff] at hs
    exact Or.inl hs.symm
  | some n =>
    rw [hn, eq_comm, Option.map_some, Option.map_eq_some_iff] at hs
    obtain ⟨n', hn', hshape⟩ := hs
    rw [hn']
    rcases Node.eq_of_shape hshape with rfl | ⟨b, c, rfl, rfl⟩
    · exact Or.inl rfl
    · exact Or.inr ⟨c, b, rfl, rfl⟩

theorem SameShape.isSome_node? (h : fs.SameShape fs') (l : Location) :
    (fs.node? l).isSome = (fs'.node? l).isSome := by
  rcases h.node?_cases l with hl | ⟨b, c, hb, hc⟩
  · rw [hl]
  · rw [hb, hc]
    rfl

theorem SameShape.follow (h : fs.SameShape fs') (n : Nat)
    (enter : Location → List String → Except FileError Arrival) (here : Location)
    (ps : List String) : fs.follow n enter here ps = fs'.follow n enter here ps := by
  induction ps generalizing here with
  | nil => rfl
  | cons p ps ih =>
    rcases h.node?_cases here with hh | ⟨b, c, hb, hc⟩
    · simp only [FileSystem.follow, hh, ih]
      rcases h.node?_cases (here ++ [p]) with hp | ⟨b, c, hb, hc⟩
      · rw [hp]
      · rw [hb, hc]
    · simp only [FileSystem.follow, hb, hc]

theorem SameShape.resolveFrom (h : fs.SameShape fs') (n : Nat) (here : Location)
    (ps : List String) : fs.resolveFrom n here ps = fs'.resolveFrom n here ps := by
  induction n generalizing here ps with
  | zero => exact h.follow 0 _ here ps
  | succ n ih =>
    have hn : fs.resolveFrom n = fs'.resolveFrom n := by
      funext start rs
      exact ih start rs
    show fs.follow (n + 1) (fs.resolveFrom n) here ps = _
    rw [hn]
    exact h.follow (n + 1) _ here ps

/-- Every path leads to the same place in both, or fails in the same way. -/
theorem SameShape.resolve (h : fs.SameShape fs') (home : Location) (path : String) :
    fs.resolve home path = fs'.resolve home path := by
  unfold FileSystem.resolve arrive
  simp only [h.resolveFrom]

theorem SameShape.names (h : fs.SameShape fs') (dir : Location) :
    fs.names dir = fs'.names dir := by
  apply List.Perm.eq_of_pairwise _ (names_sorted fs dir) (names_sorted fs' dir)
  · rw [List.perm_ext_iff_of_nodup (names_nodup fs dir) (names_nodup fs' dir)]
    intro n
    rw [mem_names, mem_names, h.isSome_node?]
  · intro a b _ _ hab hba
    exact absurd hba (String.lt_asymm hab)

/-- The listings of a directory differ in nothing but the contents of files. -/
theorem SameShape.listing (h : fs.SameShape fs') (dir : Location) :
    (fs.listing dir).map (Prod.map id Node.shape) =
      (fs'.listing dir).map (Prod.map id Node.shape) := by
  unfold FileSystem.listing
  rw [h.names, List.map_filterMap, List.map_filterMap]
  apply List.filterMap_congr
  intro n _
  have hn := congrArg (Option.map (Prod.mk n)) (h (dir ++ [n]))
  simp only [Option.map_map] at hn ⊢
  exact hn

theorem SameShape.openDirectory (h : fs.SameShape fs') (home : Location) (path : String) :
    fs'.openDirectory home path =
      (fs.openDirectory home path).map fun d => (d.1, fs'.listing d.1) := by
  unfold FileSystem.openDirectory
  rw [← h.resolve]
  cases fs.resolve home path with
  | error e => rfl
  | ok l =>
    rcases h.node?_cases l with hl | ⟨b, c, hb, hc⟩
    · simp only [hl]
      cases fs'.node? l with
      | none => rfl
      | some n => cases n <;> rfl
    · simp only [hb, hc]
      rfl

theorem SameShape.look (h : fs.SameShape fs') {home : Location} {path : String} {n : Node}
    (hn : fs.look home path = .ok n) : ∃ n', fs'.look home path = .ok n' ∧ n'.shape = n.shape := by
  obtain ⟨l, hres, hl⟩ := look_eq_ok.1 hn
  rw [h.resolve] at hres
  rcases h.node?_cases l with hl' | ⟨b, c, hb, hc⟩
  · exact ⟨n, look_eq_ok.2 ⟨l, hres, by rw [← hl', hl]⟩, rfl⟩
  · rw [hl] at hb
    cases hb
    exact ⟨.file c, look_eq_ok.2 ⟨l, hres, hc⟩, rfl⟩

theorem SameShape.look_error (h : fs.SameShape fs') {home : Location} {path : String}
    {e : FileError} (he : fs.look home path = .error e) :
    ∃ e', fs'.look home path = .error e' := by
  cases hl : fs'.look home path with
  | error e' => exact ⟨e', rfl⟩
  | ok n =>
    obtain ⟨n', hn', -⟩ := h.symm.look hl
    rw [he] at hn'
    cases hn'

end FileSystem

end SourceTidy
