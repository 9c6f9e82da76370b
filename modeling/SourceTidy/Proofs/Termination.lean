/-
  Every visit has a tour, and only one: a walk ends, whatever the links are. No limit on the
  length of paths or on the number of links is used. A link is only followed to a directory
  that the walk is not in, and there are only so many; between two links each step goes one
  level down in the real tree, and that is only so deep. A plain step may well lead into a
  directory that the walk is already in, so neither number alone falls at every step; `rank`
  puts them together.
-/
import Mathlib.Data.Finset.Card
import Mathlib.Data.List.Nodup
import SourceTidy.Proofs.Glance

namespace SourceTidy

namespace Walk

open FileSystem

variable (fs : FileSystem) (home : Location) (root : String)

/-! ## A measure -/

/-- Where something stands. -/
def places : Finset Location := insert [] (fs.entries.map Prod.fst).toFinset

/-- How far a walk can still go that has come to `here` through the directories `above`: first
    by the number of places that it is not in, then by the depth that is left. -/
def rank (here : Location) (above : List Location) : Nat :=
  (places fs \ (here :: above).toFinset).card * (fs.height + 1) + (fs.height - here.length)

variable {fs}

theorem mem_places {l : Location} {n : Node} (h : fs.node? l = some n) : l ∈ places fs := by
  unfold places
  cases l with
  | nil => exact Finset.mem_insert_self _ _
  | cons a l =>
    apply Finset.mem_insert_of_mem
    rw [List.mem_toFinset, List.mem_map]
    exact ⟨(a :: l, n), mem_of_node? (by simp) h, rfl⟩

theorem length_le_height {l : Location} {n : Node} (h : fs.node? l = some n) :
    l.length ≤ fs.height := by
  cases l with
  | nil => exact Nat.zero_le _
  | cons a l =>
    have hm := mem_of_node? (by simp) h
    unfold height
    generalize fs.entries = es at hm
    induction es with
    | nil => cases hm
    | cons e es ih =>
      rw [List.map_cons, List.foldr_cons]
      rcases List.mem_cons.1 hm with rfl | hm
      · exact Nat.le_max_left _ _
      · exact Nat.le_trans (ih hm) (Nat.le_max_right _ _)

theorem card_places_le : (places fs).card ≤ fs.entries.length + 1 := by
  unfold places
  refine Nat.le_trans (Finset.card_insert_le _ _) ?_
  have h := List.toFinset_card_le (fs.entries.map Prod.fst)
  rw [List.length_map] at h
  omega

theorem rank_le (here : Location) (above : List Location) :
    rank fs here above ≤ (fs.entries.length + 1) * (fs.height + 1) + fs.height := by
  have hcard := Nat.le_trans (Finset.card_le_card (Finset.sdiff_subset
    (s := places fs) (t := (here :: above).toFinset))) card_places_le
  have hmul := Nat.mul_le_mul_right (fs.height + 1) hcard
  unfold rank
  omega

/-- The step by which the walk ends: into a place that it is not in, or one level down. -/
theorem rank_lt {here l : Location} {above : List Location} {n : Node}
    (hl : fs.node? l = some n) (h : l ∉ here :: above ∨ here.length < l.length) :
    rank fs l (here :: above) < rank fs here above := by
  have hlen := length_le_height hl
  unfold rank
  rw [List.toFinset_cons (a := l)]
  by_cases hmem : l ∈ here :: above
  · have hdeep : here.length < l.length := by
      rcases h with h | h
      · exact absurd hmem h
      · exact h
    rw [Finset.insert_eq_of_mem (List.mem_toFinset.2 hmem)]
    omega
  · have hcard : (places fs \ insert l (here :: above).toFinset).card <
        (places fs \ (here :: above).toFinset).card := by
      rw [Finset.sdiff_insert]
      apply Finset.card_erase_lt_of_mem
      rw [Finset.mem_sdiff, List.mem_toFinset]
      exact ⟨mem_places hl, hmem⟩
    have hmul := Nat.mul_le_mul_right (fs.height + 1) (Nat.succ_le_of_lt hcard)
    rw [Nat.succ_mul] at hmul
    omega

/-! ## Tours exist -/

theorem length_listing_le (fs : FileSystem) (dir : Location) :
    (fs.listing dir).length ≤ fs.entries.length := by
  unfold listing names
  refine Nat.le_trans (List.length_filterMap_le _ _) ?_
  rw [List.length_mergeSort]
  exact List.length_filterMap_le _ _

/-- A bound on the number of items, for as many further steps as `m`. -/
def bound (fs : FileSystem) : Nat → Nat
  | 0 => 2
  | m + 1 => (fs.entries.length + 2) * bound fs m

theorem two_le_bound (fs : FileSystem) (m : Nat) : 2 ≤ bound fs m := by
  induction m with
  | zero => exact Nat.le_refl 2
  | succ m ih =>
    rw [bound, Nat.add_mul]
    omega

theorem bound_succ (fs : FileSystem) (m : Nat) :
    fs.entries.length * bound fs m + 1 ≤ bound fs (m + 1) := by
  have htwo := two_le_bound fs m
  rw [bound, Nat.add_mul]
  omega

variable {home root}

theorem exists_tour_rest {as : List Ancestor} {dir : String} {m : Nat}
    {listing : List (String × Node)}
    (hbelow : ∀ e ∈ listing, glance fs home root as (Path.join dir e.1) e.2 = none →
      ∃ items, Tour fs home root (.enter as (Path.join dir e.1)) items ∧
        items.length ≤ bound fs m) :
    ∃ items, Tour fs home root (.rest as dir listing) items ∧
      items.length ≤ listing.length * bound fs m := by
  induction listing with
  | nil => exact ⟨[], .done, by simp⟩
  | cons e listing ih =>
    obtain ⟨items, htour, hlen⟩ := ih fun e he => hbelow e (List.mem_cons_of_mem _ he)
    have hsucc : (e :: listing).length * bound fs m =
        listing.length * bound fs m + bound fs m := by
      rw [List.length_cons, Nat.succ_mul]
    cases hg : glance fs home root as (Path.join dir e.1) e.2 with
    | some item =>
      refine ⟨item :: items, .passed hg htour, ?_⟩
      have htwo := two_le_bound fs m
      rw [List.length_cons]
      omega
    | none =>
      obtain ⟨below, hbt, hbl⟩ := hbelow e (List.mem_cons_self ..) hg
      refine ⟨below ++ items, .entered hg hbt htour, ?_⟩
      rw [List.length_append]
      omega

/-- A walk that can go on for fewer than `m` steps has a tour. The induction is on `m`, which
    `rank_lt` makes fall at every directory that the walk goes into. -/
theorem exists_tour_enter (m : Nat) (as : List Ancestor) (path : String)
    (hm : ∀ here, fs.resolve home path = .ok here → rank fs here (stack as) < m) :
    ∃ items, Tour fs home root (.enter as path) items ∧ items.length ≤ bound fs m := by
  induction m generalizing as path with
  | zero =>
    cases hopen : fs.openDirectory home path with
    | error cause => exact ⟨_, .shut hopen, two_le_bound fs 0⟩
    | ok d => exact absurd (hm d.1 (openDirectory_eq_ok.1 hopen).1) (Nat.not_lt_zero _)
  | succ m ih =>
    cases hopen : fs.openDirectory home path with
    | error cause => exact ⟨_, .shut hopen, two_le_bound fs (m + 1)⟩
    | ok d =>
      obtain ⟨here, listing⟩ := d
      obtain ⟨hres, hdir, rfl⟩ := openDirectory_eq_ok.1 hopen
      obtain ⟨k, harr⟩ := resolve_eq_ok.1 hres
      have hrank := hm here hres
      have hbelow : ∀ e ∈ fs.listing here,
          glance fs home root (⟨path, here⟩ :: as) (Path.join path e.1) e.2 = none →
          ∃ items, Tour fs home root (.enter (⟨path, here⟩ :: as) (Path.join path e.1)) items ∧
            items.length ≤ bound fs m := by
        rintro ⟨name, n⟩ he hg
        apply ih
        intro l hl
        have hn := mem_listing.1 he
        obtain ⟨l', hleads, hld, hback⟩ := leads_of_glance_none harr hdir hn hg
        have hll : l = l' := leads_unique (leads_of_resolve_join harr hn hl) hleads
        subst hll
        have hstep : l ∉ here :: stack as ∨ here.length < l.length := by
          by_cases hlink : fs.IsLink here name
          · exact Or.inl (hback hlink)
          · right
            have heq := leads_unique hleads
              (leads_entry hdir hn fun target ht => hlink ⟨target, by rw [hn, ht]⟩)
            rw [heq, List.length_append, List.length_singleton]
            exact Nat.lt_succ_self _
        exact Nat.lt_of_lt_of_le (rank_lt hld hstep) (Nat.le_of_lt_succ hrank)
      obtain ⟨items, htour, hlen⟩ := exists_tour_rest hbelow
      refine ⟨_, .opened hopen htour, ?_⟩
      have hle := Nat.mul_le_mul_right (bound fs m) (length_listing_le fs here)
      have hsucc := bound_succ fs m
      rw [List.length_cons]
      omega

/-! ## Tours are unique -/

theorem tour_unique {task : Task} {items items' : List Item} (h : Tour fs home root task items)
    (h' : Tour fs home root task items') : items = items' := by
  induction h generalizing items' with
  | shut hopen =>
    cases h' with
    | shut hopen' =>
      rw [hopen] at hopen'
      cases hopen'
      rfl
    | opened hopen' _ =>
      rw [hopen] at hopen'
      cases hopen'
  | opened hopen _ ih =>
    cases h' with
    | shut hopen' =>
      rw [hopen] at hopen'
      cases hopen'
    | opened hopen' htour =>
      rw [hopen] at hopen'
      cases hopen'
      rw [ih htour]
  | done =>
    cases h'
    rfl
  | passed hg _ ih =>
    cases h' with
    | passed hg' htour =>
      rw [hg] at hg'
      cases hg'
      rw [ih htour]
    | entered hg' _ _ =>
      rw [hg] at hg'
      cases hg'
  | entered hg _ _ ihbelow ih =>
    cases h' with
    | passed hg' _ =>
      rw [hg] at hg'
      cases hg'
    | entered _ hbelow htour => rw [ihbelow hbelow, ih htour]

/-! ## Visits -/

/-- The most items that a visit of the file system comes across, whatever its root. -/
def visitBound (fs : FileSystem) : Nat :=
  bound fs ((fs.entries.length + 1) * (fs.height + 1) + fs.height + 1)

theorem visitTour_unique {items items' : List Item} (h : VisitTour fs home root items)
    (h' : VisitTour fs home root items') : items = items' := by
  unfold VisitTour at h h'
  generalize fs.look home root = look at h h'
  cases look with
  | error cause => exact Eq.trans h (Eq.symm h')
  | ok n =>
    cases n with
    | directory =>
      by_cases hdash : Path.isDash root = true
      · simp only [if_pos hdash] at h h'
        rw [h, h']
      · simp only [if_neg hdash] at h h'
        exact tour_unique h h'
    | _ => exact Eq.trans h (Eq.symm h')

theorem exists_visitTour (fs : FileSystem) (home : Location) (root : String) :
    ∃ items, VisitTour fs home root items ∧ items.length ≤ visitBound fs := by
  have hone : 1 ≤ visitBound fs := Nat.le_of_succ_le (two_le_bound fs _)
  unfold VisitTour
  split
  · exact ⟨_, rfl, hone⟩
  · exact ⟨_, rfl, hone⟩
  · split
    · exact ⟨_, rfl, hone⟩
    · exact exists_tour_enter _ [] root fun here _ => Nat.lt_succ_of_le (rank_le here [])
  · exact ⟨_, rfl, hone⟩

end Walk

open Walk

/-- **Every walk ends.** For every file system, whatever its links, and every root there is one
    list of items that a walk comes across. Its length has a bound that the file system alone
    sets, and a visit goes through this list and nothing else, with every extension and
    whoever watches it without changing the tree. -/
theorem visit_comes_to_an_end (fs : FileSystem) (home : Location) (root : String) :
    ∃ items, VisitTour fs home root items ∧ items.length ≤ visitBound fs ∧
      (∀ items', VisitTour fs home root items' → items' = items) ∧
      ∀ (σ : Type) (w : Watcher σ) (ext : String) (s : σ), w.KeepsShape →
        fs.SameShape (w.files s) → visit w home root ext s = replay w ext items s := by
  obtain ⟨items, htour, hlen⟩ := exists_visitTour fs home root
  refine ⟨items, htour, hlen, fun items' h' => visitTour_unique h' htour, ?_⟩
  intro σ w ext s hw hs
  exact visit_eq_replay hw htour ext s hs

end SourceTidy
