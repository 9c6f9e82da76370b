/-
  What can end a visit that no watcher ends. A walk comes through directories, and in each it
  looks at the links and goes into the directories, always by the path from the root. Where
  that path cannot be followed the entry is unseen (`Unseen`). An unseen entry is left out if
  there is nothing where it leads; any other one ends the visit, and nothing else does
  (`visit_ends_at_unseen`). So a dangling link or a link back does no harm, but one that leads
  through a file or round in a circle stops the walk.
-/
import SourceTidy.Proofs.Visits

namespace SourceTidy

open FileSystem

namespace FileSystem

/-! ## Why a path cannot be followed -/

/-- What can be wrong with a path that has the text of a path. -/
def IsLookupError (e : FileError) : Prop :=
  e = .notFound ∨ e = .notDirectory ∨ e = .tooManyLinks ∨ e = .nameTooLong

variable {fs : FileSystem}

theorem isLookupError_missing (name : String) : IsLookupError (missing name) := by
  unfold missing IsLookupError
  split <;> simp

theorem follow_error {n : Nat} {enter : Location → List String → Except FileError Arrival}
    (henter : ∀ start rs e, enter start rs = .error e → IsLookupError e) {here : Location}
    {ps : List String} {e : FileError} (h : fs.follow n enter here ps = .error e) :
    IsLookupError e := by
  induction ps generalizing here with
  | nil => cases h
  | cons p ps ih =>
    simp only [follow] at h
    split at h
    · split at h
      · exact ih h
      · split at h
        · exact ih h
        · split at h
          · cases h
            exact isLookupError_missing p
          · exact henter _ _ e h
          · exact ih h
    · cases h
      exact Or.inr (Or.inl rfl)
    · cases h
      exact Or.inl rfl

theorem beyond_error {n : Nat} {here : Location} {ps : List String} {e : FileError}
    (h : fs.beyond n here ps = .error e) : IsLookupError e := by
  induction n generalizing here ps e with
  | zero =>
    cases h
    exact Or.inr (Or.inr (Or.inl rfl))
  | succ n ih =>
    have hf : fs.follow n (fs.beyond n) here ps = .error e := by
      rw [← resolveFrom_eq_follow]
      exact h
    exact follow_error (fun _ _ _ he => ih he) hf

theorem resolve_error {home : Location} {path : String} {e : FileError} (hne : path ≠ "")
    (hnul : '\x00' ∉ path.toList) (h : fs.resolve home path = .error e) : IsLookupError e := by
  by_cases hlong : pathLimit < path.utf8ByteSize
  · rw [resolve_of_arrive_error (arrive_of_long hne hnul hlong)] at h
    cases h
    exact Or.inr (Or.inr (Or.inr rfl))
  · have hf := pathFault?_eq_none.2 ⟨hne, hnul, Nat.le_of_not_lt hlong⟩
    cases harr : fs.arrive home path with
    | ok a =>
      rw [resolve_eq_ok.2 ⟨a.links, harr⟩] at h
      cases h
    | error e' =>
      rw [resolve_of_arrive_error harr] at h
      cases h
      unfold arrive at harr
      rw [hf] at harr
      exact beyond_error (n := linkLimit + 1) harr

end FileSystem

namespace Path

theorem not_mem_descend {root : String} {ns : List String} (hne : root ≠ "")
    (hnul : '\x00' ∉ root.toList) (hns : ∀ n ∈ ns, isName n = true) :
    '\x00' ∉ (descend root ns).toList := by
  induction ns generalizing root with
  | nil => exact hnul
  | cons n ns ih =>
    have hn := hns n (List.mem_cons_self ..)
    exact ih (join_ne_empty n hne) (not_mem_join hne hnul hn)
      fun m hm => hns m (List.mem_cons_of_mem _ hm)

end Path

namespace Walk

/-! ## Unseen entries -/

variable {fs : FileSystem} {home top : Location} {root : String}

theorem isLookupError_of_unseen (hres : fs.resolve home root = .ok top) {ns : List String}
    {e : FileError} (h : Unseen fs home top root ns e) : IsLookupError e := by
  obtain ⟨k, harr⟩ := resolve_eq_ok.1 hres
  obtain ⟨hne, hnul, -⟩ := pathFault?_eq_none.1 (pathFault?_of_arrive harr)
  have hnames := isName_of_unseen h
  cases h with
  | entry _ _ herr =>
    exact resolve_error (Path.descend_ne_empty hne _) (Path.not_mem_descend hne hnul hnames) herr

/-! ## A smooth tour has seen everything -/

/-- An entry that a smooth tour has not seen leads nowhere. -/
theorem unseen_of_smooth {items : List Item} (h : Tour fs home root (.enter [] root) items)
    (hs : Smooth items) (hres : fs.resolve home root = .ok top)
    (htop : fs.node? top = some .directory) {ns : List String} {e : FileError}
    (hu : Unseen fs home top root ns e) : e = .notFound := by
  by_contra hne
  have hmem := mem_of_unseen h hres htop hu (clear_of_smooth hs _)
  rw [unseen_eq_fault hne] at hmem
  exact hs _ hmem

/-! ## What a tour has not seen ends it -/

/-- A failure that an unseen entry gives, where it leads somewhere. -/
def FromUnseen (fs : FileSystem) (home top : Location) (root : String) (f : Failure) : Prop :=
  ∃ ns e, Unseen fs home top root ns e ∧ e ≠ .notFound ∧
    f = .walk root (Path.descend root ns) e

/-- The faults of a tour all come from unseen entries, given the route that has led to it. -/
theorem faultsUnseen_of_tour (htop : fs.node? top = some .directory) {as : List Ancestor}
    {path : String} {items : List Item} (h : Tour fs home root (.enter as path) items)
    (ns : List String) (here : Location) (hd : Descends fs top ns (here :: stack as))
    (hpath : path = Path.descend root ns) (hto : ∀ l, fs.resolve home path = .ok l → l = here)
    (herr : ∀ e, fs.resolve home path = .error e → Unseen fs home top root ns e) :
    ∀ f, Item.fault f ∈ items → FromUnseen fs home top root f := by
  intro f hf
  obtain ⟨marks, hmarks, -⟩ := marks_of_tour htop h ns here hd hpath hto herr
  obtain ⟨ms, e, -, hu, he, rfl⟩ := hmarks.exists_of_fault hf
  exact ⟨ms, e, hu, he, rfl⟩

end Walk

open Walk

section Visit

variable {σ : Type} {w : Watcher σ} {home top : Location} {root ext : String} {s : σ}

/-- **A visit ends early only at an entry that it cannot see.** Let nobody end the visit of a
    directory who watches it. If it fails, then at a directory or a link that it has come to
    and whose path cannot be followed: it leads through something that is no directory, through
    too many links, or over the length of a path or a name. And it ends well exactly if every
    entry whose path cannot be followed leads to nothing. -/
theorem visit_ends_at_unseen (hw : w.KeepsShape) (hmeet : ∀ path s, (w.meet path s).1 = .ok ())
    (hres : (w.files s).resolve home root = .ok top)
    (htop : (w.files s).node? top = some .directory) (hdash : ¬Path.isDash root) :
    (∀ f, (visit w home root ext s).1 = .error f →
      ∃ ns e, Unseen (w.files s) home top root ns e ∧
        (e = .notDirectory ∨ e = .tooManyLinks ∨ e = .nameTooLong) ∧
        f = .walk root (Path.descend root ns) e) ∧
    ((visit w home root ext s).1 = .ok () ↔
      ∀ ns e, Unseen (w.files s) home top root ns e → e = .notFound) := by
  obtain ⟨items, hvisit, -⟩ := exists_visitTour (w.files s) home root
  have htour := (visitTour_directory hres htop hdash).1 hvisit
  have hend : (visit w home root ext s).1 = outcome items := by
    rw [visit_eq_replay hw hvisit ext s (SameShape.refl _), replay_outcome hmeet]
  have hfault : ∀ f, Item.fault f ∈ items → FromUnseen (w.files s) home top root f := by
    refine faultsUnseen_of_tour htop htour [] top .top rfl ?_ ?_
    · intro l hl
      rw [hres] at hl
      cases hl
      rfl
    · intro e he
      rw [hres] at he
      cases he
  rw [hend]
  refine ⟨?_, ?_, ?_⟩
  · intro f hf
    obtain ⟨ns, e, hu, hne, rfl⟩ := hfault f (mem_of_outcome hf)
    exact ⟨ns, e, hu, (isLookupError_of_unseen hres hu).resolve_left hne, rfl⟩
  · intro hok ns e hu
    exact unseen_of_smooth htour (outcome_eq_ok.1 hok) hres htop hu
  · intro hall
    refine outcome_eq_ok.2 fun f hf => ?_
    obtain ⟨ns, e, hu, hne, -⟩ := hfault f hf
    exact hne (hall ns e hu)

/-- A directory with a text, a link through the text and a link to itself. -/
def snared : FileSystem :=
  ⟨[(["d"], .directory), (["d", "a.py"], .file []), (["d", "b"], .link "a.py/x"),
    (["d", "c"], .link "c")], by decide, by decide⟩

/-- The link to itself alone is enough. -/
theorem visit_ends_at_unseen_snared :
    (visit Watcher.idle [] "d" ".py" snared).1 ≠ .ok () := by
  intro hok
  have hres : snared.resolve [] "d" = .ok ["d"] := by decide
  have hlink : snared.IsLink ["d"] "c" := ⟨"c", by decide⟩
  have hloop : snared.resolve [] (Path.descend "d" ([] ++ ["c"])) = .error .tooManyLinks := by
    decide +kernel
  have hu : Unseen snared [] ["d"] "d" ["c"] .tooManyLinks :=
    .entry .top (Or.inr hlink) hloop
  have h := (visit_ends_at_unseen (w := Watcher.idle) (s := snared) Watcher.idle_keepsShape
    (fun _ _ => rfl) hres (by decide) (by decide)).2.1 hok ["c"] _ hu
  cases h

/-- The only directory below the root can be listed, and yet the walk ends at the first of the
    links, which leads through a file. -/
theorem visit_stopped_by_link :
    snared.openDirectory [] "d" =
        .ok (["d"], [("a.py", .file []), ("b", .link "a.py/x"), ("c", .link "c")]) ∧
      (∀ e ∈ snared.entries, e.2 = .directory → e.1 = ["d"]) ∧
      (visit Watcher.idle [] "d" ".py" snared).1 =
        .error (.walk "d" "d/b" .notDirectory) := by
  have hres : snared.resolve [] "d" = .ok ["d"] := by decide
  have hopen : snared.openDirectory [] "d" =
      .ok (["d"], [("a.py", .file []), ("b", .link "a.py/x"), ("c", .link "c")]) :=
    openDirectory_of_sorted hres (by decide) (by decide) (by decide) (by decide)
  refine ⟨hopen, by decide, ?_⟩
  have hb : snared.resolve [] (Path.join "d" "b") = .error .notDirectory := by decide
  have hc : snared.resolve [] (Path.join "d" "c") = .error .tooManyLinks := by decide +kernel
  have hgb : glance snared [] "d" [⟨"d", ["d"]⟩] (Path.join "d" "b") (.link "a.py/x") =
      some (.fault (.walk "d" "d/b" .notDirectory)) := by
    simp only [glance, hb]
    rfl
  have hgc : glance snared [] "d" [⟨"d", ["d"]⟩] (Path.join "d" "c") (.link "c") =
      some (.fault (.walk "d" "d/c" .tooManyLinks)) := by
    simp only [glance, hc]
    rfl
  have htour : Tour snared [] "d" (.enter [] "d") _ :=
    .opened hopen (.passed rfl (.passed hgb (.passed hgc .done)))
  have hvisit := (visitTour_directory hres (by decide) (by decide)).2 htour
  rw [visit_eq_replay Watcher.idle_keepsShape hvisit ".py" snared (SameShape.refl _),
    replay_outcome fun _ _ => rfl]
  rfl

end Visit

end SourceTidy
