/-
  What an activity at every file of a walk comes to. As long as it leaves the shape of the file
  system, it is the same as finding all the paths first and then going through them one by
  one, with the end of the walk at the end (`forFiles_agrees`); only the walk's own notes are
  not counted.
-/
import SourceTidy.Action.Basic
import SourceTidy.Proofs.Termination

namespace SourceTidy

open FileSystem Walk

/-- A host at the top of the file system, without tools. -/
abbrev bareHost : Host := ⟨[], fun _ _ => .error .notFound, .plain⟩

/-- Two reports that differ in nothing but their notes. -/
structure Report.Agrees {α : Type} (r r' : Report α) : Prop where
  outcome : r.outcome = r'.outcome
  files : r.progress.files = r'.progress.files
  out : r.progress.out = r'.progress.out

theorem Report.Agrees.trans {α : Type} {r r' r'' : Report α} (h : r.Agrees r')
    (h' : r'.Agrees r'') : r.Agrees r'' :=
  ⟨h.outcome.trans h'.outcome, h.files.trans h'.files, h.out.trans h'.out⟩

namespace Activity

variable {h : Host} {each : String → Activity Unit}

/-- Whatever the path and the file system, the shape of the file system stays. -/
def KeepsShape (h : Host) (each : String → Activity Unit) : Prop :=
  ∀ (path : String) (fs : FileSystem), fs.SameShape (each path h fs).progress.files

/-- Whatever the file system, it stays as it is. -/
def KeepsFiles {α : Type} (h : Host) (x : Activity α) : Prop :=
  ∀ fs : FileSystem, (x h fs).progress.files = fs

theorem keepsShape_of_keepsFiles (hk : ∀ path, KeepsFiles h (each path)) :
    KeepsShape h each := by
  intro path fs
  rw [hk path fs]
  exact SameShape.refl fs

theorem watcher_keepsShape (hk : KeepsShape h each) : (watcher h each).KeepsShape :=
  ⟨fun path p => hk path p.files, fun _ p => SameShape.refl p.files⟩

theorem meet_watcher {path : String} {p q : Progress} {o : Except Failure Unit}
    (hp : each path h p.files = ⟨o, q⟩) :
    (watcher h each).meet path p = (o, p.followedBy q) := by
  simp only [watcher, hp]

/-- Do something at every path, and then end in the given way. -/
def atEach (each : String → Activity Unit) (ps : List String) (o : Except Failure Unit) :
    Activity Unit := do
  ps.forM each
  ofExcept o

theorem atEach_nil (each : String → Activity Unit) (o : Except Failure Unit) (h : Host)
    (fs : FileSystem) : atEach each [] o h fs = ⟨o, .start fs⟩ := by
  cases o <;> rfl

theorem atEach_cons (each : String → Activity Unit) (path : String) (ps : List String)
    (o : Except Failure Unit) :
    atEach each (path :: ps) o = each path >>= fun _ => atEach each ps o := by
  simp [atEach]

theorem atEach_cons_error {path : String} {fs : FileSystem} {e : Failure} {p : Progress}
    (hp : each path h fs = ⟨.error e, p⟩) (ps : List String) (o : Except Failure Unit) :
    atEach each (path :: ps) o h fs = ⟨.error e, p⟩ := by
  rw [atEach_cons, bind_error hp]

theorem atEach_cons_ok {path : String} {fs : FileSystem} {p : Progress}
    (hp : each path h fs = ⟨.ok (), p⟩) (ps : List String) (o : Except Failure Unit) :
    atEach each (path :: ps) o h fs =
      ⟨(atEach each ps o h p.files).outcome,
        p.followedBy (atEach each ps o h p.files).progress⟩ := by
  rw [atEach_cons, bind_ok hp]

/-- What each path makes of the files is what all of them make, if it may be done repeatedly. -/
theorem atEach_relates {R : FileSystem → FileSystem → Prop} (hrefl : ∀ fs, R fs fs)
    (htrans : ∀ {fs fs' fs''}, R fs fs' → R fs' fs'' → R fs fs'')
    (hstep : ∀ path fs, R fs (each path h fs).progress.files) (ps : List String)
    (o : Except Failure Unit) (fs : FileSystem) :
    R fs (atEach each ps o h fs).progress.files := by
  induction ps generalizing fs with
  | nil =>
    rw [atEach_nil]
    exact hrefl fs
  | cons p ps ih =>
    have hp := hstep p fs
    rcases hmeet : each p h fs with ⟨e | u, q⟩
    · rw [hmeet] at hp
      rw [atEach_cons_error hmeet]
      exact hp
    · rw [hmeet] at hp
      rw [atEach_cons_ok hmeet]
      exact htrans hp (ih q.files)

theorem atEach_keepsShape (hk : KeepsShape h each) (ps : List String) (o : Except Failure Unit)
    (fs : FileSystem) : fs.SameShape (atEach each ps o h fs).progress.files :=
  atEach_relates SameShape.refl SameShape.trans hk ps o fs

/-- Where no path changes anything, they all find the file system as it was. -/
theorem atEach_of_keepsFiles (hk : ∀ path, KeepsFiles h (each path)) (ps : List String)
    (o : Except Failure Unit) (fs : FileSystem) :
    (atEach each ps o h fs).progress.files = fs ∧
      ((atEach each ps o h fs).outcome = .ok () ↔
        o = .ok () ∧ ∀ p ∈ ps, (each p h fs).outcome = .ok ()) := by
  induction ps with
  | nil =>
    rw [atEach_nil]
    simp [Progress.start]
  | cons p ps ih =>
    have hp := hk p fs
    rw [List.forall_mem_cons]
    rcases hmeet : each p h fs with ⟨e | u, q⟩
    · rw [hmeet] at hp
      rw [atEach_cons_error hmeet]
      exact ⟨hp, by simp⟩
    · rw [hmeet] at hp
      have hq : q.files = fs := hp
      rw [atEach_cons_ok hmeet, hq]
      exact ⟨ih.1, by simp [ih.2]⟩

/-- Where a tour is gone through, what was put out before stays in front. -/
theorem replay_watcher_agrees (h : Host) (each : String → Activity Unit) (ext : String)
    (items : List Item) (p : Progress) :
    let r := atEach each ((Walk.files items).filter (Path.hasExtension · ext))
      (Walk.outcome items) h p.files
    let q := replay (watcher h each) ext items p
    q.1 = r.outcome ∧ q.2.files = r.progress.files ∧ q.2.out = p.out ++ r.progress.out := by
  induction items generalizing p with
  | nil => exact ⟨rfl, rfl, (List.append_nil _).symm⟩
  | cons item items ih =>
    cases item with
    | file path =>
      simp only [replay, Walk.files, Walk.outcome]
      split
      · next hext =>
        rw [List.filter_cons, if_pos hext]
        rcases hmeet : each path h p.files with ⟨e | u, q⟩
        · rw [atEach_cons_error hmeet, meet_watcher hmeet]
          exact ⟨rfl, rfl, rfl⟩
        · rw [atEach_cons_ok hmeet, meet_watcher hmeet]
          obtain ⟨ho, hf, hout⟩ := ih (p.followedBy q)
          exact ⟨ho, hf, hout.trans (List.append_assoc ..)⟩
      · next hext =>
        rw [List.filter_cons, if_neg hext]
        exact ih p
    | other path => exact ih p
    | skipped n => exact ih { p with notes := p.notes ++ [n] }
    | fault f => exact ⟨rfl, rfl, (List.append_nil _).symm⟩

/-- A visit comes to the same paths, and to the same end, in every file system of one shape. -/
theorem visit_idle_sameShape {root ext : String} {home : Location} {fs fs₁ fs' : FileSystem}
    {o : Except Failure Unit} {ps : List String}
    (hvisit : visit Watcher.idle.recording home root ext (fs, []) = (o, (fs', ps)))
    (hs : fs.SameShape fs₁) :
    visit Watcher.idle.recording home root ext (fs₁, []) = (o, (fs₁, ps)) := by
  obtain ⟨items, htour, -⟩ := exists_visitTour fs home root
  rw [visit_idle htour] at hvisit
  cases hvisit
  rw [visit_eq_replay Watcher.idle_keepsShape.recording htour ext (fs₁, []) hs, replay_idle,
    List.nil_append]

/-- No path that a visit comes to is empty. -/
theorem ne_empty_of_visit {root ext : String} {home : Location} {fs fs' : FileSystem}
    {o : Except Failure Unit} {ps : List String}
    (hvisit : visit Watcher.idle.recording home root ext (fs, []) = (o, (fs', ps)))
    {path : String} (hpath : path ∈ ps) : path ≠ "" := by
  obtain ⟨items, htour, -⟩ := exists_visitTour fs home root
  rw [visit_idle htour] at hvisit
  cases hvisit
  have hfile := mem_of_mem_files (List.mem_filter.1 hpath).1
  obtain ⟨n, hlook, hcases⟩ := file_of_visitTour htour hfile
  obtain ⟨l, hres, -⟩ := look_eq_ok.1 hlook
  have hroot := ne_empty_of_resolve hres
  rcases hcases with ⟨-, -, rfl⟩ | htour
  · exact hroot
  · exact ne_empty_of_tour htour hfile hroot

/-- How a visit ends that nobody ends has nothing to do with the extension. -/
theorem visit_idle_ext {root ext : String} {home : Location} {fs fs' : FileSystem}
    {o : Except Failure Unit} {ps : List String}
    (hvisit : visit Watcher.idle.recording home root ext (fs, []) = (o, (fs', ps)))
    (ext' : String) :
    ∃ ps', visit Watcher.idle.recording home root ext' (fs, []) = (o, (fs, ps')) := by
  obtain ⟨items, htour, -⟩ := exists_visitTour fs home root
  rw [visit_idle htour] at hvisit
  cases hvisit
  exact ⟨_, visit_idle htour ext'⟩

/-- Something done at every file is done at the paths that a walk of the file system as it was
    comes to, and ends as that walk ends unless it has failed before. -/
theorem forFiles_agrees (hk : KeepsShape h each) {root ext : String} {fs fs' : FileSystem}
    {o : Except Failure Unit} {ps : List String}
    (hvisit : visit Watcher.idle.recording h.home root ext (fs, []) = (o, (fs', ps))) :
    (forFiles root ext each h fs).Agrees (atEach each ps o h fs) := by
  obtain ⟨items, htour, -⟩ := exists_visitTour fs h.home root
  rw [visit_idle htour] at hvisit
  cases hvisit
  obtain ⟨ho, hf, hout⟩ := replay_watcher_agrees h each ext items (Progress.start fs)
  have hforFiles : forFiles root ext each h fs =
      ⟨(replay (watcher h each) ext items (Progress.start fs)).1,
        (replay (watcher h each) ext items (Progress.start fs)).2⟩ := by
    unfold forFiles
    rw [visit_eq_replay (watcher_keepsShape hk) htour ext (Progress.start fs) (SameShape.refl fs)]
  rw [hforFiles]
  exact ⟨ho, hf, hout⟩

/-- Where no path changes anything, all is well if the walk and every path are. -/
theorem forFiles_outcome (hk : ∀ path, KeepsFiles h (each path)) {root ext : String}
    {fs fs' : FileSystem} {o : Except Failure Unit} {ps : List String}
    (hvisit : visit Watcher.idle.recording h.home root ext (fs, []) = (o, (fs', ps))) :
    (forFiles root ext each h fs).outcome = .ok () ↔
      o = .ok () ∧ ∀ p ∈ ps, (each p h fs).outcome = .ok () := by
  rw [(forFiles_agrees (keepsShape_of_keepsFiles hk) hvisit).outcome]
  exact (atEach_of_keepsFiles hk ps o fs).2

theorem forFiles_keepsFiles (hk : ∀ path, KeepsFiles h (each path)) (root ext : String) :
    KeepsFiles h (forFiles root ext each) := by
  intro fs
  rcases hvisit : visit Watcher.idle.recording h.home root ext (fs, []) with ⟨o, fs', ps⟩
  rw [(forFiles_agrees (keepsShape_of_keepsFiles hk) hvisit).files]
  exact (atEach_of_keepsFiles hk ps o fs).1

end Activity

end SourceTidy
