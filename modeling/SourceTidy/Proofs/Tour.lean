/-
  The tour of a walk: all that a walk comes across, in order, described without a bound on
  its depth and without anybody who looks at the files. `visit_eq_replay` says that a visit is
  this list and nothing else, gone through item by item: whoever watches it, as long as no
  directory, link or name is changed, is called at the files of the tour that have the
  extension, and the first failure ends it. The depth that `visit` allows never shows.
-/
import SourceTidy.Proofs.Listing
import SourceTidy.Walk

namespace SourceTidy

open FileSystem

namespace Walk

/-! ## Items -/

/-- Something that a walk comes across. -/
inductive Item where
  /-- A file, whatever its extension. -/
  | file (path : String)
  /-- A directory, or something that is never read. -/
  | other (path : String)
  /-- An entry that is left out, with the note that it leaves. -/
  | skipped (n : Note)
  /-- What ends the walk. -/
  | fault (f : Failure)

/-- An entry that cannot be looked at. -/
def Item.unseen (root path : String) (cause : FileError) : Item :=
  if cause = .notFound then .skipped (brokenNote path) else .fault (.walk root path cause)

variable (fs : FileSystem) (home : Location) (root : String)

/-- What a walk comes across at an entry; none if the entry is a directory to go into. -/
def glance (ancestors : List Ancestor) (path : String) : Node → Option Item
  | .file _ => some (.file path)
  | .directory => none
  | .device => some (.other path)
  | .link _ =>
    match fs.resolve home path with
    | .error cause => some (.unseen root path cause)
    | .ok place =>
      match fs.node? place with
      | some (.file _) => some (.file path)
      | some .directory =>
        (ancestors.find? (·.place = place)).map fun a => .skipped (loopNote path a)
      | _ => some (.other path)

/-- What a walk has before it: a directory to go into, or the rest of a directory's entries. -/
inductive Task where
  | enter (ancestors : List Ancestor) (path : String)
  | rest (ancestors : List Ancestor) (dir : String) (listing : List (String × Node))

/-- The tour of a task. After a fault it goes on as if nothing had happened; that nobody hears
    of what comes then is the business of `replay`. -/
inductive Tour : Task → List Item → Prop where
  | shut {as : List Ancestor} {path : String} {cause : FileError} :
      fs.openDirectory home path = .error cause →
      Tour (.enter as path) [.other path, .unseen root path cause]
  | opened {as : List Ancestor} {path : String} {place : Location}
      {listing : List (String × Node)} {items : List Item} :
      fs.openDirectory home path = .ok (place, listing) →
      Tour (.rest (⟨path, place⟩ :: as) path listing) items →
      Tour (.enter as path) (.other path :: items)
  | done {as : List Ancestor} {dir : String} : Tour (.rest as dir []) []
  | passed {as : List Ancestor} {dir name : String} {n : Node} {item : Item}
      {listing : List (String × Node)} {items : List Item} :
      glance fs home root as (Path.join dir name) n = some item →
      Tour (.rest as dir listing) items →
      Tour (.rest as dir ((name, n) :: listing)) (item :: items)
  | entered {as : List Ancestor} {dir name : String} {n : Node}
      {listing : List (String × Node)} {below items : List Item} :
      glance fs home root as (Path.join dir name) n = none →
      Tour (.enter as (Path.join dir name)) below →
      Tour (.rest as dir listing) items →
      Tour (.rest as dir ((name, n) :: listing)) (below ++ items)

/-- The tour of a visit. One dash stands for the standard input, where there are no files. -/
def VisitTour (items : List Item) : Prop :=
  match fs.look home root with
  | .error _ => items = [.fault (.file root .missingEntity)]
  | .ok (.file _) => items = [.file root]
  | .ok .directory =>
    if Path.isDash root then items = [.other root] else Tour fs home root (.enter [] root) items
  | .ok _ => items = [.other root]

variable {fs home root}

theorem visitTour_directory {top : Location} {items : List Item}
    (hres : fs.resolve home root = .ok top) (htop : fs.node? top = some .directory)
    (hdash : ¬Path.isDash root) :
    VisitTour fs home root items ↔ Tour fs home root (.enter [] root) items := by
  unfold VisitTour
  simp only [look_eq_ok.2 ⟨top, hres, htop⟩, if_neg hdash]

end Walk

/-! ## Watchers -/

/-- The watcher changes no directory, no link and no name; what files hold may change. -/
structure Watcher.KeepsShape {σ : Type} (w : Watcher σ) : Prop where
  meet : ∀ path s, (w.files s).SameShape (w.files (w.meet path s).2)
  tell : ∀ n s, (w.files s).SameShape (w.files (w.tell n s))

namespace Walk

variable {σ : Type} (w : Watcher σ) (ext : String)

/-- Go through the items of a tour: files with the extension are met and notes are told, up to
    the first failure. -/
def replay : List Item → σ → Except Failure Unit × σ
  | [], s => (.ok (), s)
  | .file path :: items, s =>
    if Path.hasExtension path ext then
      match w.meet path s with
      | (.error e, s) => (.error e, s)
      | (.ok (), s) => replay items s
    else replay items s
  | .other _ :: items, s => replay items s
  | .skipped n :: items, s => replay items (w.tell n s)
  | .fault f :: _, s => (.error f, s)

theorem replay_append (xs ys : List Item) (s : σ) :
    replay w ext (xs ++ ys) s =
      match replay w ext xs s with
      | (.error e, s) => (.error e, s)
      | (.ok (), s) => replay w ext ys s := by
  induction xs generalizing s with
  | nil => rfl
  | cons x xs ih =>
    cases x with
    | file path =>
      simp only [List.cons_append, replay]
      split
      · split
        · rfl
        · exact ih _
      · exact ih s
    | other path => exact ih s
    | skipped n => exact ih _
    | fault f => rfl

theorem replay_keepsShape {w : Watcher σ} (hw : w.KeepsShape) (items : List Item) (s : σ) :
    (w.files s).SameShape (w.files (replay w ext items s).2) := by
  induction items generalizing s with
  | nil => exact SameShape.refl _
  | cons x xs ih =>
    cases x with
    | file path =>
      simp only [replay]
      split
      · have hmeet := hw.meet path s
        split
        · next h =>
          rw [h] at hmeet
          exact hmeet
        · next h =>
          rw [h] at hmeet
          exact hmeet.trans (ih _)
      · exact ih s
    | other path => exact ih s
    | skipped n => exact (hw.tell n s).trans (ih _)
    | fault f => exact SameShape.refl _

/-! ## A visit and its tour -/

theorem file_eq_replay (r : Route) (path : String) (s : σ) :
    file w r path s = replay w r.ext [.file path] s := by
  simp only [file, replay]
  split
  · split <;> next h => exact h
  · rfl

theorem trouble_eq_replay (r : Route) (path : String) (cause : FileError) (s : σ) :
    trouble w r path cause s = replay w r.ext [.unseen r.root path cause] s := by
  unfold trouble Item.unseen
  split <;> rfl

/-- What is met at an entry, or that the walk goes on into it. -/
theorem entry_eq_glance (r : Route)
    (enter : List Ancestor → String → σ → Except Failure Unit × σ) (as : List Ancestor)
    (path : String) (n : Node) (s : σ) :
    entry w r enter as path n s =
      match glance (w.files s) r.home r.root as path n with
      | some item => replay w r.ext [item] s
      | none => enter as path s := by
  cases n with
  | file content => exact file_eq_replay w r path s
  | directory => rfl
  | device => rfl
  | link target =>
    simp only [entry, link, glance]
    cases (w.files s).resolve r.home path with
    | error cause => exact trouble_eq_replay w r path cause s
    | ok place =>
      simp only
      cases (w.files s).node? place with
      | none => rfl
      | some m =>
        cases m with
        | file content => exact file_eq_replay w r path s
        | directory => cases as.find? (·.place = place) <;> rfl
        | link target => rfl
        | device => rfl

theorem glance_sameShape {fs fs' : FileSystem} (h : fs.SameShape fs') (home : Location)
    (root : String) (as : List Ancestor) (path : String) {n n' : Node}
    (hn : n'.shape = n.shape) :
    glance fs' home root as path n' = glance fs home root as path n := by
  rcases Node.eq_of_shape hn with rfl | ⟨b, c, rfl, rfl⟩
  · cases n' with
    | link target =>
      simp only [glance, ← h.resolve]
      cases fs.resolve home path with
      | error cause => rfl
      | ok place =>
        rcases h.node?_cases place with hp | ⟨b, c, hb, hc⟩
        · simp only [hp]
        · simp only [hb, hc]
    | _ => rfl
  · rfl

/-- What it means for a task that a watcher is led through its tour: at any depth that is
    enough for the longest path that can be opened. -/
def Replays (fs : FileSystem) (r : Route) : Task → List Item → Prop
  | .enter as path, items => ∀ (depth : Nat) (s : σ), path ≠ "" → '\x00' ∉ path.toList →
      pathLimit < path.utf8ByteSize + depth → fs.SameShape (w.files s) →
      directory w r depth as path s = replay w r.ext items s
  | .rest as dir listing, items => ∀ (depth : Nat) (s : σ) (listing' : List (String × Node)),
      dir ≠ "" → '\x00' ∉ dir.toList → (∀ e ∈ listing, isName e.1 = true) →
      pathLimit ≤ dir.utf8ByteSize + depth →
      listing'.map (Prod.map id Node.shape) = listing.map (Prod.map id Node.shape) →
      fs.SameShape (w.files s) →
      entries w r (directory w r depth) as dir listing' s = replay w r.ext items s

theorem isName_of_mem_listing {fs : FileSystem} {dir : Location} {e : String × Node}
    (h : e ∈ fs.listing dir) : isName e.1 = true :=
  isName_of_node? (mem_listing.1 h)

theorem exists_of_shape_cons {name : String} {n : Node} {listing listing' : List (String × Node)}
    (h : listing'.map (Prod.map id Node.shape) =
      ((name, n) :: listing).map (Prod.map id Node.shape)) :
    ∃ n' rest', listing' = (name, n') :: rest' ∧ n'.shape = n.shape ∧
      rest'.map (Prod.map id Node.shape) = listing.map (Prod.map id Node.shape) := by
  obtain ⟨⟨name', n'⟩, rest', rfl, he, hrest⟩ := List.map_eq_cons_iff.1 h
  simp only [Prod.map_apply, id_eq, Prod.mk.injEq] at he
  obtain ⟨rfl, hn⟩ := he
  exact ⟨n', rest', rfl, hn, hrest⟩

/-- One entry and then the others: what the entry leaves behind still has the shape. -/
theorem entries_cons_eq_replay {w : Watcher σ} (hw : w.KeepsShape) {fs : FileSystem} {r : Route}
    {enter : List Ancestor → String → σ → Except Failure Unit × σ} {as : List Ancestor}
    {dir name : String} {n : Node} {rest : List (String × Node)} {xs ys : List Item} {s : σ}
    (hs : fs.SameShape (w.files s))
    (hentry : entry w r enter as (Path.join dir name) n s = replay w r.ext xs s)
    (hrest : ∀ s', fs.SameShape (w.files s') →
      entries w r enter as dir rest s' = replay w r.ext ys s') :
    entries w r enter as dir ((name, n) :: rest) s = replay w r.ext (xs ++ ys) s := by
  have hkeep := replay_keepsShape r.ext hw xs s
  rw [entries, hentry, replay_append]
  rcases hxs : replay w r.ext xs s with ⟨e | u, s'⟩
  · rfl
  · rw [hxs] at hkeep
    exact hrest s' (hs.trans hkeep)

/-- A watcher that keeps the shape is led through the tour of every task. -/
theorem replays_of_tour {w : Watcher σ} (hw : w.KeepsShape) {fs : FileSystem} (r : Route)
    {task : Task} {items : List Item} (h : Tour fs r.home r.root task items) :
    Replays w fs r task items := by
  induction h with
  | @shut as path cause hopen =>
    intro depth s hne hnul hdepth hs
    cases depth with
    | zero =>
      -- The path is too long here, which is also what opening it says.
      have hlong : fs.openDirectory r.home path = .error .nameTooLong := by
        unfold openDirectory
        rw [resolve_of_arrive_error (arrive_of_long hne hnul hdepth)]
      rw [hlong] at hopen
      cases hopen
      rfl
    | succ depth =>
      have hopen' := hs.openDirectory r.home path
      rw [hopen] at hopen'
      unfold directory
      rw [hopen']
      exact trouble_eq_replay w r path cause s
  | @opened as path place listing items hopen _ ih =>
    intro depth s hne hnul hdepth hs
    obtain ⟨hres, -, rfl⟩ := openDirectory_eq_ok.1 hopen
    obtain ⟨k, harr⟩ := resolve_eq_ok.1 hres
    cases depth with
    | zero =>
      have hlim := (pathFault?_eq_none.1 (pathFault?_of_arrive harr)).2.2
      omega
    | succ depth =>
      have hopen' := hs.openDirectory r.home path
      rw [hopen] at hopen'
      unfold directory
      rw [hopen']
      exact ih depth s _ hne hnul (fun e he => isName_of_mem_listing he) (by omega)
        (hs.listing place).symm hs
  | done =>
    intro depth s listing' _ _ _ _ hl _
    rw [List.map_nil, List.map_eq_nil_iff] at hl
    rw [hl]
    rfl
  | @passed as dir name n item listing items hglance _ ih =>
    intro depth s listing' hne hnul hnames hdepth hl hs
    obtain ⟨n', rest', rfl, hshape, hrest⟩ := exists_of_shape_cons hl
    have hentry : entry w r (directory w r depth) as (Path.join dir name) n' s =
        replay w r.ext [item] s := by
      rw [entry_eq_glance, glance_sameShape hs r.home r.root as _ hshape, hglance]
    rw [← List.singleton_append]
    refine entries_cons_eq_replay hw hs hentry fun s' hs' => ?_
    exact ih depth s' rest' hne hnul (fun e he => hnames e (List.mem_cons_of_mem _ he)) hdepth
      hrest hs'
  | @entered as dir name n listing below items hglance _ _ ihbelow ih =>
    intro depth s listing' hne hnul hnames hdepth hl hs
    obtain ⟨n', rest', rfl, hshape, hrest⟩ := exists_of_shape_cons hl
    have hname : isName name = true := hnames (name, n) (List.mem_cons_self ..)
    have hlonger := Path.utf8ByteSize_lt_join hne hname
    have hbelow := ihbelow depth s (Path.join_ne_empty name hne)
      (Path.not_mem_join hne hnul hname) (by omega) hs
    have hentry : entry w r (directory w r depth) as (Path.join dir name) n' s =
        replay w r.ext below s := by
      rw [entry_eq_glance, glance_sameShape hs r.home r.root as _ hshape, hglance]
      exact hbelow
    refine entries_cons_eq_replay hw hs hentry fun s' hs' => ?_
    exact ih depth s' rest' hne hnul (fun e he => hnames e (List.mem_cons_of_mem _ he)) hdepth
      hrest hs'

end Walk

open Walk

/-- A visit goes through its tour and does nothing else, whoever watches it and whatever the
    extension, as long as the shape of the file system stays. -/
theorem visit_eq_replay {σ : Type} {w : Watcher σ} (hw : w.KeepsShape) {fs : FileSystem}
    {home : Location} {root : String} {items : List Item} (h : VisitTour fs home root items)
    (ext : String) (s : σ) (hs : fs.SameShape (w.files s)) :
    visit w home root ext s = replay w ext items s := by
  unfold visit
  unfold VisitTour at h
  cases hlook : fs.look home root with
  | error cause =>
    rw [hlook] at h
    obtain ⟨e, he⟩ := hs.look_error hlook
    simp only [he, h]
    rfl
  | ok n =>
    rw [hlook] at h
    obtain ⟨n', hn', hshape⟩ := hs.look hlook
    simp only [hn']
    rcases Node.eq_of_shape hshape with rfl | ⟨b, c, rfl, rfl⟩
    · cases n' with
      | file content =>
        rw [h]
        exact file_eq_replay w _ root s
      | directory =>
        by_cases hdash : Path.isDash root = true
        · rw [if_pos hdash] at h
          simp only [if_pos hdash, h]
          rfl
        · rw [if_neg hdash] at h
          simp only [if_neg hdash]
          obtain ⟨l, hres, -⟩ := look_eq_ok.1 hlook
          obtain ⟨k, harr⟩ := resolve_eq_ok.1 hres
          obtain ⟨hne, hnul, -⟩ := pathFault?_eq_none.1 (pathFault?_of_arrive harr)
          exact replays_of_tour hw ⟨home, root, ext⟩ h levels s hne hnul
            (by unfold levels; omega) hs
      | link target =>
        rw [h]
        rfl
      | device =>
        rw [h]
        rfl
    · rw [h]
      exact file_eq_replay w _ root s

/-! ## Recording -/

namespace Watcher

variable {σ : Type}

/-- A watcher that does nothing. -/
def idle : Watcher FileSystem where
  files := id
  tell := fun _ fs => fs
  meet := fun _ fs => (.ok (), fs)

/-- The same watcher, which also keeps the paths that it is called with, in order. -/
def recording (w : Watcher σ) : Watcher (σ × List String) where
  files := fun s => w.files s.1
  tell := fun n s => (w.tell n s.1, s.2)
  meet := fun path s => ((w.meet path s.1).1, ((w.meet path s.1).2, s.2 ++ [path]))

theorem idle_keepsShape : idle.KeepsShape :=
  ⟨fun _ _ => SameShape.refl _, fun _ _ => SameShape.refl _⟩

theorem KeepsShape.recording {w : Watcher σ} (hw : w.KeepsShape) : w.recording.KeepsShape :=
  ⟨fun path s => hw.meet path s.1, fun n s => hw.tell n s.1⟩

end Watcher

namespace Walk

/-- Nothing in a tour ends it. -/
def Smooth (items : List Item) : Prop := ∀ f, Item.fault f ∉ items

theorem smooth_cons {item : Item} {items : List Item} :
    Smooth (item :: items) ↔ (∀ f, item ≠ .fault f) ∧ Smooth items := by
  unfold Smooth
  simp only [List.mem_cons, not_or, forall_and]
  constructor
  · rintro ⟨h, h'⟩
    exact ⟨fun f hf => h f hf.symm, h'⟩
  · rintro ⟨h, h'⟩
    exact ⟨fun f hf => h f hf.symm, h'⟩

/-- The files of a tour before the first fault. -/
def files : List Item → List String
  | [] => []
  | .file path :: items => path :: files items
  | .other _ :: items => files items
  | .skipped _ :: items => files items
  | .fault _ :: _ => []

/-- How a tour ends that no watcher ends before. -/
def outcome : List Item → Except Failure Unit
  | [] => .ok ()
  | .file _ :: items => outcome items
  | .other _ :: items => outcome items
  | .skipped _ :: items => outcome items
  | .fault f :: _ => .error f

theorem outcome_eq_ok {items : List Item} : outcome items = .ok () ↔ Smooth items := by
  induction items with
  | nil => simp [outcome, Smooth]
  | cons x xs ih =>
    rw [smooth_cons]
    cases x <;> simp [outcome, ih]

theorem mem_of_outcome {items : List Item} {f : Failure} (h : outcome items = .error f) :
    .fault f ∈ items := by
  induction items with
  | nil => cases h
  | cons x xs ih =>
    cases x with
    | fault g =>
      cases h
      exact List.mem_cons_self ..
    | _ => exact List.mem_cons_of_mem _ (ih h)

theorem mem_of_mem_files {items : List Item} {path : String} (h : path ∈ files items) :
    .file path ∈ items := by
  induction items with
  | nil => cases h
  | cons x xs ih =>
    cases x with
    | file other =>
      rcases List.mem_cons.1 h with rfl | h
      · exact List.mem_cons_self ..
      · exact List.mem_cons_of_mem _ (ih h)
    | fault g => cases h
    | _ => exact List.mem_cons_of_mem _ (ih h)

/-- The files of a visit are its root, or those of the tour of a directory. -/
theorem file_of_visitTour {fs : FileSystem} {home : Location} {root path : String}
    {items : List Item} (h : VisitTour fs home root items) (hfile : .file path ∈ items) :
    ∃ n, fs.look home root = .ok n ∧
      ((∃ content, n = .file content ∧ path = root) ∨
        Tour fs home root (.enter [] root) items) := by
  unfold VisitTour at h
  cases hlook : fs.look home root with
  | error e =>
    simp only [hlook] at h
    simp [h] at hfile
  | ok n =>
    refine ⟨n, rfl, ?_⟩
    simp only [hlook] at h
    cases n with
    | directory =>
      simp only at h
      split at h
      · simp [h] at hfile
      · exact Or.inr h
    | file content =>
      simp only at h
      rw [h, List.mem_singleton] at hfile
      cases hfile
      exact Or.inl ⟨content, rfl, rfl⟩
    | _ =>
      simp only at h
      simp [h] at hfile

theorem path_of_glance_file {fs : FileSystem} {home : Location} {root path path' : String}
    {as : List Ancestor} {n : Node}
    (h : glance fs home root as path n = some (.file path')) : path' = path := by
  cases n with
  | file content =>
    cases h
    rfl
  | device => cases h
  | directory => cases h
  | link target =>
    simp only [glance] at h
    split at h
    · simp only [Item.unseen, Option.some.injEq] at h
      split at h <;> cases h
    · split at h
      · cases h
        rfl
      · simp at h
      · cases h

/-- Of a task with a path, every file has a path. -/
theorem ne_empty_of_tour {fs : FileSystem} {home : Location} {root path : String} {task : Task}
    {items : List Item} (h : Tour fs home root task items) (hfile : .file path ∈ items)
    (htask : match task with
      | .enter _ dir => dir ≠ ""
      | .rest _ dir _ => dir ≠ "") : path ≠ "" := by
  induction h with
  | shut hopen =>
    simp only [Item.unseen, List.mem_cons, List.not_mem_nil, reduceCtorEq, or_false,
      false_or] at hfile
    split at hfile <;> cases hfile
  | opened hopen _ ih =>
    rcases List.mem_cons.1 hfile with hfile | hfile
    · cases hfile
    · exact ih hfile htask
  | done => cases hfile
  | @passed as dir name n item listing items hglance _ ih =>
    rcases List.mem_cons.1 hfile with rfl | hfile
    · rw [path_of_glance_file hglance]
      exact Path.join_ne_empty name htask
    · exact ih hfile htask
  | @entered as dir name n listing below items hglance _ _ ihbelow ih =>
    rcases List.mem_append.1 hfile with hfile | hfile
    · exact ihbelow hfile (Path.join_ne_empty name htask)
    · exact ih hfile htask

/-- A watcher that never fails is led to the end of the tour. -/
theorem replay_outcome {σ : Type} {w : Watcher σ}
    (hmeet : ∀ path s, (w.meet path s).1 = .ok ()) (ext : String) (items : List Item) (s : σ) :
    (replay w ext items s).1 = outcome items := by
  induction items generalizing s with
  | nil => rfl
  | cons x xs ih =>
    cases x with
    | file path =>
      simp only [replay, outcome]
      split
      · have hpath := hmeet path s
        split
        · next h =>
          rw [h] at hpath
          cases hpath
        · exact ih _
      · exact ih s
    | other path => exact ih s
    | skipped n => exact ih _
    | fault f => rfl

/-- What a recording watcher is left with when nothing has failed: the tour was smooth, and the
    paths are those of its files with the extension. -/
theorem replay_recording_ok {σ : Type} {w : Watcher σ} {ext : String} {items : List Item}
    {s s' : σ} {ps ps' : List String}
    (h : replay w.recording ext items (s, ps) = (.ok (), (s', ps'))) :
    Smooth items ∧ ps' = ps ++ (files items).filter (Path.hasExtension · ext) := by
  induction items generalizing s ps with
  | nil =>
    cases h
    exact ⟨fun _ => List.not_mem_nil, by simp [files]⟩
  | cons x xs ih =>
    rw [smooth_cons]
    cases x with
    | file path =>
      simp only [replay, Watcher.recording] at h
      split at h
      · next hext =>
        split at h
        · cases h
        · next hmeet =>
          simp only [Prod.mk.injEq] at hmeet
          obtain ⟨-, rfl⟩ := hmeet
          obtain ⟨hs, hps⟩ := ih h
          exact ⟨⟨by simp, hs⟩, by simp [files, hext, hps]⟩
      · next hext =>
        obtain ⟨hs, hps⟩ := ih h
        exact ⟨⟨by simp, hs⟩, by simp [files, hext, hps]⟩
    | other path =>
      obtain ⟨hs, hps⟩ := ih h
      exact ⟨⟨by simp, hs⟩, hps⟩
    | skipped n =>
      obtain ⟨hs, hps⟩ := ih h
      exact ⟨⟨by simp, hs⟩, hps⟩
    | fault f => cases h

/-- A recording watcher that does nothing else hears of every file up to the first fault. -/
theorem replay_idle (ext : String) (items : List Item) (fs : FileSystem) (ps : List String) :
    replay Watcher.idle.recording ext items (fs, ps) =
      (outcome items, (fs, ps ++ (files items).filter (Path.hasExtension · ext))) := by
  induction items generalizing ps with
  | nil => simp [replay, outcome, files]
  | cons x xs ih =>
    cases x with
    | file path =>
      simp only [replay, outcome, files]
      split
      · next hext =>
        rw [List.filter_cons, if_pos hext, List.append_cons]
        exact ih (ps ++ [path])
      · next hext =>
        rw [List.filter_cons, if_neg hext]
        exact ih ps
    | other path => exact ih ps
    | skipped n => exact ih ps
    | fault f => simp [replay, outcome, files]

/-- What a visit comes to that only records. -/
theorem visit_idle {fs : FileSystem} {home : Location} {root : String} {items : List Item}
    (h : VisitTour fs home root items) (ext : String) :
    visit Watcher.idle.recording home root ext (fs, []) =
      (outcome items, (fs, (files items).filter (Path.hasExtension · ext))) := by
  rw [visit_eq_replay Watcher.idle_keepsShape.recording h ext (fs, []) (SameShape.refl fs),
    replay_idle, List.nil_append]

theorem visit_idle_of_tour {fs : FileSystem} {home top : Location} {root ext : String}
    {items : List Item} {o : Except Failure Unit} {ps : List String}
    (hres : fs.resolve home root = .ok top) (htop : fs.node? top = some .directory)
    (hdash : ¬Path.isDash root) (h : Tour fs home root (.enter [] root) items)
    (hend : outcome items = o) (hps : (files items).filter (Path.hasExtension · ext) = ps) :
    visit Watcher.idle.recording home root ext (fs, []) = (o, (fs, ps)) := by
  rw [visit_idle ((visitTour_directory hres htop hdash).2 h), hend, hps]

end Walk

end SourceTidy
