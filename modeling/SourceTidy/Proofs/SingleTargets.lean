/-
  Files as targets of their own. A walk tells files by what stands in the listings of their
  directories, a target that is a file by where its path leads. The two agree on every path
  that a walk comes to, as long as the path is not too long to be followed
  (`isFile_of_visit`). Where they agree, an action that goes through files does at a directory
  what it does at the files of its walk, named one after the other; where they do not, it finds
  nothing at the path (`directory_run_is_file_runs`).
-/
import SourceTidy.Proofs.HeaderChecks
import SourceTidy.Proofs.Parents
import SourceTidy.Proofs.Tools
import SourceTidy.Proofs.Visits

namespace SourceTidy

open FileSystem

/-! ## Files of a walk, by their paths -/

theorem FileSystem.SameShape.isFile {fs fs' : FileSystem} (hs : fs.SameShape fs')
    {home : Location} {path : String} (h : fs.isFile home path = true) :
    fs'.isFile home path = true := by
  obtain ⟨l, content, hres, hl⟩ := isFile_iff.1 h
  rw [hs.resolve] at hres
  rcases hs.node?_cases l with heq | ⟨b, c, -, hc⟩
  · exact isFile_iff.2 ⟨l, content, hres, heq ▸ hl⟩
  · exact isFile_iff.2 ⟨l, c, hres, hc⟩

namespace Walk

variable {fs : FileSystem} {home : Location} {root : String}

/-- What an entry is in its listing, it is by its path. -/
theorem isFile_of_glance {as : List Ancestor} {dir name path : String} {here : Location}
    {n : Node} (hres : fs.resolve home dir = .ok here) (hdir : fs.node? here = some .directory)
    (hn : fs.node? (here ++ [name]) = some n)
    (hg : glance fs home root as (Path.join dir name) n = some (.file path))
    (hsize : path.utf8ByteSize ≤ pathLimit) : fs.isFile home path = true := by
  obtain rfl := path_of_glance_file hg
  cases n with
  | file content =>
    obtain ⟨k, harr⟩ := resolve_eq_ok.1 hres
    have hjoin := arrive_join harr (isName_of_node? hn)
    rw [if_neg (by omega), resolveFrom_entry k hdir hn (by simp)] at hjoin
    exact isFile_iff.2 ⟨_, content, resolve_eq_ok.2 ⟨k, hjoin⟩, hn⟩
  | device => cases hg
  | directory => cases hg
  | link target =>
    simp only [glance] at hg
    cases hpath : fs.resolve home (Path.join dir name) with
    | error cause =>
      simp only [hpath, Item.unseen, Option.some.injEq] at hg
      split at hg <;> cases hg
    | ok l =>
      simp only [hpath] at hg
      split at hg
      · next content hl => exact isFile_iff.2 ⟨l, content, hpath, hl⟩
      · simp at hg
      · cases hg

/-- The rest of a listing is one of the directory that its path leads to. -/
def Task.Listed (fs : FileSystem) (home : Location) : Task → Prop
  | .enter _ _ => True
  | .rest _ dir listing => ∃ here, fs.resolve home dir = .ok here ∧
      fs.node? here = some .directory ∧ ∀ e ∈ listing, fs.node? (here ++ [e.1]) = some e.2

theorem isFile_of_tour {task : Task} {items : List Item} (h : Tour fs home root task items)
    (htask : task.Listed fs home) {path : String} (hfile : .file path ∈ items)
    (hsize : path.utf8ByteSize ≤ pathLimit) : fs.isFile home path = true := by
  induction h with
  | shut hopen =>
    simp only [Item.unseen, List.mem_cons, List.not_mem_nil, reduceCtorEq, or_false,
      false_or] at hfile
    split at hfile <;> cases hfile
  | @opened as dir place listing items hopen _ ih =>
    obtain ⟨hres, hdir, rfl⟩ := openDirectory_eq_ok.1 hopen
    have hfile' : .file path ∈ items := by simpa using hfile
    exact ih ⟨place, hres, hdir, fun e he => mem_listing.1 he⟩ hfile'
  | done => cases hfile
  | @passed as dir name n item listing items hg _ ih =>
    obtain ⟨here, hres, hdir, hlist⟩ := htask
    obtain ⟨hn, hlist⟩ := List.forall_mem_cons.1 hlist
    rcases List.mem_cons.1 hfile with rfl | hfile
    · exact isFile_of_glance hres hdir hn hg hsize
    · exact ih ⟨here, hres, hdir, hlist⟩ hfile
  | @entered as dir name n listing below items hg _ _ ihbelow ih =>
    obtain ⟨here, hres, hdir, hlist⟩ := htask
    rcases List.mem_append.1 hfile with hfile | hfile
    · exact ihbelow trivial hfile
    · exact ih ⟨here, hres, hdir, (List.forall_mem_cons.1 hlist).2⟩ hfile

end Walk

section Visited

variable {fs fs' : FileSystem} {home : Location} {root ext path : String}
  {o : Except Failure Unit} {ps : List String}

theorem hasExtension_of_visit
    (hvisit : visit Watcher.idle.recording home root ext (fs, []) = (o, (fs', ps)))
    (hpath : path ∈ ps) : Path.hasExtension path ext = true := by
  obtain ⟨items, htour, -⟩ := Walk.exists_visitTour fs home root
  rw [Walk.visit_idle htour] at hvisit
  cases hvisit
  exact (List.mem_filter.1 hpath).2

/-- The paths that a visit comes to lead to files. -/
theorem isFile_of_visit
    (hvisit : visit Watcher.idle.recording home root ext (fs, []) = (o, (fs', ps)))
    (hpath : path ∈ ps) (hsize : path.utf8ByteSize ≤ pathLimit) :
    fs.isFile home path = true := by
  obtain ⟨items, htour, -⟩ := Walk.exists_visitTour fs home root
  rw [Walk.visit_idle htour] at hvisit
  cases hvisit
  have hfile := Walk.mem_of_mem_files (List.mem_filter.1 hpath).1
  obtain ⟨n, hlook, ⟨content, rfl, rfl⟩ | htour⟩ := Walk.file_of_visitTour htour hfile
  · obtain ⟨l, hres, hl⟩ := look_eq_ok.1 hlook
    exact isFile_iff.2 ⟨l, content, hres, hl⟩
  · exact Walk.isFile_of_tour htour trivial hfile hsize

/-- A path that a visit comes to leads to a file or nowhere. -/
theorem look_of_not_isFile
    (hvisit : visit Watcher.idle.recording home root ext (fs, []) = (o, (fs', ps)))
    (hpath : path ∈ ps) (hnone : fs.isFile home path = false) :
    ∃ e, fs.look home path = .error e := by
  cases hlook : fs.look home path with
  | error e => exact ⟨e, rfl⟩
  | ok n =>
    obtain ⟨l, hres, -⟩ := look_eq_ok.1 hlook
    obtain ⟨k, harr⟩ := resolve_eq_ok.1 hres
    have hsize := (pathFault?_eq_none.1 (pathFault?_of_arrive harr)).2.2
    rw [isFile_of_visit hvisit hpath hsize] at hnone
    cases hnone

end Visited

/-! ## Activities at files -/

namespace Activity

variable {h : Host} {each : String → Activity Unit}

/-- At a target that is a file, something done at every file is done there. -/
theorem forFiles_of_isFile {fs : FileSystem} {path ext : String}
    (hfile : fs.isFile h.home path = true) (hext : Path.hasExtension path ext = true) :
    forFiles path ext each h fs = each path h fs := by
  obtain ⟨l, content, hres, hl⟩ := isFile_iff.1 hfile
  have hlook : (Progress.start fs).files.look h.home path = .ok (.file content) :=
    look_eq_ok.2 ⟨l, hres, hl⟩
  unfold forFiles visit
  simp only [watcher, hlook, Walk.file, hext, if_true, Progress.start_followedBy]
  rfl

/-- There is nothing to do at a target that cannot be looked at. -/
theorem forFiles_of_look_error {fs : FileSystem} {root : String} {e : FileError}
    (hlook : fs.look h.home root = .error e) (ext : String) :
    forFiles root ext each h fs = ⟨.error (.file root .missingEntity), .start fs⟩ := by
  have hlook' : (Progress.start fs).files.look h.home root = .error e := hlook
  unfold forFiles visit
  simp only [watcher, hlook']

/-- Files that are targets of their own are met one after the other. -/
theorem atEach_files {ps : List String} {ext : String} (o : Except Failure Unit)
    (hk : KeepsShape h each) {fs : FileSystem}
    (hps : ∀ p ∈ ps, fs.isFile h.home p = true ∧ Path.hasExtension p ext = true) :
    atEach (fun p => forFiles p ext each) ps o h fs = atEach each ps o h fs := by
  induction ps generalizing fs with
  | nil => rfl
  | cons p ps ih =>
    obtain ⟨⟨hfile, hext⟩, hps⟩ := List.forall_mem_cons.1 hps
    have hp : forFiles p ext each h fs = each p h fs := forFiles_of_isFile hfile hext
    rcases hmeet : each p h fs with ⟨e | u, q⟩
    · rw [atEach_cons_error (hp.trans hmeet), atEach_cons_error hmeet]
    · have hshape : fs.SameShape q.files := by
        have hstep := hk p fs
        rwa [hmeet] at hstep
      have hrest := ih fun p hp => ⟨hshape.isFile (hps p hp).1, (hps p hp).2⟩
      rw [atEach_cons_ok (hp.trans hmeet), atEach_cons_ok hmeet, hrest]

theorem atEach_ok (each : String → Activity Unit) (ps : List String) :
    atEach each ps (.ok ()) = ps.forM each :=
  bind_pure (ps.forM each)

end Activity

/-! ## Actions that go through files -/

/-- The actions that go through files, each with the extension that it goes by. -/
def fileActions (s : Settings) : List (Action × String) :=
  [(.singleSpace, s.extension), (.headerCheck, s.extension), (.replTest, s.replExtension)]

/-- Each of them does something at every file, and changes at most what files hold if the tools
    change nothing. -/
theorem exists_each_of_mem {s : Settings} {a : Action × String} (ha : a ∈ fileActions s) :
    ∃ each,
      (∀ target quiet disabled, a.1.run ⟨⟨target, s⟩, quiet, disabled⟩ =
        Activity.forFiles target a.2 each) ∧
      ∀ h : Host, h.launch.KeepsFiles → Activity.KeepsShape h each := by
  simp only [fileActions, List.mem_cons, List.not_mem_nil, or_false] at ha
  rcases ha with rfl | rfl | rfl
  · exact ⟨singleSpaceFile, fun _ _ _ => rfl, fun h _ => singleSpaceFile_keepsShape h⟩
  · refine ⟨checkHeader s.commentMarker, fun _ _ _ => rfl, fun h _ => ?_⟩
    exact Activity.keepsShape_of_keepsFiles fun path => checkHeader_keepsFiles _ path h
  · refine ⟨doctestFile ⟨⟨"", s⟩, false, []⟩, fun _ _ _ => rfl, fun h hk => ?_⟩
    exact Activity.keepsShape_of_keepsFiles fun path => doctestFile_keepsFiles hk _ path

/-- **A run at a directory is the runs at its files.** Let the walk of a target succeed, and let
    the tools change no files. If each path that the walk comes to leads to a file when it is
    looked up by itself, then what an action that goes through files does at the target is what
    it does at these paths, each a target of its own, one after the other up to the first
    failure: it ends in the same way, leaves the same files and puts out the same. At a path
    that does not, there is nothing for the action to find. A path does if it is not too long,
    for every directory may be searched. -/
theorem directory_run_is_file_runs {h : Host} (hk : h.launch.KeepsFiles) {settings : Settings}
    {target : String} {fs fs₁ : FileSystem} {ps : List String} (quiet : Bool)
    (disabled : List String) :
    ∀ a ∈ fileActions settings,
      visit Watcher.idle.recording h.home target a.2 (fs, []) = (.ok (), (fs₁, ps)) →
      ((∀ path ∈ ps, fs.isFile h.home path = true) →
        (a.1.run ⟨⟨target, settings⟩, quiet, disabled⟩ h fs).Agrees
          ((ps.forM fun path => a.1.run ⟨⟨path, settings⟩, quiet, disabled⟩) h fs)) ∧
      (∀ path ∈ ps, fs.isFile h.home path = false →
        a.1.run ⟨⟨path, settings⟩, quiet, disabled⟩ h fs =
          ⟨.error (.file path .missingEntity), .start fs⟩) ∧
      ∀ path ∈ ps, path.utf8ByteSize ≤ pathLimit → fs.isFile h.home path = true := by
  intro a ha hvisit
  obtain ⟨each, hrun, hkeeps⟩ := exists_each_of_mem ha
  simp only [hrun]
  refine ⟨?_, ?_, fun path hpath hsize => isFile_of_visit hvisit hpath hsize⟩
  · intro hfiles
    have hmatch : ∀ path ∈ ps,
        fs.isFile h.home path = true ∧ Path.hasExtension path a.2 = true :=
      fun path hpath => ⟨hfiles path hpath, hasExtension_of_visit hvisit hpath⟩
    have hagrees := Activity.forFiles_agrees (hkeeps h hk) hvisit
    rwa [← Activity.atEach_files (.ok ()) (hkeeps h hk) hmatch, Activity.atEach_ok] at hagrees
  · intro path hpath hnone
    obtain ⟨e, hlook⟩ := look_of_not_isFile hvisit hpath hnone
    exact Activity.forFiles_of_look_error hlook a.2

/-- The file that is no text ends both: the run at the directory, and the runs at its files. -/
theorem directory_run_is_file_runs_aliased :
    (Action.singleSpace.run ⟨⟨"d", {}⟩, false, []⟩ bareHost aliased).Agrees
      ((["d/a.py", "d/b.py", "d/c.py"].forM fun path =>
        Action.singleSpace.run ⟨⟨path, {}⟩, false, []⟩) bareHost aliased) :=
  (directory_run_is_file_runs (fun _ _ _ _ hlaunch => by cases hlaunch) false []
    (Action.singleSpace, ".py") (by simp [fileActions]) visit_aliased).1 (by decide)

/-! ## Paths that are too long -/

/-- A point and as many slashes behind it. -/
def pointAndSlashes : Nat → String
  | 0 => "."
  | n + 1 => pointAndSlashes n ++ "/"

theorem utf8ByteSize_pointAndSlashes (n : Nat) : (pointAndSlashes n).utf8ByteSize = n + 1 := by
  induction n with
  | zero => rfl
  | succ n ih =>
    rw [pointAndSlashes, String.utf8ByteSize_append, ih]
    rfl

theorem parts_pointAndSlashes_succ (n : Nat) :
    Path.parts (pointAndSlashes (n + 1)) = Path.parts (pointAndSlashes n) ++ [""] := by
  have hparts := Path.parts_append_slash (pointAndSlashes n) ""
  rwa [String.append_empty] at hparts

theorem toList_pointAndSlashes (n : Nat) :
    (pointAndSlashes n).toList = '.' :: List.replicate n '/' := by
  induction n with
  | zero => rfl
  | succ n ih =>
    rw [pointAndSlashes, String.toList_append, ih, List.replicate_succ']
    rfl

theorem not_isDash_pointAndSlashes (n : Nat) : ¬Path.isDash (pointAndSlashes n) := by
  unfold Path.isDash
  rw [toList_pointAndSlashes, Path.split, if_neg (by decide)]
  cases Path.split (List.replicate n '/') <;> simp

/-- Behind a point, slashes name nothing more. -/
theorem resolve_pointAndSlashes {fs : FileSystem} {home : Location} {n : Nat}
    (hhome : fs.node? home = some .directory) (hn : n < pathLimit) :
    fs.resolve home (pointAndSlashes n) = .ok home := by
  have hparts : fs.resolveFrom linkLimit home (Path.parts (pointAndSlashes n)) =
      .ok ⟨home, linkLimit⟩ := by
    induction n with
    | zero => exact (resolveFrom_unnamed (Or.inr rfl)).2 ⟨rfl, hhome⟩
    | succ n ih =>
      rw [parts_pointAndSlashes_succ]
      exact (resolveFrom_concat_unnamed (Or.inl rfl)).2 ⟨ih (by omega), hhome⟩
  have hfault : pathFault? (pointAndSlashes n) = none := by
    refine pathFault?_eq_none.2 ⟨?_, ?_, ?_⟩
    · rw [← String.toList_inj.ne, toList_pointAndSlashes]
      simp
    · simp [toList_pointAndSlashes]
    · rw [utf8ByteSize_pointAndSlashes]
      omega
  have habsolute : Path.isAbsolute (pointAndSlashes n) = false := by
    simp [Path.isAbsolute, toList_pointAndSlashes]
  refine resolve_eq_ok.2 ⟨linkLimit, arrive_eq_ok.2 ⟨hfault, ?_⟩⟩
  rw [habsolute]
  exact hparts

/-- One example session at the top. -/
def lone : FileSystem := ⟨[(["x.repl"], .file [])], by decide, by decide⟩

theorem visit_lone {n : Nat} (hn : n < pathLimit) :
    visit Watcher.idle.recording [] (pointAndSlashes n) ".repl" (lone, []) =
      (.ok (), (lone, [Path.join (pointAndSlashes n) "x.repl"])) :=
  visit_single (resolve_pointAndSlashes rfl hn) rfl (not_isDash_pointAndSlashes n) (by decide)
    rfl (by decide)

/-- The path that the walk comes to may be too long although its root is not. -/
theorem look_lone {n : Nat} (hpos : 0 < n) (hn : n < pathLimit) (hlong : pathLimit < n + 7) :
    lone.look [] (Path.join (pointAndSlashes n) "x.repl") = .error .nameTooLong := by
  have hslash : (pointAndSlashes n).toList.getLast? = some '/' := by
    obtain ⟨m, rfl⟩ := Nat.exists_eq_add_of_lt hpos
    rw [toList_pointAndSlashes, List.replicate_succ', ← List.cons_append, List.getLast?_concat]
  have hne : Path.join (pointAndSlashes n) "x.repl" ≠ "" :=
    Activity.ne_empty_of_visit (visit_lone hn) (List.mem_singleton_self _)
  have hnul : '\x00' ∉ (Path.join (pointAndSlashes n) "x.repl").toList := by
    rw [Path.join_of_slash _ hslash, String.toList_append, toList_pointAndSlashes]
    simp
  have hsize : pathLimit < (Path.join (pointAndSlashes n) "x.repl").utf8ByteSize := by
    have hname : "x.repl".utf8ByteSize = 6 := rfl
    rw [Path.join_of_slash _ hslash, String.utf8ByteSize_append, utf8ByteSize_pointAndSlashes,
      hname]
    omega
  unfold FileSystem.look
  rw [resolve_of_arrive_error (arrive_of_long hne hnul hsize)]

/-- The run at a directory does what there is to do, while the run at its file may find nothing
    there. -/
theorem replTest_lone {n : Nat} (hpos : 0 < n) (hn : n < pathLimit) (hlong : pathLimit < n + 7)
    {launch : Launcher} (hkeeps : launch.KeepsFiles) :
    (Action.replTest.run ⟨⟨pointAndSlashes n, {}⟩, false, []⟩ ⟨[], launch, .plain⟩
        lone).outcome = .ok () ∧
      (Action.replTest.run ⟨⟨Path.join (pointAndSlashes n) "x.repl", {}⟩, false, []⟩
        ⟨[], launch, .plain⟩ lone).outcome =
          .error (.file (Path.join (pointAndSlashes n) "x.repl") .missingEntity) := by
  have hvisit := visit_lone hn
  have hlook := look_lone hpos hn hlong
  let p : Plan := ⟨⟨"", {}⟩, false, []⟩
  have hrun : ∀ target, Action.replTest.run ⟨⟨target, {}⟩, false, []⟩ =
      Activity.forFiles target ".repl" (doctestFile p) := fun _ => rfl
  have hfiles : ∀ path, Activity.KeepsFiles ⟨[], launch, .plain⟩ (doctestFile p path) :=
    doctestFile_keepsFiles hkeeps p
  rw [hrun, hrun]
  constructor
  · refine (Activity.forFiles_outcome hfiles hvisit).2 ⟨rfl, fun p hp => ?_⟩
    exact doctestFile_outcome (Activity.ne_empty_of_visit hvisit hp) _ _ lone
  · rw [Activity.forFiles_of_look_error (h := ⟨[], launch, .plain⟩) hlook]

/-- The walk of a directory may come to a file whose path is too long to be followed. -/
theorem long_path_is_no_target :
    visit Watcher.idle.recording [] (pointAndSlashes 4090) ".repl" (lone, []) =
        (.ok (), (lone, [Path.join (pointAndSlashes 4090) "x.repl"])) ∧
      (Action.replTest.run ⟨⟨pointAndSlashes 4090, {}⟩, false, []⟩ bareHost
        lone).outcome = .ok () ∧
      (Action.replTest.run ⟨⟨Path.join (pointAndSlashes 4090) "x.repl", {}⟩, false, []⟩
        bareHost lone).outcome =
          .error (.file (Path.join (pointAndSlashes 4090) "x.repl") .missingEntity) :=
  ⟨visit_lone (by decide), replTest_lone (by decide) (by decide) (by decide)
    fun _ _ _ _ hlaunch => by cases hlaunch⟩

end SourceTidy
