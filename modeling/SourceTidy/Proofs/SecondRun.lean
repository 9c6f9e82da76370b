/-
  Running twice. Single spacing settles the paths that it comes to: done again at once, it
  writes nothing and says nothing, and it fails where it has failed before (`atEach_again`).
  No other action writes files, so a second run of the whole pipeline finds the file system as
  the first has left it and changes nothing (`second_run_changes_nothing`).
-/
import SourceTidy.Proofs.HeaderChecks
import SourceTidy.Proofs.Stages
import SourceTidy.Proofs.Tools

namespace SourceTidy

open FileSystem Text

/-! ## Settled paths -/

namespace Activity

variable {h : Host} {each : String → Activity Unit} {path : String} {fs : FileSystem}

/-- There is nothing left to do at a path. -/
def Settled (h : Host) (each : String → Activity Unit) (fs : FileSystem) (path : String) : Prop :=
  each path h fs = ⟨.ok (), .start fs⟩

/-- What is done at a path settles it for good, and a failure leaves no trace. -/
structure Settles (h : Host) (each : String → Activity Unit) : Prop where
  done : ∀ {path fs q}, each path h fs = ⟨.ok (), q⟩ → Settled h each q.files path
  stays : ∀ {path fs} other, Settled h each fs path →
    Settled h each (each other h fs).progress.files path
  failed : ∀ {path fs e q}, each path h fs = ⟨.error e, q⟩ → q = .start fs

theorem Settles.stays_atEach (hs : Settles h each) (hp : Settled h each fs path)
    (ps : List String) (o : Except Failure Unit) :
    Settled h each (atEach each ps o h fs).progress.files path := by
  induction ps generalizing fs with
  | nil =>
    rw [atEach_nil]
    exact hp
  | cons p ps ih =>
    have hstep := hs.stays p hp
    rcases hmeet : each p h fs with ⟨e | u, q⟩
    · rw [hmeet] at hstep
      rw [atEach_cons_error hmeet]
      exact hstep
    · rw [hmeet] at hstep
      rw [atEach_cons_ok hmeet]
      exact ih hstep

/-- Done again, the same paths change nothing, put nothing out and come to the same end. -/
theorem Settles.atEach_again (hs : Settles h each) (ps : List String) (o : Except Failure Unit)
    (fs : FileSystem) :
    atEach each ps o h (atEach each ps o h fs).progress.files =
      ⟨(atEach each ps o h fs).outcome, .start (atEach each ps o h fs).progress.files⟩ := by
  induction ps generalizing fs with
  | nil =>
    simp only [atEach_nil]
  | cons p ps ih =>
    rcases hmeet : each p h fs with ⟨e | u, q⟩
    · obtain rfl := hs.failed hmeet
      simp only [atEach_cons_error hmeet]
      exact atEach_cons_error hmeet ps o
    · -- The other paths leave `p` settled, so that the second time they find what they have left.
      have hp : Settled h each (atEach each ps o h q.files).progress.files p :=
        hs.stays_atEach (hs.done hmeet) ps o
      rw [atEach_cons_ok hmeet]
      show atEach each (p :: ps) o h (atEach each ps o h q.files).progress.files = _
      rw [atEach_cons_ok hp]
      simp only [Progress.start_followedBy]
      exact ih q.files

theorem Settles.forFiles_again (hs : Settles h each) (hk : KeepsShape h each)
    (root ext : String) (fs : FileSystem) :
    (forFiles root ext each h (forFiles root ext each h fs).progress.files).Agrees
      ⟨(forFiles root ext each h fs).outcome,
        .start (forFiles root ext each h fs).progress.files⟩ := by
  rcases hvisit : visit Watcher.idle.recording h.home root ext (fs, []) with ⟨o, fs', ps⟩
  obtain ⟨ho, hf, -⟩ := forFiles_agrees hk hvisit
  have hshape := atEach_keepsShape hk ps o fs
  have hagain := forFiles_agrees hk (visit_idle_sameShape hvisit hshape)
  rw [hs.atEach_again] at hagain
  rw [ho, hf]
  exact hagain

/-- If what a path puts out are findings, then what a list of paths puts out are. -/
theorem atEach_findings {message : String}
    (hout : ∀ path fs, ∃ found : List String,
      (each path h fs).progress.out = found.flatMap (findingLine message))
    (ps : List String) (o : Except Failure Unit) (fs : FileSystem) :
    ∃ found : List String,
      (atEach each ps o h fs).progress.out = found.flatMap (findingLine message) := by
  induction ps generalizing fs with
  | nil =>
    rw [atEach_nil]
    exact ⟨[], rfl⟩
  | cons p ps ih =>
    obtain ⟨found, hfound⟩ := hout p fs
    rcases hmeet : each p h fs with ⟨e | u, q⟩
    · rw [hmeet] at hfound
      rw [atEach_cons_error hmeet]
      exact ⟨found, hfound⟩
    · rw [hmeet] at hfound
      obtain ⟨others, hothers⟩ := ih q.files
      rw [atEach_cons_ok hmeet]
      refine ⟨found ++ others, ?_⟩
      rw [List.flatMap_append, ← hothers, ← hfound]
      rfl

end Activity

/-! ## Single spacing -/

section Spacing

variable {h : Host} {fs : FileSystem} {path : String}

theorem readText_setContent {l : Location} {old : Bytes} (hfile : fs.node? l = some (.file old))
    (text : String) (home : Location) (path : String) :
    (fs.setContent l (Utf8.ofString text)).readText home path =
      if fs.resolve home path = .ok l then .ok text else fs.readText home path := by
  have hres := (sameShape_setContent fs l (Utf8.ofString text)).resolve home path
  split
  · next hl =>
    rw [hl] at hres
    refine readText_of_file hres.symm ?_
    rw [node?_setContent, if_pos rfl, hfile]
    rfl
  · next hl =>
    unfold readText readBytes look
    rw [← hres]
    cases hm : fs.resolve home path with
    | error e => rfl
    | ok m =>
      have hne : m ≠ l := by
        rintro rfl
        exact hl hm
      simp only [node?_setContent, if_neg hne]

/-- A path is settled when its text is collapsed. -/
theorem settled_singleSpaceFile_iff : Activity.Settled h singleSpaceFile fs path ↔
    ∃ text, fs.readText h.home path = .ok text ∧ Spacing.collapseBlankLines text = text := by
  constructor
  · intro hp
    rcases singleSpaceFile_cases path h fs with
      ⟨text, ht, heq, -⟩ | ⟨text, l, -, -, hw⟩ | ⟨e, he⟩
    · exact ⟨text, ht, heq⟩
    · rw [Activity.Settled, hw] at hp
      cases congrArg (·.progress.out) hp
    · rw [Activity.Settled, he] at hp
      cases hp
  · rintro ⟨text, ht, heq⟩
    exact singleSpaceFile_of_eq ht heq

theorem singleSpaceFile_settles (h : Host) : Activity.Settles h singleSpaceFile where
  done := by
    intro path fs q hq
    rw [settled_singleSpaceFile_iff]
    rcases singleSpaceFile_cases path h fs with
      ⟨text, ht, heq, hw⟩ | ⟨text, l, hl, hfile, hw⟩ | ⟨e, he⟩
    · rw [hw] at hq
      cases hq
      exact ⟨text, ht, heq⟩
    · rw [hw] at hq
      cases hq
      refine ⟨Spacing.collapseBlankLines text, ?_,
        Spacing.collapseBlankLines_collapseBlankLines text⟩
      rw [readText_setContent hfile, if_pos hl]
    · rw [he] at hq
      cases hq
  stays := by
    intro path fs other hp
    rw [settled_singleSpaceFile_iff] at hp ⊢
    rcases singleSpaceFile_cases other h fs with
      ⟨_, -, -, hw⟩ | ⟨text, l, -, hfile, hw⟩ | ⟨e, hw⟩
    · rw [hw]
      exact hp
    · -- What is written is collapsed, if it is this path's own text that is written at all.
      rw [hw]
      simp only [readText_setContent hfile]
      split
      · exact ⟨_, rfl, Spacing.collapseBlankLines_collapseBlankLines text⟩
      · exact hp
    · rw [hw]
      exact hp
  failed := by
    intro path fs e q hq
    rcases singleSpaceFile_cases path h fs with
      ⟨_, -, -, hw⟩ | ⟨text, l, -, -, hw⟩ | ⟨e', hw⟩
    · rw [hw] at hq
      cases hq
    · rw [hw] at hq
      cases hq
    · rw [hw] at hq
      cases hq
      rfl

theorem singleSpaceFile_out (path : String) (h : Host) (fs : FileSystem) :
    ∃ found : List String, (singleSpaceFile path h fs).progress.out =
      found.flatMap (findingLine "Single spaced") := by
  rcases singleSpaceFile_cases path h fs with ⟨_, -, -, hw⟩ | ⟨_, _, -, -, hw⟩ | ⟨e, hw⟩
  · exact ⟨[], by rw [hw]; rfl⟩
  · exact ⟨[path], by rw [hw]; simp⟩
  · exact ⟨[], by rw [hw]; rfl⟩

/-- Single spacing puts out nothing but its findings. -/
theorem work_singleSpace_out (p : Plan) (h : Host) (fs : FileSystem) :
    ∃ found : List String, (p.work .singleSpace h fs).progress.out =
      found.flatMap (findingLine "Single spaced") := by
  cases hd : p.isDisabled .singleSpace with
  | true =>
    rw [Plan.work_of_disabled hd]
    exact ⟨[], rfl⟩
  | false =>
    rw [Plan.work_of_enabled hd]
    rcases hvisit : visit Watcher.idle.recording h.home p.job.target p.job.settings.extension
      (fs, []) with ⟨o, fs', ps⟩
    obtain ⟨-, -, hout⟩ := Activity.forFiles_agrees (singleSpaceFile_keepsShape h) hvisit
    obtain ⟨found, hfound⟩ :=
      Activity.atEach_findings (fun path fs => singleSpaceFile_out path h fs) ps o fs
    exact ⟨found, hout.trans hfound⟩

/-- Done again, single spacing comes to the same end and does nothing else. -/
theorem work_singleSpace_again (p : Plan) (h : Host) (fs : FileSystem) :
    (p.work .singleSpace h (p.work .singleSpace h fs).progress.files).Agrees
      ⟨(p.work .singleSpace h fs).outcome,
        .start (p.work .singleSpace h fs).progress.files⟩ := by
  cases hd : p.isDisabled .singleSpace with
  | true =>
    simp only [Plan.work_of_disabled hd]
    exact ⟨rfl, rfl, rfl⟩
  | false =>
    rw [Plan.work_of_enabled hd]
    exact (singleSpaceFile_settles h).forFiles_again (singleSpaceFile_keepsShape h) _ _ fs

end Spacing

/-! ## The pipeline -/

section Pipeline

variable {h : Host}

/-- What comes of the formatter has nothing to do with the file system. -/
theorem work_black (hl : h.launch.DependsOnCommand) (p : Plan) :
    ∃ out, ∀ fs, (p.work .black h fs).Agrees ⟨.ok (), ⟨fs, out, []⟩⟩ := by
  cases hd : p.isDisabled .black with
  | true =>
    refine ⟨[], fun fs => ?_⟩
    rw [Plan.work_of_disabled hd]
    exact ⟨rfl, rfl, rfl⟩
  | false =>
    rw [Plan.work_of_enabled hd]
    exact Activity.runTool?_dependsOnCommand hl _

/-- The formatter's part of a run is the same on every file system, and leaves it. -/
theorem runAll_black (hl : h.launch.DependsOnCommand) (p : Plan) :
    ∃ front, ∀ rest fs, (runAll p (.black :: rest) h fs).Agrees
      ⟨(runAll p rest h fs).outcome, ⟨(runAll p rest h fs).progress.files,
        front ++ (runAll p rest h fs).progress.out, []⟩⟩ := by
  obtain ⟨out, hblack⟩ := work_black hl p
  refine ⟨p.notice .black ++ out ++ [.plain "\n"], fun rest fs => ?_⟩
  have hrun := runAll_cons_agrees_ok (hblack fs).outcome rest
  rw [(hblack fs).files, (hblack fs).out] at hrun
  exact hrun

/-- What comes behind the formatter, done again: single spacing has nothing left to do, and
    behind it nothing writes files. -/
theorem runAll_singleSpace_again (hk : h.launch.KeepsFiles) (p : Plan) (fs : FileSystem) :
    let actions := [Action.singleSpace, .headerCheck, .replTest, .flake]
    let first := runAll p actions h fs
    ∃ back, first.progress.out =
        p.notice .singleSpace ++ (p.work .singleSpace h fs).progress.out ++ back ∧
      (runAll p actions h first.progress.files).Agrees
        ⟨first.outcome, ⟨first.progress.files, p.notice .singleSpace ++ back, []⟩⟩ := by
  intro actions first
  have hagain := work_singleSpace_again p h fs
  cases hwork : (p.work .singleSpace h fs).outcome with
  | error e =>
    have hfirst : first.Agrees _ := runAll_cons_agrees_error hwork _
    rw [hwork] at hagain
    have hsecond := runAll_cons_agrees_error hagain.outcome [.headerCheck, .replTest, .flake]
    rw [hagain.files, hagain.out] at hsecond
    refine ⟨[], hfirst.out.trans (List.append_nil _).symm, ?_⟩
    rw [hfirst.files, hfirst.outcome]
    exact hsecond
  | ok u =>
    have hkeep : Activity.KeepsFiles h (runAll p [.headerCheck, .replTest, .flake]) := by
      refine runAll_keepsFiles (List.forall_mem_cons.2 ⟨headerCheck_keepsFiles h p, ?_⟩)
      intro a ha
      exact toolAction_keepsFiles hk a (List.mem_cons_of_mem _ ha) p
    have hfirst : first.Agrees _ := runAll_cons_agrees_ok hwork _
    rw [hkeep] at hfirst
    rw [hwork] at hagain
    have hsecond := runAll_cons_agrees_ok hagain.outcome [.headerCheck, .replTest, .flake]
    rw [hagain.files, hagain.out] at hsecond
    refine ⟨_, hfirst.out.trans (by rw [List.append_assoc]), ?_⟩
    rw [hfirst.files, hfirst.outcome]
    refine ⟨hsecond.outcome, hsecond.files.trans (hkeep _), hsecond.out.trans ?_⟩
    simp [Progress.start]

/-- **A second run changes nothing.** If what comes of a tool is up to its command and no tool
    writes files, then running the pipeline again on what the first run has left leaves every
    file as it is, and ends in the same way, be it a success or a failure. What is put out is
    the same but for the findings of single spacing, which the first run has dealt with. -/
theorem second_run_changes_nothing (h : Host) (hl : h.launch.DependsOnCommand) (p : Plan)
    (fs : FileSystem) :
    let first := runAll p builtIn h fs
    let second := runAll p builtIn h first.progress.files
    second.progress.files = first.progress.files ∧ second.outcome = first.outcome ∧
      ∃ findings back : List Piece,
        let front := (runAll p [.black] h fs).progress.out ++ p.notice .singleSpace
        findings = (p.work .singleSpace h fs).progress.out ∧
        (∃ paths : List String, findings = paths.flatMap (findingLine "Single spaced")) ∧
        first.progress.out = front ++ findings ++ back ∧
        second.progress.out = front ++ back := by
  intro first second
  obtain ⟨front, hblack⟩ := runAll_black hl p
  obtain ⟨back, hout, hagain⟩ := runAll_singleSpace_again hl.keepsFiles p fs
  have hfront : (runAll p [.black] h fs).progress.out = front :=
    (hblack [] fs).out.trans (List.append_nil front)
  have hfirst : first.Agrees _ := hblack [.singleSpace, .headerCheck, .replTest, .flake] fs
  have hsecond : second.Agrees _ :=
    hblack [.singleSpace, .headerCheck, .replTest, .flake] first.progress.files
  rw [hfirst.files, hagain.outcome, hagain.files, hagain.out] at hsecond
  rw [hfront]
  refine ⟨hsecond.files.trans hfirst.files.symm, hsecond.outcome.trans hfirst.outcome.symm,
    _, back, rfl, work_singleSpace_out p h fs, ?_, ?_⟩
  · rw [hfirst.out, hout]
    simp only [List.append_assoc]
  · rw [hsecond.out]
    simp only [List.append_assoc]

/-- The file that is no text ends both runs; only the first has something to say about the one
    before it. -/
theorem second_run_changes_nothing_aliased :
    let h : Host := bareHost
    let p : Plan := ⟨⟨"d", {}⟩, false, []⟩
    let first := runAll p builtIn h aliased
    let second := runAll p builtIn h first.progress.files
    second.progress.files = first.progress.files ∧ second.outcome = first.outcome ∧
      ∃ front back, first.progress.out = front ++ findingLine "Single spaced" "d/a.py" ++ back ∧
        second.progress.out = front ++ back := by
  intro h p first second
  obtain ⟨hfiles, hend, _, back, rfl, -, hfirst, hsecond⟩ :=
    second_run_changes_nothing h ⟨fun _ => .error .notFound, fun _ _ => rfl⟩ p aliased
  have hwork : (Action.singleSpace.run p h aliased).Agrees _ :=
    Activity.forFiles_agrees (singleSpaceFile_keepsShape h) visit_aliased
  have hfound : (p.work .singleSpace h aliased).progress.out =
      findingLine "Single spaced" "d/a.py" := by
    rw [Plan.work_of_enabled rfl, hwork.out]
    decide +kernel
  rw [hfound] at hfirst
  exact ⟨hfiles, hend, (runAll p [.black] h aliased).progress.out ++ p.notice .singleSpace, back,
    hfirst, hsecond⟩

end Pipeline

end SourceTidy
