/-
  The word of a tool is advisory. Whatever tools do that leave the files alone, be it fail,
  be killed or never start, a run ends in the same way and with the same files, and its output
  is the same but for what is passed on from them (`IgnoresTools`, `runAll_ignoresTools`). So
  the files decide alone: `findings_and_tools_are_advisory` says which files let a run succeed.
-/
import Mathlib.Data.List.TakeWhile
import SourceTidy.Proofs.HeaderChecks
import SourceTidy.Proofs.Stages
import SourceTidy.Proofs.Tools

namespace SourceTidy

open FileSystem Text

/-! ## Output with gaps -/

/-- A part of the output of a run: a piece that no tool has a say in, or what is put out for a
    command that is started on some files. -/
inductive Slot where
  | fixed (p : Piece)
  | tool (c : Command) (files : FileSystem)

/-- What stands in a part of the output if tools are started in a given way. -/
def Slot.fill (launch : Launcher) : Slot → List Piece
  | .fixed p => [p]
  | .tool c files => toolPieces c ((launch c files).map Prod.fst)

theorem flatMap_fill_fixed (launch : Launcher) (out : List Piece) :
    (out.map Slot.fixed).flatMap (Slot.fill launch) = out := by
  induction out with
  | nil => rfl
  | cons p out ih => exact congrArg (p :: ·) ih

namespace Activity

variable {home : Location}

/-- As long as tools leave the files alone, they have no say in how an activity ends, in the
    files that it leaves, or in anything that is put out but what is passed on from them; and
    none has what the output can show. -/
def IgnoresTools (home : Location) (x : Activity Unit) : Prop :=
  ∀ fs, ∃ (o : Except Failure Unit) (files : FileSystem) (slots : List Slot),
    ∀ (launch : Launcher) (r : Rendering), launch.KeepsFiles →
      (x ⟨home, launch, r⟩ fs).Agrees ⟨o, ⟨files, slots.flatMap (Slot.fill launch), []⟩⟩

theorem ignoresTools_of_eq {x : Activity Unit}
    (hx : ∀ launch launch' r r' fs, x ⟨home, launch, r⟩ fs = x ⟨home, launch', r'⟩ fs) :
    IgnoresTools home x := by
  intro fs
  let x' := x { bareHost with home := home } fs
  refine ⟨x'.outcome, x'.progress.files, x'.progress.out.map .fixed, fun launch r _ => ?_⟩
  rw [hx launch _ r, flatMap_fill_fixed]
  exact ⟨rfl, rfl, rfl⟩

theorem IgnoresTools.andThen {x y : Activity Unit} (hx : IgnoresTools home x)
    (hy : IgnoresTools home y) : IgnoresTools home (x >>= fun _ => y) := by
  intro fs
  obtain ⟨o, files, slots, hslots⟩ := hx fs
  rcases o with e | u
  · refine ⟨.error e, files, slots, fun launch r hk => ?_⟩
    obtain ⟨ho, hf, hout⟩ := hslots launch r hk
    rcases hrun : x ⟨home, launch, r⟩ fs with ⟨o, q⟩
    rw [hrun] at ho hf hout
    obtain rfl : o = .error e := ho
    rw [bind_error hrun]
    exact ⟨rfl, hf, hout⟩
  · obtain ⟨o', files', slots', hslots'⟩ := hy files
    refine ⟨o', files', slots ++ slots', fun launch r hk => ?_⟩
    obtain ⟨ho, hf, hout⟩ := hslots launch r hk
    obtain ⟨ho', hf', hout'⟩ := hslots' launch r hk
    rcases hrun : x ⟨home, launch, r⟩ fs with ⟨o, q⟩
    rw [hrun] at ho hf hout
    obtain rfl : o = .ok () := ho
    obtain rfl : q.files = files := hf
    rw [bind_ok hrun, List.flatMap_append]
    refine ⟨ho', hf', ?_⟩
    show q.out ++ (y ⟨home, launch, r⟩ q.files).progress.out = _
    rw [hout']
    exact congrArg (· ++ _) hout

theorem runTool?_ignoresTools (home : Location) (c : Option Command) :
    IgnoresTools home (runTool? c) := by
  cases c with
  | none => exact ignoresTools_of_eq fun _ _ _ _ _ => rfl
  | some c =>
    intro fs
    refine ⟨.ok (), fs, [.tool c fs], fun launch _ hk => ?_⟩
    rw [runTool?_some]
    exact ⟨rfl, filesAfter_of_keepsFiles hk c fs, (List.append_nil _).symm⟩

theorem atEach_ignoresTools {each : String → Activity Unit}
    (heach : ∀ path, IgnoresTools home (each path)) (ps : List String)
    (o : Except Failure Unit) : IgnoresTools home (atEach each ps o) := by
  induction ps with
  | nil => exact ignoresTools_of_eq fun _ _ _ _ fs => by rw [atEach_nil, atEach_nil]
  | cons p ps ih =>
    rw [atEach_cons]
    exact (heach p).andThen ih

theorem forFiles_ignoresTools {each : String → Activity Unit}
    (heach : ∀ path, IgnoresTools home (each path))
    (hk : ∀ h : Host, h.launch.KeepsFiles → KeepsShape h each)
    (root ext : String) : IgnoresTools home (forFiles root ext each) := by
  intro fs
  rcases hvisit : visit Watcher.idle.recording home root ext (fs, []) with ⟨o, fs', ps⟩
  obtain ⟨o', files, slots, hslots⟩ := atEach_ignoresTools heach ps o fs
  refine ⟨o', files, slots, fun launch r hlaunch => ?_⟩
  exact (forFiles_agrees (hk ⟨home, launch, r⟩ hlaunch) hvisit).trans (hslots launch r hlaunch)

end Activity

/-! ## The pipeline -/

section Pipeline

open Activity

variable {home : Location}

theorem stage_ignoresTools {p : Plan} {a : Action} (ha : IgnoresTools home (a.run p)) :
    IgnoresTools home (stage p a) := by
  have hperform : IgnoresTools home (perform p a) := by
    unfold perform
    split
    · exact ignoresTools_of_eq fun _ _ _ _ _ => rfl
    · exact (ignoresTools_of_eq fun _ _ _ _ _ => rfl).andThen ha
  exact (ignoresTools_of_eq fun _ _ _ _ _ => rfl).andThen
    (hperform.andThen (ignoresTools_of_eq fun _ _ _ _ _ => rfl))

theorem runAll_ignoresTools {p : Plan} {actions : List Action}
    (hactions : ∀ a ∈ actions, IgnoresTools home (a.run p)) :
    IgnoresTools home (runAll p actions) := by
  induction actions with
  | nil => exact ignoresTools_of_eq fun _ _ _ _ _ => rfl
  | cons a rest ih =>
    obtain ⟨ha, hrest⟩ := List.forall_mem_cons.1 hactions
    exact (stage_ignoresTools ha).andThen (ih hrest)

/-- The actions that come with the program ignore tools, also those that start some. -/
theorem builtIn_ignoresTools (home : Location) (p : Plan) :
    ∀ a ∈ builtIn, IgnoresTools home (a.run p) := by
  have hspace : ∀ path, IgnoresTools home (singleSpaceFile path) := by
    intro path
    exact ignoresTools_of_eq fun _ _ _ _ _ => by
      rw [singleSpaceFile_apply, singleSpaceFile_apply]
  have hheader : ∀ path, IgnoresTools home (checkHeader p.job.settings.commentMarker path) := by
    intro path
    exact ignoresTools_of_eq fun _ _ _ _ _ => by rw [checkHeader_apply, checkHeader_apply]
  have hdoctest : ∀ path, IgnoresTools home (doctestFile p path) := by
    intro path fs
    cases hc : doctestCommand? p home path with
    | error e =>
      refine ⟨.error e, fs, [], fun _ _ _ => ?_⟩
      simp only [doctestFile_apply, hc]
      exact ⟨rfl, rfl, rfl⟩
    | ok c =>
      obtain ⟨o, files, slots, hslots⟩ := runTool?_ignoresTools home c fs
      refine ⟨o, files, slots, fun launch r hk => ?_⟩
      simp only [doctestFile_apply, hc]
      exact hslots launch r hk
  simp only [builtIn, List.forall_mem_cons, List.not_mem_nil, false_implies, implies_true,
    and_true]
  refine ⟨runTool?_ignoresTools home _, ?_, ?_, ?_, runTool?_ignoresTools home _⟩
  · exact forFiles_ignoresTools hspace (fun h _ => singleSpaceFile_keepsShape h) _ _
  · exact forFiles_ignoresTools hheader
      (fun _ _ => keepsShape_of_keepsFiles fun path => checkHeader_keepsFiles _ path _) _ _
  · exact forFiles_ignoresTools hdoctest
      (fun _ hk => keepsShape_of_keepsFiles fun path => doctestFile_keepsFiles hk _ path) _ _

end Pipeline

/-! ## When a run succeeds -/

section Success

variable {h : Host} {p : Plan} {fs fs' : FileSystem} {o : Except Failure Unit}
  {ps : List String}

/-- Whether a first line is a text is not changed by single spacing. -/
theorem Spaced.firstLine {home : Location} {paths : List String} {path : String}
    (hs : Spaced fs home paths fs') {bytes : Bytes}
    (hread : fs.readBytes home path = .ok bytes) :
    ∃ bytes', fs'.readBytes home path = .ok bytes' ∧
      ((∃ line, Utf8.firstLine bytes' = Utf8.ofString line) ↔
        ∃ line, Utf8.firstLine bytes = Utf8.ofString line) := by
  cases ht : Utf8.toString? bytes with
  | none => exact ⟨bytes, hs.readBytes_of_notText hread ht, Iff.rfl⟩
  | some text =>
    obtain rfl := Utf8.toString?_eq_some_iff.1 ht
    have htext := readText_eq_ok.2 hread
    obtain ⟨l, hl, -⟩ := readBytes_eq_ok.1 hread
    have htext' : ∃ text', fs'.readText home path = .ok text' := by
      by_cases hdone : ∃ p ∈ paths, fs.resolve home p = .ok l
      · exact ⟨_, hs.readText_of_done hl hdone htext⟩
      · exact ⟨text, (hs.readText_of_new hl hdone).trans htext⟩
    obtain ⟨text', htext'⟩ := htext'
    refine ⟨_, readText_eq_ok.1 htext', ?_⟩
    exact iff_of_true ⟨_, Utf8.firstLine_ofString text'⟩ ⟨_, Utf8.firstLine_ofString text⟩

theorem work_singleSpace_outcome
    (hvisit : visit Watcher.idle.recording h.home p.job.target p.job.settings.extension
      (fs, []) = (o, (fs', ps)))
    (hread : ∀ path ∈ ps, ∃ bytes, fs.readBytes h.home path = .ok bytes) :
    (∃ paths, Spaced fs h.home paths (p.work .singleSpace h fs).progress.files) ∧
      ((p.work .singleSpace h fs).outcome = .ok () ↔
        p.isDisabled .singleSpace = true ∨ o = .ok () ∧
          ∀ path ∈ ps, ∃ text, fs.readBytes h.home path = .ok (Utf8.ofString text)) := by
  cases hd : p.isDisabled .singleSpace with
  | true =>
    rw [Plan.work_of_disabled hd]
    exact ⟨⟨[], spaced_nil fs h.home⟩, by simp⟩
  | false =>
    have hrun : (Action.singleSpace.run p h fs).Agrees _ :=
      Activity.forFiles_agrees (singleSpaceFile_keepsShape h) hvisit
    obtain ⟨fs'', hs, heach⟩ := atEach_singleSpaceFile o (spaced_nil fs h.home) hread
    rw [heach] at hrun
    rw [Plan.work_of_enabled hd, hrun.files, hrun.outcome, spacingEnd_eq_ok]
    refine ⟨⟨_, hs⟩, ?_⟩
    simp [List.takeWhile_eq_self_iff, isText_iff, readText_eq_ok]

theorem work_headerCheck_outcome
    (hvisit : visit Watcher.idle.recording h.home p.job.target p.job.settings.extension
      (fs, []) = (o, (fs', ps)))
    (hread : ∀ path ∈ ps, ∃ bytes, fs.readBytes h.home path = .ok bytes) :
    (p.work .headerCheck h fs).outcome = .ok () ↔ p.isDisabled .headerCheck = true ∨
      o = .ok () ∧ ∀ path ∈ ps, ∃ bytes line, fs.readBytes h.home path = .ok bytes ∧
        Utf8.firstLine bytes = Utf8.ofString line := by
  rw [Plan.work_outcome_ok]
  refine or_congr_right ((Activity.forFiles_outcome
    (fun path => checkHeader_keepsFiles _ path h) hvisit).trans (and_congr_right fun _ => ?_))
  refine forall₂_congr fun path hpath => ?_
  obtain ⟨bytes, hbytes⟩ := hread path hpath
  rw [checkHeader_outcome hbytes]
  simp [hbytes]

theorem work_replTest_outcome (hk : h.launch.KeepsFiles)
    (hvisit : visit Watcher.idle.recording h.home p.job.target p.job.settings.extension
      (fs, []) = (o, (fs', ps))) :
    (p.work .replTest h fs).outcome = .ok () ↔ p.isDisabled .replTest = true ∨ o = .ok () := by
  obtain ⟨ps', hvisit'⟩ := Activity.visit_idle_ext hvisit p.job.settings.replExtension
  rw [Plan.work_outcome_ok]
  refine or_congr_right ((Activity.forFiles_outcome
    (fun path => doctestFile_keepsFiles hk p path) hvisit').trans ?_)
  refine and_iff_left fun path hpath => ?_
  exact doctestFile_outcome (Activity.ne_empty_of_visit hvisit' hpath) _ h fs

/-- The outcome of a whole run, read off the file system as it is before. -/
theorem runAll_builtIn_outcome (hk : h.launch.KeepsFiles)
    (hvisit : visit Watcher.idle.recording h.home p.job.target p.job.settings.extension
      (fs, []) = (o, (fs', ps)))
    (hread : ∀ path ∈ ps, ∃ bytes, fs.readBytes h.home path = .ok bytes) :
    (runAll p builtIn h fs).outcome = .ok () ↔
      (p.isDisabled .singleSpace = true ∨ o = .ok () ∧
        ∀ path ∈ ps, ∃ text, fs.readBytes h.home path = .ok (Utf8.ofString text)) ∧
      (p.isDisabled .headerCheck = true ∨ o = .ok () ∧
        ∀ path ∈ ps, ∃ bytes line, fs.readBytes h.home path = .ok bytes ∧
          Utf8.firstLine bytes = Utf8.ofString line) ∧
      (p.isDisabled .replTest = true ∨ o = .ok ()) := by
  have hblack : (p.work .black h fs).outcome = .ok () :=
    Plan.work_outcome_ok.2 (Or.inr (Activity.runTool?_outcome _ h fs))
  have hflake : ∀ fs, (p.work .flake h fs).outcome = .ok () := fun fs =>
    Plan.work_outcome_ok.2 (Or.inr (Activity.runTool?_outcome _ h fs))
  have hblackFiles := Plan.work_keepsFiles (p := p) (a := .black)
    (Activity.runTool?_keepsFiles hk _) fs
  -- Behind single spacing the walk is the same, and so is whether first lines are texts.
  obtain ⟨⟨paths, hs⟩, hspace⟩ := work_singleSpace_outcome hvisit hread
  have hheaderFiles := Plan.work_keepsFiles (headerCheck_keepsFiles h p)
    (p.work .singleSpace h fs).progress.files
  have hvisit' := Activity.visit_idle_sameShape hvisit hs.sameShape
  have hread' : ∀ path ∈ ps, ∃ bytes,
      (p.work .singleSpace h fs).progress.files.readBytes h.home path = .ok bytes := by
    intro path hpath
    obtain ⟨bytes, hbytes⟩ := hread path hpath
    obtain ⟨bytes', hbytes', -⟩ := hs.firstLine hbytes
    exact ⟨bytes', hbytes'⟩
  have hheader := work_headerCheck_outcome hvisit' hread'
  have hrepl := work_replTest_outcome hk hvisit'
  have hlines : (∀ path ∈ ps, ∃ bytes line,
      (p.work .singleSpace h fs).progress.files.readBytes h.home path = .ok bytes ∧
        Utf8.firstLine bytes = Utf8.ofString line) ↔
      ∀ path ∈ ps, ∃ bytes line, fs.readBytes h.home path = .ok bytes ∧
        Utf8.firstLine bytes = Utf8.ofString line := by
    refine forall₂_congr fun path hpath => ?_
    obtain ⟨bytes, hbytes⟩ := hread path hpath
    obtain ⟨bytes', hbytes', hline⟩ := hs.firstLine hbytes
    simp [hbytes, hbytes', hline]
  rw [builtIn, runAll_cons_outcome_ok, hblackFiles, runAll_cons_outcome_ok,
    runAll_cons_outcome_ok, hheaderFiles, runAll_cons_outcome_ok, runAll_cons_outcome_ok,
    runAll_nil, hspace, hheader, hrepl, hlines]
  simp only [hblack, hflake, true_and, and_true]

end Success

/-- **Findings and the word of tools are advisory.** If the files that the walk comes to can be
    read and tools leave the files alone, then a run succeeds just in case these three things
    hold, where what is turned off needs nothing: for single spacing all files are texts, for
    the check of headers all first lines are, and for anything that walks the walk itself comes
    to its end. So neither tools nor what the output can show has a say in that, or in the files
    that are left; and the output has its gaps for what is passed on from tools, with the same
    commands on the same files, and is otherwise fixed. -/
theorem findings_and_tools_are_advisory {home : Location} {p : Plan} {fs fs' : FileSystem}
    {o : Except Failure Unit} {ps : List String}
    (hvisit : visit Watcher.idle.recording home p.job.target p.job.settings.extension
      (fs, []) = (o, (fs', ps)))
    (hread : ∀ path ∈ ps, ∃ bytes, fs.readBytes home path = .ok bytes) :
    (∀ (launch : Launcher) (r : Rendering), launch.KeepsFiles →
      ((runAll p builtIn ⟨home, launch, r⟩ fs).outcome = .ok () ↔
        (p.isDisabled .singleSpace = true ∨
          ∀ path ∈ ps, ∃ text, fs.readBytes home path = .ok (Utf8.ofString text)) ∧
        (p.isDisabled .headerCheck = true ∨
          ∀ path ∈ ps, ∃ bytes line, fs.readBytes home path = .ok bytes ∧
            Utf8.firstLine bytes = Utf8.ofString line) ∧
        (p.isDisabled .singleSpace = true ∧ p.isDisabled .headerCheck = true ∧
          p.isDisabled .replTest = true ∨ o = .ok ()))) ∧
    ∃ (outcome : Except Failure Unit) (files : FileSystem) (slots : List Slot),
      ∀ (launch : Launcher) (r : Rendering), launch.KeepsFiles →
        let run := runAll p builtIn ⟨home, launch, r⟩ fs
        run.outcome = outcome ∧ run.progress.files = files ∧
          run.progress.out = slots.flatMap (Slot.fill launch) := by
  constructor
  · intro launch r hk
    rw [runAll_builtIn_outcome (h := ⟨home, launch, r⟩) hk hvisit hread]
    tauto
  · obtain ⟨outcome, files, slots, hslots⟩ :=
      runAll_ignoresTools (builtIn_ignoresTools home p) fs
    refine ⟨outcome, files, slots, fun launch r hk => ?_⟩
    obtain ⟨ho, hf, hout⟩ := hslots launch r hk
    exact ⟨ho, hf, hout⟩

/-- The file that is no text is in the way of the check of headers, and tools that never start
    or are killed are in the way of nothing. -/
theorem findings_and_tools_are_advisory_aliased :
    let missing : Launcher := fun _ _ => .error .notFound
    let killed : Launcher := fun _ fs => .ok (⟨none, [120], []⟩, fs)
    let p : Plan := ⟨⟨"d", {}⟩, false, ["singlespace", "headercheck"]⟩
    let q : Plan := ⟨⟨"d", {}⟩, false, ["singlespace"]⟩
    (runAll p builtIn ⟨[], missing, .plain⟩ aliased).outcome = .ok () ∧
      (runAll p builtIn ⟨[], killed, .ansi⟩ aliased).outcome = .ok () ∧
      (runAll p builtIn ⟨[], missing, .plain⟩ aliased).progress.files =
        (runAll p builtIn ⟨[], killed, .ansi⟩ aliased).progress.files ∧
      (runAll q builtIn ⟨[], killed, .ansi⟩ aliased).outcome ≠ .ok () := by
  intro missing killed p q
  have hmissing : missing.KeepsFiles := by
    intro c fs result fs' h
    cases h
  have hkilled : killed.KeepsFiles := by
    intro c fs result fs' h
    cases h
    rfl
  have hread : ∀ path ∈ ["d/a.py", "d/b.py", "d/c.py"],
      ∃ bytes, aliased.readBytes [] path = .ok bytes := by
    simp only [List.forall_mem_cons]
    exact ⟨⟨[10, 120], by decide⟩, ⟨[10, 120], by decide⟩, ⟨[255], by decide⟩,
      fun _ hp => by cases hp⟩
  obtain ⟨hp, outcome, files, slots, hslots⟩ :=
    findings_and_tools_are_advisory (p := p) visit_aliased hread
  obtain ⟨hq, -⟩ := findings_and_tools_are_advisory (p := q) visit_aliased hread
  refine ⟨?_, ?_, ?_, ?_⟩
  · exact (hp missing .plain hmissing).2 ⟨Or.inl rfl, Or.inl rfl, Or.inr rfl⟩
  · exact (hp killed .ansi hkilled).2 ⟨Or.inl rfl, Or.inl rfl, Or.inr rfl⟩
  · exact (hslots missing .plain hmissing).2.1.trans (hslots killed .ansi hkilled).2.1.symm
  · intro hok
    rcases ((hq killed .ansi hkilled).1 hok).2.1 with hd | hlines
    · cases hd
    · obtain ⟨bytes, line, hbytes, hline⟩ := hlines "d/c.py" (by decide)
      have hc : aliased.readBytes [] "d/c.py" = .ok [255] := by decide
      rw [hc] at hbytes
      cases hbytes
      have hnone : Utf8.toString? (Utf8.firstLine [255]) = none := by decide
      rw [Utf8.toString?_eq_some_iff.2 hline.symm] at hnone
      cases hnone

end SourceTidy
