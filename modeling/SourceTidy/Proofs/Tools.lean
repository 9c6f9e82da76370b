/-
  What comes of a tool. Whatever a tool does, running it never fails the activity: it is started
  once, all that is put out are the pieces of `toolPieces`, and the file system is the one that
  the tool leaves (`runTool?_some`). A launcher may be asked to keep files
  (`Launcher.KeepsFiles`), or to look at nothing but the command (`Launcher.DependsOnCommand`).
-/
import SourceTidy.Action.Tools
import SourceTidy.Proofs.EveryFile

namespace SourceTidy

/-! ## Launchers -/

/-- No tool changes anything in the file system. -/
def Launcher.KeepsFiles (launch : Launcher) : Prop :=
  ∀ c fs result fs', launch c fs = .ok (result, fs') → fs' = fs

/-- What comes of a tool is up to its command, and no tool changes the file system. -/
def Launcher.DependsOnCommand (launch : Launcher) : Prop :=
  ∃ results : Command → Except FileError ProcessResult,
    ∀ c fs, launch c fs = (results c).map (·, fs)

theorem Launcher.DependsOnCommand.keepsFiles {launch : Launcher}
    (h : launch.DependsOnCommand) : launch.KeepsFiles := by
  obtain ⟨results, hresults⟩ := h
  intro c fs result fs' hlaunch
  rw [hresults] at hlaunch
  cases hc : results c with
  | error e =>
    rw [hc] at hlaunch
    cases hlaunch
  | ok r =>
    rw [hc] at hlaunch
    cases hlaunch
    rfl

/-! ## One tool -/

/-- What is put out for a tool: its output, or why it could not be run. -/
def toolPieces (c : Command) : Except FileError ProcessResult → List Piece
  | .error e =>
    [.styled .failure (c.program ++ " could not be run: " ++ e.message), .plain "\n"]
  | .ok result => [.plain (ToolOutput.ofResult result).stdout]

/-- The file system after a tool. -/
def filesAfter (fs : FileSystem) : Except FileError (ProcessResult × FileSystem) → FileSystem
  | .error _ => fs
  | .ok (_, fs') => fs'

/-- What is noted about a tool: its command line, and what it came to. -/
def toolNotes (c : Command) : Except FileError ProcessResult → List Note
  | .error e =>
    [.log .tool .debug ("running " ++ c.display),
      .log .action .warn ("failed to start " ++ c.program ++ ": " ++ e.message)]
  | .ok result =>
    let output := ToolOutput.ofResult result
    [.log .tool .debug ("running " ++ c.display),
      .log .tool .debug (c.program ++ " exited with " ++ showCode output.code)] ++
    ((if output.stderr.isEmpty then [] else [.toolError output.stderr]) ++
      if output.succeeded then []
      else [.log .action .debug (c.program ++ " finished with " ++ showCode output.code)])

/-- What has come of starting a tool once, given what its start came to. -/
def toolProgress (c : Command) (fs : FileSystem)
    (r : Except FileError (ProcessResult × FileSystem)) : Progress :=
  ⟨filesAfter fs r, toolPieces c (r.map Prod.fst), toolNotes c (r.map Prod.fst)⟩

theorem filesAfter_of_keepsFiles {launch : Launcher} (h : launch.KeepsFiles) (c : Command)
    (fs : FileSystem) : filesAfter fs (launch c fs) = fs := by
  cases hlaunch : launch c fs with
  | error e => rfl
  | ok r => exact h c fs r.1 r.2 hlaunch

namespace Activity

theorem runTool_report (c : Command) (h : Host) (fs : FileSystem) :
    ∃ t, runTool c h fs = ⟨.ok t, toolProgress c fs (h.launch c fs)⟩ := by
  unfold runTool
  rw [bind_ok (p := ⟨fs, [], _⟩) rfl, bind_ok (p := .start fs) rfl,
    bind_ok (p := .start fs) rfl]
  simp only [Progress.start]
  cases h.launch c fs with
  | error e => exact ⟨none, rfl⟩
  | ok r =>
    obtain ⟨result, fs'⟩ := r
    refine ⟨some (ToolOutput.ofResult result), ?_⟩
    simp only [toolProgress, filesAfter, Except.map, toolPieces, toolNotes]
    cases (ToolOutput.ofResult result).stderr.isEmpty <;>
      cases (ToolOutput.ofResult result).succeeded <;> rfl

/-- A tool is started, and never fails the activity that it is part of. -/
theorem runTool?_some (c : Command) (h : Host) (fs : FileSystem) :
    runTool? (some c) h fs = ⟨.ok (), toolProgress c fs (h.launch c fs)⟩ := by
  obtain ⟨t, ht⟩ := runTool_report c h fs
  show (runTool c >>= fun _ => Pure.pure ()) h fs = _
  rw [bind_ok ht, pure_apply, Progress.followedBy_start]

theorem runTool?_outcome (c : Option Command) (h : Host) (fs : FileSystem) :
    (runTool? c h fs).outcome = .ok () := by
  cases c with
  | none => rfl
  | some c => rw [runTool?_some]

theorem runTool?_keepsFiles {h : Host} (hk : h.launch.KeepsFiles) (c : Option Command) :
    KeepsFiles h (runTool? c) := by
  intro fs
  cases c with
  | none => rfl
  | some c =>
    rw [runTool?_some]
    exact filesAfter_of_keepsFiles hk c fs

/-- A tool that looks at nothing but its command does the same everywhere. -/
theorem runTool?_dependsOnCommand {h : Host} (hl : h.launch.DependsOnCommand)
    (c : Option Command) :
    ∃ out, ∀ fs, (runTool? c h fs).Agrees ⟨.ok (), ⟨fs, out, []⟩⟩ := by
  cases c with
  | none => exact ⟨[], fun fs => ⟨rfl, rfl, rfl⟩⟩
  | some c =>
    obtain ⟨results, hresults⟩ := hl
    refine ⟨toolPieces c (results c), fun fs => ?_⟩
    rw [runTool?_some, hresults]
    cases results c <;> exact ⟨rfl, rfl, rfl⟩

end Activity

/-! ## Example sessions -/

/-- What is done at one example session. -/
def doctestFile (p : Plan) (path : String) : Activity Unit := do
  let h ← Activity.host
  Activity.runTool? (← Activity.ofExcept (doctestCommand? p h.home path))

theorem doctestFile_apply (p : Plan) (path : String) (h : Host) (fs : FileSystem) :
    doctestFile p path h fs =
      match doctestCommand? p h.home path with
      | .error e => ⟨.error e, .start fs⟩
      | .ok c => Activity.runTool? c h fs := by
  unfold doctestFile
  rw [Activity.bind_ok (p := .start fs) rfl]
  simp only [Progress.start]
  cases doctestCommand? p h.home path with
  | error e => rfl
  | ok c => rfl

theorem doctestFile_keepsFiles {h : Host} (hk : h.launch.KeepsFiles) (p : Plan)
    (path : String) : Activity.KeepsFiles h (doctestFile p path) := by
  intro fs
  rw [doctestFile_apply]
  cases doctestCommand? p h.home path with
  | error e => rfl
  | ok c => exact Activity.runTool?_keepsFiles hk c fs

/-- Only the empty path has no absolute form. -/
theorem doctestFile_outcome {path : String} (hne : path ≠ "") (p : Plan) (h : Host)
    (fs : FileSystem) : (doctestFile p path h fs).outcome = .ok () := by
  have hpath : path.toList.isEmpty = false := by simpa using hne
  have habsolute : ∃ absolute, Path.absolute? h.home.path path = some absolute := by
    simp [Path.absolute?, hpath]
  obtain ⟨absolute, habsolute⟩ := habsolute
  rw [doctestFile_apply]
  simp only [doctestCommand?, habsolute]
  exact Activity.runTool?_outcome _ h fs

/-- Tools that keep files make actions that do. -/
theorem toolAction_keepsFiles {h : Host} (hk : h.launch.KeepsFiles) :
    ∀ a ∈ [Action.black, .replTest, .flake], ∀ p, Activity.KeepsFiles h (a.run p) := by
  simp only [List.forall_mem_cons, List.not_mem_nil, false_implies, implies_true, and_true]
  refine ⟨fun p => ?_, fun p => ?_, fun p => ?_⟩
  · exact Activity.runTool?_keepsFiles hk _
  · exact Activity.forFiles_keepsFiles (doctestFile_keepsFiles hk p) _ _
  · exact Activity.runTool?_keepsFiles hk _

end SourceTidy
