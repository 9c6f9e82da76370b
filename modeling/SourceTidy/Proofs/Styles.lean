/-
  What is put out with a style. All output is put together from notices, findings, lines about
  tools that could not be started, and text without a style (`Part`); this holds of the actions
  one by one, of what they do at each file, and so of a whole run, however it ends. A run whose
  output shows styles then differs from one whose output does not in nothing but the sequences
  around the styled texts, and no style lasts longer than its text (`styles_change_no_content`).
-/
import SourceTidy.CommandLine
import SourceTidy.Proofs.HeaderChecks
import SourceTidy.Proofs.Rendering
import SourceTidy.Proofs.Tools
import SourceTidy.Proofs.Turns
import SourceTidy.Proofs.Walks

namespace SourceTidy

open Activity

/-! ## Parts of the output -/

/-- What output is put together from. -/
inductive Part where
  | starting (name : String)
  | skipping (name : String)
  | finding (message path : String)
  | unstarted (program cause : String)
  | unstyled (text : String)

namespace Part

/-- A part as pieces of output. -/
def pieces : Part → List Piece
  | starting name => [.plain "🏃 ", .styled .actionName name, .plain "\n"]
  | skipping name => [.styled .skipNotice ("🙅 Skipping " ++ name), .plain "\n"]
  | finding message path => [.plain (message ++ " "), .styled .path path, .plain "\n"]
  | unstarted program cause =>
    [.styled .failure (program ++ " could not be run: " ++ cause), .plain "\n"]
  | unstyled text => [.plain text]

/-- The only text in a part that has a style. -/
def styled? : Part → Option (Style × String)
  | starting name => some (.actionName, name)
  | skipping name => some (.skipNotice, "🙅 Skipping " ++ name)
  | finding _ path => some (.path, path)
  | unstarted program cause => some (.failure, program ++ " could not be run: " ++ cause)
  | unstyled _ => none

theorem filterMap_pieces (part : Part) :
    part.pieces.filterMap Piece.styled? = part.styled?.toList := by
  cases part <;> rfl

theorem filterMap_flatMap_pieces (parts : List Part) :
    (parts.flatMap pieces).filterMap Piece.styled? = parts.filterMap styled? := by
  induction parts with
  | nil => rfl
  | cons part parts ih =>
    rw [List.flatMap_cons, List.filterMap_append, filterMap_pieces, ih, List.filterMap_cons]
    cases part.styled? <;> rfl

end Part

/-- The output is put together from parts. -/
def Assembled (ps : List Piece) : Prop := ∃ parts : List Part, ps = parts.flatMap Part.pieces

namespace Assembled

theorem nil : Assembled [] := ⟨[], rfl⟩

theorem part (part : Part) : Assembled part.pieces :=
  ⟨[part], (List.flatMap_singleton ..).symm⟩

theorem append {ps qs : List Piece} (hp : Assembled ps) (hq : Assembled qs) :
    Assembled (ps ++ qs) := by
  obtain ⟨parts, rfl⟩ := hp
  obtain ⟨parts', rfl⟩ := hq
  exact ⟨parts ++ parts', List.flatMap_append.symm⟩

theorem flatMap {α : Type} {f : α → List Piece} {xs : List α}
    (h : ∀ x ∈ xs, Assembled (f x)) : Assembled (xs.flatMap f) := by
  induction xs with
  | nil => exact nil
  | cons x xs ih =>
    obtain ⟨hx, hxs⟩ := List.forall_mem_cons.1 h
    exact hx.append (ih hxs)

end Assembled

/-! ## Activities, one by one -/

namespace Activity

/-- Whatever tools do, what the activity puts out is put together from parts. -/
def Assembles (x : Activity Unit) : Prop :=
  ∀ (h : Host) (fs : FileSystem), Assembled (x h fs).progress.out

theorem runTool?_assembles (c : Option Command) : Assembles (runTool? c) := by
  intro h fs
  cases c with
  | none => exact .nil
  | some c =>
    rw [runTool?_some]
    show Assembled (toolPieces c ((h.launch c fs).map Prod.fst))
    cases (h.launch c fs).map Prod.fst with
    | error e => exact .part (.unstarted c.program e.message)
    | ok result => exact .part (.unstyled (ToolOutput.ofResult result).stdout)

/-- A walk puts out nothing of its own. -/
theorem forFiles_assembles {each : String → Activity Unit}
    (heach : ∀ path, Assembles (each path)) (root ext : String) :
    Assembles (forFiles root ext each) := by
  intro h fs
  have hseq : Sequential root fun _ r => Assembled r.progress.out :=
    { idle := fun _ => .nil
      noted := fun _ _ => .nil
      fault := fun _ _ _ => .nil
      absent := fun _ => .nil
      seq := .append }
  exact forFiles_induct hseq (fun path fs _ => heach path h fs) fs

end Activity

theorem singleSpaceFile_assembles (path : String) : Assembles (singleSpaceFile path) := by
  intro h fs
  rcases singleSpaceFile_cases path h fs with
    ⟨_, -, -, hw⟩ | ⟨_, _, -, -, hw⟩ | ⟨cause, hw⟩
  · rw [hw]
    exact .nil
  · rw [hw]
    exact .part (.finding "Single spaced" path)
  · rw [hw]
    exact .nil

theorem checkHeader_assembles (marker path : String) : Assembles (checkHeader marker path) := by
  intro h fs
  rw [checkHeader_apply]
  split
  · exact .nil
  · split
    · exact .nil
    · exact .part (.finding "File header missing for" path)

theorem doctestFile_assembles (p : Plan) (path : String) :
    Assembles (doctestFile p path) := by
  intro h fs
  rw [doctestFile_apply]
  split
  · exact .nil
  · exact runTool?_assembles _ h fs

theorem builtIn_assembles (p : Plan) : ∀ a ∈ builtIn, Assembles (a.run p) := by
  simp only [builtIn, List.forall_mem_cons, List.not_mem_nil, false_implies, implies_true,
    and_true]
  refine ⟨runTool?_assembles _, ?_, ?_, ?_, runTool?_assembles _⟩
  · exact forFiles_assembles singleSpaceFile_assembles _ _
  · exact forFiles_assembles (checkHeader_assembles _) _ _
  · exact forFiles_assembles (doctestFile_assembles _) _ _

theorem scripted_assembles (p : Plan) (name flag description : String) (script : Script) :
    Assembles ((Action.scripted name flag description script).run p) := by
  intro h fs
  cases script with
  | giveUp => exact .nil
  | findTarget => exact .part (.finding description p.job.target)
  | missTarget => exact .nil
  | speak => exact .part (.unstyled ("ran " ++ name ++ "\n"))

theorem Action.Stock.assembles {a : Action} (ha : a.Stock) (p : Plan) : Assembles (a.run p) := by
  rcases ha with hbuiltIn | ⟨name, flag, description, script, rfl⟩
  · exact builtIn_assembles p a hbuiltIn
  · exact scripted_assembles p name flag description script

/-! ## Whole runs -/

theorem Plan.notice_assembled (p : Plan) (a : Action) : Assembled (p.notice a) := by
  unfold Plan.notice
  split
  · exact .nil
  · split
    · exact .part (.skipping a.name)
    · exact .part (.starting a.name)

theorem separator_assembled (o : Except Failure Unit) : Assembled (separator o) := by
  cases o with
  | error e => exact .nil
  | ok u => exact .part (.unstyled "\n")

/-- Of each turn the notice, what the action puts out, and the empty line are put together from
    parts, and so is the run. -/
theorem runAll_assembles {p : Plan} {actions : List Action}
    (hactions : ∀ a ∈ actions, Assembles (a.run p)) : Assembles (runAll p actions) := by
  intro h fs
  rw [runAll_out]
  refine .flatMap fun t ht => ?_
  have hreport : Assembled t.report.progress.out := by
    rw [p.report_of_mem_turns ht]
    cases hd : p.isDisabled t.action with
    | true =>
      rw [p.work_of_disabled hd]
      exact .nil
    | false =>
      rw [p.work_of_enabled hd]
      exact hactions _ (p.action_of_mem_turns ht) h t.found
  exact ((p.notice_assembled t.action).append hreport).append (separator_assembled _)

/-- **Styles change no content, and none is left open.** Let all actions come with the program or
    be scripted, and compare the run whose output shows styles with the run whose output does
    not. They end in the same way, with the same exit code, the same errors and the same files.
    The output is put together from parts; with styles it is the same text, with the sequences
    of a style right before each styled text of a part and a reset right behind it, in order,
    and without an escape in the text it is the same once these sequences are taken away.
    Wherever the output with styles is interrupted between two pieces, also at its end and where
    the run fails, a terminal is left with what the unstyled text has made of it since the last
    styled one; if no unstyled text holds an escape, with nothing. -/
theorem styles_change_no_content (p : Plan) {actions : List Action}
    (hactions : ∀ a ∈ actions, a.Stock) (h : Host) (fs : FileSystem) (env : Environment) :
    let run := fun r => runAll p actions { h with rendering := r } fs
    let exit := fun r => CommandLine.exitOf env r (run r)
    (run .ansi).outcome = (run .plain).outcome ∧
    (exit .ansi).code = (exit .plain).code ∧ (exit .ansi).stderr = (exit .plain).stderr ∧
    (exit .ansi).files = (exit .plain).files ∧
    (∃ parts : List Part, (run .plain).progress.out = parts.flatMap Part.pieces ∧
      Embellished (parts.filterMap Part.styled?) (exit .plain).stdout (exit .ansi).stdout) ∧
    ('\x1b' ∉ (exit .plain).stdout.toList →
      withoutSequences (exit .ansi).stdout = (exit .plain).stdout) ∧
    ∀ (t : Terminal) (before after : List Piece), (run .ansi).progress.out = before ++ after →
      t.clear.read (render .ansi before) = t.clear.read (render .plain (sinceStyled before)) ∧
      ((∀ text, .plain text ∈ before → '\x1b' ∉ text.toList) →
        t.clear.read (render .ansi before) = t.clear) := by
  intro run exit
  have hsame : run .ansi = run .plain := by
    have hignores : IgnoresRendering (runAll p actions) :=
      runAll_ignoresRendering fun a ha => (hactions a ha).ignoresRendering p
    exact (hignores h .ansi fs).trans (hignores h .plain fs).symm
  have hexit : exit .ansi = CommandLine.exitOf env .ansi (run .plain) :=
    congrArg (CommandLine.exitOf env .ansi) hsame
  obtain ⟨parts, hparts⟩ : Assembled (run .plain).progress.out :=
    runAll_assembles (fun a ha => (hactions a ha).assembles p) _ fs
  have hembellished : Embellished (parts.filterMap Part.styled?) (exit .plain).stdout
      (exit .ansi).stdout := by
    rw [hexit, ← Part.filterMap_flatMap_pieces, ← hparts]
    exact embellished_render (run .plain).progress.out
  refine ⟨congrArg Report.outcome hsame, ?_, ?_, ?_, ⟨parts, hparts, hembellished⟩,
    hembellished.withoutSequences_eq, fun t before after _ => ?_⟩
  · rw [hexit]
    rfl
  · rw [hexit]
    rfl
  · rw [hexit]
    rfl
  · exact ⟨read_render_ansi t before, read_render_ansi_of_no_escape t⟩

/-- Actions with every kind of styled text among what they put out; the last one gives up. -/
def motley : List Action :=
  [.scripted "A" "a" "found in" .findTarget, .scripted "B" "b" "" .speak, .flake,
    .scripted "C" "c" "" .giveUp]

/-- A linter that cannot be started, an action that is turned off, and one that fails: with the
    sequences taken away the text is the same, and a terminal is left with no style. -/
theorem styles_change_no_content_motley :
    let p : Plan := ⟨⟨"x.py", {}⟩, false, ["b"]⟩
    let run := fun r => runAll p motley { bareHost with rendering := r } .empty
    let exit := fun r => CommandLine.exitOf ⟨none, none⟩ r (run r)
    (run .ansi).outcome = .error (.gaveUp "C failed") ∧
    (run .ansi).progress.out.filterMap Piece.styled? =
      [(.actionName, "A"), (.path, "x.py"), (.skipNotice, "🙅 Skipping B"),
        (.actionName, "Flake"),
        (.failure, "flake8 could not be run: No such file or directory (os error 2)"),
        (.actionName, "C")] ∧
    withoutSequences (exit .ansi).stdout = (exit .plain).stdout ∧
    ∀ t : Terminal, t.clear.read (exit .ansi).stdout = t.clear := by
  intro p run exit
  have hactions : ∀ a ∈ motley, a.Stock := by
    simp only [motley, List.forall_mem_cons, List.not_mem_nil, false_implies, implies_true,
      and_true]
    exact ⟨Action.scripted_stock .., Action.scripted_stock .., Or.inl (by simp [builtIn]),
      Action.scripted_stock ..⟩
  obtain ⟨-, -, -, -, -, hwithout, hclear⟩ :=
    styles_change_no_content p hactions bareHost .empty ⟨none, none⟩
  have hplain : ∀ piece ∈ (run .ansi).progress.out, '\x1b' ∉ piece.text.toList := by decide
  refine ⟨rfl, rfl, hwithout (not_mem_render_plain hplain), fun t => ?_⟩
  obtain ⟨-, hbare⟩ := hclear t (run .ansi).progress.out [] (List.append_nil _).symm
  exact hbare fun text htext => hplain _ htext

end SourceTidy
