/-
  What the check of headers does not see. Two file systems that differ in nothing but what
  their files hold behind the first lines (`SameFirstLines`) have the same first lines to be
  read, whether those are texts or not, and the same walks. So the check says the same about
  both and ends in the same way (`headerCheck_sees_first_lines`).
-/
import SourceTidy.Proofs.HeaderFindings

namespace SourceTidy

open FileSystem Text

/-! ## Files with the same first line -/

/-- Bytes that agree up to and including their first line feed, or throughout. -/
inductive Text.SameFirstLine : Bytes → Bytes → Prop where
  | cut {line : Bytes} (rest rest' : Bytes) :
      10 ∉ line → SameFirstLine (line ++ 10 :: rest) (line ++ 10 :: rest')
  | whole (bytes : Bytes) : SameFirstLine bytes bytes

theorem Text.SameFirstLine.firstLine_eq {b c : Bytes} (h : SameFirstLine b c) :
    Utf8.firstLine b = Utf8.firstLine c := by
  cases h with
  | cut rest rest' hline => rw [Utf8.firstLine_append hline, Utf8.firstLine_append hline]; rfl
  | whole => rfl

namespace FileSystem

/-- The same directories, links, files and names; and files at one location have the same first
    line. -/
structure SameFirstLines (fs fs' : FileSystem) : Prop where
  shape : fs.SameShape fs'
  lines : ∀ {l : Location} {b c : Bytes}, fs.node? l = some (.file b) →
    fs'.node? l = some (.file c) → SameFirstLine b c

variable {fs fs' : FileSystem}

/-- New content with the old first line makes such a file system. -/
theorem sameFirstLines_setContent {l : Location} {content : Bytes}
    (hline : ∀ b, fs.node? l = some (.file b) → SameFirstLine b content) :
    fs.SameFirstLines (fs.setContent l content) where
  shape := sameShape_setContent fs l content
  lines := by
    intro m b c hb hc
    rw [node?_setContent, hb] at hc
    split at hc
    · next hm =>
      subst hm
      cases hc
      exact hline b hb
    · cases hc
      exact .whole b

/-- A path leads to the same first line in both, or fails in the same way. -/
theorem SameFirstLines.readFirstLine (h : fs.SameFirstLines fs') (home : Location)
    (path : String) : fs'.readFirstLine home path = fs.readFirstLine home path := by
  unfold FileSystem.readFirstLine readBytes FileSystem.look
  rw [← h.shape.resolve]
  cases fs.resolve home path with
  | error e => rfl
  | ok l =>
    simp only
    rcases h.shape.node?_cases l with hl | ⟨b, c, hb, hc⟩
    · rw [hl]
    · simp only [hb, hc, (h.lines hb hc).firstLine_eq]

end FileSystem

/-! ## Reports that say the same -/

/-- Output and notes are the same; the files may differ. -/
structure Progress.SaysSame (p p' : Progress) : Prop where
  out : p.out = p'.out
  notes : p.notes = p'.notes

theorem Progress.SaysSame.followedBy {p p' q q' : Progress} (hp : p.SaysSame p')
    (hq : q.SaysSame q') : (p.followedBy q).SaysSame (p'.followedBy q') :=
  ⟨congrArg₂ (· ++ ·) hp.out hq.out, congrArg₂ (· ++ ·) hp.notes hq.notes⟩

/-- Two reports that differ in nothing but the files. -/
structure Report.SaysSame {α : Type} (r r' : Report α) : Prop where
  outcome : r.outcome = r'.outcome
  progress : r.progress.SaysSame r'.progress

theorem checkHeader_saysSame {fs fs' : FileSystem} (hs : fs.SameFirstLines fs') (h : Host)
    (marker path : String) :
    (checkHeader marker path h fs).SaysSame (checkHeader marker path h fs') := by
  rw [checkHeader_apply, checkHeader_apply, hs.readFirstLine]
  cases fs.readFirstLine h.home path with
  | error e => exact ⟨rfl, rfl, rfl⟩
  | ok line =>
    simp only
    split <;> exact ⟨rfl, rfl, rfl⟩

namespace Activity

variable {h : Host} {each : String → Activity Unit} {fs fs' : FileSystem}

/-- A tour is gone through in the same way on two file systems that stay as they are, if at each
    path the same is said about both. -/
theorem replay_saysSame (hk : ∀ path, KeepsFiles h (each path))
    (heach : ∀ path, (each path h fs).SaysSame (each path h fs')) (ext : String)
    (items : List Walk.Item) {p p' : Progress} (hp : p.files = fs) (hp' : p'.files = fs')
    (hsame : p.SaysSame p') :
    let r := Walk.replay (watcher h each) ext items p
    let r' := Walk.replay (watcher h each) ext items p'
    r.1 = r'.1 ∧ r.2.SaysSame r'.2 := by
  induction items generalizing p p' with
  | nil => exact ⟨rfl, hsame⟩
  | cons item items ih =>
    cases item with
    | file path =>
      simp only [Walk.replay]
      split
      · subst hp hp'
        obtain ⟨ho, hsaid⟩ := heach path
        have hq := hk path p.files
        have hq' := hk path p'.files
        rcases hmeet : each path h p.files with ⟨o, q⟩
        rcases hmeet' : each path h p'.files with ⟨o', q'⟩
        rw [hmeet] at ho hsaid hq
        rw [hmeet'] at ho hsaid hq'
        obtain rfl : o = o' := ho
        rw [meet_watcher hmeet, meet_watcher hmeet']
        cases o with
        | error e => exact ⟨rfl, hsame.followedBy hsaid⟩
        | ok u => exact ih hq hq' (hsame.followedBy hsaid)
      · exact ih hp hp' hsame
    | other path => exact ih hp hp' hsame
    | skipped n => exact ih hp hp' ⟨hsame.out, congrArg (· ++ [n]) hsame.notes⟩
    | fault f => exact ⟨rfl, hsame⟩

theorem forFiles_saysSame (hs : fs.SameShape fs') (hk : ∀ path, KeepsFiles h (each path))
    (heach : ∀ path, (each path h fs).SaysSame (each path h fs')) (root ext : String) :
    (forFiles root ext each h fs).SaysSame (forFiles root ext each h fs') := by
  obtain ⟨items, htour, -⟩ := Walk.exists_visitTour fs h.home root
  have hw := watcher_keepsShape (keepsShape_of_keepsFiles hk)
  unfold forFiles
  rw [visit_eq_replay hw htour ext (.start fs) (SameShape.refl fs),
    visit_eq_replay hw htour ext (.start fs') hs]
  have hfiles : ∀ fs, (Progress.start fs).files = fs := fun _ => rfl
  have hsame : (Progress.start fs).SaysSame (.start fs') := ⟨rfl, rfl⟩
  obtain ⟨ho, hsaid⟩ := replay_saysSame hk heach ext items (hfiles fs) (hfiles fs') hsame
  exact ⟨ho, hsaid⟩

end Activity

/-! ## The check -/

/-- **The check of headers sees nothing beyond the first lines.** On two file systems that
    differ in nothing but what files hold behind their first line feeds, text or not, it puts
    out the same, leaves the same notes, and ends in the same way, whatever the target and the
    settings; and it changes neither. -/
theorem headerCheck_sees_first_lines {fs fs' : FileSystem} (hs : fs.SameFirstLines fs')
    (h : Host) (p : Plan) :
    let r := Action.headerCheck.run p h fs
    let r' := Action.headerCheck.run p h fs'
    r.outcome = r'.outcome ∧ r.progress.out = r'.progress.out ∧
      r.progress.notes = r'.progress.notes ∧ r.progress.files = fs ∧ r'.progress.files = fs' := by
  intro r r'
  obtain ⟨ho, hout, hnotes⟩ := Activity.forFiles_saysSame (h := h) hs.shape
    (fun path => checkHeader_keepsFiles p.job.settings.commentMarker path h)
    (checkHeader_saysSame hs h p.job.settings.commentMarker) p.job.target p.job.settings.extension
  exact ⟨ho, hout, hnotes, headerCheck_keepsFiles h p fs, headerCheck_keepsFiles h p fs'⟩

/-- A directory with a file whose first line is a lone marker, and a file without lines. -/
def terse : FileSystem :=
  ⟨[(["d"], .directory), (["d", "a.py"], .file [35, 10]), (["d", "b.py"], .file [])],
    by decide, by decide⟩

theorem visit_terse :
    visit Watcher.idle.recording [] "d" ".py" (terse, []) =
      (.ok (), (terse, ["d/a.py", "d/b.py"])) := by
  have hres : terse.resolve [] "d" = .ok ["d"] := by decide
  have hopen : terse.openDirectory [] "d" =
      .ok (["d"], [("a.py", .file [35, 10]), ("b.py", .file [])]) :=
    openDirectory_of_sorted hres (by decide) (by decide) (by decide) (by decide)
  have htour : Walk.Tour terse [] "d" (.enter [] "d") _ :=
    .opened hopen (.passed rfl (.passed rfl .done))
  exact Walk.visit_idle_of_tour hres (by decide) (by decide) htour rfl (by decide)

/-- Behind the marker line the file may go on with what is no text, and the check neither fails
    nor finds anything else. -/
theorem headerCheck_sees_first_lines_terse :
    let fs := terse.setContent ["d", "a.py"] [35, 10, 255, 195, 40]
    let r := Action.headerCheck.run ⟨⟨"d", {}⟩, false, []⟩ bareHost fs
    terse.SameFirstLines fs ∧ fs.readText [] "d/a.py" = .error .notText ∧
      r.outcome = .ok () ∧ r.progress.files = fs ∧
      r.progress.out = ["d/a.py", "d/b.py"].flatMap (findingLine "File header missing for") := by
  intro fs r
  have hsame : terse.SameFirstLines fs := by
    refine sameFirstLines_setContent fun b hb => ?_
    have hcontent : terse.node? ["d", "a.py"] = some (.file [35, 10]) := by decide
    rw [hcontent] at hb
    cases hb
    show Text.SameFirstLine ([35] ++ 10 :: []) ([35] ++ 10 :: [255, 195, 40])
    exact .cut [] [255, 195, 40] (by decide)
  obtain ⟨ho, hout, -, -, hfiles⟩ :=
    headerCheck_sees_first_lines hsame bareHost ⟨⟨"d", {}⟩, false, []⟩
  have hterse := headerCheck_agrees bareHost ⟨⟨"d", {}⟩, false, []⟩ visit_terse
  refine ⟨hsame, by decide, ?_, hfiles, ?_⟩
  · exact ho.symm.trans (hterse.outcome.trans (by decide))
  · exact hout.symm.trans (hterse.out.trans (by decide))

end SourceTidy
