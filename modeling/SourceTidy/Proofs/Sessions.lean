/-
  Example sessions. The action on them starts one command for each file of the walk, in order,
  whatever has come of the ones before (`startEach`). Each command ends with an absolute path,
  which leads to the file of the walk's path (`replTest_starts_each`) if it is not too long and
  the working directory can be reached from the top. One that is too long leads nowhere, although
  the walk's path may lead to the file (`long_absolute_path_leads_nowhere`).
-/
import SourceTidy.Proofs.AbsolutePaths
import SourceTidy.Proofs.SingleTargets

namespace SourceTidy

open FileSystem

/-! ## One command after the other -/

/-- No tool changes a directory, a link or a name. -/
def Launcher.KeepsShape (launch : Launcher) : Prop :=
  ∀ c fs result fs', launch c fs = .ok (result, fs') → fs.SameShape fs'

theorem Launcher.KeepsFiles.keepsShape {launch : Launcher} (h : launch.KeepsFiles) :
    launch.KeepsShape := by
  intro c fs result fs' hlaunch
  rw [h c fs result fs' hlaunch]
  exact SameShape.refl fs

theorem filesAfter_sameShape {launch : Launcher} (h : launch.KeepsShape) (c : Command)
    (fs : FileSystem) : fs.SameShape (filesAfter fs (launch c fs)) := by
  cases hlaunch : launch c fs with
  | error e => exact SameShape.refl fs
  | ok r => exact h c fs r.1 r.2 hlaunch

/-- What comes of some commands: each is started once, on the files that the one before it has
    left, and whatever has come of that one. -/
def startEach (launch : Launcher) : List Command → FileSystem → Progress
  | [], fs => .start fs
  | c :: cs, fs =>
    let first := toolProgress c fs (launch c fs)
    first.followedBy (startEach launch cs first.files)

/-- Where no tool changes anything, none has a part in what comes of another. -/
theorem startEach_of_keepsFiles {launch : Launcher} (h : launch.KeepsFiles) (cs : List Command)
    (fs : FileSystem) :
    (startEach launch cs fs).files = fs ∧
      (startEach launch cs fs).out =
        cs.flatMap fun c => toolPieces c ((launch c fs).map Prod.fst) := by
  induction cs with
  | nil => exact ⟨rfl, rfl⟩
  | cons c cs ih =>
    have hfiles : (toolProgress c fs (launch c fs)).files = fs :=
      filesAfter_of_keepsFiles h c fs
    simp only [startEach, Progress.followedBy, hfiles, ih.1, ih.2, List.flatMap_cons, true_and]
    rfl

/-! ## One session after the other -/

section Sessions

variable {h : Host} {p : Plan} {program : String} {words : List String}

theorem doctestFile_of_words (hwords : p.job.settings.tools.doctest = program :: words)
    {path absolute : String} (habsolute : Path.absolute? h.home.path path = some absolute)
    (fs : FileSystem) :
    doctestFile p path h fs = ⟨.ok (), toolProgress ⟨program, words ++ [absolute]⟩ fs
      (h.launch ⟨program, words ++ [absolute]⟩ fs)⟩ := by
  rw [doctestFile_apply, doctestCommand?_of_words hwords habsolute]
  exact Activity.runTool?_some _ h fs

theorem doctestFile_keepsShape (hk : h.launch.KeepsShape) (p : Plan) :
    Activity.KeepsShape h (doctestFile p) := by
  intro path fs
  rw [doctestFile_apply]
  cases doctestCommand? p h.home path with
  | error e => exact SameShape.refl fs
  | ok c =>
    cases c with
    | none => exact SameShape.refl fs
    | some c =>
      simp only [Activity.runTool?_some]
      exact filesAfter_sameShape hk c fs

/-- No session ends the walk, so that there is a command for each. -/
theorem atEach_doctestFile (hwords : p.job.settings.tools.doctest = program :: words)
    {ps absolutes : List String}
    (habsolutes : List.Forall₂ (fun path absolute =>
      Path.absolute? h.home.path path = some absolute) ps absolutes)
    (o : Except Failure Unit) (fs : FileSystem) :
    Activity.atEach (doctestFile p) ps o h fs =
      ⟨o, startEach h.launch
        (absolutes.map fun absolute => ⟨program, words ++ [absolute]⟩) fs⟩ := by
  induction habsolutes generalizing fs with
  | nil => exact Activity.atEach_nil _ o h fs
  | cons hpath _ ih =>
    rw [Activity.atEach_cons_ok (doctestFile_of_words hwords hpath fs), ih]
    rfl

/-- The action is what comes of the commands, but for the notes of the walk. -/
theorem replTest_agrees (hk : h.launch.KeepsShape)
    (hwords : p.job.settings.tools.doctest = program :: words) {fs fs₁ : FileSystem}
    {o : Except Failure Unit} {ps absolutes : List String}
    (hvisit : visit Watcher.idle.recording h.home p.job.target p.job.settings.replExtension
      (fs, []) = (o, (fs₁, ps)))
    (habsolutes : List.Forall₂ (fun path absolute =>
      Path.absolute? h.home.path path = some absolute) ps absolutes) :
    (Action.replTest.run p h fs).Agrees ⟨o, startEach h.launch
      (absolutes.map fun absolute => ⟨program, words ++ [absolute]⟩) fs⟩ := by
  have hagrees := Activity.forFiles_agrees (doctestFile_keepsShape hk p) hvisit
  rw [atEach_doctestFile hwords habsolutes] at hagrees
  exact hagrees

end Sessions

/-- A path and the absolute path that a command gets for it. That one starts at the top. Where
    the path leads to a file, it leads there from wherever, also once contents have changed, if
    it is short enough to be followed and if the home, where the path starts unless it is
    absolute, can be reached by its own path. -/
structure Handover (fs : FileSystem) (home : Location) (path absolute : String) : Prop where
  made : Path.absolute? home.path path = some absolute
  fromTop : Path.isAbsolute absolute = true
  sameFile : ∀ l content, fs.resolve home path = .ok l → fs.node? l = some (.file content) →
    absolute.utf8ByteSize ≤ pathLimit →
    (Path.isAbsolute path = false → fs.resolve [] home.path = .ok home) →
    ∀ fs' home', fs.SameShape fs' → fs'.resolve home' absolute = .ok l

theorem exists_handover {fs : FileSystem} {home : Location} {path : String} (hne : path ≠ "") :
    ∃ absolute, Handover fs home path absolute := by
  obtain ⟨absolute, habsolute, htop, -⟩ :=
    Path.exists_absolute (Path.isAbsolute_path home) hne
  refine ⟨absolute, habsolute, htop, fun l content hres hfile hsize hreached fs' home' hs => ?_⟩
  rw [← hs.resolve]
  exact resolve_absolute hreached hres hfile habsolute hsize home'

theorem exists_forall₂ {α β : Type} {R : α → β → Prop} {xs : List α}
    (h : ∀ x ∈ xs, ∃ y, R x y) : ∃ ys, List.Forall₂ R xs ys := by
  induction xs with
  | nil => exact ⟨[], .nil⟩
  | cons x xs ih =>
    obtain ⟨⟨y, hy⟩, hxs⟩ := List.forall_mem_cons.1 h
    obtain ⟨ys, hys⟩ := ih hxs
    exact ⟨y :: ys, .cons hy hys⟩

/-- **Each example session is started once, with its absolute path.** The paths are those that a
    walk finds from the target. For each of them, in order, one command is started: the words of
    the settings and behind them one path, which starts at the top. Where the path of the walk
    leads to a file, this one leads to the same file, unless it is too long to be followed or the
    working directory, where a relative path starts, cannot be reached by its own path. As long
    as tools change no directory, link or name, what is put out and what becomes of the files is
    what comes of these commands, each on the files that the one before it has left; and the
    action ends as the walk does, whatever comes of the commands. If tools change no file, what
    comes of a command has nothing to do with the others. -/
theorem replTest_starts_each (h : Host) (p : Plan) (hk : h.launch.KeepsShape)
    {program : String} {words : List String}
    (hwords : p.job.settings.tools.doctest = program :: words) {fs fs₁ : FileSystem}
    {o : Except Failure Unit} {ps : List String}
    (hvisit : visit Watcher.idle.recording h.home p.job.target p.job.settings.replExtension
      (fs, []) = (o, (fs₁, ps))) :
    ∃ absolutes : List String, List.Forall₂ (Handover fs h.home) ps absolutes ∧
      let commands : List Command :=
        absolutes.map fun absolute => ⟨program, words ++ [absolute]⟩
      let r := Action.replTest.run p h fs
      r.outcome = o ∧
      r.progress.files = (startEach h.launch commands fs).files ∧
      r.progress.out = (startEach h.launch commands fs).out ∧
      (h.launch.KeepsFiles → r.progress.files = fs ∧
        r.progress.out =
          commands.flatMap fun c => toolPieces c ((h.launch c fs).map Prod.fst)) := by
  obtain ⟨absolutes, habsolutes⟩ :=
    exists_forall₂ fun _ hpath => exists_handover (Activity.ne_empty_of_visit hvisit hpath)
  refine ⟨absolutes, habsolutes, ?_⟩
  intro commands r
  obtain ⟨ho, hf, hout⟩ :=
    replTest_agrees hk hwords hvisit (habsolutes.imp fun _ _ handed => handed.made)
  refine ⟨ho, hf, hout, fun hkeeps => ?_⟩
  obtain ⟨hfiles, hpieces⟩ := startEach_of_keepsFiles hkeeps commands fs
  exact ⟨hf.trans hfiles, hout.trans hpieces⟩

/-- A directory with an example session in it, and a link to the directory. -/
def linked : FileSystem :=
  ⟨[(["k"], .link "w"), (["w"], .directory), (["w", "x.repl"], .file [49, 10])], by decide,
    by decide⟩

theorem visit_linked : visit Watcher.idle.recording ["w"] "../k" ".repl" (linked, []) =
    (.ok (), (linked, ["../k/x.repl"])) := by
  have hres : linked.resolve ["w"] "../k" = .ok ["w"] := by decide
  have hjoin : Path.join "../k" "x.repl" = "../k/x.repl" := by decide
  rw [← hjoin]
  exact visit_single hres (by decide) (by decide) (by decide) rfl (by decide)

/-- A tool that puts out its last word and is then ended by a signal. -/
def lastWord : Launcher := fun c fs =>
  .ok (⟨none, Text.Utf8.ofString (c.args.getLast?.getD ""), []⟩, fs)

theorem resolve_linked : linked.resolve ["w"] "../k/x.repl" = .ok ["w", "x.repl"] := by
  have hsize : "../k/x.repl".utf8ByteSize = 11 := rfl
  have hfault : pathFault? "../k/x.repl" = none :=
    pathFault?_eq_none.2 ⟨by decide, by decide, by rw [hsize]; decide⟩
  have hparts : Path.parts "../k/x.repl" = ["..", "k", "x.repl"] := by decide
  refine resolve_eq_ok.2 ⟨39, arrive_eq_ok.2 ⟨hfault, ?_⟩⟩
  rw [hparts]
  rfl

/-- Up from the working directory, and back into it by the link. -/
theorem replTest_starts_each_linked :
    let r := Action.replTest.run ⟨⟨"../k", {}⟩, false, []⟩ ⟨["w"], lastWord, .plain⟩ linked
    r.outcome = .ok () ∧ r.progress.files = linked ∧
      r.progress.out = [.plain "/w/../k/x.repl"] ∧
      linked.resolve [] "/w/../k/x.repl" = .ok ["w", "x.repl"] := by
  intro r
  have hkeeps : lastWord.KeepsFiles := by
    intro c fs result fs' hlaunch
    cases hlaunch
    rfl
  have hreached : linked.resolve [] (Location.path ["w"]) = .ok ["w"] := by decide
  obtain ⟨absolutes, habsolutes, ho, -, -, hrun⟩ := replTest_starts_each
    ⟨["w"], lastWord, .plain⟩ ⟨⟨"../k", {}⟩, false, []⟩ hkeeps.keepsShape rfl visit_linked
  obtain ⟨absolute, _, hhanded, hnone, rfl⟩ := List.forall₂_cons_left_iff.1 habsolutes
  obtain rfl := List.forall₂_nil_left_iff.1 hnone
  have hmade : Path.absolute? (Location.path ["w"]) "../k/x.repl" = some "/w/../k/x.repl" := by
    decide
  obtain rfl : absolute = "/w/../k/x.repl" := Option.some.inj (hhanded.made.symm.trans hmade)
  have hsize : "/w/../k/x.repl".utf8ByteSize = 14 := rfl
  have hfile : linked.node? ["w", "x.repl"] = some (.file [49, 10]) := by decide
  obtain ⟨hfiles, hout⟩ := hrun hkeeps
  refine ⟨ho, hfiles, hout.trans rfl, ?_⟩
  exact hhanded.sameFile _ _ resolve_linked hfile (by rw [hsize]; decide) (fun _ => hreached)
    linked [] (.refl linked)

/-! ## Absolute paths that are too long -/

/-- Into a directory, and then up and into it again some times. -/
def roundTrips : Nat → String
  | 0 => "examples"
  | n + 1 => roundTrips n ++ "/" ++ "../examples"

theorem utf8ByteSize_roundTrips (n : Nat) : (roundTrips n).utf8ByteSize = 12 * n + 8 := by
  induction n with
  | zero => rfl
  | succ n ih =>
    have hslash : "/".utf8ByteSize = 1 := rfl
    have htrip : "../examples".utf8ByteSize = 11 := rfl
    rw [roundTrips, String.utf8ByteSize_append, String.utf8ByteSize_append, ih, hslash, htrip]
    omega

theorem split_roundTrips_succ (n : Nat) : Path.split (roundTrips (n + 1)).toList =
    Path.split (roundTrips n).toList ++ ["..".toList, "examples".toList] := by
  have htrip : Path.split "../examples".toList = ["..".toList, "examples".toList] := by decide
  have htext : (roundTrips (n + 1)).toList =
      (roundTrips n).toList ++ '/' :: "../examples".toList := by
    simp [roundTrips]
  rw [htext, Path.split_append_slash, htrip]

/-- All parts name something, and the first one is the directory. -/
theorem split_roundTrips (n : Nat) :
    (∃ rest, Path.split (roundTrips n).toList = "examples".toList :: rest) ∧
      ∀ part ∈ Path.split (roundTrips n).toList, part ≠ [] ∧ part ≠ ['.'] ∧ '\x00' ∉ part := by
  induction n with
  | zero =>
    have hsplit : Path.split (roundTrips 0).toList = ["examples".toList] := by decide
    rw [hsplit]
    exact ⟨⟨[], rfl⟩, by decide⟩
  | succ n ih =>
    obtain ⟨⟨rest, hrest⟩, hparts⟩ := ih
    rw [split_roundTrips_succ]
    refine ⟨⟨_, by rw [hrest]; rfl⟩, fun part hpart => ?_⟩
    rcases List.mem_append.1 hpart with hpart | hpart
    · exact hparts part hpart
    · have htrip : ∀ part ∈ ["..".toList, "examples".toList],
          part ≠ [] ∧ part ≠ ['.'] ∧ '\x00' ∉ part := by decide
      exact htrip part hpart

theorem ne_empty_roundTrips (n : Nat) : roundTrips n ≠ "" := by
  obtain ⟨rest, hsplit⟩ := (split_roundTrips n).1
  intro hempty
  rw [hempty] at hsplit
  exact absurd (List.cons.inj hsplit).1 (by decide)

theorem not_isDash_roundTrips (n : Nat) : ¬Path.isDash (roundTrips n) := by
  obtain ⟨rest, hsplit⟩ := (split_roundTrips n).1
  unfold Path.isDash
  rw [hsplit]
  exact Bool.false_ne_true

/-- A directory with an example session in it. -/
def gallery : FileSystem :=
  ⟨[(["examples"], .directory), (["examples", "xxxxxxxxxxxxx.repl"], .file [49, 10])], by decide,
    by decide⟩

theorem pathFault?_roundTrips {n : Nat} (hn : 12 * n + 8 ≤ pathLimit) :
    pathFault? (roundTrips n) = none := by
  refine pathFault?_eq_none.2 ⟨?_, ?_, by rwa [utf8ByteSize_roundTrips]⟩
  · exact ne_empty_roundTrips n
  · rw [Path.mem_split (by decide)]
    rintro ⟨part, hpart, hnul⟩
    exact ((split_roundTrips n).2 part hpart).2.2 hnul

/-- A round trip leads back to where it starts. -/
theorem arrive_roundTrips {n : Nat} (hn : 12 * n + 8 ≤ pathLimit) :
    gallery.arrive [] (roundTrips n) = .ok ⟨["examples"], linkLimit⟩ := by
  have hparts : gallery.resolveFrom linkLimit [] (Path.parts (roundTrips n)) =
      .ok ⟨["examples"], linkLimit⟩ := by
    clear hn
    induction n with
    | zero => rfl
    | succ n ih =>
      have htrip : gallery.resolveFrom linkLimit ["examples"] ["..", "examples"] =
          .ok ⟨["examples"], linkLimit⟩ := rfl
      rw [Path.parts, split_roundTrips_succ, List.map_append, resolveFrom_append]
      unfold Path.parts at ih
      rw [ih]
      exact htrip
  refine arrive_eq_ok.2 ⟨pathFault?_roundTrips hn, ?_⟩
  rw [ite_self]
  exact hparts

theorem isAbsolute_roundTrips (n : Nat) : Path.isAbsolute (roundTrips n) = false := by
  induction n with
  | zero => rfl
  | succ n ih =>
    rw [roundTrips, String.append_assoc, Path.isAbsolute_append _ (ne_empty_roundTrips n), ih]

/-- The path of the example session behind some round trips. -/
def sessionPath (n : Nat) : String := roundTrips n ++ "/" ++ "xxxxxxxxxxxxx.repl"

theorem join_roundTrips (n : Nat) :
    Path.join (roundTrips n) "xxxxxxxxxxxxx.repl" = sessionPath n := by
  refine Path.join_of_not_slash _ (ne_empty_roundTrips n) ?_
  cases n with
  | zero => decide
  | succ n => simp [roundTrips]

theorem utf8ByteSize_sessionPath (n : Nat) : (sessionPath n).utf8ByteSize = 12 * n + 27 := by
  have hslash : "/".utf8ByteSize = 1 := rfl
  have hname : "xxxxxxxxxxxxx.repl".utf8ByteSize = 18 := rfl
  rw [sessionPath, String.utf8ByteSize_append, String.utf8ByteSize_append,
    utf8ByteSize_roundTrips, hslash, hname]

theorem visit_gallery {n : Nat} (hn : 12 * n + 8 ≤ pathLimit) :
    visit Watcher.idle.recording [] (roundTrips n) ".repl" (gallery, []) =
      (.ok (), (gallery, [sessionPath n])) := by
  rw [← join_roundTrips]
  exact visit_single (resolve_eq_ok.2 ⟨_, arrive_roundTrips hn⟩) rfl (not_isDash_roundTrips n)
    (by decide) rfl (by decide)

theorem resolve_sessionPath {n : Nat} (hn : 12 * n + 27 ≤ pathLimit) :
    gallery.resolve [] (sessionPath n) = .ok ["examples", "xxxxxxxxxxxxx.repl"] := by
  have hname : isName "xxxxxxxxxxxxx.repl" = true := by decide
  have hjoin := arrive_join (arrive_roundTrips (n := n) (by omega)) hname
  rw [join_roundTrips, utf8ByteSize_sessionPath, if_neg (by omega)] at hjoin
  exact resolve_eq_ok.2 ⟨linkLimit, hjoin⟩

theorem absolute?_sessionPath (n : Nat) :
    Path.absolute? (Location.path []) (sessionPath n) = some ("/" ++ sessionPath n) := by
  have hname : Path.split "xxxxxxxxxxxxx.repl".toList = ["xxxxxxxxxxxxx.repl".toList] :=
    Path.split_of_not_mem (by decide)
  have hsplit : Path.split (sessionPath n).toList =
      Path.split (roundTrips n).toList ++ ["xxxxxxxxxxxxx.repl".toList] := by
    have htext : (sessionPath n).toList =
        (roundTrips n).toList ++ '/' :: "xxxxxxxxxxxxx.repl".toList := by
      simp [sessionPath]
    rw [htext, Path.split_append_slash, hname]
  have hrelative : Path.isAbsolute (sessionPath n) = false := by
    rw [sessionPath, String.append_assoc, Path.isAbsolute_append _ (ne_empty_roundTrips n),
      isAbsolute_roundTrips]
  rw [Path.absolute?_of_named rfl hrelative]
  · refine congrArg some (String.toList_inj.1 ?_)
    rw [String.toList_ofList, String.toList_append]
    rfl
  · rw [hsplit]
    intro part hpart
    rcases List.mem_append.1 hpart with hpart | hpart
    · obtain ⟨hne, hpoint, -⟩ := (split_roundTrips n).2 part hpart
      exact ⟨hne, hpoint⟩
    · rw [List.mem_singleton.1 hpart]
      decide

/-- **The absolute path of a session may lead nowhere, although the path of the walk leads to
    it.** A slash more is one byte too many, and whatever tool is started with such a path, it
    will not find the file. -/
theorem long_absolute_path_leads_nowhere :
    ∃ path absolute content,
      visit Watcher.idle.recording [] (roundTrips 339) ".repl" (gallery, []) =
        (.ok (), (gallery, [path])) ∧
      gallery.resolve [] path = .ok ["examples", "xxxxxxxxxxxxx.repl"] ∧
      gallery.node? ["examples", "xxxxxxxxxxxxx.repl"] = some (.file content) ∧
      (∀ launch : Launcher, launch.KeepsFiles →
        (Action.replTest.run ⟨⟨roundTrips 339, { tools := { doctest := ["cat"] } }⟩, false, []⟩
          ⟨[], launch, .plain⟩ gallery).progress.out = toolPieces ⟨"cat", [absolute]⟩
            ((launch ⟨"cat", [absolute]⟩ gallery).map Prod.fst)) ∧
      ∀ home', gallery.resolve home' absolute = .error .nameTooLong := by
  have hvisit := visit_gallery (n := 339) (by decide)
  have hres := resolve_sessionPath (n := 339) (by decide)
  obtain ⟨k, harr⟩ := resolve_eq_ok.1 hres
  refine ⟨sessionPath 339, "/" ++ sessionPath 339, [49, 10], hvisit, hres, rfl, ?_, ?_⟩
  · intro launch hkeeps
    have hagrees := replTest_agrees (h := ⟨[], launch, .plain⟩)
      (p := ⟨⟨roundTrips 339, { tools := { doctest := ["cat"] } }⟩, false, []⟩)
      hkeeps.keepsShape rfl hvisit (.cons (absolute?_sessionPath 339) .nil)
    rw [hagrees.out, (startEach_of_keepsFiles hkeeps _ gallery).2]
    exact List.flatMap_singleton ..
  · intro home'
    refine resolve_of_arrive_error (arrive_of_long ?_ ?_ ?_)
    · simp
    · have hnul := (pathFault?_eq_none.1 (pathFault?_of_arrive harr)).2.1
      simpa using hnul
    · have hslash : "/".utf8ByteSize = 1 := rfl
      rw [String.utf8ByteSize_append, utf8ByteSize_sessionPath, hslash]
      decide

end SourceTidy
