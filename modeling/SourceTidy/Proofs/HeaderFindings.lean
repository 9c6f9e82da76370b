/-
  What the check of headers reports. It goes through the paths of a walk as long as their first
  lines are texts, and reports those without a header (`atEach_checkHeader`); the first that
  starts with something else ends it, whatever comes behind (`headerCheck_stops_at_no_text`).
  Single spacing keeps the headers that are there, so that checking behind it reports nothing
  that would not have been reported without it (`singleSpacing_breaks_no_header`).
-/
import SourceTidy.Proofs.HeaderChecks
import SourceTidy.Proofs.Walks

namespace SourceTidy

open FileSystem Text

/-! ## One path after the other -/

/-- The first line of the file that a path leads to is a text. -/
def hasFirstLine (fs : FileSystem) (home : Location) (path : String) : Bool :=
  (fs.readFirstLine home path).isOk

/-- The file that a path leads to does not start with a header for the path. -/
def lacksHeader (fs : FileSystem) (home : Location) (marker path : String) : Bool :=
  match fs.readFirstLine home path with
  | .ok line => !Header.isHeaderFor line path marker
  | .error _ => true

/-- How the check of headers ends at some paths: at the first whose first line cannot be had,
    and otherwise in the given way. -/
def headerEnd (fs : FileSystem) (home : Location) (o : Except Failure Unit) :
    List String → Except Failure Unit
  | [] => o
  | p :: ps =>
    match fs.readFirstLine home p with
    | .ok _ => headerEnd fs home o ps
    | .error e => .error (.file p e)

section FirstLine

variable {fs : FileSystem} {home : Location} {path line : String}

theorem hasFirstLine_of_ok (hline : fs.readFirstLine home path = .ok line) :
    hasFirstLine fs home path = true := by
  unfold hasFirstLine
  rw [hline]
  rfl

theorem exists_of_hasFirstLine (h : hasFirstLine fs home path = true) :
    ∃ line, fs.readFirstLine home path = .ok line := by
  cases hline : fs.readFirstLine home path with
  | ok line => exact ⟨line, rfl⟩
  | error e =>
    rw [hasFirstLine, hline] at h
    cases h

theorem lacksHeader_of_ok (hline : fs.readFirstLine home path = .ok line) (marker : String) :
    lacksHeader fs home marker path = !Header.isHeaderFor line path marker := by
  unfold lacksHeader
  rw [hline]

end FirstLine

theorem atEach_checkHeader (marker : String) (ps : List String) (o : Except Failure Unit)
    (h : Host) (fs : FileSystem) :
    Activity.atEach (checkHeader marker) ps o h fs =
      ⟨headerEnd fs h.home o ps, ⟨fs,
        ((ps.takeWhile (hasFirstLine fs h.home)).filter
          (lacksHeader fs h.home marker)).flatMap (findingLine "File header missing for"),
        []⟩⟩ := by
  induction ps with
  | nil => exact Activity.atEach_nil _ o h fs
  | cons p ps ih =>
    have happly := checkHeader_apply marker p h fs
    cases hline : fs.readFirstLine h.home p with
    | error e =>
      have hfirst : hasFirstLine fs h.home p = false := by
        rw [hasFirstLine, hline]
        rfl
      have hend : headerEnd fs h.home o (p :: ps) = .error (.file p e) := by
        rw [headerEnd, hline]
      simp only [hline] at happly
      rw [Activity.atEach_cons_error happly, List.takeWhile_cons, hfirst, hend]
      rfl
    | ok line =>
      have hend : headerEnd fs h.home o (p :: ps) = headerEnd fs h.home o ps := by
        rw [headerEnd, hline]
      simp only [hline] at happly
      rw [List.takeWhile_cons, if_pos (hasFirstLine_of_ok hline), List.filter_cons,
        lacksHeader_of_ok hline, hend]
      cases hheader : Header.isHeaderFor line p marker with
      | true =>
        rw [hheader, if_pos rfl] at happly
        rw [Activity.atEach_cons_ok happly]
        show (⟨_, Progress.followedBy (.start fs) _⟩ : Report Unit) = _
        rw [Progress.start, ih]
        rfl
      | false =>
        rw [hheader, if_neg Bool.false_ne_true] at happly
        rw [Activity.atEach_cons_ok happly, ih]
        rfl

theorem headerCheck_agrees (h : Host) (p : Plan) {fs fs₁ : FileSystem}
    {o : Except Failure Unit} {ps : List String}
    (hvisit : visit Watcher.idle.recording h.home p.job.target p.job.settings.extension (fs, []) =
      (o, (fs₁, ps))) :
    (Action.headerCheck.run p h fs).Agrees
      ⟨headerEnd fs h.home o ps, ⟨fs,
        ((ps.takeWhile (hasFirstLine fs h.home)).filter
          (lacksHeader fs h.home p.job.settings.commentMarker)).flatMap
            (findingLine "File header missing for"), []⟩⟩ := by
  have hkeep := Activity.keepsShape_of_keepsFiles fun path =>
    checkHeader_keepsFiles p.job.settings.commentMarker path h
  have hrun := Activity.forFiles_agrees hkeep hvisit
  rw [atEach_checkHeader] at hrun
  exact hrun

/-! ## First lines that are no texts -/

section NoText

variable {fs : FileSystem} {home : Location}

theorem hasFirstLine_iff {path : String} {bytes : Bytes}
    (hread : fs.readBytes home path = .ok bytes) :
    hasFirstLine fs home path = true ↔ ∃ line, Utf8.firstLine bytes = Utf8.ofString line := by
  rcases readFirstLine_of_readBytes hread with ⟨hline, hnone⟩ | ⟨line, hline, hfirst⟩
  · rw [hasFirstLine, hline]
    exact iff_of_false Bool.false_ne_true hnone
  · exact iff_of_true (hasFirstLine_of_ok hline) ⟨line, hfirst⟩

/-- The paths before the first whose first line is no text do not count for the end. -/
theorem headerEnd_append {o : Except Failure Unit} {kept : List String}
    (hkept : ∀ p ∈ kept, hasFirstLine fs home p = true) (ps : List String) :
    headerEnd fs home o (kept ++ ps) = headerEnd fs home o ps := by
  induction kept with
  | nil => rfl
  | cons p kept ih =>
    obtain ⟨hp, hkept⟩ := List.forall_mem_cons.1 hkept
    obtain ⟨line, hline⟩ := exists_of_hasFirstLine hp
    rw [List.cons_append, headerEnd, hline]
    exact ih hkept

theorem hasFirstLine_of_dropWhile {ps rest : List String} {p : String}
    (hdrop : ps.dropWhile (hasFirstLine fs home) = p :: rest) : hasFirstLine fs home p = false := by
  have hhead := List.head?_dropWhile_not (hasFirstLine fs home) ps
  rw [hdrop] at hhead
  exact hhead

/-- All is well if the paths and what comes behind them are. -/
theorem headerEnd_eq_ok {o : Except Failure Unit} {ps : List String} :
    headerEnd fs home o ps = .ok () ↔
      o = .ok () ∧ ∀ p ∈ ps, hasFirstLine fs home p = true := by
  induction ps with
  | nil =>
    rw [headerEnd]
    simp
  | cons p ps ih =>
    rw [headerEnd, List.forall_mem_cons, and_left_comm, ← ih]
    cases hline : fs.readFirstLine home p with
    | error e =>
      rw [hasFirstLine, hline]
      exact iff_of_false nofun fun h => Bool.false_ne_true h.1
    | ok line => exact (and_iff_right (hasFirstLine_of_ok hline)).symm

theorem headerEnd_of_no_text {o : Except Failure Unit} {path : String} {bytes : Bytes}
    (hread : fs.readBytes home path = .ok bytes) (hfirst : hasFirstLine fs home path = false)
    (ps : List String) :
    headerEnd fs home o (path :: ps) = .error (.file path .notText) := by
  rcases readFirstLine_of_readBytes hread with ⟨hline, -⟩ | ⟨line, hline, -⟩
  · rw [headerEnd, hline]
  · rw [hasFirstLine_of_ok hline] at hfirst
    cases hfirst

/-- **A first line that is no text stops the check of headers.** Let the files that the walk
    comes to be readable. The check leaves all files alone, and reports the paths without a
    header up to the first whose first line is no text; that one is not reported, nor is any
    behind it, and the check fails there. So it succeeds just in case the walk does and all
    first lines are texts. -/
theorem headerCheck_stops_at_no_text (h : Host) (p : Plan) {fs fs₁ : FileSystem}
    {o : Except Failure Unit} {ps : List String}
    (hvisit : visit Watcher.idle.recording h.home p.job.target p.job.settings.extension (fs, []) =
      (o, (fs₁, ps)))
    (hread : ∀ p ∈ ps, ∃ bytes, fs.readBytes h.home p = .ok bytes) :
    let kept := ps.takeWhile (hasFirstLine fs h.home)
    let r := Action.headerCheck.run p h fs
    r.progress.files = fs ∧
    r.progress.out = (kept.filter (lacksHeader fs h.home p.job.settings.commentMarker)).flatMap
      (findingLine "File header missing for") ∧
    (∀ p rest, ps = kept ++ p :: rest → r.outcome = .error (.file p .notText)) ∧
    (r.outcome = .ok () ↔ o = .ok () ∧ ∀ p ∈ ps, ∃ bytes line,
      fs.readBytes h.home p = .ok bytes ∧ Utf8.firstLine bytes = Utf8.ofString line) := by
  intro kept r
  obtain ⟨ho, hf, hout⟩ := headerCheck_agrees h p hvisit
  have hkept : ∀ p ∈ kept, hasFirstLine fs h.home p = true :=
    fun p hp => List.all_eq_true.1 List.all_takeWhile p hp
  have hsplit : kept ++ ps.dropWhile (hasFirstLine fs h.home) = ps :=
    List.takeWhile_append_dropWhile
  have hstop : ∀ p rest, ps = kept ++ p :: rest → r.outcome = .error (.file p .notText) := by
    intro p rest hps
    obtain ⟨bytes, hbytes⟩ := hread p (hps ▸ List.mem_append_right _ List.mem_cons_self)
    have hdrop : ps.dropWhile (hasFirstLine fs h.home) = p :: rest :=
      List.append_cancel_left (hsplit.trans hps)
    have hend : headerEnd fs h.home o ps = .error (.file p .notText) := by
      rw [hps, headerEnd_append hkept]
      exact headerEnd_of_no_text hbytes (hasFirstLine_of_dropWhile hdrop) rest
    exact ho.trans hend
  have hend : r.outcome = .ok () ↔ o = .ok () ∧ ∀ p ∈ ps, hasFirstLine fs h.home p = true := by
    rw [← headerEnd_eq_ok]
    exact iff_of_eq (congrArg (· = .ok ()) ho)
  refine ⟨hf, hout, hstop, hend.trans (and_congr_right fun _ => forall₂_congr fun p hp => ?_)⟩
  obtain ⟨bytes, hbytes⟩ := hread p hp
  rw [hasFirstLine_iff hbytes]
  simp only [hbytes, Except.ok.injEq, exists_and_left, exists_eq_left']

/-- A directory with a file that is no text, and an empty one. -/
def garbled : FileSystem :=
  ⟨[(["d"], .directory), (["d", "a.py"], .file [195, 40, 10]), (["d", "b.py"], .file [])],
    by decide, by decide⟩

theorem visit_garbled :
    visit Watcher.idle.recording [] "d" ".py" (garbled, []) =
      (.ok (), (garbled, ["d/a.py", "d/b.py"])) := by
  have hres : garbled.resolve [] "d" = .ok ["d"] := by decide
  have hopen : garbled.openDirectory [] "d" =
      .ok (["d"], [("a.py", .file [195, 40, 10]), ("b.py", .file [])]) :=
    openDirectory_of_sorted hres (by decide) (by decide) (by decide) (by decide)
  have htour : Walk.Tour garbled [] "d" (.enter [] "d") _ :=
    .opened hopen (.passed rfl (.passed rfl .done))
  exact Walk.visit_idle_of_tour hres (by decide) (by decide) htour rfl (by decide)

theorem readBytes_garbled :
    ∀ p ∈ ["d/a.py", "d/b.py"], ∃ bytes, garbled.readBytes [] p = .ok bytes := by
  simp only [List.forall_mem_cons]
  exact ⟨⟨[195, 40, 10], by decide⟩, ⟨[], by decide⟩, fun _ hp => by cases hp⟩

theorem headerCheck_stops_at_no_text_garbled :
    let r := Action.headerCheck.run ⟨⟨"d", {}⟩, false, []⟩ bareHost garbled
    r.progress.files = garbled ∧ r.outcome = .error (.file "d/a.py" .notText) ∧
      r.outcome ≠ .ok () := by
  intro r
  obtain ⟨hfiles, -, hstop, hend⟩ := headerCheck_stops_at_no_text
    bareHost ⟨⟨"d", {}⟩, false, []⟩ visit_garbled readBytes_garbled
  have hfail := hstop "d/a.py" ["d/b.py"] (by decide)
  refine ⟨hfiles, hfail, fun hok => ?_⟩
  obtain ⟨bytes, line, hbytes, hline⟩ := (hend.1 hok).2 "d/a.py" List.mem_cons_self
  rw [hfail] at hok
  cases hok

/-- The walk succeeds and both files can be read, and neither has a header; yet the check fails
    and reports neither. -/
theorem headerCheck_fails_at_garbled :
    visit Watcher.idle.recording [] "d" ".py" (garbled, []) =
        (.ok (), (garbled, ["d/a.py", "d/b.py"])) ∧
      (∀ p ∈ ["d/a.py", "d/b.py"], (∃ bytes, garbled.readBytes [] p = .ok bytes) ∧
        lacksHeader garbled [] "#" p = true) ∧
      let r := Action.headerCheck.run ⟨⟨"d", {}⟩, false, []⟩ bareHost garbled
      r.outcome = .error (.file "d/a.py" .notText) ∧ r.progress.out = [] := by
  have hagrees := headerCheck_agrees bareHost ⟨⟨"d", {}⟩, false, []⟩ visit_garbled
  have hlacks : ∀ p ∈ ["d/a.py", "d/b.py"], lacksHeader garbled [] "#" p = true := by decide
  refine ⟨visit_garbled, fun p hp => ⟨readBytes_garbled p hp, hlacks p hp⟩, ?_, ?_⟩
  · exact hagrees.outcome.trans (by decide)
  · exact hagrees.out.trans (by decide)

end NoText

/-! ## Behind single spacing -/

/-- In the second file system some texts of the first are collapsed, and everything else is as
    it was. -/
def PartlySpaced (fs fs' : FileSystem) : Prop :=
  ∀ l, fs'.node? l = fs.node? l ∨
    ∃ text, fs.node? l = some (.file (Utf8.ofString text)) ∧
      fs'.node? l = some (.file (Utf8.ofString (Spacing.collapseBlankLines text)))

namespace PartlySpaced

variable {fs fs' fs'' : FileSystem}

theorem refl (fs : FileSystem) : PartlySpaced fs fs := fun _ => Or.inl rfl

theorem trans (hs : PartlySpaced fs fs') (hs' : PartlySpaced fs' fs'') :
    PartlySpaced fs fs'' := by
  intro l
  rcases hs' l with h' | ⟨text', hbetween, hafter⟩
  · rw [h']
    exact hs l
  · rcases hs l with h | ⟨text, hbefore, hbetween'⟩
    · exact Or.inr ⟨text', h.symm.trans hbetween, hafter⟩
    · -- What is collapsed twice is collapsed.
      have htext : Utf8.ofString (Spacing.collapseBlankLines text) = Utf8.ofString text' :=
        Node.file.inj (Option.some.inj (hbetween'.symm.trans hbetween))
      rw [← Utf8.ofString_inj.1 htext, Spacing.collapseBlankLines_collapseBlankLines] at hafter
      exact Or.inr ⟨text, hbefore, hafter⟩

theorem sameShape (hs : PartlySpaced fs fs') : fs.SameShape fs' := by
  intro l
  rcases hs l with h | ⟨text, hbefore, hafter⟩
  · rw [h]
  · simp only [hbefore, hafter, Option.map_some, Node.shape_file]

theorem setContent {l : Location} {text : String}
    (hfile : fs.node? l = some (.file (Utf8.ofString text))) :
    PartlySpaced fs (fs.setContent l (Utf8.ofString (Spacing.collapseBlankLines text))) := by
  intro m
  rw [node?_setContent]
  split
  · next hm =>
    refine Or.inr ⟨text, hm ▸ hfile, ?_⟩
    rw [hm, hfile]
    rfl
  · exact Or.inl rfl

/-- A first line is as it was, or that of a collapsed text. -/
theorem readFirstLine_cases (hs : PartlySpaced fs fs') (home : Location) (path : String) :
    fs'.readFirstLine home path = fs.readFirstLine home path ∨
      ∃ text, fs.readFirstLine home path = .ok (firstLineOf text) ∧
        fs'.readFirstLine home path = .ok (firstLineOf (Spacing.collapseBlankLines text)) := by
  have hres : fs.resolve home path = fs'.resolve home path := hs.sameShape.resolve ..
  cases hl : fs.resolve home path with
  | error e =>
    left
    unfold readFirstLine readBytes look
    rw [← hres, hl]
  | ok l =>
    rcases hs l with h | ⟨text, hbefore, hafter⟩
    · left
      unfold readFirstLine readBytes look
      rw [← hres, hl]
      simp only [h]
    · have hread := readText_of_file hl hbefore
      have hread' := readText_of_file (hres.symm.trans hl) hafter
      exact Or.inr ⟨text, readFirstLine_of_readText hread, readFirstLine_of_readText hread'⟩

theorem hasFirstLine_eq (hs : PartlySpaced fs fs') (home : Location) :
    hasFirstLine fs' home = hasFirstLine fs home := by
  funext path
  rcases hs.readFirstLine_cases home path with h | ⟨text, h, h'⟩
  · rw [hasFirstLine, hasFirstLine, h]
  · rw [hasFirstLine_of_ok h, hasFirstLine_of_ok h']

theorem headerEnd_eq (hs : PartlySpaced fs fs') (home : Location) (o : Except Failure Unit)
    (ps : List String) : headerEnd fs' home o ps = headerEnd fs home o ps := by
  induction ps with
  | nil => rfl
  | cons p ps ih =>
    rw [headerEnd, headerEnd]
    rcases hs.readFirstLine_cases home p with h | ⟨text, h, h'⟩
    · rw [h, ih]
    · rw [h, h']
      exact ih

/-- No header is lost. -/
theorem lacksHeader_before (hs : PartlySpaced fs fs') {home : Location} {marker path : String}
    (hlacks : lacksHeader fs' home marker path = true) :
    lacksHeader fs home marker path = true := by
  rcases hs.readFirstLine_cases home path with h | ⟨text, h, h'⟩
  · unfold lacksHeader at hlacks ⊢
    rw [← h]
    exact hlacks
  · rw [lacksHeader_of_ok h'] at hlacks
    rw [lacksHeader_of_ok h]
    cases hheader : Header.isHeaderFor (firstLineOf text) path marker with
    | false => rfl
    | true =>
      rw [Header.isHeaderFor_collapse hheader] at hlacks
      cases hlacks

end PartlySpaced

theorem singleSpaceFile_partlySpaced (path : String) (h : Host) (fs : FileSystem) :
    PartlySpaced fs (singleSpaceFile path h fs).progress.files := by
  rcases singleSpaceFile_cases path h fs with ⟨_, -, -, hw⟩ | ⟨text, l, -, hfile, hw⟩ | ⟨e, hw⟩
  · rw [hw]
    exact PartlySpaced.refl fs
  · rw [hw]
    exact PartlySpaced.setContent hfile
  · rw [hw]
    exact PartlySpaced.refl fs

/-- However single spacing ends. -/
theorem singleSpace_partlySpaced (p : Plan) (h : Host) (fs : FileSystem) :
    PartlySpaced fs (Action.singleSpace.run p h fs).progress.files :=
  Activity.forFiles_relates PartlySpaced.refl PartlySpaced.trans
    (fun path fs => singleSpaceFile_partlySpaced path h fs) p.job.target p.job.settings.extension fs

/-- **Single spacing breaks no header.** A text whose first line is a header for a path, with
    some marker, keeps one when its blank lines are collapsed. So the check of headers that
    runs behind single spacing ends as it would have without it, and what it reports are some
    of the paths that it would have reported without it, in the same order. -/
theorem singleSpacing_breaks_no_header :
    (∀ text path marker, Header.isHeaderFor (firstLineOf text) path marker = true →
      Header.isHeaderFor (firstLineOf (Spacing.collapseBlankLines text)) path marker = true) ∧
    ∀ (p : Plan) (h : Host) (fs : FileSystem),
      let spaced := (Action.singleSpace.run p h fs).progress.files
      let before := Action.headerCheck.run p h fs
      let after := Action.headerCheck.run p h spaced
      after.outcome = before.outcome ∧
      ∃ found found' : List String,
        before.progress.out = found.flatMap (findingLine "File header missing for") ∧
        after.progress.out = found'.flatMap (findingLine "File header missing for") ∧
        found'.Sublist found := by
  refine ⟨fun text path marker hheader => Header.isHeaderFor_collapse hheader, ?_⟩
  intro p h fs spaced before after
  have hs : PartlySpaced fs spaced := singleSpace_partlySpaced p h fs
  rcases hvisit : visit Watcher.idle.recording h.home p.job.target p.job.settings.extension (fs, [])
    with ⟨o, fs₁, ps⟩
  obtain ⟨hend, -, hout⟩ := headerCheck_agrees h p hvisit
  obtain ⟨hend', -, hout'⟩ :=
    headerCheck_agrees h p (Activity.visit_idle_sameShape hvisit hs.sameShape)
  rw [hs.headerEnd_eq] at hend'
  rw [hs.hasFirstLine_eq] at hout'
  refine ⟨hend'.trans hend.symm, _, _, hout, hout', ?_⟩
  -- Of the same paths those are reported that lack a header, which are fewer now.
  exact List.monotone_filter_right _ fun p hlacks => hs.lacksHeader_before hlacks

/-- A header with a wide blank in its marker and another at its end stays; and the file that is
    no text ends the check behind single spacing as it does without. -/
theorem singleSpacing_breaks_no_header_aliased :
    let h : Host := bareHost
    let p : Plan := ⟨⟨"d", {}⟩, false, []⟩
    let spaced := (Action.singleSpace.run p h aliased).progress.files
    Header.isHeaderFor (firstLineOf (Spacing.collapseBlankLines "\u3000# a.py\u2003\n\n\nx"))
        "d/a.py" "\u3000#" = true ∧
      (Action.headerCheck.run p h spaced).outcome = .error (.file "d/c.py" .notText) ∧
      ∃ found : List String, (Action.headerCheck.run p h spaced).progress.out =
        found.flatMap (findingLine "File header missing for") ∧ "d/c.py" ∉ found := by
  intro h p spaced
  obtain ⟨hheader, hcheck⟩ := singleSpacing_breaks_no_header
  obtain ⟨hend, found, found', hout, hout', hsub⟩ := hcheck p h aliased
  obtain ⟨hend₁, -, hout₁⟩ := headerCheck_agrees h p visit_aliased
  refine ⟨hheader _ _ _ (by decide), hend.trans (hend₁.trans (by decide)), found', hout', ?_⟩
  intro hmem
  have hc : Piece.styled .path "d/c.py" ∈ (Action.headerCheck.run p h aliased).progress.out := by
    rw [hout]
    exact List.mem_flatMap.2 ⟨_, hsub.subset hmem, by simp [findingLine]⟩
  rw [hout₁] at hc
  revert hc
  decide

end SourceTidy
