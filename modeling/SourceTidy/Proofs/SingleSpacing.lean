/-
  What single spacing does to a file system. The invariant is `Spaced`: the places that some
  paths lead to hold their old texts with the blank lines collapsed, and all else is as it was.
  One file keeps it (`singleSpaceFile_text`), a list of paths does up to the first that leads
  to no text (`atEach_singleSpaceFile`), and `singleSpace_rewrites_texts` says it of the
  action.
-/
import SourceTidy.Action.Sources
import SourceTidy.Proofs.EveryFile
import SourceTidy.Proofs.Spacing
import SourceTidy.Proofs.Utf8

namespace SourceTidy

open FileSystem Text

/-! ## Reading -/

namespace FileSystem

variable {fs : FileSystem} {home : Location} {path : String}

theorem readBytes_eq_ok {bytes : Bytes} :
    fs.readBytes home path = .ok bytes ↔ ∃ l, fs.resolve home path = .ok l ∧
      (fs.node? l = some (.file bytes) ∨ fs.node? l = some .device ∧ bytes = []) := by
  unfold readBytes look
  cases fs.resolve home path with
  | error e => simp
  | ok l =>
    simp only [Except.ok.injEq, exists_eq_left']
    cases fs.node? l with
    | none => simp
    | some n => cases n <;> simp [eq_comm]

theorem readText_eq_ok {text : String} :
    fs.readText home path = .ok text ↔
      fs.readBytes home path = .ok (Utf8.ofString text) := by
  unfold readText
  cases fs.readBytes home path with
  | error e => simp
  | ok bytes =>
    simp only [Except.ok.injEq]
    rw [eq_comm (a := bytes), ← Utf8.toString?_eq_some_iff]
    cases Utf8.toString? bytes <;> simp

theorem readText_of_file {l : Location} {text : String} (hl : fs.resolve home path = .ok l)
    (hfile : fs.node? l = some (.file (Utf8.ofString text))) :
    fs.readText home path = .ok text :=
  readText_eq_ok.2 (readBytes_eq_ok.2 ⟨l, hl, Or.inl hfile⟩)

/-- What a path to a text leads to; a device reads as the empty text. -/
theorem node?_of_readText {l : Location} {text : String} (hl : fs.resolve home path = .ok l)
    (ht : fs.readText home path = .ok text) :
    fs.node? l = some (.file (Utf8.ofString text)) ∨ fs.node? l = some .device ∧ text = "" := by
  obtain ⟨l', hl', hnode⟩ := readBytes_eq_ok.1 (readText_eq_ok.1 ht)
  rw [hl] at hl'
  cases hl'
  refine hnode.imp_right fun h => ⟨h.1, ?_⟩
  have hempty := Utf8.toString?_eq_some_iff.2 h.2
  exact (Option.some.inj hempty).symm

theorem readText_eq_notText {bytes : Bytes} (h : fs.readBytes home path = .ok bytes)
    (ht : Utf8.toString? bytes = none) : fs.readText home path = .error .notText := by
  unfold readText
  simp only [h, ht]

end FileSystem

/-! ## One file -/

/-- What is put out about a file. -/
def findingLine (message path : String) : List Piece :=
  [.plain (message ++ " "), .styled .path path, .plain "\n"]

theorem singleSpaceFile_apply (path : String) (h : Host) (fs : FileSystem) :
    singleSpaceFile path h fs =
      match fs.readText h.home path with
      | .error e => ⟨.error (.file path e), .start fs⟩
      | .ok text =>
        if Spacing.collapseBlankLines text = text then ⟨.ok (), .start fs⟩
        else match fs.overwrite h.home path
            (Utf8.ofString (Spacing.collapseBlankLines text)) with
          | .error e => ⟨.error (.file path e), .start fs⟩
          | .ok fs' => ⟨.ok (), ⟨fs', findingLine "Single spaced" path, []⟩⟩ := by
  unfold singleSpaceFile
  rw [Activity.bind_ok (p := .start fs) rfl, Activity.bind_ok (p := .start fs) rfl]
  simp only [Progress.start]
  cases fs.readText h.home path with
  | error e => rfl
  | ok text =>
    simp only
    split
    · rfl
    · cases fs.overwrite h.home path (Utf8.ofString (Spacing.collapseBlankLines text)) <;> rfl

theorem singleSpaceFile_of_eq {h : Host} {fs : FileSystem} {path text : String}
    (ht : fs.readText h.home path = .ok text)
    (heq : Spacing.collapseBlankLines text = text) :
    singleSpaceFile path h fs = ⟨.ok (), .start fs⟩ := by
  rw [singleSpaceFile_apply]
  simp only [ht, if_pos heq]

theorem singleSpaceFile_of_ne {h : Host} {fs : FileSystem} {path text : String} {l : Location}
    (hl : fs.resolve h.home path = .ok l)
    (hfile : fs.node? l = some (.file (Utf8.ofString text)))
    (hne : Spacing.collapseBlankLines text ≠ text) :
    singleSpaceFile path h fs =
      ⟨.ok (), ⟨fs.setContent l (Utf8.ofString (Spacing.collapseBlankLines text)),
        findingLine "Single spaced" path, []⟩⟩ := by
  have hw : fs.overwrite h.home path (Utf8.ofString (Spacing.collapseBlankLines text)) =
      .ok (fs.setContent l (Utf8.ofString (Spacing.collapseBlankLines text))) := by
    unfold overwrite
    simp only [hl, hfile]
  rw [singleSpaceFile_apply]
  simp only [readText_of_file hl hfile, if_neg hne, hw]

/-- All that can come of single spacing at a path: the text is collapsed already, or it is
    rewritten, or nothing happens because there is no text. -/
theorem singleSpaceFile_cases (path : String) (h : Host) (fs : FileSystem) :
    (∃ text, fs.readText h.home path = .ok text ∧ Spacing.collapseBlankLines text = text ∧
      singleSpaceFile path h fs = ⟨.ok (), .start fs⟩) ∨
    (∃ text l, fs.resolve h.home path = .ok l ∧
      fs.node? l = some (.file (Utf8.ofString text)) ∧
      singleSpaceFile path h fs =
        ⟨.ok (), ⟨fs.setContent l (Utf8.ofString (Spacing.collapseBlankLines text)),
          findingLine "Single spaced" path, []⟩⟩) ∨
    ∃ e, singleSpaceFile path h fs = ⟨.error (.file path e), .start fs⟩ := by
  cases ht : fs.readText h.home path with
  | error e =>
    refine Or.inr (Or.inr ⟨e, ?_⟩)
    rw [singleSpaceFile_apply]
    simp only [ht]
  | ok text =>
    by_cases heq : Spacing.collapseBlankLines text = text
    · exact Or.inl ⟨text, rfl, heq, singleSpaceFile_of_eq ht heq⟩
    · obtain ⟨l, hl, -⟩ := readBytes_eq_ok.1 (readText_eq_ok.1 ht)
      rcases node?_of_readText hl ht with hfile | ⟨-, rfl⟩
      · exact Or.inr (Or.inl ⟨text, l, hl, hfile, singleSpaceFile_of_ne hl hfile heq⟩)
      · exact absurd rfl heq

theorem singleSpaceFile_keepsShape (h : Host) : Activity.KeepsShape h singleSpaceFile := by
  intro path fs
  rcases singleSpaceFile_cases path h fs with ⟨_, -, -, hw⟩ | ⟨_, l, -, -, hw⟩ | ⟨e, hw⟩
  · rw [hw]
    exact SameShape.refl fs
  · rw [hw]
    exact sameShape_setContent fs l _
  · rw [hw]
    exact SameShape.refl fs

/-! ## The invariant -/

/-- A text with its blank lines collapsed; everything else is as it was. -/
def Node.spaced : Node → Node
  | .file content =>
    match Utf8.toString? content with
    | some text => .file (Utf8.ofString (Spacing.collapseBlankLines text))
    | none => .file content
  | n => n

theorem Node.shape_spaced (n : Node) : n.spaced.shape = n.shape := by
  cases n with
  | file content =>
    unfold Node.spaced
    simp only
    split <;> simp
  | _ => rfl

theorem Node.spaced_text (text : String) :
    (Node.file (Utf8.ofString text)).spaced =
      .file (Utf8.ofString (Spacing.collapseBlankLines text)) := by
  simp only [Node.spaced, Utf8.toString?_eq_some_iff.2 rfl]

theorem Node.spaced_of_none {content : Bytes} (h : Utf8.toString? content = none) :
    (Node.file content).spaced = .file content := by
  simp only [Node.spaced, h]

/-- In the second file system the texts that some paths lead to are collapsed, and everything
    else is as in the first. -/
def Spaced (fs : FileSystem) (home : Location) (paths : List String) (fs' : FileSystem) : Prop :=
  ∀ l, fs'.node? l =
    if ∃ p ∈ paths, fs.resolve home p = .ok l then (fs.node? l).map Node.spaced else fs.node? l

section Invariant

variable {fs fs' : FileSystem} {home l : Location} {paths : List String} {path text : String}

theorem spaced_nil (fs : FileSystem) (home : Location) : Spaced fs home [] fs := by
  intro l
  simp

theorem Spaced.sameShape (hs : Spaced fs home paths fs') : fs.SameShape fs' := by
  intro l
  rw [hs l]
  split
  · simp [Node.shape_spaced, Function.comp_def]
  · rfl

/-- A place is or is not among those that one more path makes. -/
theorem exists_mem_concat :
    (∃ p ∈ paths ++ [path], fs.resolve home p = .ok l) ↔
      (∃ p ∈ paths, fs.resolve home p = .ok l) ∨ fs.resolve home path = .ok l := by
  simp [or_and_right, exists_or]

/-- Nothing is left to do where collapsing changes nothing. -/
theorem Spaced.concat_of_eq (hs : Spaced fs home paths fs')
    (heq : ∀ l, fs.resolve home path = .ok l →
      (∃ p ∈ paths, fs.resolve home p = .ok l) ∨ (fs.node? l).map Node.spaced = fs.node? l) :
    Spaced fs home (paths ++ [path]) fs' := by
  intro l
  rw [hs l]
  simp only [exists_mem_concat]
  by_cases hdone : ∃ p ∈ paths, fs.resolve home p = .ok l
  · simp [hdone]
  · by_cases hl : fs.resolve home path = .ok l
    · rcases heq l hl with h | h
      · exact absurd h hdone
      · rw [if_neg hdone, if_pos (Or.inr hl), h]
    · rw [if_neg hdone, if_neg (by simp [hdone, hl])]

/-- The file at a new place is collapsed by putting the collapsed text there. -/
theorem Spaced.concat_of_file (hs : Spaced fs home paths fs')
    (hl : fs.resolve home path = .ok l) (hnew : ¬ ∃ p ∈ paths, fs.resolve home p = .ok l)
    (hfile : fs.node? l = some (.file (Utf8.ofString text))) :
    Spaced fs home (paths ++ [path])
      (fs'.setContent l (Utf8.ofString (Spacing.collapseBlankLines text))) := by
  intro m
  rw [node?_setContent]
  simp only [exists_mem_concat]
  by_cases hm : m = l
  · subst hm
    rw [if_pos rfl, if_pos (Or.inr hl), hs m, if_neg hnew, hfile, Option.map_some,
      Option.map_some, Node.spaced_text]
    rfl
  · have hm' : fs.resolve home path ≠ .ok m := by
      intro h
      rw [hl] at h
      cases h
      exact hm rfl
    rw [if_neg hm, hs m]
    simp only [hm', or_false]

/-- Where a path leads to a place that has been done, the text is the collapsed one. -/
theorem Spaced.readText_of_done (hs : Spaced fs home paths fs')
    (hl : fs.resolve home path = .ok l) (hdone : ∃ p ∈ paths, fs.resolve home p = .ok l)
    (ht : fs.readText home path = .ok text) :
    fs'.readText home path = .ok (Spacing.collapseBlankLines text) := by
  have hl' : fs'.resolve home path = .ok l := by rw [← hs.sameShape.resolve, hl]
  have hsl := hs l
  rw [if_pos hdone] at hsl
  rcases node?_of_readText hl ht with hfile | ⟨hdevice, rfl⟩
  · rw [hfile, Option.map_some, Node.spaced_text] at hsl
    exact readText_of_file hl' hsl
  · rw [hdevice] at hsl
    exact readText_eq_ok.2 (readBytes_eq_ok.2 ⟨l, hl', Or.inr ⟨hsl, rfl⟩⟩)

/-- Where it leads to a new place, everything is as it was. -/
theorem Spaced.readText_of_new (hs : Spaced fs home paths fs')
    (hl : fs.resolve home path = .ok l) (hnew : ¬ ∃ p ∈ paths, fs.resolve home p = .ok l) :
    fs'.readText home path = fs.readText home path := by
  have hsl := hs l
  rw [if_neg hnew] at hsl
  unfold readText readBytes look
  simp only [← hs.sameShape.resolve, hl, hsl]

/-- A file that is no text stays. -/
theorem Spaced.readBytes_of_notText (hs : Spaced fs home paths fs') {bytes : Bytes}
    (hread : fs.readBytes home path = .ok bytes) (ht : Utf8.toString? bytes = none) :
    fs'.readBytes home path = .ok bytes := by
  obtain ⟨l, hl, hnode⟩ := readBytes_eq_ok.1 hread
  have hl' : fs'.resolve home path = .ok l := by rw [← hs.sameShape.resolve, hl]
  rcases hnode with hfile | ⟨-, rfl⟩
  · have hfile' : fs'.node? l = some (.file bytes) := by
      rw [hs l, hfile, Option.map_some, Node.spaced_of_none ht, ite_self]
    exact readBytes_eq_ok.2 ⟨l, hl', Or.inl hfile'⟩
  · cases ht

/-- Collapsing does nothing where the text is collapsed. -/
theorem map_spaced_of_eq (hl : fs.resolve home path = .ok l)
    (ht : fs.readText home path = .ok text) (heq : Spacing.collapseBlankLines text = text) :
    (fs.node? l).map Node.spaced = fs.node? l := by
  rcases node?_of_readText hl ht with hfile | ⟨hdevice, rfl⟩
  · rw [hfile, Option.map_some, Node.spaced_text, heq]
  · rw [hdevice]
    rfl

end Invariant

/-! ## One path -/

/-- Collapsing changes the text that a path leads to. -/
def changes (fs : FileSystem) (home : Location) (path : String) : Bool :=
  match fs.readText home path with
  | .ok text => Spacing.collapseBlankLines text ≠ text
  | .error _ => false

theorem changes_eq {fs fs' : FileSystem} {home : Location} {path text : String}
    (ht : fs.readText home path = .ok text)
    (ht' : fs'.readText home path = .ok (Spacing.collapseBlankLines text)) :
    changes fs home path = decide (fs'.readBytes home path ≠ fs.readBytes home path) := by
  unfold changes
  rw [ht, readText_eq_ok.1 ht, readText_eq_ok.1 ht']
  simp [Utf8.ofString_inj]

/-- A path leads where none of some others does. -/
def isNew (fs : FileSystem) (home : Location) (others : List String) (path : String) : Bool :=
  others.all fun other => fs.resolve home other ≠ fs.resolve home path

theorem isNew_iff {fs : FileSystem} {home l : Location} {others : List String} {path : String}
    (hl : fs.resolve home path = .ok l) :
    isNew fs home others path = true ↔ ¬ ∃ p ∈ others, fs.resolve home p = .ok l := by
  simp [isNew, hl]

section Step

variable {h : Host} {fs fs' : FileSystem} {paths : List String} {path text : String}

/-- A path to a text: the invariant goes on, and something is put out if the text was to be
    changed and no path before has done that. -/
theorem singleSpaceFile_text (hs : Spaced fs h.home paths fs')
    (ht : fs.readText h.home path = .ok text) :
    ∃ fs'', Spaced fs h.home (paths ++ [path]) fs'' ∧
      singleSpaceFile path h fs' =
        ⟨.ok (), ⟨fs'', if changes fs h.home path && isNew fs h.home paths path then
          findingLine "Single spaced" path else [], []⟩⟩ := by
  have hchanges : changes fs h.home path = decide (Spacing.collapseBlankLines text ≠ text) := by
    unfold changes
    rw [ht]
  obtain ⟨l, hl, -⟩ := readBytes_eq_ok.1 (readText_eq_ok.1 ht)
  have hself : ∀ m, fs.resolve h.home path = .ok m → m = l := by
    intro m hm
    rw [hl] at hm
    cases hm
    rfl
  by_cases hdone : ∃ p ∈ paths, fs.resolve h.home p = .ok l
  · -- The text has been collapsed already, and once more does not change it.
    have hold : isNew fs h.home paths path = false := by
      rw [Bool.eq_false_iff, Ne, isNew_iff hl, not_not]
      exact hdone
    refine ⟨fs', hs.concat_of_eq fun m hm => Or.inl (hself m hm ▸ hdone), ?_⟩
    rw [singleSpaceFile_of_eq (hs.readText_of_done hl hdone ht)
      (Spacing.collapseBlankLines_collapseBlankLines text), hold, Bool.and_false]
    rfl
  · have hnew := (isNew_iff hl).2 hdone
    have ht' : fs'.readText h.home path = .ok text := by rw [hs.readText_of_new hl hdone, ht]
    by_cases heq : Spacing.collapseBlankLines text = text
    · refine ⟨fs', hs.concat_of_eq fun m hm => Or.inr ?_, ?_⟩
      · exact map_spaced_of_eq hm ht heq
      · rw [singleSpaceFile_of_eq ht' heq, hchanges, decide_eq_false (not_not.2 heq)]
        rfl
    · rcases node?_of_readText hl ht with hfile | ⟨-, rfl⟩
      · have hl' : fs'.resolve h.home path = .ok l := by rw [← hs.sameShape.resolve, hl]
        have hfile' : fs'.node? l = some (.file (Utf8.ofString text)) := by
          rw [hs l, if_neg hdone, hfile]
        refine ⟨_, hs.concat_of_file hl hdone hfile, ?_⟩
        rw [singleSpaceFile_of_ne hl' hfile' heq, hchanges, decide_eq_true heq, hnew]
        rfl
      · exact absurd rfl heq

/-- A path to a file that is no text is a failure, whatever has been done before. -/
theorem singleSpaceFile_notText (hs : Spaced fs h.home paths fs') {bytes : Bytes}
    (hread : fs.readBytes h.home path = .ok bytes) (ht : Utf8.toString? bytes = none) :
    singleSpaceFile path h fs' = ⟨.error (.file path .notText), .start fs'⟩ := by
  rw [singleSpaceFile_apply, readText_eq_notText (hs.readBytes_of_notText hread ht) ht]

end Step

/-! ## One path after the other -/

/-- A path leads to a text. -/
def isText (fs : FileSystem) (home : Location) (path : String) : Bool :=
  (fs.readText home path).isOk

/-- Of the paths that lead to one and the same place, only the first. -/
def firsts (fs : FileSystem) (home : Location) : List String → List String
  | [] => []
  | p :: ps => p :: (firsts fs home ps).filter fun q => fs.resolve home p ≠ fs.resolve home q

/-- How single spacing ends at some paths: at the first that leads to no text, and otherwise
    in the given way. -/
def spacingEnd (fs : FileSystem) (home : Location) (ps : List String) (o : Except Failure Unit) :
    Except Failure Unit :=
  match ps.dropWhile (isText fs home) with
  | [] => o
  | p :: _ => .error (.file p .notText)

theorem isText_iff {fs : FileSystem} {home : Location} {path : String} :
    isText fs home path = true ↔ ∃ text, fs.readText home path = .ok text := by
  unfold isText
  cases fs.readText home path <;> simp [Except.isOk, Except.toBool]

theorem spacingEnd_eq_ok {fs : FileSystem} {home : Location} {ps : List String}
    {o : Except Failure Unit} :
    spacingEnd fs home ps o = .ok () ↔ o = .ok () ∧ ps.takeWhile (isText fs home) = ps := by
  have happend := List.takeWhile_append_dropWhile (p := isText fs home) (l := ps)
  unfold spacingEnd
  cases hdrop : ps.dropWhile (isText fs home) with
  | nil =>
    rw [hdrop, List.append_nil] at happend
    simp [happend]
  | cons p rest =>
    rw [hdrop] at happend
    constructor
    · intro h
      cases h
    · rintro ⟨-, htake⟩
      rw [htake] at happend
      simp at happend

theorem isNew_concat (fs : FileSystem) (home : Location) (paths : List String) (p q : String) :
    isNew fs home (paths ++ [p]) q =
      (isNew fs home paths q && decide (fs.resolve home p ≠ fs.resolve home q)) := by
  simp [isNew]

theorem firsts_sublist (fs : FileSystem) (home : Location) (ps : List String) :
    (firsts fs home ps).Sublist ps := by
  induction ps with
  | nil => exact List.Sublist.refl _
  | cons p ps ih => exact (List.filter_sublist.trans ih).cons_cons p

theorem filter_firsts_cons (fs : FileSystem) (home : Location) (seen : List String) (p : String)
    (ps : List String) (f : String → Bool) :
    (firsts fs home (p :: ps)).filter (fun q => f q && isNew fs home seen q) =
      (if f p && isNew fs home seen p then [p] else []) ++
        (firsts fs home ps).filter fun q => f q && isNew fs home (seen ++ [p]) q := by
  have hfilter : ((firsts fs home ps).filter fun q =>
        decide (fs.resolve home p ≠ fs.resolve home q)).filter
          (fun q => f q && isNew fs home seen q) =
      (firsts fs home ps).filter fun q => f q && isNew fs home (seen ++ [p]) q := by
    rw [List.filter_filter]
    refine List.filter_congr fun q _ => ?_
    rw [isNew_concat, Bool.and_assoc]
  rw [firsts, List.filter_cons, hfilter]
  split <;> rfl

theorem atEach_singleSpaceFile {h : Host} {fs fs' : FileSystem} {seen ps : List String}
    (o : Except Failure Unit) (hs : Spaced fs h.home seen fs')
    (hread : ∀ p ∈ ps, ∃ bytes, fs.readBytes h.home p = .ok bytes) :
    ∃ fs'', Spaced fs h.home (seen ++ ps.takeWhile (isText fs h.home)) fs'' ∧
      Activity.atEach singleSpaceFile ps o h fs' =
        ⟨spacingEnd fs h.home ps o, ⟨fs'',
          ((firsts fs h.home (ps.takeWhile (isText fs h.home))).filter fun p =>
            changes fs h.home p && isNew fs h.home seen p).flatMap
              (findingLine "Single spaced"), []⟩⟩ := by
  induction ps generalizing fs' seen with
  | nil =>
    refine ⟨fs', ?_, Activity.atEach_nil _ o h fs'⟩
    rw [List.takeWhile_nil, List.append_nil]
    exact hs
  | cons p ps ih =>
    obtain ⟨bytes, hbytes⟩ := hread p (List.mem_cons_self ..)
    cases ht : Utf8.toString? bytes with
    | none =>
      have htext : isText fs h.home p = false := by
        unfold isText
        rw [readText_eq_notText hbytes ht]
        rfl
      rw [List.takeWhile_cons, htext]
      refine ⟨fs', by simpa using hs, ?_⟩
      rw [Activity.atEach_cons_error (singleSpaceFile_notText hs hbytes ht), spacingEnd,
        List.dropWhile_cons, htext]
      rfl
    | some text =>
      have hreadText : fs.readText h.home p = .ok text := by
        rw [readText_eq_ok, hbytes, Utf8.toString?_eq_some_iff.1 ht]
      have htext : isText fs h.home p = true := by
        unfold isText
        rw [hreadText]
        rfl
      obtain ⟨fs₁, hs₁, hp⟩ := singleSpaceFile_text hs hreadText
      obtain ⟨fs₂, hs₂, hps⟩ := ih hs₁ fun q hq => hread q (List.mem_cons_of_mem _ hq)
      rw [List.takeWhile_cons, if_pos htext, List.append_cons]
      refine ⟨fs₂, hs₂, ?_⟩
      have hend : spacingEnd fs h.home (p :: ps) o = spacingEnd fs h.home ps o := by
        unfold spacingEnd
        rw [List.dropWhile_cons, if_pos htext]
      rw [Activity.atEach_cons_ok hp, hps, filter_firsts_cons, List.flatMap_append, hend]
      simp only [Progress.followedBy, List.append_nil]
      cases changes fs h.home p && isNew fs h.home seen p <;> simp

/-! ## The action -/

/-- **Single spacing rewrites the texts that the walk comes to, and nothing else.** The paths
    are those that a walk finds from the target, and up to the first that leads to no text they
    count. What they lead to holds its old text with the blank lines collapsed, and everything
    else in the file system is as it was. One line is put out for each file that has changed,
    under the first of its paths and in the order of the walk. The action ends as the walk does
    if all paths count, and otherwise fails at the first that does not. -/
theorem singleSpace_rewrites_texts (h : Host) (p : Plan) {fs fs₁ : FileSystem}
    {o : Except Failure Unit} {ps : List String}
    (hvisit : visit Watcher.idle.recording h.home p.job.target p.job.settings.extension (fs, []) =
      (o, (fs₁, ps)))
    (hread : ∀ p ∈ ps, ∃ bytes, fs.readBytes h.home p = .ok bytes) :
    let kept := ps.takeWhile (isText fs h.home)
    let r := Action.singleSpace.run p h fs
    (∀ p ∈ kept, ∃ text, fs.readText h.home p = .ok text ∧
      r.progress.files.readText h.home p = .ok (Spacing.collapseBlankLines text)) ∧
    (∀ l, r.progress.files.node? l =
      if ∃ p ∈ kept, fs.resolve h.home p = .ok l then (fs.node? l).map Node.spaced
      else fs.node? l) ∧
    r.progress.out = ((firsts fs h.home kept).filter fun p =>
      r.progress.files.readBytes h.home p ≠ fs.readBytes h.home p).flatMap
        (findingLine "Single spaced") ∧
    r.outcome = spacingEnd fs h.home ps o ∧
    (r.outcome = .ok () ↔ o = .ok () ∧ kept = ps) := by
  intro kept r
  obtain ⟨ho, hf, hout⟩ := Activity.forFiles_agrees (singleSpaceFile_keepsShape h) hvisit
  obtain ⟨fs', hs, hrun⟩ := atEach_singleSpaceFile o (spaced_nil fs h.home) hread
  rw [hrun] at ho hf hout
  have hr : r.progress.files = fs' := hf
  rw [List.nil_append] at hs
  have htext : ∀ p ∈ kept, ∃ text, fs.readText h.home p = .ok text ∧
      fs'.readText h.home p = .ok (Spacing.collapseBlankLines text) := by
    intro p hp
    obtain ⟨text, ht⟩ := isText_iff.1 (List.all_eq_true.1 List.all_takeWhile p hp)
    obtain ⟨l, hl, -⟩ := readBytes_eq_ok.1 (readText_eq_ok.1 ht)
    exact ⟨text, ht, hs.readText_of_done hl ⟨p, hp, hl⟩ ht⟩
  refine ⟨hr ▸ htext, hr ▸ hs, ?_, ho, ?_⟩
  · rw [hr]
    refine hout.trans (congrArg (List.flatMap (findingLine "Single spaced")) ?_)
    refine List.filter_congr fun p hp => ?_
    obtain ⟨text, ht, ht'⟩ := htext p ((firsts_sublist ..).subset hp)
    rw [changes_eq ht ht']
    exact Bool.and_true _
  · have ho' : r.outcome = spacingEnd fs h.home ps o := ho
    rw [ho', spacingEnd_eq_ok]

/-- A directory with a text under two names, and a file that is no text. -/
def aliased : FileSystem :=
  ⟨[(["d"], .directory), (["d", "a.py"], .file [10, 120]), (["d", "b.py"], .link "a.py"),
    (["d", "c.py"], .file [255])], by decide, by decide⟩

theorem visit_aliased :
    visit Watcher.idle.recording [] "d" ".py" (aliased, []) =
      (.ok (), (aliased, ["d/a.py", "d/b.py", "d/c.py"])) := by
  have hopen : aliased.openDirectory [] "d" =
      .ok (["d"], [("a.py", .file [10, 120]), ("b.py", .link "a.py"), ("c.py", .file [255])]) :=
    openDirectory_of_sorted (by decide) (by decide) (by decide) (by decide) (by decide)
  have hlink : aliased.resolve [] (Path.join "d" "b.py") = .ok ["d", "a.py"] := by decide
  have hglance : Walk.glance aliased [] "d" [⟨"d", ["d"]⟩] (Path.join "d" "b.py")
      (.link "a.py") = some (.file (Path.join "d" "b.py")) := by
    simp only [Walk.glance, hlink]
    rfl
  have htour : Walk.Tour aliased [] "d" (.enter [] "d") _ :=
    .opened hopen (.passed rfl (.passed hglance (.passed rfl .done)))
  have hres : aliased.resolve [] "d" = .ok ["d"] := by decide
  exact Walk.visit_idle_of_tour hres (by decide) (by decide) htour rfl (by decide)

/-- The text is collapsed, the line names it by its first path, and the file that is no text
    ends the action and stays. -/
theorem singleSpace_rewrites_texts_aliased :
    let r := Action.singleSpace.run ⟨⟨"d", {}⟩, false, []⟩ bareHost aliased
    r.progress.files.readText [] "d/b.py" = .ok "x" ∧
      r.progress.files.node? ["d", "c.py"] = some (.file [255]) ∧
      r.progress.out = findingLine "Single spaced" "d/a.py" ∧
      r.outcome = .error (.file "d/c.py" .notText) := by
  intro r
  have hread : ∀ p ∈ ["d/a.py", "d/b.py", "d/c.py"],
      ∃ bytes, aliased.readBytes [] p = .ok bytes := by
    simp only [List.forall_mem_cons]
    exact ⟨⟨[10, 120], by decide⟩, ⟨[10, 120], by decide⟩, ⟨[255], by decide⟩,
      fun _ hp => by cases hp⟩
  obtain ⟨htexts, hfiles, hout, hend, -⟩ :=
    singleSpace_rewrites_texts bareHost ⟨⟨"d", {}⟩, false, []⟩ visit_aliased hread
  have hkept : ["d/a.py", "d/b.py", "d/c.py"].takeWhile (isText aliased []) =
      ["d/a.py", "d/b.py"] := by decide
  rw [hkept] at htexts hfiles hout
  refine ⟨?_, ?_, ?_, ?_⟩
  · obtain ⟨text, ht, ht'⟩ := htexts "d/b.py" (by decide)
    have hb : aliased.readText [] "d/b.py" = .ok "\nx" := by decide
    rw [hb] at ht
    cases ht
    exact ht'
  · rw [hfiles, if_neg (by decide)]
    decide
  · obtain ⟨text, ht, ht'⟩ := htexts "d/a.py" (by decide)
    have hfirsts : firsts aliased [] ["d/a.py", "d/b.py"] = ["d/a.py"] := by decide
    have hchanges : changes aliased [] "d/a.py" = true := by decide
    rw [changes_eq ht ht'] at hchanges
    rw [hout, hfirsts, List.filter_cons, if_pos hchanges]
    rfl
  · rw [hend]
    decide

end SourceTidy
