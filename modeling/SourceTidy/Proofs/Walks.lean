/-
  What holds of all that a walk makes of its state. A walk stays where it is, meets a file,
  leaves a note or ends with a failure of its own, and does one after the other; what holds of
  each of these, and of two in a row, holds of the whole, however deep the walk goes and
  whatever becomes of the file system on the way (`visit_keeps`). For an activity at every file
  this is a statement about activities (`forFiles_induct`).
-/
import SourceTidy.Action.Basic

namespace SourceTidy

namespace Walk

variable {σ : Type} {w : Watcher σ} {R : σ → Except Failure Unit × σ → Prop} {r : Route}

/-- A relation between a state and what comes of it that a walk cannot leave, wherever it goes
    below its root and whatever files with its extension it meets. -/
structure Keeps (w : Watcher σ) (root ext : String) (R : σ → Except Failure Unit × σ → Prop) :
    Prop where
  stays : ∀ s, R s (.ok (), s)
  meets : ∀ path s, Path.hasExtension path ext = true → R s (w.meet path s)
  tells : ∀ n s, R s (.ok (), w.tell n s)
  faults : ∀ path cause s, R s (.error (.walk root path cause), s)
  trans : ∀ {s s' t}, R s (.ok (), s') → R s' t → R s t

variable {enter : List Ancestor → String → σ → Except Failure Unit × σ}

theorem trouble_keeps (hR : Keeps w r.root r.ext R) (path : String) (cause : FileError) (s : σ) :
    R s (trouble w r path cause s) := by
  unfold trouble
  split
  · exact hR.tells _ s
  · exact hR.faults path cause s

theorem file_keeps (hR : Keeps w r.root r.ext R) (path : String) (s : σ) :
    R s (file w r path s) := by
  unfold file
  split
  · next hext => exact hR.meets path s hext
  · exact hR.stays s

theorem link_keeps (hR : Keeps w r.root r.ext R) (henter : ∀ as path s, R s (enter as path s))
    (as : List Ancestor) (path : String) (s : σ) : R s (link w r enter as path s) := by
  unfold link
  split
  · exact trouble_keeps hR path _ s
  · split
    · exact file_keeps hR path s
    · split
      · exact hR.tells _ s
      · exact henter as path s
    · exact hR.stays s

theorem entry_keeps (hR : Keeps w r.root r.ext R) (henter : ∀ as path s, R s (enter as path s))
    (as : List Ancestor) (path : String) (n : Node) (s : σ) :
    R s (entry w r enter as path n s) := by
  cases n with
  | file content => exact file_keeps hR path s
  | directory => exact henter as path s
  | link target => exact link_keeps hR henter as path s
  | device => exact hR.stays s

theorem entries_keeps (hR : Keeps w r.root r.ext R) (henter : ∀ as path s, R s (enter as path s))
    (as : List Ancestor) (dir : String) (listing : List (String × Node)) (s : σ) :
    R s (entries w r enter as dir listing s) := by
  induction listing generalizing s with
  | nil => exact hR.stays s
  | cons head rest ih =>
    obtain ⟨name, n⟩ := head
    have hentry := entry_keeps hR henter as (Path.join dir name) n s
    rw [entries]
    split
    · next h =>
      rw [h] at hentry
      exact hentry
    · next h =>
      rw [h] at hentry
      exact hR.trans hentry (ih _)

/-- One level of depth after the other, down to where the paths are too long. -/
theorem directory_keeps (hR : Keeps w r.root r.ext R) (levels : Nat) (as : List Ancestor)
    (path : String) (s : σ) : R s (directory w r levels as path s) := by
  induction levels generalizing as path s with
  | zero => exact hR.faults path _ s
  | succ levels ih =>
    rw [directory]
    split
    · exact trouble_keeps hR path _ s
    · exact entries_keeps hR ih _ path _ s

end Walk

/-- A visit keeps to a relation that its steps keep to, also where there is nothing to visit. -/
theorem visit_keeps {σ : Type} {w : Watcher σ} {R : σ → Except Failure Unit × σ → Prop}
    {root ext : String} (hR : Walk.Keeps w root ext R)
    (habsent : ∀ s, R s (.error (.file root .missingEntity), s)) (home : Location) (s : σ) :
    R s (visit w home root ext s) := by
  unfold visit
  simp only
  split
  · exact habsent s
  · exact Walk.file_keeps (r := ⟨home, root, ext⟩) hR root s
  · split
    · exact hR.stays s
    · exact Walk.directory_keeps (r := ⟨home, root, ext⟩) hR _ [] root s
  · exact hR.stays s

namespace Activity

/-- What holds of activities that do nothing, leave a note or fail as walks do, and of one
    activity and then another if it holds of both. -/
structure Sequential (root : String) (Q : FileSystem → Report Unit → Prop) : Prop where
  idle : ∀ fs, Q fs ⟨.ok (), .start fs⟩
  noted : ∀ fs n, Q fs ⟨.ok (), ⟨fs, [], [n]⟩⟩
  fault : ∀ fs path cause, Q fs ⟨.error (.walk root path cause), .start fs⟩
  absent : ∀ fs, Q fs ⟨.error (.file root .missingEntity), .start fs⟩
  seq : ∀ {fs p r}, Q fs ⟨.ok (), p⟩ → Q p.files r →
    Q fs ⟨r.outcome, p.followedBy r.progress⟩

/-- What holds of everything that is done at a file with the extension holds of doing it at
    every such file. -/
theorem forFiles_induct {root ext : String} {Q : FileSystem → Report Unit → Prop} {h : Host}
    {each : String → Activity Unit} (hQ : Sequential root Q)
    (heach : ∀ path fs, Path.hasExtension path ext = true → Q fs (each path h fs))
    (fs : FileSystem) : Q fs (forFiles root ext each h fs) := by
  have hkeeps : Walk.Keeps (watcher h each) root ext fun p t =>
      ∃ q, t.2 = p.followedBy q ∧ Q p.files ⟨t.1, q⟩ :=
    { stays := fun p => ⟨.start p.files, (p.followedBy_start).symm, hQ.idle p.files⟩
      meets := fun path p hext => ⟨_, rfl, heach path p.files hext⟩
      tells := fun n p => ⟨⟨p.files, [], [n]⟩, by simp [watcher, Progress.followedBy],
        hQ.noted p.files n⟩
      faults := fun path cause p =>
        ⟨.start p.files, (p.followedBy_start).symm, hQ.fault p.files path cause⟩
      trans := by
        rintro p p' ⟨o, p''⟩ ⟨q, rfl, hq⟩ ⟨q', rfl, hq'⟩
        exact ⟨q.followedBy q', p.followedBy_assoc q q', hQ.seq hq hq'⟩ }
  obtain ⟨q, hvisit, hq⟩ := visit_keeps hkeeps
    (fun p => ⟨.start p.files, (p.followedBy_start).symm, hQ.absent p.files⟩) h.home (.start fs)
  rw [Progress.start_followedBy] at hvisit
  unfold forFiles
  rw [← hvisit] at hq
  exact hq

/-- What each path makes of the files is what all of them make, if it may be done repeatedly. -/
theorem forFiles_relates {R : FileSystem → FileSystem → Prop} (hrefl : ∀ fs, R fs fs)
    (htrans : ∀ {fs fs' fs''}, R fs fs' → R fs' fs'' → R fs fs'') {h : Host}
    {each : String → Activity Unit} (hstep : ∀ path fs, R fs (each path h fs).progress.files)
    (root ext : String) (fs : FileSystem) :
    R fs (forFiles root ext each h fs).progress.files := by
  have hseq : Sequential root fun fs r => R fs r.progress.files :=
    { idle := hrefl
      noted := fun fs _ => hrefl fs
      fault := fun fs _ _ => hrefl fs
      absent := hrefl
      seq := htrans }
  exact forFiles_induct hseq (fun path fs _ => hstep path fs) fs

end Activity

end SourceTidy
