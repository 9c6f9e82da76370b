/-
  The stages of a pipeline, as equations on reports. A stage puts out its notice, then what the
  action puts out unless it is turned off, and an empty line if nothing has failed
  (`stage_eq`). A pipeline is one stage and then the others on the file system that the stage
  has left, up to the first failure (`runAll_cons_agrees_ok`, `runAll_cons_agrees_error`).
-/
import SourceTidy.Pipeline
import SourceTidy.Proofs.EveryFile

namespace SourceTidy

open Activity

/-! ## One stage -/

namespace Plan

/-- The line that announces an action, or says that it is left out. -/
def notice (p : Plan) (a : Action) : List Piece :=
  if p.quiet then []
  else if p.isDisabled a then [.styled .skipNotice ("🙅 Skipping " ++ a.name), .plain "\n"]
  else [.plain "🏃 ", .styled .actionName a.name, .plain "\n"]

/-- What is done for an action: nothing if it is turned off. -/
def work (p : Plan) (a : Action) : Activity Unit :=
  if p.isDisabled a then Activity.pure () else a.run p

theorem work_of_disabled {p : Plan} {a : Action} (h : p.isDisabled a = true) (host : Host)
    (fs : FileSystem) : p.work a host fs = ⟨.ok (), .start fs⟩ := by
  unfold work
  rw [if_pos h]
  rfl

theorem work_of_enabled {p : Plan} {a : Action} (h : p.isDisabled a = false) :
    p.work a = a.run p := by
  unfold work
  rw [if_neg (by simp [h])]

theorem work_outcome_ok {p : Plan} {a : Action} {host : Host} {fs : FileSystem} :
    (p.work a host fs).outcome = .ok () ↔
      p.isDisabled a = true ∨ (a.run p host fs).outcome = .ok () := by
  cases hd : p.isDisabled a with
  | true => simp [work_of_disabled hd]
  | false => simp [work_of_enabled hd]

end Plan

/-- The empty line behind an action that has not failed. -/
def separator : Except Failure Unit → List Piece
  | .ok _ => [.plain "\n"]
  | .error _ => []

theorem perform_eq (p : Plan) (a : Action) (h : Host) (fs : FileSystem) :
    perform p a h fs =
      ⟨(p.work a h fs).outcome,
        (⟨fs, p.notice a, []⟩ : Progress).followedBy (p.work a h fs).progress⟩ := by
  unfold perform Plan.work Plan.notice
  split
  · next hd => simp [announce, skipNotice, Activity.pure, Progress.followedBy, Progress.start]
  · next hd =>
    rw [bind_ok (p := ⟨fs, if p.quiet then [] else startNotice a, []⟩) rfl]
    rfl

/-- The note that an action's turn has come. -/
def stageNote (a : Action) : Note := .log .pipeline .debug ("action " ++ a.name)

theorem stage_eq (p : Plan) (a : Action) (h : Host) (fs : FileSystem) :
    stage p a h fs = ⟨(p.work a h fs).outcome, ⟨(p.work a h fs).progress.files,
      p.notice a ++ (p.work a h fs).progress.out ++ separator (p.work a h fs).outcome,
      stageNote a :: (p.work a h fs).progress.notes⟩⟩ := by
  unfold stage
  rw [bind_ok (p := ⟨fs, [], [stageNote a]⟩) rfl]
  have hperform := perform_eq p a h fs
  rcases hwork : p.work a h fs with ⟨e | u, q⟩
  · rw [hwork] at hperform
    rw [bind_error hperform]
    simp [separator, Progress.followedBy]
  · rw [hwork] at hperform
    rw [bind_ok hperform]
    simp [separator, Progress.followedBy, say, write]

/-! ## One stage after the other -/

section Run

variable {p : Plan} {a : Action} {h : Host} {fs : FileSystem}

theorem runAll_nil (p : Plan) (h : Host) (fs : FileSystem) :
    runAll p [] h fs = ⟨.ok (), .start fs⟩ := rfl

theorem runAll_cons (p : Plan) (a : Action) (rest : List Action) :
    runAll p (a :: rest) = stage p a >>= fun _ => runAll p rest := rfl

/-- A failure is the last that comes of a pipeline. -/
theorem runAll_cons_agrees_error {e : Failure} (hwork : (p.work a h fs).outcome = .error e)
    (rest : List Action) :
    (runAll p (a :: rest) h fs).Agrees ⟨.error e, ⟨(p.work a h fs).progress.files,
      p.notice a ++ (p.work a h fs).progress.out, []⟩⟩ := by
  have hstage := stage_eq p a h fs
  rw [hwork] at hstage
  rw [runAll_cons, bind_error hstage]
  exact ⟨rfl, rfl, List.append_nil _⟩

/-- Behind an action that has not failed the others go on, on the file system that it leaves. -/
theorem runAll_cons_agrees_ok (hwork : (p.work a h fs).outcome = .ok ()) (rest : List Action) :
    (runAll p (a :: rest) h fs).Agrees
      ⟨(runAll p rest h (p.work a h fs).progress.files).outcome,
        ⟨(runAll p rest h (p.work a h fs).progress.files).progress.files,
          p.notice a ++ (p.work a h fs).progress.out ++ [.plain "\n"] ++
            (runAll p rest h (p.work a h fs).progress.files).progress.out, []⟩⟩ := by
  have hstage := stage_eq p a h fs
  rw [hwork] at hstage
  rw [runAll_cons, bind_ok hstage]
  exact ⟨rfl, rfl, rfl⟩

/-- A pipeline succeeds if its first action does, and then the others where that has left off. -/
theorem runAll_cons_outcome_ok {rest : List Action} :
    (runAll p (a :: rest) h fs).outcome = .ok () ↔ (p.work a h fs).outcome = .ok () ∧
      (runAll p rest h (p.work a h fs).progress.files).outcome = .ok () := by
  cases hwork : (p.work a h fs).outcome with
  | error e => simp [(runAll_cons_agrees_error hwork rest).outcome]
  | ok u => simp [(runAll_cons_agrees_ok hwork rest).outcome]

theorem Plan.work_keepsFiles (hk : KeepsFiles h (a.run p)) : KeepsFiles h (p.work a) := by
  intro fs
  cases hd : p.isDisabled a with
  | true =>
    rw [work_of_disabled hd]
    rfl
  | false =>
    rw [work_of_enabled hd]
    exact hk fs

theorem runAll_keepsFiles {actions : List Action}
    (hk : ∀ a ∈ actions, KeepsFiles h (a.run p)) : KeepsFiles h (runAll p actions) := by
  intro fs
  induction actions with
  | nil => rfl
  | cons a rest ih =>
    obtain ⟨ha, hrest⟩ := List.forall_mem_cons.1 hk
    have hfiles := Plan.work_keepsFiles ha fs
    cases hwork : (p.work a h fs).outcome with
    | error e => exact (runAll_cons_agrees_error hwork rest).files.trans hfiles
    | ok u =>
      rw [(runAll_cons_agrees_ok hwork rest).files, hfiles]
      exact ih hrest

end Run

end SourceTidy
