/-
  What actions are indifferent to. An action is handed the whole plan of a run, and can ask what
  the output can show. The actions that come with the program and the scripted ones make no use
  of that: they look at the job of the plan alone (`Action.Stock.keepsToJob`), and do the same
  whatever the output can show (`Action.Stock.ignoresRendering`). So does a run of them
  (`runAll_ignoresRendering`).
-/
import SourceTidy.Action.Scripted
import SourceTidy.Pipeline
import SourceTidy.Proofs.HeaderChecks
import SourceTidy.Proofs.Tools

namespace SourceTidy

/-- An action that comes with the program, or a scripted one. -/
def Action.Stock (a : Action) : Prop :=
  a ∈ builtIn ∨ ∃ name flag description script, a = .scripted name flag description script

theorem Action.scripted_stock (name flag description : String) (script : Script) :
    (Action.scripted name flag description script).Stock :=
  Or.inr ⟨name, flag, description, script, rfl⟩

/-! ## The plan of a run -/

namespace Action

/-- An action that does the same in all plans with one job, whatever is said in them about
    notices or about actions that are turned off. -/
def KeepsToJob (a : Action) : Prop := ∀ p p' : Plan, p'.job = p.job → a.run p' = a.run p

theorem builtIn_keepsToJob : ∀ a ∈ builtIn, a.KeepsToJob := by
  simp only [builtIn, List.forall_mem_cons, List.not_mem_nil, false_implies, implies_true,
    and_true]
  refine ⟨?_, ?_, ?_, ?_, ?_⟩ <;> intro p p' hjob
  · simp only [black, formatterCommand?, hjob]
  · simp only [singleSpace, hjob]
  · simp only [headerCheck, hjob]
  · simp only [replTest, doctestCommand?, hjob]
  · simp only [flake, linterCommand?, hjob]

theorem scripted_keepsToJob (name flag description : String) (script : Script) :
    (scripted name flag description script).KeepsToJob := by
  intro p p' hjob
  simp only [scripted, hjob]

theorem Stock.keepsToJob {a : Action} (ha : a.Stock) : a.KeepsToJob := by
  rcases ha with hbuiltIn | ⟨name, flag, description, script, rfl⟩
  · exact builtIn_keepsToJob a hbuiltIn
  · exact scripted_keepsToJob name flag description script

end Action

/-! ## What the output can show -/

namespace Activity

/-- An activity that does the same whatever the output can show. -/
def IgnoresRendering {α : Type} (x : Activity α) : Prop :=
  ∀ (h : Host) (r : Rendering) (fs : FileSystem), x { h with rendering := r } fs = x h fs

theorem IgnoresRendering.bind {α β : Type} {x : Activity α} {f : α → Activity β}
    (hx : IgnoresRendering x) (hf : ∀ a, IgnoresRendering (f a)) :
    IgnoresRendering (x >>= f) := by
  intro h r fs
  have hsame := hx h r fs
  rcases hrun : x h fs with ⟨e | a, q⟩
  · rw [bind_error hrun, bind_error (hsame.trans hrun)]
  · rw [bind_ok hrun, bind_ok (hsame.trans hrun), hf a h r q.files]

theorem runTool?_ignoresRendering (c : Option Command) : IgnoresRendering (runTool? c) := by
  intro h r fs
  cases c with
  | none => rfl
  | some c => rw [runTool?_some, runTool?_some]

/-- A walk is the same if the same is done at every file. -/
theorem forFiles_ignoresRendering {each : String → Activity Unit}
    (heach : ∀ path, IgnoresRendering (each path)) (root ext : String) :
    IgnoresRendering (forFiles root ext each) := by
  intro h r fs
  have hwatcher : watcher { h with rendering := r } each = watcher h each := by
    simp only [watcher, heach _ h r]
  unfold forFiles
  rw [hwatcher]

end Activity

namespace Action

open Activity

theorem builtIn_ignoresRendering (p : Plan) : ∀ a ∈ builtIn, IgnoresRendering (a.run p) := by
  have hspace : ∀ path, IgnoresRendering (singleSpaceFile path) := by
    intro path h r fs
    rw [singleSpaceFile_apply, singleSpaceFile_apply]
  have hheader : ∀ path, IgnoresRendering (checkHeader p.job.settings.commentMarker path) := by
    intro path h r fs
    rw [checkHeader_apply, checkHeader_apply]
  have hdoctest : ∀ path, IgnoresRendering (doctestFile p path) := by
    intro path h r fs
    rw [doctestFile_apply, doctestFile_apply]
    cases doctestCommand? p h.home path with
    | error e => rfl
    | ok c => exact runTool?_ignoresRendering c h r fs
  simp only [builtIn, List.forall_mem_cons, List.not_mem_nil, false_implies, implies_true,
    and_true]
  exact ⟨runTool?_ignoresRendering _, forFiles_ignoresRendering hspace _ _,
    forFiles_ignoresRendering hheader _ _, forFiles_ignoresRendering hdoctest _ _,
    runTool?_ignoresRendering _⟩

theorem scripted_ignoresRendering (name flag description : String) (script : Script)
    (p : Plan) : IgnoresRendering ((scripted name flag description script).run p) := by
  intro h r fs
  cases script <;> rfl

theorem Stock.ignoresRendering {a : Action} (ha : a.Stock) (p : Plan) :
    IgnoresRendering (a.run p) := by
  rcases ha with hbuiltIn | ⟨name, flag, description, script, rfl⟩
  · exact builtIn_ignoresRendering p a hbuiltIn
  · exact scripted_ignoresRendering name flag description script p

end Action

section Run

open Activity

variable {p : Plan}

theorem stage_ignoresRendering {a : Action} (ha : IgnoresRendering (a.run p)) :
    IgnoresRendering (stage p a) := by
  have hperform : IgnoresRendering (perform p a) := by
    unfold perform
    split
    · exact fun _ _ _ => rfl
    · exact .bind (fun _ _ _ => rfl) fun _ => ha
  exact .bind (fun _ _ _ => rfl) fun _ => .bind hperform fun _ _ _ _ => rfl

theorem runAll_ignoresRendering {actions : List Action}
    (hactions : ∀ a ∈ actions, IgnoresRendering (a.run p)) :
    IgnoresRendering (runAll p actions) := by
  induction actions with
  | nil => exact fun _ _ _ => rfl
  | cons a rest ih =>
    obtain ⟨ha, hrest⟩ := List.forall_mem_cons.1 hactions
    exact .bind (stage_ignoresRendering ha) fun _ => ih hrest

end Run

end SourceTidy
