/-
  A pipeline, turn by turn. `Plan.turns` lists what comes of each action that is reached: the
  files it finds and the report of its work, which is nothing for an action that is turned off.
  The outcome, the files and the output of a run are read off its turns
  (`runAll_takes_turns`). Two runs are compared by theirs: an action that is turned off could
  as well be left out, and the others do not notice (`runAll_disabled_as_left_out`).
-/
import SourceTidy.Proofs.Indifference
import SourceTidy.Proofs.Stages

namespace SourceTidy

open Activity

/-! ## Turns -/

/-- What comes of one action in a pipeline: the files it finds, and the report of its work. -/
structure Turn where
  action : Action
  found : FileSystem
  report : Report Unit

namespace Turn

/-- An action is run on the files it finds; one that is turned off is not, and leaves them. -/
def Happens (p : Plan) (h : Host) (t : Turn) : Prop :=
  if p.isDisabled t.action then t.report = ⟨.ok (), .start t.found⟩
  else t.report = t.action.run p h t.found

/-- What is put out for a turn: the notice, the action's own output, and an empty line unless
    the action has failed. -/
def pieces (p : Plan) (t : Turn) : List Piece :=
  p.notice t.action ++ t.report.progress.out ++ separator t.report.outcome

/-- What is noted in a turn. -/
def notes (t : Turn) : List Note := stageNote t.action :: t.report.progress.notes

/-- The first turn finds the files at hand, each other one those that the turn before it has
    left, and the last one leaves the files at the end. -/
def Handed : FileSystem → List Turn → FileSystem → Prop
  | fs, [], last => last = fs
  | fs, t :: ts, last => t.found = fs ∧ Handed t.report.progress.files ts last

theorem Handed.unique {ts : List Turn} {fs last last' : FileSystem} (h : Handed fs ts last)
    (h' : Handed fs ts last') : last = last' := by
  induction ts generalizing fs with
  | nil => exact Eq.trans h h'.symm
  | cons t ts ih => exact ih h.2 h'.2

/-- The first failure of some turns, if there is one. -/
def ending : List Turn → Except Failure Unit
  | [] => .ok ()
  | t :: ts =>
    match t.report.outcome with
    | .ok _ => ending ts
    | .error e => .error e

theorem ending_cons_ok {t : Turn} (ht : t.report.outcome = .ok ()) (ts : List Turn) :
    ending (t :: ts) = ending ts := by
  rw [ending, ht]

theorem ending_cons_error {t : Turn} {e : Failure} (ht : t.report.outcome = .error e)
    (ts : List Turn) : ending (t :: ts) = .error e := by
  rw [ending, ht]

/-- Turns that succeed have no say in how it ends. -/
theorem ending_filter {keep : Turn → Bool} {ts : List Turn}
    (hwell : ∀ t ∈ ts, keep t = false → t.report.outcome = .ok ()) :
    ending (ts.filter keep) = ending ts := by
  induction ts with
  | nil => rfl
  | cons t ts ih =>
    obtain ⟨ht, hts⟩ := List.forall_mem_cons.1 hwell
    cases hkeep : keep t with
    | true =>
      rw [List.filter_cons_of_pos hkeep]
      cases hout : t.report.outcome with
      | error e => rw [ending_cons_error hout, ending_cons_error hout]
      | ok u => rw [ending_cons_ok hout, ending_cons_ok hout, ih hts]
    | false =>
      rw [List.filter_cons_of_neg (by simp [hkeep]), ending_cons_ok (ht hkeep), ih hts]

/-- Turns that leave the files as they find them can be left out. -/
theorem handed_filter {keep : Turn → Bool} {ts : List Turn} {fs last : FileSystem}
    (hidle : ∀ t ∈ ts, keep t = false → t.report.progress.files = t.found)
    (h : Handed fs ts last) : Handed fs (ts.filter keep) last := by
  induction ts generalizing fs with
  | nil => exact h
  | cons t ts ih =>
    obtain ⟨ht, hts⟩ := List.forall_mem_cons.1 hidle
    obtain ⟨hfound, hrest⟩ := h
    cases hkeep : keep t with
    | true =>
      rw [List.filter_cons_of_pos hkeep]
      exact ⟨hfound, ih hts hrest⟩
    | false =>
      rw [List.filter_cons_of_neg (by simp [hkeep])]
      rw [ht hkeep, hfound] at hrest
      exact ih hts hrest

end Turn

namespace Plan

/-- The turns of a pipeline: one for each action, up to the first failure. -/
def turns (p : Plan) (h : Host) : FileSystem → List Action → List Turn
  | _, [] => []
  | fs, a :: rest =>
    ⟨a, fs, p.work a h fs⟩ ::
      match (p.work a h fs).outcome with
      | .ok _ => p.turns h (p.work a h fs).progress.files rest
      | .error _ => []

variable {p : Plan} {h : Host} {fs : FileSystem} {a : Action}

theorem turns_cons_ok (hwork : (p.work a h fs).outcome = .ok ()) (rest : List Action) :
    p.turns h fs (a :: rest) =
      ⟨a, fs, p.work a h fs⟩ :: p.turns h (p.work a h fs).progress.files rest := by
  rw [turns, hwork]

theorem turns_cons_error {e : Failure} (hwork : (p.work a h fs).outcome = .error e)
    (rest : List Action) : p.turns h fs (a :: rest) = [⟨a, fs, p.work a h fs⟩] := by
  rw [turns, hwork]

/-- One turn and then the others, if there are any. -/
theorem mem_turns_cons {t : Turn} {rest : List Action} (ht : t ∈ p.turns h fs (a :: rest)) :
    t = ⟨a, fs, p.work a h fs⟩ ∨ ∃ fs', t ∈ p.turns h fs' rest := by
  rw [turns] at ht
  rcases List.mem_cons.1 ht with rfl | ht
  · exact Or.inl rfl
  · split at ht
    · exact Or.inr ⟨_, ht⟩
    · cases ht

theorem report_of_mem_turns {actions : List Action} {t : Turn}
    (ht : t ∈ p.turns h fs actions) : t.report = p.work t.action h t.found := by
  induction actions generalizing fs with
  | nil => cases ht
  | cons a rest ih =>
    rcases mem_turns_cons ht with rfl | ⟨fs', ht⟩
    · rfl
    · exact ih ht

theorem report_of_disabled {actions : List Action} {t : Turn} (ht : t ∈ p.turns h fs actions)
    (hd : p.isDisabled t.action = true) : t.report = ⟨.ok (), .start t.found⟩ := by
  rw [report_of_mem_turns ht, work_of_disabled hd]

theorem action_of_mem_turns {actions : List Action} {t : Turn}
    (ht : t ∈ p.turns h fs actions) : t.action ∈ actions := by
  induction actions generalizing fs with
  | nil => cases ht
  | cons a rest ih =>
    rcases mem_turns_cons ht with rfl | ⟨fs', ht⟩
    · exact List.mem_cons_self ..
    · exact List.mem_cons_of_mem _ (ih ht)

theorem happens_of_mem_turns {actions : List Action} {t : Turn}
    (ht : t ∈ p.turns h fs actions) : t.Happens p h := by
  unfold Turn.Happens
  split
  · next hd => exact report_of_disabled ht hd
  · next hd => rw [report_of_mem_turns ht, work_of_enabled (by simpa using hd)]

end Plan

/-! ## A run, read off its turns -/

section Run

variable {p : Plan} {h : Host}

theorem runAll_handed (p : Plan) (h : Host) (fs : FileSystem) (actions : List Action) :
    Turn.Handed fs (p.turns h fs actions) (runAll p actions h fs).progress.files := by
  induction actions generalizing fs with
  | nil => rfl
  | cons a rest ih =>
    cases hwork : (p.work a h fs).outcome with
    | error e =>
      rw [p.turns_cons_error hwork, (runAll_cons_agrees_error hwork rest).files]
      exact ⟨rfl, rfl⟩
    | ok u =>
      rw [p.turns_cons_ok hwork, (runAll_cons_agrees_ok hwork rest).files]
      exact ⟨rfl, ih _⟩

theorem runAll_out (p : Plan) (h : Host) (fs : FileSystem) (actions : List Action) :
    (runAll p actions h fs).progress.out =
      (p.turns h fs actions).flatMap (Turn.pieces p) := by
  induction actions generalizing fs with
  | nil => rfl
  | cons a rest ih =>
    cases hwork : (p.work a h fs).outcome with
    | error e =>
      rw [p.turns_cons_error hwork, (runAll_cons_agrees_error hwork rest).out]
      simp [Turn.pieces, hwork, separator]
    | ok u =>
      rw [p.turns_cons_ok hwork, (runAll_cons_agrees_ok hwork rest).out, ih,
        List.flatMap_cons]
      simp [Turn.pieces, hwork, separator]

theorem runAll_notes (p : Plan) (h : Host) (fs : FileSystem) (actions : List Action) :
    (runAll p actions h fs).progress.notes = (p.turns h fs actions).flatMap Turn.notes := by
  induction actions generalizing fs with
  | nil => rfl
  | cons a rest ih =>
    have hstage := stage_eq p a h fs
    rw [runAll_cons]
    cases hwork : (p.work a h fs).outcome with
    | error e =>
      rw [hwork] at hstage
      rw [p.turns_cons_error hwork, Activity.bind_error hstage]
      simp [Turn.notes]
    | ok u =>
      rw [hwork] at hstage
      rw [p.turns_cons_ok hwork, Activity.bind_ok hstage, List.flatMap_cons, ← ih]
      rfl

theorem runAll_ending (p : Plan) (h : Host) (fs : FileSystem) (actions : List Action) :
    (runAll p actions h fs).outcome = Turn.ending (p.turns h fs actions) := by
  induction actions generalizing fs with
  | nil => rfl
  | cons a rest ih =>
    cases hwork : (p.work a h fs).outcome with
    | error e =>
      rw [p.turns_cons_error hwork, Turn.ending_cons_error hwork,
        (runAll_cons_agrees_error hwork rest).outcome]
    | ok u =>
      rw [p.turns_cons_ok hwork, Turn.ending_cons_ok hwork,
        (runAll_cons_agrees_ok hwork rest).outcome, ih]

/-- A run succeeds with a turn for every action, all of them well. -/
theorem turns_of_ok {fs : FileSystem} {actions : List Action}
    (hok : (runAll p actions h fs).outcome = .ok ()) :
    (p.turns h fs actions).map Turn.action = actions ∧
      ∀ t ∈ p.turns h fs actions, t.report.outcome = .ok () := by
  induction actions generalizing fs with
  | nil => exact ⟨rfl, fun t ht => by cases ht⟩
  | cons a rest ih =>
    obtain ⟨hwork, hrest⟩ := runAll_cons_outcome_ok.1 hok
    obtain ⟨hactions, hturns⟩ := ih hrest
    rw [p.turns_cons_ok hwork]
    exact ⟨by rw [List.map_cons, hactions], List.forall_mem_cons.2 ⟨hwork, hturns⟩⟩

/-- A run fails with its last turn, and no other. -/
theorem turns_of_error {fs : FileSystem} {actions : List Action} {e : Failure}
    (herr : (runAll p actions h fs).outcome = .error e) :
    ∃ before last rest, p.turns h fs actions = before ++ [last] ∧
      actions = (p.turns h fs actions).map Turn.action ++ rest ∧
      (∀ t ∈ before, t.report.outcome = .ok ()) ∧ last.report.outcome = .error e := by
  induction actions generalizing fs with
  | nil => cases herr
  | cons a rest ih =>
    cases hwork : (p.work a h fs).outcome with
    | error e' =>
      rw [(runAll_cons_agrees_error hwork rest).outcome] at herr
      rw [p.turns_cons_error hwork]
      exact ⟨[], _, rest, rfl, rfl, by simp, hwork.trans herr⟩
    | ok u =>
      rw [(runAll_cons_agrees_ok hwork rest).outcome] at herr
      obtain ⟨before, last, rest', hturns, hactions, hbefore, hlast⟩ := ih herr
      rw [p.turns_cons_ok hwork]
      refine ⟨⟨a, fs, p.work a h fs⟩ :: before, last, rest', ?_, ?_, ?_, hlast⟩
      · rw [hturns, List.cons_append]
      · rw [List.map_cons, List.cons_append, ← hactions]
      · exact List.forall_mem_cons.2 ⟨hwork, hbefore⟩

/-- Only the last turn of a run can fail. -/
theorem ok_of_mem_dropLast {fs : FileSystem} {actions : List Action} {t : Turn}
    (ht : t ∈ (p.turns h fs actions).dropLast) : t.report.outcome = .ok () := by
  cases hout : (runAll p actions h fs).outcome with
  | ok u => exact (turns_of_ok hout).2 t (List.mem_of_mem_dropLast ht)
  | error e =>
    obtain ⟨before, last, rest, hturns, -, hbefore, -⟩ := turns_of_error hout
    rw [hturns, List.dropLast_concat] at ht
    exact hbefore t ht

/-- The actions that have a turn are the first ones, and all of them in a run that succeeds. -/
theorem actions_eq_turns (p : Plan) (h : Host) (fs : FileSystem) (actions : List Action) :
    ∃ rest, actions = (p.turns h fs actions).map Turn.action ++ rest ∧
      ((runAll p actions h fs).outcome = .ok () → rest = []) := by
  cases hout : (runAll p actions h fs).outcome with
  | ok u =>
    refine ⟨[], ?_, fun _ => rfl⟩
    rw [(turns_of_ok hout).1, List.append_nil]
  | error e =>
    obtain ⟨-, -, rest, -, hactions, -, -⟩ := turns_of_error hout
    exact ⟨rest, hactions, nofun⟩

/-- **A run takes turns.** Every action that is reached has one turn, in the order of the
    actions: it is run if it is not turned off, and otherwise nothing is done. Each turn finds
    the files that the turn before it has left, and so does each action that is run. What is
    put out are the notices, the output of the actions, and an empty line behind each. Either
    all actions have their turns and succeed, or an action that was run fails in the last turn;
    then its failure is that of the run, and the actions behind it have no turns. -/
theorem runAll_takes_turns (p : Plan) (h : Host) (fs : FileSystem) (actions : List Action) :
    let turns := p.turns h fs actions
    let run := runAll p actions h fs
    (∀ t ∈ turns, t.Happens p h) ∧
      Turn.Handed fs turns run.progress.files ∧
      Turn.Handed fs (turns.filter fun t => !p.isDisabled t.action) run.progress.files ∧
      run.progress.out = turns.flatMap (Turn.pieces p) ∧
      (run.outcome = .ok () → turns.map Turn.action = actions ∧
        ∀ t ∈ turns, t.report.outcome = .ok ()) ∧
      (∀ e, run.outcome = .error e → ∃ before last rest, turns = before ++ [last] ∧
        actions = turns.map Turn.action ++ rest ∧
        (∀ t ∈ before, t.report.outcome = .ok ()) ∧
        p.isDisabled last.action = false ∧ last.report.outcome = .error e) := by
  intro turns run
  have hidle : ∀ t ∈ turns, (!p.isDisabled t.action) = false →
      t.report.progress.files = t.found := by
    intro t ht hd
    rw [p.report_of_disabled ht (by simpa using hd)]
    rfl
  refine ⟨fun t ht => p.happens_of_mem_turns ht, runAll_handed p h fs actions,
    Turn.handed_filter hidle (runAll_handed p h fs actions), runAll_out p h fs actions,
    turns_of_ok, ?_⟩
  intro e herr
  obtain ⟨before, last, rest, hturns, hactions, hbefore, hlast⟩ := turns_of_error herr
  refine ⟨before, last, rest, hturns, hactions, hbefore, ?_, hlast⟩
  have hmem : last ∈ p.turns h fs actions := by
    rw [hturns]
    exact List.mem_append_right _ (List.mem_singleton_self _)
  cases hd : p.isDisabled last.action with
  | false => rfl
  | true =>
    rw [p.report_of_disabled hmem hd] at hlast
    cases hlast

end Run

/-- Actions that speak, but for the third, which gives up. -/
def recital : List Action :=
  [.scripted "A" "a" "" .speak, .scripted "B" "b" "" .speak, .scripted "C" "c" "" .giveUp,
    .scripted "D" "d" "" .speak]

/-- The first action speaks, the second one is turned off, the third one fails, and the fourth
    one has no turn. -/
theorem runAll_takes_turns_recital :
    let p : Plan := ⟨⟨".", {}⟩, false, ["b"]⟩
    let turns := p.turns bareHost .empty recital
    let run := runAll p recital bareHost .empty
    turns.map (·.action.name) = ["A", "B", "C"] ∧
      run.progress.out =
        [.plain "🏃 ", .styled .actionName "A", .plain "\n", .plain "ran A\n", .plain "\n",
          .styled .skipNotice "🙅 Skipping B", .plain "\n", .plain "\n",
          .plain "🏃 ", .styled .actionName "C", .plain "\n"] ∧
      ∃ before last rest, turns = before ++ [last] ∧
        recital = turns.map Turn.action ++ rest ∧
        (∀ t ∈ before, t.report.outcome = .ok ()) ∧
        p.isDisabled last.action = false ∧ last.report.outcome = .error (.gaveUp "C failed") := by
  intro p turns run
  obtain ⟨-, -, -, hout, -, hfailed⟩ := runAll_takes_turns p bareHost .empty recital
  exact ⟨rfl, hout.trans rfl, hfailed _ rfl⟩

/-! ## Actions that are turned off -/

section Off

variable {p : Plan} {h : Host} {a : Action}

/-- The plan with nothing turned off. -/
def Plan.allOn (p : Plan) : Plan := { p with disabled := [] }

/-- The plan with one more flag turned off. -/
def Plan.turnOff (p : Plan) (flag : String) : Plan := { p with disabled := flag :: p.disabled }

@[simp] theorem Plan.isDisabled_allOn (p : Plan) (a : Action) : p.allOn.isDisabled a = false := by
  simp [Plan.allOn, Plan.isDisabled]

theorem Plan.isDisabled_turnOff (p : Plan) (flag : String) (a : Action) :
    (p.turnOff flag).isDisabled a = (a.flag == flag || p.isDisabled a) := by
  simp [Plan.turnOff, Plan.isDisabled, beq_eq_decide]

/-- Two plans do the same for an action that keeps to its job if they do the same job and agree
    on whether it is turned off. -/
theorem Plan.work_congr {p' : Plan} (ha : a.KeepsToJob) (hjob : p'.job = p.job)
    (hd : p'.isDisabled a = p.isDisabled a) : p'.work a = p.work a := by
  unfold Plan.work
  rw [hd, ha p p' hjob]

/-- Two plans take the same turns if they do the same job and turn off the same actions. -/
theorem turns_congr (p p' : Plan) (hjob : p'.job = p.job)
    (hd : ∀ a, p'.isDisabled a = p.isDisabled a) {actions : List Action}
    (hactions : ∀ a ∈ actions, a.KeepsToJob) (fs : FileSystem) :
    p'.turns h fs actions = p.turns h fs actions := by
  induction actions generalizing fs with
  | nil => rfl
  | cons a rest ih =>
    obtain ⟨ha, hrest⟩ := List.forall_mem_cons.1 hactions
    have hsame : p'.work a = p.work a := Plan.work_congr ha hjob (hd a)
    cases hwork : (p.work a h fs).outcome with
    | error e => rw [p.turns_cons_error hwork, p'.turns_cons_error (by rw [hsame, hwork]), hsame]
    | ok u => rw [p.turns_cons_ok hwork, p'.turns_cons_ok (by rw [hsame, hwork]), hsame,
      ih hrest]

theorem Turn.pieces_congr {p' : Plan} {t : Turn} (hquiet : p'.quiet = p.quiet)
    (hd : p'.isDisabled t.action = p.isDisabled t.action) : t.pieces p' = t.pieces p := by
  unfold Turn.pieces Plan.notice
  rw [hquiet, hd]

/-- Without the actions that are turned off, the others have the same turns. -/
theorem turns_allOn {actions : List Action} (hactions : ∀ a ∈ actions, a.KeepsToJob)
    (fs : FileSystem) :
    p.allOn.turns h fs (actions.filter fun a => !p.isDisabled a) =
      (p.turns h fs actions).filter fun t => !p.isDisabled t.action := by
  induction actions generalizing fs with
  | nil => rfl
  | cons a rest ih =>
    obtain ⟨ha, hrest⟩ := List.forall_mem_cons.1 hactions
    cases hd : p.isDisabled a with
    | true =>
      have hwork := p.work_of_disabled hd h fs
      rw [p.turns_cons_ok (by rw [hwork]), hwork]
      rw [List.filter_cons_of_neg (by simp [hd]), List.filter_cons_of_neg (by simp [hd])]
      exact ih hrest fs
    | false =>
      have hsame : p.allOn.work a = p.work a := Plan.work_congr ha rfl (by simp [hd])
      rw [List.filter_cons_of_pos (by simp [hd])]
      cases hwork : (p.work a h fs).outcome with
      | error e =>
        rw [p.turns_cons_error hwork, p.allOn.turns_cons_error (by rw [hsame, hwork]), hsame]
        simp [hd]
      | ok u =>
        rw [p.turns_cons_ok hwork, p.allOn.turns_cons_ok (by rw [hsame, hwork]), hsame,
          ih hrest]
        simp [hd]

/-- Two runs end in the same way and leave the same files if their turns are the same but for
    some that succeed and leave the files as they find them. -/
theorem runAll_eq_of_turns {p' : Plan} {fs : FileSystem} {actions actions' : List Action}
    (keep keep' : Turn → Bool)
    (hturns : (p'.turns h fs actions').filter keep' = (p.turns h fs actions).filter keep)
    (hidle : ∀ t ∈ p.turns h fs actions, keep t = false →
      t.report.outcome = .ok () ∧ t.report.progress.files = t.found)
    (hidle' : ∀ t ∈ p'.turns h fs actions', keep' t = false →
      t.report.outcome = .ok () ∧ t.report.progress.files = t.found) :
    (runAll p' actions' h fs).outcome = (runAll p actions h fs).outcome ∧
      (runAll p' actions' h fs).progress.files = (runAll p actions h fs).progress.files := by
  constructor
  · rw [runAll_ending, runAll_ending, ← Turn.ending_filter fun t ht hk => (hidle t ht hk).1,
      ← Turn.ending_filter fun t ht hk => (hidle' t ht hk).1, hturns]
  · have hhanded := Turn.handed_filter (fun t ht hk => (hidle t ht hk).2)
      (runAll_handed p h fs actions)
    have hhanded' := Turn.handed_filter (fun t ht hk => (hidle' t ht hk).2)
      (runAll_handed p' h fs actions')
    rw [hturns] at hhanded'
    exact hhanded'.unique hhanded

/-- If the actions with a flag leave the files alone, then turning them off takes nothing from
    the turns of the others, and adds to them only what a failure has kept away. -/
theorem turns_turnOff (flag : String) {fs : FileSystem} {actions : List Action}
    (hactions : ∀ a ∈ actions, a.KeepsToJob)
    (hidle : ∀ t ∈ p.turns h fs actions, t.action.flag = flag →
      t.report.progress.files = t.found) :
    ∃ more, ((p.turnOff flag).turns h fs actions).filter (·.action.flag != flag) =
        (p.turns h fs actions).filter (·.action.flag != flag) ++ more ∧
      ((∀ t ∈ p.turns h fs actions, t.action.flag = flag → t.report.outcome = .ok ()) →
        more = []) := by
  induction actions generalizing fs with
  | nil => exact ⟨[], rfl, fun _ => rfl⟩
  | cons a rest ih =>
    obtain ⟨ha, hactions⟩ := List.forall_mem_cons.1 hactions
    by_cases hf : a.flag = flag
    · have hoff : (p.turnOff flag).isDisabled a = true := by
        simp [Plan.isDisabled_turnOff, hf]
      have hnone := (p.turnOff flag).work_of_disabled hoff h fs
      rw [(p.turnOff flag).turns_cons_ok (by rw [hnone]), hnone,
        List.filter_cons_of_neg (by simp [hf])]
      cases hwork : (p.work a h fs).outcome with
      | error e =>
        rw [p.turns_cons_error hwork, List.filter_cons_of_neg (by simp [hf])]
        refine ⟨_, rfl, ?_⟩
        intro hwell
        have hok := hwell _ (List.mem_singleton_self _) hf
        rw [hwork] at hok
        cases hok
      | ok u =>
        rw [p.turns_cons_ok hwork] at hidle ⊢
        obtain ⟨hkept, hrest⟩ := List.forall_mem_cons.1 hidle
        have hfiles : (p.work a h fs).progress.files = fs := hkept hf
        rw [hfiles] at hrest ⊢
        obtain ⟨more, hmore, hnil⟩ := ih hactions hrest
        refine ⟨more, ?_, fun hwell => hnil (List.forall_mem_cons.1 hwell).2⟩
        rw [List.filter_cons_of_neg (by simp [hf])]
        exact hmore
    · have hsame : (p.turnOff flag).work a = p.work a :=
        Plan.work_congr ha rfl (by simp [Plan.isDisabled_turnOff, hf])
      cases hwork : (p.work a h fs).outcome with
      | error e =>
        rw [p.turns_cons_error hwork, (p.turnOff flag).turns_cons_error (by rw [hsame, hwork]),
          hsame]
        exact ⟨[], by simp, fun _ => rfl⟩
      | ok u =>
        rw [p.turns_cons_ok hwork] at hidle ⊢
        rw [(p.turnOff flag).turns_cons_ok (by rw [hsame, hwork]), hsame]
        obtain ⟨more, hmore, hnil⟩ := ih hactions (List.forall_mem_cons.1 hidle).2
        refine ⟨more, ?_, fun hwell => hnil (List.forall_mem_cons.1 hwell).2⟩
        rw [List.filter_cons_of_pos (by simp [hf]), List.filter_cons_of_pos (by simp [hf]),
          hmore, List.cons_append]

theorem turnOff_idle {flag : String} {fs : FileSystem} {actions : List Action} {t : Turn}
    (ht : t ∈ (p.turnOff flag).turns h fs actions) (hf : t.action.flag = flag) :
    t.report.outcome = .ok () ∧ t.report.progress.files = t.found := by
  have hoff : (p.turnOff flag).isDisabled t.action = true := by
    simp [Plan.isDisabled_turnOff, hf]
  rw [(p.turnOff flag).report_of_disabled ht hoff]
  exact ⟨rfl, rfl⟩

/-- An action whose flag is not turned off does the same, and puts out the same, wherever it
    finds the same files. -/
theorem report_turnOff {flag : String} {fs fs' : FileSystem} {actions actions' : List Action}
    (hactions : ∀ a ∈ actions, a.KeepsToJob) {t t' : Turn} (ht : t ∈ p.turns h fs actions)
    (ht' : t' ∈ (p.turnOff flag).turns h fs' actions') (haction : t'.action = t.action)
    (hf : t.action.flag ≠ flag) (hfound : t'.found = t.found) :
    t'.report = t.report ∧ t'.pieces (p.turnOff flag) = t.pieces p := by
  have hd : (p.turnOff flag).isDisabled t.action = p.isDisabled t.action := by
    simp [Plan.isDisabled_turnOff, hf]
  have hwork : (p.turnOff flag).work t.action = p.work t.action :=
    Plan.work_congr (hactions _ (p.action_of_mem_turns ht)) rfl hd
  have hreport : t'.report = t.report := by
    rw [Plan.report_of_mem_turns ht', Plan.report_of_mem_turns ht, haction, hfound, hwork]
  have hpieces : t.pieces (p.turnOff flag) = t.pieces p := Turn.pieces_congr rfl hd
  refine ⟨hreport, ?_⟩
  rw [← hpieces]
  unfold Turn.pieces
  rw [haction, hreport]

/-- **Turning an action off is leaving it out.** Let all actions come with the program or be
    scripted. A run without the actions that are turned off, and with nothing turned off, ends
    in the same way, leaves the same files, and puts out the same but for the notices and the
    empty lines of those actions. So if a flag is turned off, then each other action does and
    puts out the same wherever it finds the same files. If the actions with the flag have left
    the files alone, then the others have all the turns that they had, and no more unless an
    action with the flag has failed. -/
theorem runAll_disabled_as_left_out (p : Plan) (h : Host) (fs : FileSystem)
    {actions : List Action} (hactions : ∀ a ∈ actions, a.Stock) :
    let turns := p.turns h fs actions
    let run := runAll p actions h fs
    let others := runAll p.allOn (actions.filter fun a => !p.isDisabled a) h fs
    others.outcome = run.outcome ∧
      others.progress.files = run.progress.files ∧
      run.progress.out = turns.flatMap (Turn.pieces p) ∧
      others.progress.out =
        (turns.filter fun t => !p.isDisabled t.action).flatMap (Turn.pieces p) ∧
      (∀ t ∈ turns, p.isDisabled t.action = true →
        t.pieces p =
          (if p.quiet then []
            else [.styled .skipNotice ("🙅 Skipping " ++ t.action.name), .plain "\n"]) ++
          [.plain "\n"]) ∧
      ∀ flag,
        let turns' := (p.turnOff flag).turns h fs actions
        let run' := runAll (p.turnOff flag) actions h fs
        (∀ t ∈ turns, ∀ t' ∈ turns', t'.action = t.action → t.action.flag ≠ flag →
          t'.found = t.found →
          t'.report = t.report ∧ t'.pieces (p.turnOff flag) = t.pieces p) ∧
        ((∀ t ∈ turns, t.action.flag = flag → t.report.progress.files = t.found) →
          turns.filter (·.action.flag != flag) <+: turns'.filter (·.action.flag != flag) ∧
          ((∀ t ∈ turns, t.action.flag = flag → t.report.outcome = .ok ()) →
            turns'.filter (·.action.flag != flag) = turns.filter (·.action.flag != flag) ∧
              run'.outcome = run.outcome ∧ run'.progress.files = run.progress.files)) := by
  intro turns run others
  have hkeeps : ∀ a ∈ actions, a.KeepsToJob := fun a ha => (hactions a ha).keepsToJob
  have hdisabled : ∀ t ∈ turns, p.isDisabled t.action = true →
      t.report = ⟨.ok (), .start t.found⟩ := fun t ht hd => p.report_of_disabled ht hd
  have hsame : others.outcome = run.outcome ∧ others.progress.files = run.progress.files := by
    refine runAll_eq_of_turns (fun t => !p.isDisabled t.action) (fun _ => true) ?_ ?_ (by simp)
    · rw [turns_allOn hkeeps, List.filter_true]
    · intro t ht hd
      rw [hdisabled t ht (by simpa using hd)]
      exact ⟨rfl, rfl⟩
  refine ⟨hsame.1, hsame.2, runAll_out p h fs actions, ?_, ?_, ?_⟩
  · show (runAll p.allOn _ h fs).progress.out = _
    rw [runAll_out, turns_allOn hkeeps]
    refine List.flatMap_congr fun t ht => ?_
    have hon : p.isDisabled t.action = false := by simpa using (List.mem_filter.1 ht).2
    exact Turn.pieces_congr rfl (by simp [hon])
  · intro t ht hd
    unfold Turn.pieces Plan.notice
    rw [hdisabled t ht hd, if_pos hd]
    exact congrArg (· ++ _) (List.append_nil _)
  · intro flag turns' run'
    refine ⟨fun t ht t' ht' => report_turnOff hkeeps ht ht', ?_⟩
    intro hidle
    obtain ⟨more, hmore, hnil⟩ := turns_turnOff flag hkeeps hidle
    refine ⟨⟨more, hmore.symm⟩, ?_⟩
    intro hwell
    rw [hnil hwell, List.append_nil] at hmore
    refine ⟨hmore, runAll_eq_of_turns _ _ hmore ?_ ?_⟩
    · intro t ht hf
      have hf : t.action.flag = flag := by simpa using hf
      exact ⟨hwell t ht hf, hidle t ht hf⟩
    · intro t ht hf
      exact turnOff_idle ht (by simpa using hf)

theorem recital_stock : ∀ a ∈ recital, a.Stock := by
  simp only [recital, List.forall_mem_cons, List.not_mem_nil, false_implies, implies_true,
    and_true]
  exact ⟨Action.scripted_stock .., Action.scripted_stock .., Action.scripted_stock ..,
    Action.scripted_stock ..⟩

/-- Left out, the second action is missing with its notice and the empty line behind it, and
    the run fails as before; and it fails so whether the flag is turned off or not. -/
theorem runAll_disabled_as_left_out_recital :
    let p : Plan := ⟨⟨".", {}⟩, false, ["b"]⟩
    let run := runAll p recital bareHost .empty
    let others := runAll p.allOn (recital.filter fun a => !p.isDisabled a) bareHost .empty
    others.outcome = run.outcome ∧
      run.progress.out =
        [.plain "🏃 ", .styled .actionName "A", .plain "\n", .plain "ran A\n", .plain "\n",
          .styled .skipNotice "🙅 Skipping B", .plain "\n", .plain "\n",
          .plain "🏃 ", .styled .actionName "C", .plain "\n"] ∧
      others.progress.out =
        [.plain "🏃 ", .styled .actionName "A", .plain "\n", .plain "ran A\n", .plain "\n",
          .plain "🏃 ", .styled .actionName "C", .plain "\n"] ∧
      run.outcome = (runAll p.allOn recital bareHost .empty).outcome := by
  intro p run others
  obtain ⟨hend, -, hout, hothers, -, -⟩ :=
    runAll_disabled_as_left_out p bareHost .empty recital_stock
  obtain ⟨-, -, -, -, -, hflag⟩ :=
    runAll_disabled_as_left_out p.allOn bareHost .empty recital_stock
  have hidle : ∀ t ∈ p.allOn.turns bareHost .empty recital, t.action.flag = "b" →
      t.report.outcome = .ok () ∧ t.report.progress.files = t.found :=
    List.forall_mem_cons.2 ⟨fun _ => ⟨rfl, rfl⟩, List.forall_mem_cons.2 ⟨fun _ => ⟨rfl, rfl⟩,
      List.forall_mem_cons.2 ⟨fun hf => absurd hf (by decide), fun _ ht => nomatch ht⟩⟩⟩
  obtain ⟨-, hsame⟩ := hflag "b"
  obtain ⟨-, hall⟩ := hsame fun t ht hf => (hidle t ht hf).2
  obtain ⟨-, hrun, -⟩ := hall fun t ht hf => (hidle t ht hf).1
  exact ⟨hend, hout.trans rfl, hothers.trans rfl, hrun⟩

end Off

end SourceTidy
