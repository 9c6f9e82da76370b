/-
  Quiet runs. A plan that is quiet takes the same turns as one that is not, because the actions
  look at nothing in the plan but its job. So the two runs end in the same way, and all that
  differs are the lines that announce the actions (`quiet_leaves_out_notices`).
-/
import SourceTidy.Proofs.Rendering
import SourceTidy.Proofs.Spacing
import SourceTidy.Proofs.Turns

namespace SourceTidy

/-! ## Lines of output -/

/-- The lines of some output, as it is rendered. -/
def lines (r : Rendering) (ps : List Piece) : List (List Char) :=
  Text.splitLines (render r ps).toList

/-- The output ends where a line does. -/
def EndsLine (r : Rendering) (ps : List Piece) : Prop :=
  (render r ps).toList.getLast? = some '\n'

theorem endsLine_concat (r : Rendering) (ps : List Piece) :
    EndsLine r (ps ++ [.plain "\n"]) := by
  unfold EndsLine
  rw [render_append, render_plain, String.toList_append]
  exact List.getLast?_concat

theorem EndsLine.append_left {r : Rendering} {qs : List Piece} (h : EndsLine r qs)
    (ps : List Piece) : EndsLine r (ps ++ qs) := by
  unfold EndsLine at h ⊢
  rw [render_append, String.toList_append, List.getLast?_append, h, Option.some_or]

theorem lines_append {r : Rendering} {ps : List Piece} (h : EndsLine r ps) (qs : List Piece) :
    lines r (ps ++ qs) = lines r ps ++ lines r qs := by
  unfold lines
  rw [render_append, String.toList_append, Text.splitLines_append h]

/-- A text that does not end a line, and then its end, are one line. -/
theorem lines_concat {r : Rendering} {ps : List Piece} (h : '\n' ∉ (render r ps).toList) :
    lines r (ps ++ [.plain "\n"]) = [(render r ps).toList ++ ['\n']] := by
  unfold lines
  rw [render_append, render_plain, String.toList_append]
  exact Text.splitLines_append_newline h []

/-- Where each part but the last ends with a line, the lines of the whole are those of the
    parts. -/
theorem lines_flatMap {α : Type} {r : Rendering} {f : α → List Piece} {xs : List α}
    (h : ∀ x ∈ xs.dropLast, EndsLine r (f x)) :
    lines r (xs.flatMap f) = xs.flatMap fun x => lines r (f x) := by
  induction xs with
  | nil => simp [lines, render_nil, Text.splitLines]
  | cons x xs ih =>
    cases xs with
    | nil => simp
    | cons y ys =>
      rw [List.dropLast_cons_cons] at h
      obtain ⟨hx, hrest⟩ := List.forall_mem_cons.1 h
      rw [List.flatMap_cons, lines_append hx, ih hrest]
      rfl

/-! ## Notices -/

namespace Plan

/-- The plan, announcing each action. -/
def aloud (p : Plan) : Plan := { p with quiet := false }

/-- The plan, announcing none. -/
def hushed (p : Plan) : Plan := { p with quiet := true }

variable (p : Plan)

theorem notice_hushed (a : Action) : p.hushed.notice a = [] := rfl

theorem notice_aloud (a : Action) :
    p.aloud.notice a =
      if p.isDisabled a then [.styled .skipNotice ("🙅 Skipping " ++ a.name), .plain "\n"]
      else [.plain "🏃 ", .styled .actionName a.name, .plain "\n"] := rfl

/-- A notice says its text and then ends the line, which it does not do before unless the name
    of the action does. -/
theorem notice_aloud_eq (a : Action) :
    ∃ text, p.aloud.notice a = text ++ [.plain "\n"] ∧
      ∀ r, '\n' ∉ a.name.toList → '\n' ∉ (render r text).toList := by
  have hopening : '\n' ∉ Style.actionName.opening.toList ∧
      '\n' ∉ Style.skipNotice.opening.toList ∧ '\n' ∉ resetSequence.toList := by decide
  rw [notice_aloud]
  split
  · refine ⟨[.styled .skipNotice ("🙅 Skipping " ++ a.name)], rfl, fun r hname => ?_⟩
    cases r <;> simp [render_singleton, Piece.rendered, Piece.text, Piece.ansi, hname, hopening]
  · refine ⟨[.plain "🏃 ", .styled .actionName a.name], rfl, fun r hname => ?_⟩
    cases r <;> simp [render_cons, render_nil, Piece.rendered, Piece.text, Piece.ansi, hname,
      hopening]

theorem endsLine_notice_aloud (r : Rendering) (a : Action) :
    EndsLine r (p.aloud.notice a) := by
  obtain ⟨text, hnotice, -⟩ := p.notice_aloud_eq a
  rw [hnotice]
  exact endsLine_concat r text

/-- So it is one line. -/
theorem lines_notice_aloud (r : Rendering) {a : Action} (hname : '\n' ∉ a.name.toList) :
    ∃ line, lines r (p.aloud.notice a) = [line] := by
  obtain ⟨text, hnotice, htext⟩ := p.notice_aloud_eq a
  rw [hnotice]
  exact ⟨_, lines_concat (htext r hname)⟩

end Plan

/-! ## The same turns -/

namespace Turn

/-- What is put out for a turn behind the notice. -/
def said (t : Turn) : List Piece := t.report.progress.out ++ separator t.report.outcome

theorem pieces_eq (p : Plan) (t : Turn) : t.pieces p = p.notice t.action ++ t.said :=
  List.append_assoc ..

theorem endsLine_said {t : Turn} (ht : t.report.outcome = .ok ()) (r : Rendering) :
    EndsLine r t.said := by
  unfold said
  rw [ht]
  exact endsLine_concat r _

end Turn

/-- **A quiet run leaves out the notices, and nothing else.** Let all actions come with the
    program or be scripted. A quiet run ends in the same way as one that is not quiet, with the
    same files and the same notes. Both consist of the same turns: one for each action in order,
    up to the first that fails. For each turn the run that is not quiet puts out a notice, that
    the action is skipped or that it starts, and both put out what comes of the action and the
    empty line behind it. However the output is rendered, the notices are lines of their own
    among the lines of the quiet output, one for each turn. -/
theorem quiet_leaves_out_notices (p : Plan) (h : Host) (fs : FileSystem)
    {actions : List Action} (hactions : ∀ a ∈ actions, a.Stock) :
    let aloud := runAll p.aloud actions h fs
    let hushed := runAll p.hushed actions h fs
    let turns := p.turns h fs actions
    hushed.outcome = aloud.outcome ∧
    hushed.progress.files = aloud.progress.files ∧
    hushed.progress.notes = aloud.progress.notes ∧
    (∃ rest, actions = turns.map Turn.action ++ rest ∧ (aloud.outcome = .ok () → rest = [])) ∧
    (∀ t ∈ turns, t.Happens p h) ∧
    aloud.progress.out = turns.flatMap (fun t => p.aloud.notice t.action ++ t.said) ∧
    hushed.progress.out = turns.flatMap Turn.said ∧
    ∀ r,
      lines r aloud.progress.out =
        turns.flatMap (fun t => lines r (p.aloud.notice t.action) ++ lines r t.said) ∧
      lines r hushed.progress.out = turns.flatMap (fun t => lines r t.said) ∧
      ∀ t ∈ turns, '\n' ∉ t.action.name.toList →
        ∃ line, lines r (p.aloud.notice t.action) = [line] := by
  intro aloud hushed turns
  have hkeeps : ∀ a ∈ actions, a.KeepsToJob := fun a ha => (hactions a ha).keepsToJob
  have haloud : p.aloud.turns h fs actions = turns :=
    turns_congr p p.aloud rfl (fun _ => rfl) hkeeps fs
  have hhushed : p.hushed.turns h fs actions = turns :=
    turns_congr p p.hushed rfl (fun _ => rfl) hkeeps fs
  have hout : aloud.progress.out =
      turns.flatMap fun t => p.aloud.notice t.action ++ t.said := by
    rw [← haloud, runAll_out, funext (Turn.pieces_eq p.aloud)]
  have hout' : hushed.progress.out = turns.flatMap Turn.said := by
    rw [← hhushed, runAll_out, funext (Turn.pieces_eq p.hushed)]
    simp only [Plan.notice_hushed, List.nil_append]
  have hsaid : ∀ r, ∀ t ∈ turns.dropLast, EndsLine r t.said :=
    fun r t ht => Turn.endsLine_said (ok_of_mem_dropLast ht) r
  refine ⟨?_, ?_, ?_, ?_, fun t ht => p.happens_of_mem_turns ht, hout, hout', fun r => ?_⟩
  · rw [runAll_ending, runAll_ending, haloud, hhushed]
  · have hlast := runAll_handed p.aloud h fs actions
    have hlast' := runAll_handed p.hushed h fs actions
    rw [haloud] at hlast
    rw [hhushed] at hlast'
    exact hlast'.unique hlast
  · rw [runAll_notes, runAll_notes, haloud, hhushed]
  · rw [← haloud]
    exact actions_eq_turns p.aloud h fs actions
  · refine ⟨?_, ?_, fun t _ hname => p.lines_notice_aloud r hname⟩
    · rw [hout, lines_flatMap fun t ht => (hsaid r t ht).append_left _]
      simp only [lines_append (p.endsLine_notice_aloud r _)]
    · rw [hout', lines_flatMap (hsaid r)]

/-- Two actions announced, one said to be left out, and what the first one says; and the same
    without the three lines. -/
theorem quiet_leaves_out_notices_recital :
    let p : Plan := ⟨⟨".", {}⟩, false, ["b"]⟩
    let aloud := runAll p recital bareHost .empty
    let hushed := runAll p.hushed recital bareHost .empty
    hushed.outcome = aloud.outcome ∧
      aloud.progress.out =
        [.plain "🏃 ", .styled .actionName "A", .plain "\n", .plain "ran A\n", .plain "\n",
          .styled .skipNotice "🙅 Skipping B", .plain "\n", .plain "\n",
          .plain "🏃 ", .styled .actionName "C", .plain "\n"] ∧
      hushed.progress.out = [.plain "ran A\n", .plain "\n", .plain "\n"] := by
  intro p aloud hushed
  obtain ⟨hend, -, -, -, -, haloud, hhushed, -⟩ :=
    quiet_leaves_out_notices p bareHost .empty recital_stock
  exact ⟨hend, haloud.trans rfl, hhushed.trans rfl⟩

end SourceTidy
