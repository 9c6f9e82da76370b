/-
  Output as text, with styles and without. The text with styles is the one without them, and
  around each styled stretch stand the sequences of its style and a reset (`Embellished`); taken
  away, they leave the text without styles (`Embellished.withoutSequences_eq`). A terminal is never
  left with a style: between two pieces it shows text as it would if it had read nothing but the
  unstyled text since the last styled piece (`read_render_ansi`).
-/
import Mathlib.Data.List.DropRight
import SourceTidy.Styled
import SourceTidy.Text.Terminal

namespace SourceTidy

/-! ## Piece by piece -/

namespace Piece

/-- The text of a piece in a rendering. -/
def rendered : Rendering → Piece → String
  | .plain => text
  | .ansi => ansi

/-- The style and the text of a piece that has a style. -/
def styled? : Piece → Option (Style × String)
  | plain _ => none
  | styled s t => some (s, t)

end Piece

theorem render_nil (r : Rendering) : render r [] = "" := by
  cases r <;> rfl

theorem render_cons (r : Rendering) (p : Piece) (ps : List Piece) :
    render r (p :: ps) = p.rendered r ++ render r ps := by
  cases r <;> simp [render, Piece.rendered, String.join_cons]

theorem render_append (r : Rendering) (ps qs : List Piece) :
    render r (ps ++ qs) = render r ps ++ render r qs := by
  simp [render, String.join_append]

theorem render_singleton (r : Rendering) (p : Piece) : render r [p] = p.rendered r := by
  rw [render_cons, render_nil, String.append_empty]

theorem render_plain (r : Rendering) (text : String) : render r [.plain text] = text := by
  rw [render_singleton]
  cases r <;> rfl

theorem not_mem_render_plain {c : Char} {ps : List Piece} (h : ∀ p ∈ ps, c ∉ p.text.toList) :
    c ∉ (render .plain ps).toList := by
  induction ps with
  | nil => exact List.not_mem_nil
  | cons p ps ih =>
    obtain ⟨hp, hps⟩ := List.forall_mem_cons.1 h
    rw [render_cons, String.toList_append, List.mem_append, not_or]
    exact ⟨hp, ih hps⟩

/-! ## Styles put into a text -/

/-- The sequences in front of a styled text: a reset, and then one for each attribute. -/
def Style.sequences : Style → String
  | .actionName => "\x1b[0m\x1b[1m"
  | .skipNotice => "\x1b[0m\x1b[33m"
  | .path => "\x1b[0m\x1b[36m"
  | .failure => "\x1b[0m\x1b[1m\x1b[31m"

/-- The second text is the first one with styles put in. The styled stretches are those of the
    list, in order: right before each stand the sequences of its style, right behind it a reset.
    All else is as it is. -/
inductive Embellished : List (Style × String) → String → String → Prop where
  | done : Embellished [] "" ""
  | unstyled {ss : List (Style × String)} {plain ansi : String} (text : String) :
      Embellished ss plain ansi → Embellished ss (text ++ plain) (text ++ ansi)
  | styled {ss : List (Style × String)} {plain ansi : String} (s : Style) (text : String) :
      Embellished ss plain ansi →
      Embellished ((s, text) :: ss) (text ++ plain) (s.sequences ++ text ++ "\x1b[0m" ++ ansi)

theorem ansi_styled (s : Style) (text : String) :
    (Piece.styled s text).rendered .ansi = s.sequences ++ text ++ "\x1b[0m" := by
  have hopening : s.opening = s.sequences := by
    cases s <;> decide
  show s.opening ++ text ++ resetSequence = _
  rw [hopening]
  rfl

theorem embellished_render (ps : List Piece) :
    Embellished (ps.filterMap Piece.styled?) (render .plain ps) (render .ansi ps) := by
  induction ps with
  | nil => exact .done
  | cons p ps ih =>
    rw [render_cons, render_cons]
    cases p with
    | plain text => exact .unstyled text ih
    | styled s text =>
      rw [ansi_styled]
      exact .styled s text ih

/-! ## Styles taken out of a text -/

/-- What stands outside of the sequences of a text. A sequence goes from an escape to the next
    letter m; `inside` says that one has begun. -/
def outside (inside : Bool) : List Char → List Char
  | [] => []
  | c :: s =>
    if inside then outside (c ≠ 'm') s
    else if c = '\x1b' then outside true s
    else c :: outside false s

/-- The text without its sequences. -/
def withoutSequences (text : String) : String := String.ofList (outside false text.toList)

theorem outside_append_of_no_escape {s : List Char} (hs : '\x1b' ∉ s) (t : List Char) :
    outside false (s ++ t) = s ++ outside false t := by
  induction s with
  | nil => rfl
  | cons c s ih =>
    rw [List.mem_cons, not_or] at hs
    have hc : ¬c = '\x1b' := Ne.symm hs.1
    rw [List.cons_append, outside, if_neg Bool.false_ne_true, if_neg hc, ih hs.2,
      List.cons_append]

/-- The sequences of a style are taken away, whatever follows. -/
theorem outside_sequences (s : Style) (t : List Char) :
    outside false (s.sequences.toList ++ t) = outside false t := by
  cases s <;> rfl

theorem outside_reset (t : List Char) :
    outside false ("\x1b[0m".toList ++ t) = outside false t := rfl

/-- If a text has no escape of its own, then it is what is left of it with styles put in once
    all sequences are taken away. -/
theorem Embellished.withoutSequences_eq {ss : List (Style × String)} {plain ansi : String}
    (h : Embellished ss plain ansi) (hplain : '\x1b' ∉ plain.toList) :
    withoutSequences ansi = plain := by
  have houtside : outside false ansi.toList = plain.toList := by
    induction h with
    | done => rfl
    | unstyled text _ ih =>
      rw [String.toList_append, List.mem_append, not_or] at hplain
      rw [String.toList_append, String.toList_append, outside_append_of_no_escape hplain.1,
        ih hplain.2]
    | styled s text _ ih =>
      rw [String.toList_append, List.mem_append, not_or] at hplain
      simp only [String.toList_append, List.append_assoc]
      rw [outside_sequences, outside_append_of_no_escape hplain.1, outside_reset, ih hplain.2]
  rw [withoutSequences, houtside, String.ofList_toList]

/-! ## What a terminal makes of it -/

/-- A terminal: the looks that it can give to text, and what the attributes of a control sequence
    make of a look. The attribute zero takes all others away. -/
structure Terminal where
  Look : Type
  bare : Look
  set : List Char → Look → Look
  set_zero : ∀ look, set ['0'] look = bare

namespace Terminal

variable {t : Terminal}

/-- In the middle of a text: how far into a control sequence a terminal is, what it has read of
    its attributes, and the look that text has. -/
structure State (t : Terminal) where
  phase : Text.Phase
  attributes : List Char
  look : t.Look

/-- Nothing has been read that would still show. -/
def clear (t : Terminal) : t.State := ⟨.plain, [], t.bare⟩

namespace State

/-- One more character. The letter m ends a sequence that sets attributes. -/
def step (s : t.State) (c : Char) : t.State :=
  let next := (s.phase.step c).1
  if s.phase = .parameters ∧ next = .parameters then ⟨next, s.attributes ++ [c], s.look⟩
  else if s.phase = .parameters ∧ c = 'm' then ⟨next, [], t.set s.attributes s.look⟩
  else ⟨next, [], s.look⟩

def read (s : t.State) (text : String) : t.State := text.toList.foldl step s

theorem read_append (s : t.State) (a b : String) : s.read (a ++ b) = (s.read a).read b := by
  simp [read]

/-- A reset is understood wherever it stands, and leaves nothing behind. -/
theorem read_resetSequence (s : t.State) : s.read resetSequence = t.clear := by
  have hreset : resetSequence.toList = ['\x1b', '[', '0', 'm'] := by decide
  unfold read
  rw [hreset]
  have hescape : s.step '\x1b' = ⟨.escape, [], s.look⟩ := by
    simp [step, Text.Phase.step]
  simp only [List.foldl_cons, List.foldl_nil, hescape]
  exact congrArg (State.mk .plain []) (t.set_zero s.look)

/-- So no styled piece leaves anything behind, whatever its text. -/
theorem read_styled (s : t.State) (style : Style) (text : String) :
    s.read ((Piece.styled style text).rendered .ansi) = t.clear := by
  show s.read (style.opening ++ text ++ resetSequence) = t.clear
  rw [read_append, read_resetSequence]

/-- Without an escape, a text leaves a clear terminal clear. -/
theorem read_of_no_escape {text : String} (h : '\x1b' ∉ text.toList) :
    t.clear.read text = t.clear := by
  unfold read
  revert h
  induction text.toList with
  | nil => exact fun _ => rfl
  | cons c s ih =>
    intro h
    rw [List.mem_cons, not_or] at h
    have hplain : (Text.Phase.plain.step c).1 = .plain := by
      unfold Text.Phase.step
      rw [if_neg (Ne.symm h.1)]
      split <;> rfl
    have hc : t.clear.step c = t.clear := by
      simp only [step, clear, hplain, reduceCtorEq, false_and, if_false]
    rw [List.foldl_cons, hc]
    exact ih h.2

end State

end Terminal

/-- The unstyled pieces behind the last styled one. -/
def sinceStyled (ps : List Piece) : List Piece := ps.rtakeWhile (·.styled?.isNone)

section Reading

variable (t : Terminal)

/-- Of the text so far, a terminal is left with what the unstyled text has done since the last
    styled piece: no style is open. -/
theorem read_render_ansi (ps : List Piece) :
    t.clear.read (render .ansi ps) = t.clear.read (render .plain (sinceStyled ps)) := by
  induction ps using List.reverseRecOn with
  | nil => rfl
  | append_singleton ps p ih =>
    rw [render_append, render_singleton, Terminal.State.read_append]
    cases p with
    | plain text =>
      have hsince : sinceStyled (ps ++ [.plain text]) = sinceStyled ps ++ [.plain text] :=
        List.rtakeWhile_concat_pos _ _ _ rfl
      rw [ih, hsince, render_append, render_singleton, Terminal.State.read_append]
      rfl
    | styled s text =>
      have hsince : sinceStyled (ps ++ [.styled s text]) = [] :=
        List.rtakeWhile_concat_neg _ _ _ (by simp [Piece.styled?])
      rw [Terminal.State.read_styled, hsince, render_nil]
      rfl

theorem read_render_ansi_of_no_escape {ps : List Piece}
    (h : ∀ text, .plain text ∈ ps → '\x1b' ∉ text.toList) :
    t.clear.read (render .ansi ps) = t.clear := by
  induction ps using List.reverseRecOn with
  | nil => rfl
  | append_singleton ps p ih =>
    rw [render_append, render_singleton, Terminal.State.read_append]
    cases p with
    | plain text =>
      rw [ih fun x hx => h x (List.mem_append_left _ hx)]
      exact Terminal.State.read_of_no_escape (h text (by simp))
    | styled s text => exact Terminal.State.read_styled _ s text

end Reading

end SourceTidy
