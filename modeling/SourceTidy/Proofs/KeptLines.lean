/-
  Which lines single spacing keeps, said of the text as it was. A line stays if there is
  something in it or in the line right before it (`Stays`), and the collapsed text is made of
  these lines and no others, in their order (`collapseBlankLines_keeps_lines`). It is single
  spaced, and a text that is single spaced already is the one kind that is left as it is.
-/
import Mathlib.Data.List.Chain
import SourceTidy.Proofs.Spacing

namespace SourceTidy

namespace Spacing

open Text

/-! ## Positions that stay -/

/-- The line at a position has something in it, or there is a line right before it that has. -/
def Stays (ls : List (List Char)) (i : Fin ls.length) : Prop :=
  allBlank ls[i] = false ∨ ∃ j : Fin ls.length, j.val + 1 = i.val ∧ allBlank ls[j] = false

instance (ls : List (List Char)) : DecidablePred (Stays ls) :=
  fun _ => inferInstanceAs (Decidable (_ ∨ _))

/-- `Stays` where the lines come behind others, and `b` says whether the last of these is blank. -/
def StaysAfter (b : Bool) (ls : List (List Char)) (i : Fin ls.length) : Prop :=
  Stays ls i ∨ i.val = 0 ∧ b = false

instance (b : Bool) (ls : List (List Char)) : DecidablePred (StaysAfter b ls) :=
  fun _ => inferInstanceAs (Decidable (_ ∨ _))

theorem staysAfter_true {ls : List (List Char)} {i : Fin ls.length} :
    StaysAfter true ls i ↔ Stays ls i := by
  simp [StaysAfter]

theorem staysAfter_zero {b : Bool} {l : List Char} {ls : List (List Char)} :
    StaysAfter b (l :: ls) 0 ↔ allBlank l = false ∨ b = false := by
  simp [StaysAfter, Stays]

/-- Behind the first line, it is the first line that counts as the one before. -/
theorem staysAfter_succ {b : Bool} {l : List Char} {ls : List (List Char)}
    {i : Fin ls.length} :
    StaysAfter b (l :: ls) i.succ ↔ StaysAfter (allBlank l) ls i := by
  have hbefore : (∃ j : Fin (l :: ls).length, j.val + 1 = i.succ.val ∧
      allBlank (l :: ls)[j] = false) ↔
      (∃ j : Fin ls.length, j.val + 1 = i.val ∧ allBlank ls[j] = false) ∨
        i.val = 0 ∧ allBlank l = false := by
    constructor
    · rintro ⟨j, hj, hblank⟩
      cases j using Fin.cases with
      | zero => exact Or.inr ⟨by simpa using hj.symm, hblank⟩
      | succ j => exact Or.inl ⟨j, by simpa using hj, hblank⟩
    · rintro (⟨j, hj, hblank⟩ | ⟨hi, hblank⟩)
      · exact ⟨j.succ, by simpa using hj, hblank⟩
      · exact ⟨0, by simp [hi], hblank⟩
  unfold StaysAfter Stays
  rw [hbefore]
  simp [or_assoc]

/-- The lines that stay, by their positions. -/
theorem keep_eq_positions (b : Bool) (ls : List (List Char)) :
    keep b ls = ((List.finRange ls.length).filter (StaysAfter b ls ·)).map ls.get := by
  induction ls generalizing b with
  | nil => rfl
  | cons l ls ih =>
    have hrest : (((List.finRange ls.length).map Fin.succ).filter
        (StaysAfter b (l :: ls) ·)).map (l :: ls).get = keep (allBlank l) ls := by
      rw [ih, List.filter_map, List.map_map]
      simp only [Function.comp_def, staysAfter_succ]
      rfl
    show keep b (l :: ls) = ((List.finRange (ls.length + 1)).filter
      (StaysAfter b (l :: ls) ·)).map (l :: ls).get
    rw [List.finRange_succ, List.filter_cons, keep]
    simp only [decide_eq_true_eq, staysAfter_zero]
    by_cases hl : allBlank l = true
    · rw [hl] at hrest ⊢
      cases b with
      | true => simpa using hrest.symm
      | false => simpa using hrest.symm
    · rw [Bool.not_eq_true] at hl
      rw [hl] at hrest ⊢
      simpa using hrest.symm

/-! ## Single spaced lines -/

/-- No blank line at the top, and none right behind another. -/
structure SingleSpaced (ls : List (List Char)) : Prop where
  top : ∀ l ∈ ls.head?, allBlank l = false
  behind : ls.IsChain fun l l' => allBlank l = true → allBlank l' = false

/-- What is kept is single spaced, but for a blank line at the top if one may stand there. -/
theorem keep_spaced (b : Bool) (ls : List (List Char)) :
    (b = true → ∀ l ∈ (keep b ls).head?, allBlank l = false) ∧
      (keep b ls).IsChain fun l l' => allBlank l = true → allBlank l' = false := by
  induction ls generalizing b with
  | nil => exact ⟨fun _ l hl => (by cases hl), .nil⟩
  | cons l ls ih =>
    by_cases hl : allBlank l = true
    · cases b with
      | true =>
        rw [keep, if_pos hl, if_pos rfl]
        exact ih true
      | false =>
        simp only [keep, if_pos hl, Bool.false_eq_true, if_false]
        refine ⟨fun h => (by cases h), List.isChain_cons.2 ⟨fun l' hl' _ => ?_, (ih true).2⟩⟩
        exact (ih true).1 rfl l' hl'
    · simp only [keep, if_neg hl]
      have hl' : allBlank l = false := by simpa using hl
      refine ⟨fun _ m hm => ?_, List.isChain_cons.2 ⟨fun _ _ h => absurd h hl, (ih false).2⟩⟩
      obtain rfl : l = m := by simpa using hm
      exact hl'

theorem singleSpaced_keep (ls : List (List Char)) : SingleSpaced (keep true ls) :=
  ⟨(keep_spaced true ls).1 rfl, (keep_spaced true ls).2⟩

theorem keep_eq_self {b : Bool} {ls : List (List Char)}
    (htop : b = true → ∀ l ∈ ls.head?, allBlank l = false)
    (hbehind : ls.IsChain fun l l' => allBlank l = true → allBlank l' = false) :
    keep b ls = ls := by
  induction ls generalizing b with
  | nil => rfl
  | cons l ls ih =>
    obtain ⟨hnext, hchain⟩ := List.isChain_cons.1 hbehind
    have hrest : keep (allBlank l) ls = ls := ih (fun hl l' hl' => hnext l' hl' hl) hchain
    rw [keep]
    split
    · next hl =>
      rw [hl] at hrest
      split
      · next hb =>
        have hfull : allBlank l = false := htop hb l rfl
        rw [hfull] at hl
        cases hl
      · rw [hrest]
    · next hl =>
      rw [Bool.not_eq_true] at hl
      rw [hl] at hrest
      rw [hrest]

theorem filter_keep (b : Bool) (ls : List (List Char)) :
    (keep b ls).filter (!allBlank ·) = ls.filter (!allBlank ·) := by
  induction ls generalizing b with
  | nil => rfl
  | cons l ls ih =>
    by_cases hl : allBlank l = true
    · cases b <;> simp [keep, hl, ih]
    · simp [keep, hl, ih]

/-- Only a text whose lines are single spaced is left as it is. -/
theorem collapse_eq_self_iff {s : List Char} :
    collapse s = s ↔ SingleSpaced (splitLines s) := by
  constructor
  · intro h
    rw [← h, splitLines_collapse]
    exact singleSpaced_keep _
  · intro h
    rw [collapse, keep_eq_self (fun _ => h.top) h.behind, flatten_splitLines]

/-- **Single spacing keeps a line for what is in it or right before it.** The lines of the
    collapsed text are those lines of the text that are not blank or that come right behind a
    line that is not, each as it was and in their order. So the collapsed text is single
    spaced, it has every line that is not blank, nothing is changed about a text exactly if it
    is single spaced, and nothing is changed by collapsing once more. -/
theorem collapseBlankLines_keeps_lines (s : String) :
    let lines := splitLines s.toList
    let kept := splitLines (collapseBlankLines s).toList
    kept = ((List.finRange lines.length).filter (Stays lines ·)).map lines.get ∧
      SingleSpaced kept ∧
      kept.filter (!allBlank ·) = lines.filter (!allBlank ·) ∧
      (collapseBlankLines s = s ↔ SingleSpaced lines) ∧
      collapseBlankLines (collapseBlankLines s) = collapseBlankLines s := by
  intro lines kept
  have hkept : kept = keep true lines := by
    show splitLines (String.ofList (collapse s.toList)).toList = _
    rw [String.toList_ofList, splitLines_collapse]
  have hself : collapseBlankLines s = s ↔ collapse s.toList = s.toList := by
    unfold collapseBlankLines
    rw [← String.toList_inj, String.toList_ofList]
  rw [hkept, hself]
  refine ⟨?_, singleSpaced_keep lines, filter_keep true lines, collapse_eq_self_iff,
    collapseBlankLines_collapseBlankLines s⟩
  rw [keep_eq_positions]
  simp only [staysAfter_true]

/-- A blank line at the top goes, and so does the second of two blank lines. -/
example : collapse "\n a\n \n\t\n\nb".toList = " a\n \nb".toList := by decide

end Spacing

end SourceTidy
