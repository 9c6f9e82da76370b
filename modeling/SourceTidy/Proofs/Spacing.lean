/-
  Single spacing, line by line. The lines that are kept are lines of the text, and splitting
  what they make up gives them back (`splitLines_flatten`); so a text that has been collapsed
  is collapsed already (`collapse_collapse`).
-/
import SourceTidy.Spacing

namespace SourceTidy

namespace Text

/-! ## Lists of lines -/

/-- Lines of one text: each ends with its only line feed, and the last one may lack it. -/
inductive Lined : List (List Char) → Prop where
  | nil : Lined []
  | last {l : List Char} : l ≠ [] → '\n' ∉ l → Lined [l]
  | cons {l : List Char} {ls : List (List Char)} :
      '\n' ∉ l → Lined ls → Lined ((l ++ ['\n']) :: ls)

/-- Leaving out lines leaves lines. -/
theorem Lined.sublist {ls ls' : List (List Char)} (h : Lined ls) (hsub : ls'.Sublist ls) :
    Lined ls' := by
  induction h generalizing ls' with
  | nil =>
    rw [List.sublist_nil.1 hsub]
    exact .nil
  | last hne hl =>
    cases hsub with
    | cons _ hsub =>
      rw [List.sublist_nil.1 hsub]
      exact .nil
    | cons_cons _ hsub =>
      rw [List.sublist_nil.1 hsub]
      exact .last hne hl
  | cons hl _ ih =>
    cases hsub with
    | cons _ hsub => exact ih hsub
    | cons_cons _ hsub => exact .cons hl (ih hsub)

theorem splitLines_append_newline {l : List Char} (hl : '\n' ∉ l) (s : List Char) :
    splitLines (l ++ '\n' :: s) = (l ++ ['\n']) :: splitLines s := by
  induction l with
  | nil => simp [splitLines]
  | cons c l ih =>
    rw [List.mem_cons, not_or] at hl
    rw [List.cons_append, splitLines, if_neg (Ne.symm hl.1), ih hl.2]
    rfl

theorem splitLines_of_not_mem {l : List Char} (hne : l ≠ []) (hl : '\n' ∉ l) :
    splitLines l = [l] := by
  induction l with
  | nil => exact absurd rfl hne
  | cons c l ih =>
    rw [List.mem_cons, not_or] at hl
    rw [splitLines, if_neg (Ne.symm hl.1)]
    cases l with
    | nil => rfl
    | cons d l => rw [ih (by simp) hl.2]

/-- Where a text ends with a line feed, what follows begins a line. -/
theorem splitLines_append {s : List Char} (hs : s.getLast? = some '\n') (t : List Char) :
    splitLines (s ++ t) = splitLines s ++ splitLines t := by
  induction s with
  | nil => cases hs
  | cons c s ih =>
    cases s with
    | nil =>
      obtain rfl : c = '\n' := by simpa using hs
      simp [splitLines]
    | cons d s =>
      rw [List.getLast?_cons_cons] at hs
      have ht := ih hs
      simp only [List.cons_append] at ht ⊢
      rw [splitLines.eq_2 c, splitLines.eq_2 c, ht]
      split
      · rfl
      · cases hsplit : splitLines (d :: s) with
        | nil =>
          have hflat := flatten_splitLines (d :: s)
          rw [hsplit] at hflat
          cases hflat
        | cons l ls => rfl

/-- Splitting undoes putting lines together. -/
theorem splitLines_flatten {ls : List (List Char)} (h : Lined ls) :
    splitLines ls.flatten = ls := by
  induction h with
  | nil => rfl
  | last hne hl =>
    rw [List.flatten_singleton]
    exact splitLines_of_not_mem hne hl
  | cons hl _ ih =>
    rw [List.flatten_cons, List.append_assoc, List.singleton_append,
      splitLines_append_newline hl, ih]

theorem lined_splitLines (s : List Char) : Lined (splitLines s) := by
  induction s with
  | nil => exact .nil
  | cons c s ih =>
    rw [splitLines]
    split
    · exact .cons (l := []) List.not_mem_nil ih
    · next hc =>
      split
      · exact .last (by simp) (by simpa using Ne.symm hc)
      · next l ls hs =>
        rw [hs] at ih
        cases ih with
        | last hne hl => exact .last (by simp) (by simpa using ⟨Ne.symm hc, hl⟩)
        | @cons l _ hl hls => exact .cons (l := c :: l) (by simpa using ⟨Ne.symm hc, hl⟩) hls

end Text

namespace Spacing

open Text

/-! ## What is kept -/

theorem keep_sublist (b : Bool) (ls : List (List Char)) : (keep b ls).Sublist ls := by
  induction ls generalizing b with
  | nil => exact List.Sublist.refl _
  | cons l ls ih =>
    rw [keep]
    split
    · split
      · exact (ih true).cons l
      · exact (ih true).cons_cons l
    · exact (ih false).cons_cons l

theorem keep_keep (b : Bool) (ls : List (List Char)) : keep b (keep b ls) = keep b ls := by
  induction ls generalizing b with
  | nil => rfl
  | cons l ls ih =>
    by_cases hl : allBlank l = true
    · cases b with
      | true =>
        simp only [keep, if_pos hl, if_true]
        exact ih true
      | false => simp only [keep, if_pos hl, Bool.false_eq_true, if_false, ih]
    · simp only [keep, if_neg hl, ih]

/-- The lines of a collapsed text are the lines that were kept. -/
theorem splitLines_collapse (s : List Char) :
    splitLines (collapse s) = keep true (splitLines s) :=
  splitLines_flatten ((lined_splitLines s).sublist (keep_sublist true _))

theorem collapse_collapse (s : List Char) : collapse (collapse s) = collapse s := by
  unfold collapse
  have h := splitLines_collapse s
  unfold collapse at h
  rw [h, keep_keep]

theorem collapseBlankLines_collapseBlankLines (s : String) :
    collapseBlankLines (collapseBlankLines s) = collapseBlankLines s := by
  unfold collapseBlankLines
  rw [String.toList_ofList, collapse_collapse]

end Spacing

end SourceTidy
