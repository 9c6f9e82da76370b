/-
  Single spacing goes from line to line, and all that it takes along is whether the line before
  was blank (`keep_append`). What is kept of some lines ends as they do in this respect, so a
  text of whole lines can be collapsed before more is put behind it
  (`collapseBlankLines_goes_on`). And what is done to each line alone may be done before or
  after, if blank lines stay blank and others do not become so (`keep_map`). That is why
  carriage returns at the ends of lines make no difference (`collapseBlankLines_withReturns`).
-/
import SourceTidy.Proofs.KeptLines

namespace SourceTidy

/-! ## Whole lines -/

namespace Text

/-- The text stops where a line does: it is empty or its last character is a line feed. -/
def IsWhole (s : List Char) : Prop := s = [] ∨ s.getLast? = some '\n'

instance (s : List Char) : Decidable (IsWhole s) := inferInstanceAs (Decidable (_ ∨ _))

theorem IsWhole.splitLines_append {s : List Char} (h : IsWhole s) (t : List Char) :
    splitLines (s ++ t) = splitLines s ++ splitLines t := by
  rcases h with rfl | h
  · rfl
  · exact Text.splitLines_append h t

theorem IsWhole.of_append {s t : List Char} (h : IsWhole (s ++ t)) : IsWhole t := by
  by_cases ht : t = []
  · exact Or.inl ht
  · rcases h with hnil | hlast
    · exact Or.inl (List.append_eq_nil_iff.1 hnil).2
    · rw [List.getLast?_append_of_ne_nil _ ht] at hlast
      exact Or.inr hlast

/-- All lines of a text that is whole end with a line feed. -/
theorem Lined.ends {ls : List (List Char)} (h : Lined ls) (hwhole : IsWhole ls.flatten) :
    ∀ l ∈ ls, l.getLast? = some '\n' := by
  induction h with
  | nil => exact fun l hl => absurd hl List.not_mem_nil
  | @last l hne hl =>
    rw [List.flatten_singleton] at hwhole
    rcases hwhole with rfl | hlast
    · exact absurd rfl hne
    · exact absurd (List.mem_of_getLast? hlast) hl
  | @cons l ls hl hls ih =>
    rw [List.flatten_cons] at hwhole
    exact List.forall_mem_cons.2 ⟨List.getLast?_concat, ih hwhole.of_append⟩

theorem isWhole_flatten {ls : List (List Char)} (h : ∀ l ∈ ls, l.getLast? = some '\n') :
    IsWhole ls.flatten := by
  rcases List.eq_nil_or_concat ls with rfl | ⟨ls, l, rfl⟩
  · exact Or.inl rfl
  · have hl : l.getLast? = some '\n' := h l (by simp)
    refine Or.inr ?_
    rw [List.concat_eq_append, List.flatten_append, List.flatten_singleton,
      List.getLast?_append, hl, Option.some_or]

end Text

open Text

namespace Spacing

/-! ## Texts that go on -/

/-- Whether the line before the next one is blank, behind some lines; `b` says it where there are
    none. -/
def blankBehind : Bool → List (List Char) → Bool
  | b, [] => b
  | _, l :: ls => blankBehind (allBlank l) ls

theorem keep_cons (b : Bool) (l : List Char) (ls : List (List Char)) :
    keep b (l :: ls) = (if allBlank l && b then [] else [l]) ++ keep (allBlank l) ls := by
  rw [keep]
  cases allBlank l with
  | true => cases b <;> rfl
  | false => rfl

/-- Of what comes behind some lines, that is kept which is kept behind the last of them. -/
theorem keep_append (b : Bool) (ls ms : List (List Char)) :
    keep b (ls ++ ms) = keep b ls ++ keep (blankBehind b ls) ms := by
  induction ls generalizing b with
  | nil => rfl
  | cons l ls ih => rw [List.cons_append, keep_cons, keep_cons, blankBehind, ih, List.append_assoc]

/-- The lines that are kept are followed as all the lines are. Where none is kept, all were blank
    and the line before them too. -/
theorem blankBehind_keep (b : Bool) (ls : List (List Char)) :
    blankBehind b (keep b ls) = blankBehind b ls := by
  induction ls generalizing b with
  | nil => rfl
  | cons l ls ih =>
    rw [keep_cons, blankBehind]
    split
    · next h =>
      obtain ⟨hl, rfl⟩ := Bool.and_eq_true_iff.1 h
      rw [List.nil_append, hl]
      exact ih true
    · rw [List.singleton_append, blankBehind]
      exact ih (allBlank l)

theorem isWhole_collapse {s : List Char} (h : IsWhole s) : IsWhole (collapse s) := by
  rw [← flatten_splitLines s] at h
  exact isWhole_flatten fun l hl =>
    (lined_splitLines s).ends h l ((keep_sublist true _).subset hl)

/-- What is kept of a text that goes on: what is kept of its front, and more. -/
theorem collapse_append {s : List Char} (h : IsWhole s) (t : List Char) :
    collapse (s ++ t) =
      collapse s ++ (keep (blankBehind true (splitLines s)) (splitLines t)).flatten := by
  unfold collapse
  rw [h.splitLines_append, keep_append, List.flatten_append]

theorem collapse_collapse_append {s : List Char} (h : IsWhole s) (t : List Char) :
    collapse (collapse s ++ t) = collapse (s ++ t) := by
  rw [collapse_append (isWhole_collapse h), collapse_append h, collapse_collapse,
    splitLines_collapse, blankBehind_keep]

/-- **Single spacing goes on where it stopped.** Let a text be empty or end with a line feed, and
    let any text come behind it. It makes no difference to the result whether the first text is
    collapsed before; and what is kept of the first text alone is what the result begins with. -/
theorem collapseBlankLines_goes_on {s : String} (h : IsWhole s.toList) (t : String) :
    collapseBlankLines (s ++ t) = collapseBlankLines (collapseBlankLines s ++ t) ∧
      (collapseBlankLines s).toList <+: (collapseBlankLines (s ++ t)).toList := by
  unfold collapseBlankLines
  simp only [String.toList_append, String.toList_ofList]
  refine ⟨congrArg String.ofList (collapse_collapse_append h t.toList).symm, ?_⟩
  rw [collapse_append h]
  exact List.prefix_append _ _

/-- Nothing is kept of the first text, and the second one begins with a blank line all the
    same. -/
theorem collapseBlankLines_goes_on_blank :
    IsWhole "\n \n".toList ∧ collapseBlankLines "\n \n" = "" ∧
      collapseBlankLines ("\n \n" ++ "\t\n\na\n") = collapseBlankLines ("" ++ "\t\n\na\n") := by
  have hwhole : IsWhole "\n \n".toList := by decide
  have hnil : collapseBlankLines "\n \n" = "" := by decide
  have hgoes := (collapseBlankLines_goes_on hwhole "\t\n\na\n").1
  rw [hnil] at hgoes
  exact ⟨hwhole, hnil, hgoes⟩

/-- A text that stops inside a line has to wait: the rest of the line may not be blank. -/
example : collapse (collapse "a\n\n ".toList ++ "b".toList) ≠ collapse "a\n\n b".toList := by
  decide

end Spacing

/-! ## Carriage returns -/

namespace Text

/-- The text with a carriage return put before each line feed, also where there is one. -/
def withReturns (s : List Char) : List Char :=
  s.flatMap fun c => if c = '\n' then ['\r', '\n'] else [c]

/-- `withReturns` on strings. -/
def withReturnsOf (s : String) : String := String.ofList (withReturns s.toList)

theorem withReturns_append (s t : List Char) :
    withReturns (s ++ t) = withReturns s ++ withReturns t :=
  List.flatMap_append

theorem withReturns_newline (s : List Char) :
    withReturns ('\n' :: s) = '\r' :: '\n' :: withReturns s := rfl

theorem withReturns_cons {c : Char} (hc : c ≠ '\n') (s : List Char) :
    withReturns (c :: s) = c :: withReturns s := by
  simp [withReturns, hc]

theorem withReturns_of_not_mem {s : List Char} (h : '\n' ∉ s) : withReturns s = s := by
  induction s with
  | nil => rfl
  | cons c s ih =>
    rw [List.mem_cons, not_or] at h
    rw [withReturns_cons (Ne.symm h.1), ih h.2]

theorem withReturns_flatten (ls : List (List Char)) :
    withReturns ls.flatten = (ls.map withReturns).flatten := by
  induction ls with
  | nil => rfl
  | cons l ls ih => rw [List.flatten_cons, withReturns_append, ih, List.map_cons, List.flatten_cons]

theorem Lined.withReturns {ls : List (List Char)} (h : Lined ls) :
    Lined (ls.map withReturns) := by
  induction h with
  | nil => exact .nil
  | last hne hl =>
    rw [List.map_singleton, withReturns_of_not_mem hl]
    exact .last hne hl
  | @cons l ls hl _ ih =>
    have hline : Text.withReturns (l ++ ['\n']) = (l ++ ['\r']) ++ ['\n'] := by
      rw [withReturns_append, withReturns_of_not_mem hl, List.append_assoc]
      rfl
    rw [List.map_cons, hline]
    exact .cons (by simpa using hl) ih

/-- Each line gets its own carriage return. -/
theorem splitLines_withReturns (s : List Char) :
    splitLines (withReturns s) = (splitLines s).map withReturns := by
  have h := splitLines_flatten (lined_splitLines s).withReturns
  rwa [← withReturns_flatten, flatten_splitLines] at h

/-- A carriage return is blank, and so is a line feed. -/
theorem allBlank_withReturns (s : List Char) : allBlank (withReturns s) = allBlank s := by
  induction s with
  | nil => rfl
  | cons c s ih =>
    by_cases hc : c = '\n'
    · subst hc
      rw [withReturns_newline, allBlank_cons, allBlank_cons, allBlank_cons, ih]
      rfl
    · rw [withReturns_cons hc, allBlank_cons, allBlank_cons, ih]

end Text

namespace Spacing

/-- What leaves blank lines blank, and others not, may be done to the lines that are kept. -/
theorem keep_map {f : List Char → List Char} (hf : ∀ l, allBlank (f l) = allBlank l) (b : Bool)
    (ls : List (List Char)) : keep b (ls.map f) = (keep b ls).map f := by
  induction ls generalizing b with
  | nil => rfl
  | cons l ls ih =>
    rw [List.map_cons, keep_cons, keep_cons, hf, ih, List.map_append]
    split <;> rfl

theorem singleSpaced_map {f : List Char → List Char} (hf : ∀ l, allBlank (f l) = allBlank l)
    {ls : List (List Char)} : SingleSpaced (ls.map f) ↔ SingleSpaced ls := by
  have htop : (∀ l ∈ (ls.map f).head?, allBlank l = false) ↔
      ∀ l ∈ ls.head?, allBlank l = false := by
    cases ls <;> simp [hf]
  have hbehind : (ls.map f).IsChain (fun l l' => allBlank l = true → allBlank l' = false) ↔
      ls.IsChain fun l l' => allBlank l = true → allBlank l' = false := by
    simp only [List.isChain_map, hf]
  exact ⟨fun h => ⟨htop.1 h.top, hbehind.1 h.behind⟩, fun h => ⟨htop.2 h.top, hbehind.2 h.behind⟩⟩

theorem collapse_withReturns (s : List Char) :
    collapse (withReturns s) = withReturns (collapse s) := by
  unfold collapse
  rw [splitLines_withReturns, keep_map allBlank_withReturns, withReturns_flatten]

/-- **Single spacing does not see how lines end.** To collapse a text with a carriage return put
    before each line feed is to collapse the text and put them there, whatever carriage returns
    it has already and whether or not its last line has an end. And one of the two texts is left
    as it is exactly if the other is. -/
theorem collapseBlankLines_withReturns (s : String) :
    collapseBlankLines (withReturnsOf s) = withReturnsOf (collapseBlankLines s) ∧
      (collapseBlankLines (withReturnsOf s) = withReturnsOf s ↔ collapseBlankLines s = s) := by
  unfold collapseBlankLines withReturnsOf
  simp only [String.toList_ofList]
  refine ⟨congrArg String.ofList (collapse_withReturns s.toList), ?_⟩
  rw [String.ofList_inj, ← String.toList_inj, String.toList_ofList, collapse_eq_self_iff,
    splitLines_withReturns, singleSpaced_map allBlank_withReturns, collapse_eq_self_iff]

/-- Ends of both kinds, a carriage return within a line, and a last line without an end. -/
example : collapseBlankLines (withReturnsOf "a\r\n\r\n\nb\rc\n \n\n\r") =
    "a\r\r\n\r\r\nb\rc\r\n \r\n" := by
  decide

end Spacing

end SourceTidy
