/-
  First lines of texts, and what becomes of them. The first line is the same whether it is
  taken from a text or from the bytes of the text (`firstLine_ofString`). A line with a word
  in it is not blank, so single spacing leaves it where it is if it comes first
  (`firstLine_collapse`), and with it every header (`matchesPath_collapse`).
-/
import SourceTidy.Header
import SourceTidy.Proofs.Spacing
import SourceTidy.Proofs.Utf8

namespace SourceTidy

namespace Text

/-- The characters up to and including the first line feed; all of them if there is none. -/
def firstLine : List Char → List Char
  | [] => []
  | c :: s => if c = '\n' then [c] else c :: firstLine s

/-- `firstLine` on strings. -/
def firstLineOf (s : String) : String := String.ofList (firstLine s.toList)

theorem firstLine_eq_head (s : List Char) : firstLine s = (splitLines s).headD [] := by
  induction s with
  | nil => rfl
  | cons c s ih =>
    rw [firstLine, splitLines]
    split
    · next hc =>
      rw [hc]
      rfl
    · rw [ih]
      cases splitLines s <;> rfl

/-! ## The bytes of a first line -/

namespace Utf8

theorem firstLine_encode (s : List Char) : firstLine (encode s) = encode (Text.firstLine s) := by
  induction s with
  | nil => rfl
  | cons c s ih =>
    by_cases hc : 10 ∈ encodeChar c
    · obtain rfl := eq_newline_of_mem_encodeChar hc
      rfl
    · have hne : c ≠ '\n' := by
        rintro rfl
        exact hc (by decide)
      have hfirst : Text.firstLine (c :: s) = c :: Text.firstLine s := by
        rw [Text.firstLine, if_neg hne]
      show firstLine (encodeChar c ++ encode s) = _
      rw [firstLine_append hc, ih, hfirst]
      rfl

/-- The first line of a text is a text. -/
theorem firstLine_ofString (s : String) :
    firstLine (ofString s) = ofString (firstLineOf s) := by
  unfold ofString firstLineOf
  rw [firstLine_encode, String.toList_ofList]

end Utf8

/-! ## Lines with words -/

theorem words_of_allBlank {s : List Char} (h : allBlank s = true) : words s = [] := by
  induction s with
  | nil => rfl
  | cons c s ih =>
    rw [allBlank_cons, Bool.and_eq_true] at h
    cases s with
    | nil => rw [words, if_pos h.1]
    | cons d s => rw [words, if_pos h.1, ih h.2]

/-- A text with a last word has something in it that is not blank. -/
theorem not_allBlank_of_lastWord {s word : List Char} (h : lastWord? s = some word) :
    allBlank s = false := by
  cases hs : allBlank s with
  | false => rfl
  | true =>
    rw [lastWord?, words_of_allBlank hs] at h
    cases h

end Text

open Text

namespace Spacing

/-- A first line that is not blank stays. -/
theorem firstLine_collapse {s : List Char} (h : allBlank (firstLine s) = false) :
    firstLine (collapse s) = firstLine s := by
  rw [firstLine_eq_head] at h ⊢
  rw [firstLine_eq_head, splitLines_collapse]
  cases hlines : splitLines s with
  | nil => rfl
  | cons l ls =>
    have hl : allBlank l = false := by
      rw [hlines] at h
      exact h
    rw [keep, if_neg (by simp [hl])]
    rfl

end Spacing

namespace Header

theorem not_allBlank_of_matchesPath {line path marker : List Char}
    (h : matchesPath line path marker = true) : allBlank line = false := by
  rw [matchesPath, Bool.and_eq_true] at h
  cases hlast : lastWord? line with
  | none =>
    rw [hlast] at h
    cases h.2
  | some word => exact not_allBlank_of_lastWord hlast

/-- A text that starts with a header still does when its blank lines are collapsed. -/
theorem matchesPath_collapse {s path marker : List Char}
    (h : matchesPath (firstLine s) path marker = true) :
    matchesPath (firstLine (Spacing.collapse s)) path marker = true := by
  rw [Spacing.firstLine_collapse (not_allBlank_of_matchesPath h)]
  exact h

theorem isHeaderFor_collapse {text path marker : String}
    (h : isHeaderFor (firstLineOf text) path marker = true) :
    isHeaderFor (firstLineOf (Spacing.collapseBlankLines text)) path marker = true := by
  unfold isHeaderFor firstLineOf at h ⊢
  rw [Spacing.collapseBlankLines, String.toList_ofList, String.toList_ofList]
  rw [String.toList_ofList] at h
  exact matchesPath_collapse h

end Header

end SourceTidy
