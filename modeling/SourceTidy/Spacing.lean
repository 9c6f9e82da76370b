/-
  Single spacing: of blank lines that stand together only the first is kept, and none at the
  top. A line is blank when it holds nothing but blank characters; line ends stay as they are.
-/
import SourceTidy.Text.Blank
import SourceTidy.Text.Lines

namespace SourceTidy.Spacing

/-- The lines that stay, given whether the line before them was blank. -/
def keep : Bool → List (List Char) → List (List Char)
  | _, [] => []
  | afterBlank, l :: ls =>
    if Text.allBlank l then
      if afterBlank then keep true ls else l :: keep true ls
    else l :: keep false ls

/-- A text without blank lines at the top and behind blank lines. -/
def collapse (s : List Char) : List Char := (keep true (Text.splitLines s)).flatten

/-- `collapse` on strings. -/
def collapseBlankLines (s : String) : String := String.ofList (collapse s.toList)

end SourceTidy.Spacing
