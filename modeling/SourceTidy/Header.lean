/-
  Header lines: a file's first line should start with the comment marker and end with the
  file's name, perhaps with directories before it.
-/
import SourceTidy.Text.Blank

namespace SourceTidy.Header

/-- The line starts with the marker, and its last word is the end of the path. -/
def matchesPath (line path marker : List Char) : Bool :=
  marker.isPrefixOf line &&
    match Text.lastWord? line with
    | some word => word.isSuffixOf path
    | none => false

/-- `matchesPath` on strings. -/
def isHeaderFor (line path marker : String) : Bool :=
  matchesPath line.toList path.toList marker.toList

end SourceTidy.Header
