/-
  The actions on source files: single spacing, which writes a file only if that changes it,
  and the check of header lines, which reads no more than the first line.
-/
import SourceTidy.Action.Basic
import SourceTidy.Header
import SourceTidy.Spacing

namespace SourceTidy

/-- Collapse the blank lines of one file, and say so if it changed. -/
def singleSpaceFile (path : String) : Activity Unit := do
  let h ← Activity.host
  let fs ← Activity.files
  match fs.readText h.home path with
  | .error e => Activity.fail (.file path e)
  | .ok text =>
    let spaced := Spacing.collapseBlankLines text
    if spaced = text then return ()
    else match fs.overwrite h.home path (Text.Utf8.ofString spaced) with
      | .error e => Activity.fail (.file path e)
      | .ok fs => do
        Activity.setFiles fs
        Activity.finding "Single spaced" path

/-- Report a file whose first line is no header for it. -/
def checkHeader (marker path : String) : Activity Unit := do
  let h ← Activity.host
  let fs ← Activity.files
  match fs.readFirstLine h.home path with
  | .error e => Activity.fail (.file path e)
  | .ok line =>
    if Header.isHeaderFor line path marker then return ()
    else Activity.finding "File header missing for" path

namespace Action

def singleSpace : Action where
  name := "SingleSpace"
  flag := "singlespace"
  description := "Removes double blank lines on files ending in .py, undoing part of the\n" ++
    "Black formatting"
  run := fun p => Activity.forFiles p.job.target p.job.settings.extension singleSpaceFile

def headerCheck : Action where
  name := "HeaderCheck"
  flag := "headercheck"
  description := "Verifies that .py files start with a comment including the file name"
  run := fun p =>
    Activity.forFiles p.job.target p.job.settings.extension
      (checkHeader p.job.settings.commentMarker)

end Action

end SourceTidy
