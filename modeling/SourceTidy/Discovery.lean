/-
  Finding the settings for a target: the first directory on the way up that holds a settings
  file decides. The way ends at the top of a repository, whose own directory is still looked
  at.
-/
import SourceTidy.FileSystem.Resolve

namespace SourceTidy.Discovery

/-- The name of a settings file. -/
def settingsName : String := "torq.toml"

/-- What marks the top of a repository. -/
def repositoryMark : String := ".git"

/-- The directory where the search begins, as a path. -/
def startPath? (fs : FileSystem) (home : Location) (target : String) : Option String := do
  let start ← if fs.isFile home target then Path.parent? target else some target
  let start := if start.isEmpty then "." else start
  match fs.resolve home start with
  | .ok l => some l.path
  | .error _ => some start

/-- Look into a directory, and then go up, at most `n` times. -/
def search (fs : FileSystem) (home : Location) : Nat → String → Option String
  | 0, _ => none
  | n + 1, dir =>
    let candidate := Path.join dir settingsName
    if fs.isFile home candidate then some candidate
    else if fs.exists? home (Path.join dir repositoryMark) then none
    else match Path.parent? dir with
      | some above => search fs home n above
      | none => none

/-- The settings file for a target, if there is one. -/
def findSettings (fs : FileSystem) (home : Location) (target : String) : Option String := do
  let start ← startPath? fs home target
  search fs home (start.length + 1) start

end SourceTidy.Discovery
