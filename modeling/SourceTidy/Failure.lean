/-
  What ends a run early. `headline` is the failure in one line, `message` adds its cause, and
  `exitCode` is what the command line reports.
-/
import SourceTidy.FileSystem.Resolve
import SourceTidy.Settings.Basic

namespace SourceTidy

inductive Failure where
  /-- There is nothing at the path to work on. -/
  | targetMissing (path : String)
  /-- The settings at the path cannot be used. -/
  | settings (path : String) (cause : SettingsError)
  /-- A file cannot be read or written. -/
  | file (path : String) (cause : FileError)
  /-- The walk below `root` came to an entry that it cannot take. -/
  | walk (root entry : String) (cause : FileError)
  /-- A path has no absolute form. -/
  | unresolvable (path : String)
  /-- No target was given. -/
  | noTarget
  /-- An action gave up for a reason of its own. -/
  | gaveUp (reason : String)
deriving DecidableEq, Repr

namespace Failure

def headline : Failure → String
  | targetMissing path => path ++ ": no such file or directory"
  | settings path cause => "invalid config " ++ path ++ ": " ++ cause.message
  | file path _ => path
  | walk root _ _ => "failed to walk " ++ root
  | unresolvable path => "failed to resolve " ++ path
  | noTarget => "a file or directory to process is required"
  | gaveUp reason => reason

/-- How a failed look at one entry of a walk is told. -/
def entryMessage (entry : String) (cause : FileError) : String :=
  entry ++ ": IO error for operation on " ++ entry ++ ": " ++ cause.message

/-- What lies behind the headline. -/
def cause? : Failure → Option String
  | file _ cause => some cause.message
  | walk _ entry cause => some (entryMessage entry cause)
  | unresolvable _ => some "cannot make an empty path absolute"
  | _ => none

def message (f : Failure) : String :=
  match f.cause? with
  | some c => f.headline ++ ": " ++ c
  | none => f.headline

/-- Two for unusable settings, one for all else. -/
def exitCode : Failure → Nat
  | settings _ _ => 2
  | _ => 1

end Failure

end SourceTidy
