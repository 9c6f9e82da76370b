/-
  Small commands that work on a file system value. A command is a function from where it runs
  and its arguments to what it leaves: an exit code, its output, and the file system.
-/
import SourceTidy.FileSystem.Edit

namespace SourceTidy.Toolbox

open Text (Bytes)

/-- Where a command runs, and what it can read. -/
structure Setting where
  home : Location
  files : FileSystem
  stdin : Bytes := []
  /-- The file that the output goes to, if it goes to one. -/
  sink : Option Location := none

/-- Something that was written: a result, or a complaint. -/
inductive Written where
  | result (b : Bytes)
  | complaint (b : Bytes)
deriving DecidableEq

/-- What a command leaves. -/
structure Result where
  code : Nat := 0
  /-- What was written, in its order. -/
  output : List Written := []
  /-- What is left of the input, if some of it was read. -/
  unread : Option Bytes := none
  files : FileSystem

namespace Result

/-- The results that were written. -/
def stdout (r : Result) : Bytes :=
  r.output.flatMap fun w =>
    match w with
    | .result b => b
    | .complaint _ => []

/-- The complaints that were written. -/
def stderr (r : Result) : Bytes :=
  r.output.flatMap fun w =>
    match w with
    | .result _ => []
    | .complaint b => b

/-- The same with results behind complaints, as they come if they are kept back to the end. -/
def keptBack (r : Result) : Result := { r with output := [.complaint r.stderr, .result r.stdout] }

end Result

/-- The bytes of some characters. -/
def bytes (s : String) : Bytes := Text.Utf8.ofString s

/-- Nothing done, with an exit code. -/
def quit (s : Setting) (code : Nat) : Result := { code := code, files := s.files }

/-- Nothing done, and a complaint. -/
def complain (s : Setting) (code : Nat) (text : String) : Result :=
  { code := code, output := [.complaint (bytes (text ++ "\n"))], files := s.files }

/-- The reason that small commands give for a failure. -/
def reason : FileError → String
  | .notFound => "No such file or directory"
  | .notDirectory => "Not a directory"
  | .isDirectory => "Is a directory"
  | .tooManyLinks => "Too many levels of symbolic links"
  | .nameTooLong => "File name too long"
  | .permissionDenied => "Permission denied"
  | .alreadyExists => "File exists"
  | .notEmpty => "Directory not empty"
  | .busy => "Device or resource busy"
  | e => e.message

/-- What comes of one thing, and then of another that is done in the setting it leaves. The exit
    code is that of the first part that failed. -/
def Result.thenDo (r : Result) (s : Setting) (act : Setting → Result) : Result :=
  let q := act { s with files := r.files, stdin := r.unread.getD s.stdin }
  { code := if r.code = 0 then q.code else r.code
    output := r.output ++ q.output
    unread := match q.unread with
      | some b => some b
      | none => r.unread
    files := q.files }

/-- Do something for each argument in turn, and put together what comes of it. -/
def forEach (step : Setting → String → Result) : List String → Setting → Result
  | [], s => quit s 0
  | a :: rest, s => (step s a).thenDo s (forEach step rest)

end SourceTidy.Toolbox
