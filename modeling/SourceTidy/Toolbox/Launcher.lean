/-
  A launcher for the small commands of the toolbox. A program is looked up by its name; a path
  to a program is resolved, but nothing that stands in the file system can be run.
-/
import SourceTidy.Shell.Run
import SourceTidy.Tool

namespace SourceTidy.Toolbox

/-- The number that the first process gets. -/
def firstNumber : Nat := 100

/-- How many steps deep scripts may go. -/
def scriptDepth : Nat := 1000000

/-- A shell as a program of its own. -/
def shell (home : Location) (args : List String) (fs : FileSystem) :
    ProcessResult × FileSystem :=
  let st := Shell.nested (Shell.Script.run scriptDepth) (args.map Shell.Octets.ofText)
    (Shell.State.start fs home "sh" [] (firstNumber - 1))
  (⟨match st.ending with
    | some (.killed _) => none
    | _ => some (st.status % 256), st.written 0, st.written 1⟩, st.files)

/-- The result of a small command as that of a process. -/
def asProcess (r : Result) : ProcessResult × FileSystem :=
  (⟨some r.code, r.stdout, r.stderr⟩, r.files)

/-- The commands that can be started by name. -/
def program? (home : Location) : String →
    Option (List String → FileSystem → ProcessResult × FileSystem)
  | "sh" => some (shell home)
  | "echo" => some fun args fs => asProcess (echo .program { home := home, files := fs } args)
  | "printf" => some fun args fs => asProcess (printf .program "printf" { home := home, files := fs } args)
  | "true" => some fun _ fs => asProcess { files := fs }
  | "false" => some fun _ fs => asProcess { code := 1, files := fs }
  | "cat" => some fun args fs => asProcess (cat { home := home, files := fs } args)
  | "rm" => some fun args fs => asProcess (rm { home := home, files := fs } args)
  | "mkdir" => some fun args fs => asProcess (mkdir { home := home, files := fs } args)
  | _ => none

/-- Why something that is no command cannot be started. -/
def startError (home : Location) (program : String) (fs : FileSystem) : FileError :=
  if program.toList.contains '/' then
    match fs.look home program with
    | .ok _ => .permissionDenied
    | .error e => e
  else if program = "." || program = ".." then .permissionDenied
  else if 255 < program.utf8ByteSize then .nameTooLong
  else .notFound

/-- Run a command in a working directory. -/
def launch (home : Location) : Launcher := fun c fs =>
  if (c.program :: c.args).any fun a => a.toList.contains '\x00' then .error .badCommand
  else match program? home c.program with
    | some run => .ok (run c.args fs)
    | none => .error (startError home c.program fs)

end SourceTidy.Toolbox
