/-
  Outside tools: how a command line is put together, and what comes of running it. How a
  command runs is not fixed here; a `Launcher` decides, and may change the file system.
-/
import SourceTidy.FileSystem.Resolve

namespace SourceTidy

open Text (Bytes)

/-- A program and its arguments. -/
structure Command where
  program : String
  args : List String
deriving DecidableEq, Repr

namespace Command

/-- The command that a command line of the settings begins; none if the line is empty. -/
def ofWords? : List String → Option Command
  | [] => none
  | program :: args => some ⟨program, args⟩

/-- The command with one more argument. -/
def arg (c : Command) (a : String) : Command := { c with args := c.args ++ [a] }

/-- The command line as one text, for people. -/
def display (c : Command) : String := " ".intercalate (c.program :: c.args)

end Command

/-- What a process leaves: its exit code, none if a signal ended it, and its output. -/
structure ProcessResult where
  code : Option Nat
  stdout : Bytes
  stderr : Bytes
deriving DecidableEq

/-- The outcome of a tool, its output as text. -/
structure ToolOutput where
  code : Option Nat
  stdout : String
  stderr : String
deriving DecidableEq, Repr

namespace ToolOutput

/-- Bytes that are no text are replaced. -/
def ofResult (r : ProcessResult) : ToolOutput where
  code := r.code
  stdout := String.ofList (Text.Utf8.decodeLossy r.stdout)
  stderr := String.ofList (Text.Utf8.decodeLossy r.stderr)

def succeeded (o : ToolOutput) : Bool := o.code = some 0

end ToolOutput

/-- How an exit code is written in log lines. -/
def showCode : Option Nat → String
  | some n => "Some(" ++ toString n ++ ")"
  | none => "None"

/-- Runs a command on a file system, or says why it cannot be started. -/
abbrev Launcher := Command → FileSystem → Except FileError (ProcessResult × FileSystem)

end SourceTidy
