/-
  The program's entry: arguments, environment and disk go in, an exit code and output come out.
  Tools are those of the toolbox.
-/
import SourceTidy.CommandLine
import SourceTidy.Disk
import SourceTidy.Toolbox.Launcher

open SourceTidy

/-- How output is rendered: with styles on a terminal, unless nobody wants them. -/
def standardRendering : IO Rendering := do
  let isTerminal ← (← IO.getStdout).isTty
  let noColour := (← IO.getEnv "NO_COLOR").any (!·.isEmpty)
  return match chooseColour isTerminal noColour with
    | .auto => .ansi
    | .never => .plain

/-- The paths that a command line names. -/
def namedPaths (env : Environment) (args : List String) : List String :=
  match Arguments.read (builtIn.map (·.flag)) env.config args with
  | .ok i => i.config.toList ++ i.filename.toList
  | .error _ => []

def main (args : List String) : IO UInt32 := do
  let env : Environment := ⟨← IO.getEnv "TORQ_CONFIG", ← IO.getEnv "TORQ_LOG"⟩
  let home ← Disk.home
  let before ← Disk.read home (namedPaths env args)
  let r ← standardRendering
  let e := CommandLine.program builtIn ⟨home, Toolbox.launch home, r⟩ env args before
  Disk.store before e.files
  IO.print e.stdout
  IO.eprint e.stderr
  return UInt32.ofNat e.code
