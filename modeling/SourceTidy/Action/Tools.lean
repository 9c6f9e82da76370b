/-
  The actions that hand the work to an outside tool. An empty command line means that there
  is nothing to run.
-/
import SourceTidy.Action.Basic

namespace SourceTidy

/-- The formatter's command: its command line, the target, and the line length. -/
def formatterCommand? (p : Plan) : Option Command := do
  let c ← Command.ofWords? p.job.settings.tools.formatter
  some (((c.arg p.job.target).arg "-l").arg (toString p.job.settings.lineLength))

/-- The linter's command: its command line and the target. -/
def linterCommand? (p : Plan) : Option Command := do
  let c ← Command.ofWords? p.job.settings.tools.linter
  some (c.arg p.job.target)

/-- The command for one example session: its command line and the absolute path. -/
def doctestCommand? (p : Plan) (home : Location) (path : String) :
    Except Failure (Option Command) :=
  match Path.absolute? home.path path with
  | none => .error (.unresolvable path)
  | some absolute =>
    .ok ((Command.ofWords? p.job.settings.tools.doctest).map (·.arg absolute))

namespace Action

def black : Action where
  name := "Black"
  flag := "black"
  description := "Runs the Black Python code formatter with the configured line length\n" ++
    "(line_length in torq.toml, 80 by default)"
  run := fun p => Activity.runTool? (formatterCommand? p)

def flake : Action where
  name := "Flake"
  flag := "flake"
  description := "Runs the Flake8 Python linter"
  run := fun p => Activity.runTool? (linterCommand? p)

def replTest : Action where
  name := "REPLTest"
  flag := "repltest"
  description := "Runs doctest on files ending in .repl"
  run := fun p =>
    Activity.forFiles p.job.target p.job.settings.replExtension fun path => do
      let h ← Activity.host
      Activity.runTool? (← Activity.ofExcept (doctestCommand? p h.home path))

end Action

end SourceTidy
