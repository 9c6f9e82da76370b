/-
  The program as a whole: from its arguments, its environment and a file system to its exit
  code, its output, and the file system that it leaves. The checks come in a fixed order:
  arguments, listing, target, settings; only then does an action run.
-/
import SourceTidy.Arguments.Help
import SourceTidy.Diagnostics.Filter
import SourceTidy.Discovery
import SourceTidy.Pipeline
import SourceTidy.Settings.Reading

namespace SourceTidy

/-- The environment variables that the program looks at. -/
structure Environment where
  config : Option String
  log : Option String

/-- What the program leaves behind. -/
structure Exit where
  code : Nat
  stdout : String
  stderr : String
  files : FileSystem

namespace CommandLine

/-- Read settings from a file. -/
def loadSettings (path : String) : Activity Settings := do
  let h ← Activity.host
  let fs ← Activity.files
  match fs.readText h.home path with
  | .error e => Activity.fail (.file path e)
  | .ok text =>
    match Settings.parse text with
    | .error e => Activity.fail (.settings path e)
    | .ok s => do
      Activity.log .configuration .debug ("loaded config from " ++ path)
      return s

/-- The settings file to use: the one asked for, or the one found for the target. -/
def settingsPath? (fs : FileSystem) (home : Location) (asked : Option String)
    (target : String) : Option String :=
  match asked with
  | some path => some path
  | none => Discovery.findSettings fs home target

/-- The settings of a run; without a file, the defaults. -/
def settingsFor (asked : Option String) (target : String) : Activity Settings := do
  let h ← Activity.host
  let fs ← Activity.files
  match settingsPath? fs h.home asked target with
  | some path => loadSettings path
  | none => return {}

/-- A set of words as log lines show it: sorted, in quotes, between braces. -/
def showSet (xs : List String) : String :=
  "\x7b" ++ ", ".intercalate ((xs.eraseDups.mergeSort fun a b => decide (a ≤ b)).map
    Text.quoted) ++ "\x7d"

/-- Do what an invocation asks for. -/
def run (actions : List Action) (i : Invocation) : Activity Unit := do
  if i.actions then Activity.say (describeAll actions)
  else match i.filename with
    | none => Activity.fail .noTarget
    | some target => do
      let h ← Activity.host
      if !(← Activity.files).exists? h.home target then Activity.fail (.targetMissing target)
      let settings ← settingsFor i.config target
      Activity.log .run .debug
        ("running on " ++ target ++ " with " ++ showSet i.disabled ++ " disabled")
      runAll ⟨⟨target, settings⟩, i.quiet, i.disabled⟩ actions

/-- How a report leaves the program. -/
def exitOf (env : Environment) (r : Rendering) (report : Report Unit) : Exit :=
  let notes := renderNotes (Filter.passes env.log) report.progress.notes
  { code := match report.outcome with
      | .ok _ => 0
      | .error e => e.exitCode
    stdout := render r report.progress.out
    stderr := match report.outcome with
      | .ok _ => notes
      | .error e => notes ++ "torq: " ++ e.message ++ "\n"
    files := report.progress.files }

/-- The program. -/
def program (actions : List Action) (host : Host) (env : Environment) (args : List String)
    (fs : FileSystem) : Exit :=
  let flags := actions.map (·.flag)
  match Arguments.read flags env.config args with
  | .error (.usage e) => ⟨2, "", e.message, fs⟩
  | .error (.help long) => ⟨0, Arguments.help flags env.config long, "", fs⟩
  | .error .version => ⟨0, Arguments.versionText, "", fs⟩
  | .ok i => exitOf env host.rendering (run actions i host fs)

end CommandLine

end SourceTidy
