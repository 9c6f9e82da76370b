/-
  The pipeline: actions in order, each on the file system that the one before it left. The
  first failure ends the run. The listing shows the actions in the order in which they run.
-/
import SourceTidy.Action.Sources
import SourceTidy.Action.Tools
import SourceTidy.Text.Lines

namespace SourceTidy

/-- The actions that come with the program. -/
def builtIn : List Action :=
  [.black, .singleSpace, .headerCheck, .replTest, .flake]

/-- One action, and an empty line behind what it put out. -/
def stage (p : Plan) (a : Action) : Activity Unit := do
  Activity.log .pipeline .debug ("action " ++ a.name)
  perform p a
  Activity.say "\n"

/-- All actions of a pipeline, one after the other. -/
def runAll (p : Plan) : List Action → Activity Unit
  | [] => pure ()
  | a :: rest => do
    stage p a
    runAll p rest

/-- What stands above the actions in the listing. -/
def listingHead : String :=
  "\nTorquemada Actions\n==================\n\n" ++
  "torq runs a series of actions on the file or directory passed in on the command line. " ++
  "Each action can be turned off with a \"--no-/action/\" argument, where \"/action/\" is " ++
  "replaced with the name of the action.\n\n" ++
  "The following actions are run in this order:\n\n"

/-- The listing's block about one action. -/
def listingBlock (a : Action) : String :=
  a.name ++ ":\n" ++
    String.join ((Text.displayLines a.description).map fun l => "    " ++ l ++ "\n") ++ "\n"

/-- What a pipeline's actions are and do. -/
def describeAll (actions : List Action) : String :=
  listingHead ++ String.join (actions.map listingBlock)

end SourceTidy
