/-
  Actions: the steps of a pipeline. An action is handed the whole plan of the run; whether it
  runs at all and how it is announced is not its business (`perform`).
-/
import SourceTidy.Activity
import SourceTidy.Walk

namespace SourceTidy

/-- What there is to do: the target, and the settings for it. -/
structure Job where
  target : String
  settings : Settings

/-- A job, how quietly it is done, and the flags of the actions that are turned off. -/
structure Plan where
  job : Job
  quiet : Bool
  disabled : List String

structure Action where
  /-- The name in notices and in the listing. -/
  name : String
  /-- The word that turns the action off. -/
  flag : String
  /-- What the listing says about the action. -/
  description : String
  run : Plan → Activity Unit

/-- The name of the option that turns off the action with a flag. -/
def optOut (flag : String) : String := "no-" ++ flag

namespace Plan

def isDisabled (p : Plan) (a : Action) : Bool := p.disabled.contains a.flag

end Plan

namespace Activity

/-- What a walk needs when it is part of an activity. -/
def watcher (h : Host) (each : String → Activity Unit) : Watcher Progress where
  files := Progress.files
  tell := fun n p => { p with notes := p.notes ++ [n] }
  meet := fun path p =>
    match each path h p.files with
    | ⟨o, q⟩ => (o, p.followedBy q)

/-- Do something at every file with an extension, at or below a path. -/
def forFiles (root ext : String) (each : String → Activity Unit) : Activity Unit :=
  fun h fs =>
    match visit (watcher h each) h.home root ext (.start fs) with
    | (o, p) => ⟨o, p⟩

end Activity

/-- The line that says an action is left out. -/
def skipNotice (a : Action) : List Piece :=
  [.styled .skipNotice ("🙅 Skipping " ++ a.name), .plain "\n"]

/-- The line that says an action begins. -/
def startNotice (a : Action) : List Piece :=
  [.plain "🏃 ", .styled .actionName a.name, .plain "\n"]

/-- Put out some pieces unless the plan is quiet. -/
def announce (p : Plan) (notice : List Piece) : Activity Unit := fun _ fs =>
  ⟨.ok (), ⟨fs, if p.quiet then [] else notice, []⟩⟩

/-- Run an action, unless it is turned off, and say so. -/
def perform (p : Plan) (a : Action) : Activity Unit :=
  if p.isDisabled a then announce p (skipNotice a)
  else do
    announce p (startNotice a)
    a.run p

end SourceTidy
