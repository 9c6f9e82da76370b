/-
  Actions given by data: a name, a flag, a description, and one of a few things to do. They
  stand in for real actions where only the pipeline around them matters.
-/
import SourceTidy.Action.Basic

namespace SourceTidy

/-- What a scripted action does. -/
inductive Script where
  | giveUp
  /-- Report its description as a finding about the target. -/
  | findTarget
  | missTarget
  | speak
deriving DecidableEq, Repr

/-- The action that follows a script. -/
def Action.scripted (name flag description : String) (script : Script) : Action where
  name := name
  flag := flag
  description := description
  run := fun p =>
    match script with
    | .giveUp => Activity.fail (.gaveUp (name ++ " failed"))
    | .findTarget => Activity.finding description p.job.target
    | .missTarget => Activity.fail (.targetMissing p.job.target)
    | .speak => Activity.say ("ran " ++ name ++ "\n")

end SourceTidy
