/-
  The command line. Arguments are taken from left to right. The value of an option, or the
  file name, is held as pending until the next argument that is understood, or the end; so an
  argument that is not understood is reported before a value that is not allowed.
-/
import SourceTidy.Action.Basic
import SourceTidy.Text.Terminal

namespace SourceTidy

/-- What the command line asks for. -/
structure Invocation where
  quiet : Bool
  actions : Bool
  config : Option String
  filename : Option String
  /-- The flags of the actions that are turned off, in registration order. -/
  disabled : List String
deriving DecidableEq, Repr

namespace Arguments

/-- The options: those that are always there, and one for each action. -/
inductive Switch where
  | quiet
  | actions
  | config
  | turnOff (flag : String)
  | help
  | version
deriving DecidableEq, Repr

/-- The long name of an option. -/
def Switch.long : Switch → String
  | quiet => "quiet"
  | actions => "actions"
  | config => "config"
  | turnOff flag => optOut flag
  | help => "help"
  | version => "version"

/-- What stands behind the name of an option. -/
def Switch.operand : Switch → String
  | config => " <PATH>"
  | _ => ""

/-- An option as messages show it. -/
def Switch.shown (s : Switch) : String := Text.visible ("--" ++ s.long ++ s.operand)

/-- Every option, for some actions with these flags. -/
def switches (flags : List String) : List Switch :=
  [.quiet, .actions, .config] ++ flags.map .turnOff ++ [.help, .version]

/-- Why a command line is not accepted. -/
inductive UsageError where
  | missingFilename
  | unknown (argument : String)
  | repeated (option : String)
  | unwantedValue (option value : String)
  | valueNeeded (what : String)
deriving DecidableEq, Repr

/-- The wording of an error. Parts of the command line appear as they would show. -/
def UsageError.wording : UsageError → String
  | missingFilename =>
    "error: the following required arguments were not provided:\n  <FILENAME>"
  | unknown argument =>
    "error: unexpected argument '" ++ Text.visible argument ++ "' found"
  | repeated option => "error: the argument '" ++ option ++ "' cannot be used multiple times"
  | unwantedValue option value =>
    "error: unexpected value '" ++ Text.visible value ++ "' for '" ++ option ++
      "' found; no more were expected"
  | valueNeeded what => "error: a value is required for '" ++ what ++ "' but none was supplied"

/-- The wording up to the first empty line. -/
def UsageError.message (e : UsageError) : String :=
  String.ofList (Text.beforeEmptyLine e.wording.toList)

/-- How reading a command line can end without an invocation. -/
inductive Stop where
  | usage (e : UsageError)
  | help (long : Bool)
  | version
deriving DecidableEq, Repr

/-- A value that is not yet settled. -/
inductive Pending where
  | nothing
  /-- The option for the settings file, without its value so far. -/
  | awaiting
  | config (value : String)
  | filename (value : String)
deriving DecidableEq, Repr

/-- What has been read so far. -/
structure Reading where
  /-- Options without a value, in the order in which they came. -/
  seen : List Switch := []
  config : Option String := none
  filename : Option String := none
  pending : Pending := .nothing
  /-- There is a file name, settled or not. -/
  named : Bool := false
  /-- Nothing that follows is an option. -/
  plainOnly : Bool := false

namespace Reading

/-- Settle the settings file. -/
def setConfig (p : Reading) (value : String) : Except Stop Reading :=
  if p.config.isSome then .error (.usage (.repeated Switch.config.shown))
  else if value.isEmpty then .error (.usage (.valueNeeded Switch.config.shown))
  else .ok { p with config := some value, pending := .nothing }

/-- Settle what is pending. -/
def settle (p : Reading) : Except Stop Reading :=
  match p.pending with
  | .nothing => .ok p
  | .awaiting => .error (.usage (.valueNeeded Switch.config.shown))
  | .config value => p.setConfig value
  | .filename value =>
    if value.isEmpty then .error (.usage (.valueNeeded "[FILENAME]"))
    else .ok { p with filename := some value, pending := .nothing }

/-- An option without a value. -/
def flag (p : Reading) (s : Switch) (long : Bool) : Except Stop Reading := do
  let p ← p.settle
  match s with
  | .help => .error (.help long)
  | .version => .error .version
  | s =>
    if p.seen.contains s then .error (.usage (.repeated s.shown))
    else .ok { p with seen := p.seen ++ [s] }

/-- The option for the settings file, with or without its value. -/
def configOption (p : Reading) (value : Option String) : Except Stop Reading := do
  let p ← p.settle
  match value with
  | some v => p.setConfig v
  | none => .ok { p with pending := .awaiting }

/-- An argument that is no option. -/
def positional (p : Reading) (value : String) : Except Stop Reading := do
  if p.named then .error (.usage (.unknown value))
  else
    let p ← p.settle
    .ok { p with pending := .filename value, named := true }

/-- An argument after two dashes, without those: a name, and perhaps an equals sign and a
    value. -/
def longOption (flags : List String) (p : Reading) (body : List Char) :
    Except Stop Reading :=
  let name := body.takeWhile (· ≠ '=')
  let value : Option String :=
    if name.length = body.length then none
    else some (String.ofList (body.drop (name.length + 1)))
  match (switches flags).find? (·.long.toList = name) with
  | none => .error (.usage (.unknown ("--" ++ String.ofList name)))
  | some .config => p.configOption value
  | some s =>
    match value with
    | some v => .error (.usage (.unwantedValue s.shown v))
    | none => p.flag s true

/-- The letters after one dash. The letter for the settings file takes all that follows it as
    its value. -/
def shortOptions (p : Reading) : List Char → Except Stop Reading
  | [] => .ok p
  | 'C' :: rest =>
    let value := match rest with
      | '=' :: rest => rest
      | rest => rest
    p.configOption (if rest.isEmpty then none else some (String.ofList value))
  | 'h' :: _ => p.flag .help false
  | 'V' :: _ => p.flag .version false
  | c :: _ => .error (.usage (.unknown (String.ofList ['-', c])))

/-- One more argument. -/
def take (flags : List String) (p : Reading) (argument : String) : Except Stop Reading :=
  if p.plainOnly then p.positional argument
  else match argument.toList with
    | ['-', '-'] => .ok { p with plainOnly := true }
    | '-' :: '-' :: body => longOption flags p body
    | '-' :: c :: body => shortOptions p (c :: body)
    | _ =>
      match p.pending with
      | .awaiting => .ok { p with pending := .config argument }
      | _ => p.positional argument

/-- The settings file from the environment counts if none is given. -/
def useEnvironment (env : Option String) (p : Reading) : Except Stop Reading :=
  match p.config, env with
  | none, some value => p.setConfig value
  | _, _ => .ok p

end Reading

/-- Read a command line. The flags are those of the actions, `env` is the settings file that
    the environment names. -/
def read (flags : List String) (env : Option String) (args : List String) :
    Except Stop Invocation := do
  let p ← args.foldlM (Reading.take flags) {}
  let p ← p.settle
  let p ← p.useEnvironment env
  let actions := p.seen.contains .actions
  if p.filename.isNone && !actions then .error (.usage .missingFilename)
  else
    .ok { quiet := p.seen.contains .quiet
          actions := actions
          config := p.config
          filename := p.filename
          disabled := flags.filter fun f => p.seen.contains (.turnOff f) }

end Arguments

end SourceTidy
