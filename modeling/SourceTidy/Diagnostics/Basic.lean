/-
  What goes to the error output while a run is under way: log lines, which a filter may hold
  back, and the error output of tools, which always passes.
-/

namespace SourceTidy

/-- How much a filter lets pass: each level includes those before it. -/
inductive Level where
  | off
  | error
  | warn
  | info
  | debug
  | trace
deriving DecidableEq, Repr

namespace Level

def rank : Level → Nat
  | off => 0
  | error => 1
  | warn => 2
  | info => 3
  | debug => 4
  | trace => 5

/-- The name in front of a log line, five characters wide. -/
def label : Level → String
  | off => "  OFF"
  | error => "ERROR"
  | warn => " WARN"
  | info => " INFO"
  | debug => "DEBUG"
  | trace => "TRACE"

end Level

/-- The part of the program that a log line is about. -/
inductive Topic where
  | configuration
  | run
  | pipeline
  | action
  | tool
  | walk
deriving DecidableEq, Repr

/-- The name of a topic, as filters give it. -/
def Topic.name : Topic → String
  | configuration => "torq::config"
  | run => "torq::cmd_run"
  | pipeline => "torq::pipeline"
  | action => "torq::action"
  | tool => "torq::tool"
  | walk => "torq::walker"

/-- Something for the error output. -/
inductive Note where
  | log (topic : Topic) (level : Level) (text : String)
  /-- Error output of a tool, as it came. -/
  | toolError (text : String)
deriving DecidableEq, Repr

/-- A character of a log line. Characters that a terminal would act on are spelled out. -/
def logChar (c : Char) : List Char :=
  if c = '\x07' || c = '\x08' || c = '\x0c' || c = '\x1b' || c = '\x7f' then
    ['\\', 'x', Nat.digitChar (c.toNat / 16), Nat.digitChar (c.toNat % 16)]
  else if 0x80 ≤ c.toNat && c.toNat ≤ 0x9f then
    ['\\', 'u', '\x7b', Nat.digitChar (c.toNat / 16), Nat.digitChar (c.toNat % 16), '\x7d']
  else [c]

/-- The text of a log line. -/
def logText (text : String) : String := String.ofList (text.toList.flatMap logChar)

/-- The text of a note, if lines of its topic and level pass. -/
def Note.render (passes : Topic → Level → Bool) : Note → String
  | log topic level text =>
    if passes topic level then level.label ++ " " ++ logText text ++ "\n" else ""
  | toolError text => text

/-- The error output that some notes make. -/
def renderNotes (passes : Topic → Level → Bool) (notes : List Note) : String :=
  String.join (notes.map (Note.render passes))

end SourceTidy
