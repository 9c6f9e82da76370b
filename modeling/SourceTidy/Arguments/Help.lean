/-
  What the program says about itself: its version, and its options in a short and in a long
  form. In the short form the texts of the options stand in one column beside them, if there is
  room for all; otherwise, and in the long form, each stands below its option.
-/
import SourceTidy.Arguments.Basic
import SourceTidy.Styled

namespace SourceTidy.Arguments

def versionText : String := "torq 0.1.0\n"

/-- The first paragraph of the short form. -/
def summary : String :=
  "Runs a fixed pipeline of formatting, header, doctest, and lint actions over Python sources"

/-- The first paragraphs of the long form. -/
def about : String :=
  "torq is a combination style checker and linter for Python scripts. It is used to verify " ++
  "compliance for code displayed in example files or a screencast, with a very particular, " ++
  "very opinionated style. Any code run through torq is formatted with Black, corrected to " ++
  "remove double blank lines, checked for file headers, has its .repl examples run through " ++
  "doctest, and is linted with Flake8.\n\n" ++
  "Run \"torq --actions\" for a detailed list of what each action does and in what order."

/-- The letter of an option. -/
def Switch.letter? : Switch → Option String
  | config => some "C"
  | help => some "h"
  | version => some "V"
  | _ => none

/-- What an option is for. -/
def Switch.purpose (long : Bool) : Switch → String
  | quiet => "Silences messages that are not errors"
  | actions => "Displays information on the actions torq runs"
  | config => "Use specific config file"
  | turnOff flag => "Stops the " ++ flag ++ " action from running"
  | help =>
    if long then "Print help (see a summary with '-h')" else "Print help (see more with '--help')"
  | version => "Print version"

/-- The environment variable behind an option, and what it holds. -/
def Switch.fromEnvironment (env : Option String) : Switch → Option String
  | config => some ("[env: TORQ_CONFIG=" ++ env.getD "" ++ "]")
  | _ => none

def usageLine : String := "Usage: torq [OPTIONS] [FILENAME]"

def filenamePurpose : String := "Name of file or directory to process"

/-- A part of the command line in the style of such parts. -/
def literal (s : String) : String := escapeSequence "1" ++ s ++ resetSequence

/-- An option at the head of its entry. -/
def Switch.head (s : Switch) : String :=
  "  " ++ (match s.letter? with
    | some c => literal ("-" ++ c) ++ ", "
    | none => "    ") ++ literal ("--" ++ s.long) ++ s.operand

/-- In the text of an option a letter n between braces stands for a new line. -/
def breakLines : List Char → List Char
  | '\x7b' :: 'n' :: '\x7d' :: s => '\n' :: breakLines s
  | c :: s => c :: breakLines s
  | [] => []

/-- The text of an entry. -/
def Switch.text (env : Option String) (long : Bool) (s : Switch) : String :=
  String.ofList (breakLines (s.purpose long).toList) ++
    match s.fromEnvironment env with
    | some e => (if long then "\n\n" else " ") ++ e
    | none => ""

/-- The columns that the help has. -/
def helpWidth : Nat := 100

/-- The indentation of a text below its option. -/
def indentation : Nat := 10

def spaces (n : Nat) : String := String.ofList (List.replicate n ' ')

/-- The columns of the longest option. -/
def longest (all : List Switch) : Nat := (all.map fun s => Text.columns s.shown).foldr max 2

/-- Where the texts start if they stand beside options of up to that many columns: after a
    margin of two, the letter, and a gap of two. -/
def textColumn (longest : Nat) : Nat := longest + 8

/-- There is too little room for the text of an option in a column that leaves less than three
    fifths of the width. -/
def Switch.crowded (env : Option String) (column : Nat) (s : Switch) : Bool :=
  column ≤ helpWidth && 2 * helpWidth < 5 * column &&
    helpWidth - column <
      Text.visibleColumns (s.purpose false) + ((s.fromEnvironment env).map Text.columns).getD 0

/-- The entry of an option, its text below it. -/
def Switch.entryBelow (env : Option String) (long : Bool) (s : Switch) : String :=
  s.head ++ "\n" ++ spaces indentation ++ Text.hanging indentation (s.text env long) ++ "\n"

/-- The entry of an option, its text beside it. -/
def Switch.entryBeside (env : Option String) (longest : Nat) (s : Switch) : String :=
  s.head ++ spaces (longest + 2 - Text.columns s.shown) ++
    Text.hanging (textColumn longest) (s.text env false) ++ "\n"

/-- The entries of the short form. -/
def shortEntries (env : Option String) (all : List Switch) : List String :=
  if all.any (Switch.crowded env (textColumn (longest all))) then
    all.map (Switch.entryBelow env false)
  else all.map (Switch.entryBeside env (longest all))

def shortHelp (flags : List String) (env : Option String) : String :=
  summary ++ "\n\n" ++ usageLine ++ "\n\nArguments:\n  [FILENAME]  " ++ filenamePurpose ++
    "\n\nOptions:\n" ++ String.join (shortEntries env (switches flags))

def longHelp (flags : List String) (env : Option String) : String :=
  about ++ "\n\n" ++ usageLine ++ "\n\nArguments:\n  [FILENAME]\n" ++
    spaces indentation ++ filenamePurpose ++ "\n\nOptions:\n" ++
    "\n".intercalate ((switches flags).map (Switch.entryBelow env true))

/-- The help in the form asked for, as it shows. -/
def help (flags : List String) (env : Option String) (long : Bool) : String :=
  Text.visible (if long then longHelp flags env else shortHelp flags env)

end SourceTidy.Arguments
