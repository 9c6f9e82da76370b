/-
  What a running script knows and has written. A descriptor leads to a stream: output goes to
  channels or files, input comes from sources. A channel's chunks are kept with the latest first.
-/
import SourceTidy.Shell.Octets
import SourceTidy.Shell.Source
import SourceTidy.Toolbox.Basic

namespace SourceTidy.Shell

open Text (Bytes)

/-- Where a descriptor leads. -/
inductive Stream where
  | channel (n : Nat)
  | file (place : Location)
  | source (n : Nat)
  /-- What is written is lost, and there is nothing to read. -/
  | nowhere
deriving DecidableEq

/-- Why a script does not go on with its next command. -/
inductive Ending where
  | exited
  /-- Another program took the script's place. -/
  | replaced
  /-- A mistake ended it. -/
  | failed
  | killed (signal : Nat)
  /-- Some loops are left. -/
  | leaving (loops : Nat)
  /-- A loop goes on with its next round, after some inner ones are left. -/
  | again (loops : Nat)
  /-- A function or a file is left. -/
  | returning
deriving DecidableEq, Repr

structure Variable where
  value : Option String := none
  exported : Bool := false
  fixed : Bool := false

structure State where
  files : FileSystem
  home : Location
  /-- The path to the working directory, which may lead through links. -/
  path : Location
  /-- What the script is called in its own messages. -/
  name : String
  args : List String
  bindings : List (String × Variable)
  functions : List (String × Script) := []
  aliases : List (String × String) := []
  /-- The texts of here-documents by their numbers, and how many numbers are used. -/
  documents : List (Nat × Word) := []
  count : Nat := 0
  status : Nat := 0
  streams : List (Nat × Stream) := [(0, .source 0), (1, .channel 0), (2, .channel 1)]
  sources : List Bytes := [[]]
  channels : List (List Bytes) := [[], []]
  /-- Something was written to a descriptor that leads nowhere. -/
  lost : Bool := false
  ending : Option Ending := none
  /-- The options that are set, by their letters. -/
  options : List Char := []
  /-- The number of the process. -/
  number : Nat
  /-- Whether this is a part of a script that has a process of its own. -/
  inner : Bool := false
  /-- What is done when a signal comes; zero stands for the end of the script. -/
  traps : List (Nat × String) := []
  /-- Signals that came and for which something is to be done. -/
  pending : List Nat := []
  /-- Signals that a part with a process of its own sent to the whole script. -/
  sent : List Nat := []
  /-- The status of the latest script that was run for its output. -/
  substituted : Option Nat := none
  /-- The processes in the background with their statuses, the latest first. -/
  jobs : List (Nat × Nat) := []
  /-- In a function, the variables that it took for itself, as they were before. -/
  locals : Option (List (String × Option Variable)) := none
  /-- How many functions are being carried out. -/
  calls : Nat := 0
  /-- How many loops are being carried out in this function. -/
  loops : Nat := 0
  /-- The line that is being carried out. -/
  line : Nat := 0
  /-- The command of the shell that is being carried out, if it is one. -/
  command : Option String := none
  /-- How many letters of an argument `getopts` has read. -/
  letters : Nat := 0
  /-- What new files are not allowed to be used for. -/
  mask : Nat := 18

namespace State

/-- The directory in which small commands are looked for, and their names. -/
def toolDirectory : String := "/usr/bin"

/-- The variables that every script starts with. -/
def startVariables (path : Location) : List (String × Variable) :=
  [("PATH", ⟨some toolDirectory, true, false⟩), ("LC_ALL", ⟨some "C", true, false⟩),
    ("NO_COLOR", ⟨some "1", true, false⟩),
    ("PWD", ⟨some (Octets.ofText path.path), true, false⟩),
    ("IFS", ⟨some " \t\n", false, false⟩), ("OPTIND", ⟨some "1", false, false⟩),
    ("PS1", ⟨some "# ", false, false⟩), ("PS2", ⟨some "> ", false, false⟩),
    ("PS4", ⟨some "+ ", false, false⟩)]

/-- The state in which a script begins. -/
def start (files : FileSystem) (home : Location) (name : String) (args : List String)
    (number : Nat) : State :=
  { files := files, home := home, path := home, name := name, args := args,
    bindings := startVariables home, number := number }

def withStatus (st : State) (status : Nat) : State := { st with status := status }

def running (st : State) : Bool := st.ending.isNone

def has (st : State) (option : Char) : Bool := st.options.contains option

/-- What was written to a channel. -/
def written (st : State) (channel : Nat) : Bytes :=
  ((st.channels[channel]?).getD []).reverse.flatten

/-- Write to a descriptor. -/
def emit (st : State) (fd : Nat) (b : Bytes) : State :=
  if b.isEmpty then st
  else match st.streams.lookup fd with
    | some (.channel n) => { st with channels := st.channels.modify n (b :: ·) }
    | some (.file place) =>
      match st.files.node? place with
      | some (.file old) => { st with files := st.files.setContent place (old ++ b) }
      | _ => st
    | some .nowhere => st
    | _ => { st with lost := true }

/-- Write octets to a descriptor. -/
def print (st : State) (fd : Nat) (s : String) : State := st.emit fd (Octets.toBytes s.toList)

/-- What is left to read from a descriptor. -/
def unread (st : State) (fd : Nat) : Bytes :=
  match st.streams.lookup fd with
  | some (.source n) => (st.sources[n]?).getD []
  | _ => []

/-- Something of a descriptor was read, and this is left. -/
def afterReading (st : State) (fd : Nat) (rest : Bytes) : State :=
  match st.streams.lookup fd with
  | some (.source n) => { st with sources := st.sources.set n rest }
  | _ => st

/-- Let a descriptor lead to a stream. -/
def redirect (st : State) (fd : Nat) (stream : Stream) : State :=
  { st with streams := (fd, stream) :: st.streams.filter (·.1 ≠ fd) }

/-- Let a descriptor lead nowhere at all. -/
def close (st : State) (fd : Nat) : State :=
  { st with streams := st.streams.filter (·.1 ≠ fd) }

/-- Let a descriptor lead to some bytes. -/
def feed (st : State) (fd : Nat) (b : Bytes) : State :=
  { st with sources := st.sources ++ [b] }.redirect fd (.source st.sources.length)

/-- What the script calls itself in a message, and where it is. -/
def label (st : State) : String :=
  st.name ++ ": " ++ toString st.line ++
    match st.command with
    | some c => ": " ++ c
    | none => ""

/-- Complain, and give a status. -/
def complain (st : State) (status : Nat) (text : String) : State :=
  (st.print 2 (st.label ++ ": " ++ text ++ "\n")).withStatus status

/-- Complain, and end the script. -/
def fail (st : State) (text : String) : State :=
  { st.complain 2 text with ending := some .failed }

def binding? (st : State) (name : String) : Option Variable := st.bindings.lookup name

def value? (st : State) (name : String) : Option String := (st.binding? name).bind (·.value)

/-- Put a variable in place of the one of its name, or take that one away. -/
def setVariable (st : State) (name : String) (v : Option Variable) : State :=
  let others := st.bindings.filter (·.1 ≠ name)
  { st with bindings := match v with
    | some v => (name, v) :: others
    | none => others }

/-- Give a variable a value. -/
def assign (st : State) (name value : String) : State :=
  let v := (st.binding? name).getD {}
  if v.fixed then st.fail (name ++ ": is read only")
  else
    let st := if name = "OPTIND" then { st with letters := 0 } else st
    st.setVariable name (some { v with value := some value, exported := v.exported || st.has 'a' })

/-- Run a small command in the script's place. -/
def useTool (st : State) (tool : Toolbox.Setting → List String → Toolbox.Result)
    (args : List String) : State :=
  let sink := match st.streams.lookup 1 with
    | some (.file place) => some place
    | _ => none
  let r := tool ⟨st.home, st.files, st.unread 0, sink⟩ (args.map Octets.toText)
  let after := match r.unread with
    | some rest => { st with files := r.files }.afterReading 0 rest
    | none => { st with files := r.files }
  (r.output.foldl (fun (st : State) w =>
    match w with
    | .result b => st.emit 1 b
    | .complaint b => st.emit 2 b) after).withStatus r.code

/-- Do something with a new channel in place of standard output: what was written there, and
    the state afterwards. -/
def captured (st : State) (act : State → State) : Bytes × State :=
  let n := st.channels.length
  let after := act ({ st with channels := st.channels ++ [[]] }.redirect 1 (.channel n))
  (after.written n, { after with streams := st.streams, channels := after.channels.take n })

/-- The state in which a part of the script begins that has a process of its own. -/
def entered (st : State) : State :=
  { st with inner := true, traps := st.traps.filter (·.2.isEmpty), pending := [], sent := [],
            jobs := [] }

/-- The state after a part that had a process of its own: only files, streams and what was sent
    remain of it. -/
def afterPart (st part : State) : State :=
  { st with
    files := part.files
    channels := part.channels
    sources := part.sources
    sent := st.sent ++ part.sent
    status := match part.ending with
      | some (.killed signal) => 128 + signal
      | _ => part.status }

end State

end SourceTidy.Shell
