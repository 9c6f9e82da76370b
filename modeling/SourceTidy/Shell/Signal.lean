/-
  Signals: their names, how one is sent with `kill`, and what `trap` has a script do about them.
  Zero stands for the end of the script.
-/
import SourceTidy.Shell.State

namespace SourceTidy.Shell

namespace Signal

/-- The first signals in the order of their numbers: names, and what is said of a process that
    one of them ended. -/
def table : List (String × String) :=
  [("EXIT", ""), ("HUP", "Hangup"), ("INT", ""), ("QUIT", "Quit"), ("ILL", "Illegal instruction"),
    ("TRAP", "Trace/breakpoint trap"), ("ABRT", "Aborted"), ("BUS", "Bus error"),
    ("FPE", "Floating point exception"), ("KILL", "Killed"), ("USR1", "User defined signal 1"),
    ("SEGV", "Segmentation fault"), ("USR2", "User defined signal 2"), ("PIPE", ""),
    ("ALRM", "Alarm clock"), ("TERM", "Terminated"), ("16", "Stack fault"),
    ("CHLD", "Child exited"), ("CONT", "Continued"), ("STOP", "Stopped (signal)"),
    ("TSTP", "Stopped"), ("TTIN", "Stopped (tty input)"), ("TTOU", "Stopped (tty output)"),
    ("URG", "Urgent I/O condition"), ("XCPU", "CPU time limit exceeded"),
    ("XFSZ", "File size limit exceeded"), ("VTALRM", "Virtual timer expired"),
    ("PROF", "Profiling timer expired"), ("WINCH", "Window changed"), ("IO", "I/O possible"),
    ("PWR", "Power failure"), ("SYS", "Bad system call")]

/-- The last signal. -/
def last : Nat := 64

/-- The name of a signal. The last ones are counted from both ends of their range. -/
def name (n : Nat) : String :=
  match table[n]? with
  | some (s, _) => s
  | none =>
    if n < 34 then toString n
    else if n = 34 then "RTMIN"
    else if n < 50 then "RTMIN+" ++ toString (n - 34)
    else if n < last then "RTMAX-" ++ toString (last - n)
    else "RTMAX"

/-- What is said of a process that a signal ended; nothing of two that are common. -/
def remark (n : Nat) : String :=
  match table[n]? with
  | some (_, s) => s
  | none => "Real-time signal " ++ toString (n - 34)

/-- Signals that do not end a process of themselves. -/
def harmless : List Nat := [0, 17, 18, 19, 20, 21, 22, 23, 28]

/-- The number that is written in decimal digits. -/
def digits? (s : String) : Option Nat :=
  if !s.isEmpty && s.toList.all Char.isDigit then s.toNat? else none

/-- The signal of a number or of a name. -/
def ofText? (s : String) : Option Nat :=
  match digits? s with
  | some n => if n ≤ last then some n else none
  | none => (List.range (last + 1)).find? fun n => (name n).toUpper = s.toUpper

end Signal

/-- A text between quotation marks, so that a script that contains it reads it back. -/
def singleQuoted (s : String) : String :=
  let rec go : Nat → List Char → List Char
    | 0, _ => []
    | n + 1, s =>
      let plain := s.takeWhile (· ≠ '\x27')
      let rest := s.drop plain.length
      let marks := rest.takeWhile (· = '\x27')
      let after := rest.drop marks.length
      '\x27' :: plain ++ ['\x27'] ++
        (if marks.isEmpty then [] else '\x22' :: marks ++ ['\x22']) ++
        (if after.isEmpty then [] else go n after)
  String.ofList (go (s.length + 1) s.toList)

/-- The number that an argument has to be. -/
def numberArgument (s : String) : Except String Nat :=
  match Signal.digits? s with
  | some n => .ok n
  | none => .error ("Illegal number: " ++ s)

/-- The options in front of some arguments, each with its own argument, and the other arguments.
    A colon stands behind letters of options that have one. -/
def optionsOf (letters : List Char) : Nat → List String →
    Except String (List (Char × String) × List String)
  | 0, args => .ok ([], args)
  | n + 1, args =>
    match args with
    | [] => .ok ([], [])
    | "--" :: rest => .ok ([], rest)
    | a :: rest =>
      match a.toList with
      | '-' :: c :: more =>
        let after := (letters.dropWhile (· ≠ c)).drop 1
        if c = ':' || !letters.contains c then .error ("Illegal option -" ++ String.singleton c)
        else if after.head? = some ':' then
          match more, rest with
          | [], [] => .error ("No arg for -" ++ String.singleton c ++ " option")
          | [], v :: rest => (optionsOf letters n rest).map fun (os, r) => ((c, v) :: os, r)
          | more, rest =>
            (optionsOf letters n rest).map fun (os, r) => ((c, String.ofList more) :: os, r)
        else
          let rest := if more.isEmpty then rest else String.ofList ('-' :: more) :: rest
          (optionsOf letters n rest).map fun (os, r) => ((c, "") :: os, r)
      | _ => .ok ([], a :: rest)

/-- Go on with what was found out, or end with what is wrong. -/
def State.orFail {α : Type} (st : State) (r : Except String α) (act : α → State) : State :=
  match r with
  | .ok a => act a
  | .error text => st.fail text

/-- The options and other arguments of a command, with what it does. -/
def State.withOptions (st : State) (letters : String) (args : List String)
    (act : List (Char × String) → List String → State) : State :=
  let size := args.foldl (fun n a => n + a.length) 0 + args.length + 1
  st.orFail (optionsOf letters.toList size args) fun (os, rest) => act os rest

/-- A signal comes to the script. -/
def State.receive (st : State) (signal : Nat) : State :=
  match st.traps.lookup signal with
  | some action => if action.isEmpty then st else { st with pending := st.pending ++ [signal] }
  | none =>
    if Signal.harmless.contains signal then st
    else { st with ending := some (.killed signal) }

/-- Send a signal to processes. Only the script itself can be reached. -/
def sendTo (signal : Nat) : List String → State → State
  | [], st => st
  | target :: rest, st =>
    if target.toList.head? = some '%' then st.fail ("No such job: " ++ target)
    else
      let digits := if target.toList.head? = some '-' then (target.drop 1).toString else target
      st.orFail (numberArgument digits) fun n =>
        let st :=
          if n = st.number || n = 0 then
            if st.inner then { st with sent := st.sent ++ [signal] } else st.receive signal
          else if st.jobs.any (·.1 = n) then st
          else st.complain 1 "No such process\n"
        if st.running then sendTo signal rest st else st

/-- `kill`. -/
def kill (args : List String) (st : State) : State :=
  let usage := st.fail
    "Usage: kill [-s sigspec | -signum | -sigspec] [pid | job]... or\nkill -l [exitstatus]"
  let send := fun (signal : Nat) (targets : List String) =>
    if targets.isEmpty then usage else sendTo signal targets (st.withStatus 0)
  match args with
  | [] => usage
  | a :: rest =>
    if a.toList.head? ≠ some '-' then send 15 args
    else match (if a = "-" then none else Signal.ofText? (a.drop 1).toString) with
      | some signal => if signal = 0 && a ≠ "-0" then usage else send signal rest
      | none =>
        st.withOptions "ls:" args fun os others =>
          match os.find? (·.1 = 's') with
          | some (_, s) =>
            match Signal.ofText? s with
            | some signal => send signal others
            | none => st.fail ("invalid signal number or name: " ++ s)
          | none =>
            if !os.any (·.1 = 'l') then send 15 others
            else match others with
              | [] =>
                (st.print 1 ("0\n" ++ String.join ((List.range' 1 Signal.last).map fun n =>
                  Signal.name n ++ "\n"))).withStatus 0
              | s :: _ =>
                st.orFail (numberArgument s) fun n =>
                  let n := if 128 < n then n - 128 else n
                  if 0 < n ∧ n ≤ Signal.last then
                    (st.print 1 (Signal.name n ++ "\n")).withStatus 0
                  else st.fail ("invalid signal number or exit status: " ++ s)

/-- Set what is done when signals come; none for what is done of itself. -/
def setTraps (action : Option String) : List String → State → State
  | [], st => st.withStatus 0
  | s :: rest, st =>
    match Signal.ofText? s with
    | none => (st.print 2 ("trap: " ++ s ++ ": bad trap\n")).withStatus 1
    | some signal =>
      let others := st.traps.filter (·.1 ≠ signal)
      setTraps action rest { st with traps := match action with
        | some text => (signal, text) :: others
        | none => others }

/-- `trap`. -/
def trap (args : List String) (st : State) : State :=
  st.withOptions "" args fun _ args =>
    match args with
    | [] =>
      (st.print 1 (String.join ((List.range (Signal.last + 1)).filterMap fun n =>
        (st.traps.lookup n).map fun action =>
          "trap -- " ++ singleQuoted action ++ " " ++ Signal.name n ++ "\n"))).withStatus 0
    | [s] => setTraps none [s] st
    | action :: rest =>
      if (Signal.digits? action).any (· ≤ Signal.last) then setTraps none args st
      else setTraps (if action = "-" then none else some action) rest st

end SourceTidy.Shell
