/-
  Commands that work on the script's own state: variables, arguments, options, the working
  directory, and the ways to end.
-/
import SourceTidy.Shell.Expansion
import SourceTidy.Shell.Grammar
import SourceTidy.Shell.Signal
import SourceTidy.Shell.Test
import SourceTidy.Toolbox.Catenate
import SourceTidy.Toolbox.Files
import SourceTidy.Toolbox.Format

namespace SourceTidy.Shell

/-- The number that the first argument has to be, or a default. -/
def countOf (args : List String) (default : Nat) : Except String Nat :=
  match args with
  | [] => .ok default
  | a :: _ => numberArgument a

/-- `exit`. -/
def exit (args : List String) (st : State) : State :=
  st.orFail (countOf args st.status) fun n =>
    { st with status := n % 256, ending := some .exited }

/-- `return`. -/
def returnFrom (args : List String) (st : State) : State :=
  st.orFail (countOf args st.status) fun n =>
    { st with status := n, ending := some .returning }

/-- `break` and `continue`. Outside of loops nothing is left. -/
def leaveLoops (ending : Nat → Ending) (args : List String) (st : State) : State :=
  st.orFail (countOf args 1) fun n =>
    if n = 0 then st.fail ("Illegal number: " ++ args.headD "")
    else if st.loops = 0 then st.withStatus 0
    else { st with status := 0, ending := some (ending (min n st.loops)) }

/-- `shift`. -/
def shift (args : List String) (st : State) : State :=
  st.orFail (countOf args 1) fun n =>
    if n ≤ st.args.length then { st with args := st.args.drop n, status := 0 }
    else st.fail "can't shift that many"

/-- A path below a directory, parts that lead back taken out with what they lead back from. -/
def descend (l : Location) (path : String) : Location :=
  (path.splitOn "/").foldl (fun l part =>
    if part.isEmpty || part = "." then l
    else if part = ".." then l.dropLast
    else l ++ [part]) (if path.startsWith "/" then [] else l)

/-- `cd`. -/
def changeDirectory (args : List String) (st : State) : State :=
  st.withOptions "LP" args fun os args =>
    let (target, shows) := match args with
      | [] => ((st.value? "HOME").getD "", false)
      | "-" :: _ => ((st.value? "OLDPWD").getD "", true)
      | a :: _ => (a, false)
    let path := descend st.path (Octets.toText target)
    let physical := (os.getLast?.map Prod.fst) = some 'P'
    let fail := st.fail ("can't cd to " ++ target)
    match st.files.openDirectory st.home
        (if physical then (if target.isEmpty then "." else Octets.toText target)
          else path.path) with
    | .ok (place, _) =>
      let path := if physical then place else path
      let st := st.setVariable "OLDPWD" (some ⟨some ((st.value? "PWD").getD ""), true, false⟩)
      let st := { st with home := place, path := path }.setVariable "PWD"
        (some ⟨some (Octets.ofText path.path), true, false⟩)
      ((if shows then st.print 1 (Octets.ofText path.path ++ "\n") else st)).withStatus 0
    | .error _ => fail

/-- `pwd`. -/
def printDirectory (args : List String) (st : State) : State :=
  st.withOptions "LP" args fun os _ =>
    let place := if os.getLast?.map Prod.fst = some 'P' then st.home else st.path
    (st.print 1 (Octets.ofText place.path ++ "\n")).withStatus 0

/-- The names of options with their letters. -/
def optionNames : List (String × Char) :=
  [("errexit", 'e'), ("noglob", 'f'), ("ignoreeof", 'I'), ("interactive", 'i'), ("monitor", 'm'),
    ("noexec", 'n'), ("stdin", 's'), ("xtrace", 'x'), ("verbose", 'v'), ("vi", 'V'),
    ("emacs", 'E'), ("noclobber", 'C'), ("allexport", 'a'), ("notify", 'b'), ("nounset", 'u')]

/-- Set an option, or take it back. -/
def State.setOption (st : State) (on : Bool) (letter : Char) : Except String State :=
  if !optionLetters.contains letter then .error ("Illegal option -" ++ String.singleton letter)
  else
    let others := st.options.filter (· ≠ letter)
    .ok { st with options := if on then letter :: others else others }

/-- Set options by letters; an "o" takes a name from the arguments. -/
def State.setLetters (on : Bool) : List Char → List String → State →
    Except String (State × List String)
  | [], args, st => .ok (st, args)
  | 'o' :: letters, args, st =>
    match args with
    | [] =>
      let line := fun (o : String × Char) =>
        if on then o.1 ++ "".pushn ' ' (16 - o.1.length) ++ (if st.has o.2 then "on\n" else "off\n")
        else "set " ++ (if st.has o.2 then "-o " else "+o ") ++ o.1 ++ "\n"
      let text := (if on then "Current option settings\n" else "") ++
        String.join (optionNames.map line)
      setLetters on letters [] (st.print 1 text)
    | name :: args => do
      match optionNames.lookup name with
      | some c => setLetters on letters args (← st.setOption on c)
      | none => .error ("Illegal option -o " ++ name)
  | c :: letters, args, st => do setLetters on letters args (← st.setOption on c)

/-- Set the options in front of some arguments; the arguments that are left, and whether they
    are meant to be new ones even if there are none. -/
def State.setOptions : Nat → List String → State → Except String (State × List String × Bool)
  | 0, args, st => .ok (st, args, false)
  | n + 1, args, st =>
    match args with
    | [] => .ok (st, [], false)
    | "--" :: rest => .ok (st, rest, true)
    | "-" :: rest =>
      .ok ({ st with options := st.options.filter fun c => c ≠ 'x' && c ≠ 'v' }, rest, false)
    | a :: rest =>
      match a.toList with
      | '-' :: letters => do
        let (st, rest) ← setLetters true letters rest st
        setOptions n rest st
      | '+' :: letters => do
        let (st, rest) ← setLetters false letters rest st
        setOptions n rest st
      | _ => .ok (st, a :: rest, false)

/-- Variables as a script would set them again, in the order of their names. -/
def State.settings (st : State) (front : String) (chosen : Variable → Bool) : String :=
  let found := (st.bindings.filter fun v => chosen v.2).mergeSort fun a b => decide (a.1 ≤ b.1)
  String.join (found.map fun (name, v) =>
    front ++ name ++ (match v.value with
      | some s => "=" ++ singleQuoted s
      | none => "") ++ "\n")

/-- `set`. -/
def set (args : List String) (st : State) : State :=
  if args.isEmpty then (st.print 1 (st.settings "" (·.value.isSome))).withStatus 0
  else st.orFail (st.setOptions (args.length + 1) args) fun (st, rest, anew) =>
    { st with args := if rest.isEmpty && !anew then st.args else rest, status := 0 }

/-- Do something with the name of each argument, and with the value behind it if there is one,
    as long as the name can be one. -/
def forNames (act : String → Option String → State → State) : List String → State → State
  | [], st => st.withStatus 0
  | a :: rest, st =>
    let name := a.toList.takeWhile (· ≠ '=')
    if !isName name then st.fail (String.ofList name ++ ": bad variable name")
    else
      let value := if name.length = a.length then none
        else some (String.ofList (a.toList.drop (name.length + 1)))
      let st := act (String.ofList name) value st
      if st.running then forNames act rest st else st

/-- `export` and `readonly`: mark variables, perhaps with a new value. -/
def markVariables (front : String) (mark : Variable → Variable) (marked : Variable → Bool)
    (args : List String) (st : State) : State :=
  st.withOptions "p" args fun os args =>
    if !os.isEmpty || args.isEmpty then (st.print 1 (st.settings front marked)).withStatus 0
    else forNames (fun name value st =>
      let st := match value with
        | some v => st.assign name v
        | none => st
      if st.running then st.setVariable name (some (mark ((st.binding? name).getD {}))) else st)
      args st

/-- `local`: variables that are as they were when the function is left. -/
def makeLocal (args : List String) (st : State) : State :=
  match st.locals with
  | none => st.fail "not in a function"
  | some _ =>
    forNames (fun name value st =>
      let st := { st with locals := st.locals.map ((name, st.binding? name) :: ·) }
      match value with
      | some v => st.assign name v
      | none => st) args st

/-- `unset`. -/
def unset (args : List String) (st : State) : State :=
  st.withOptions "vf" args fun os args =>
    if os.getLast?.map Prod.fst = some 'f' then
      { st with functions := st.functions.filter fun f => !args.contains f.1, status := 0 }
    else forNames (fun name _ st =>
      if ((st.binding? name).getD {}).fixed then st.fail (name ++ ": is read only")
      else st.setVariable name none) args st

/-- The characters of a line of input, and whether they were behind a backslash. A backslash
    joins two lines. Also whether the line was ended, and what follows it. -/
def inputLine (raw : Bool) : List Char → List (Char × Bool) × Bool × List Char
  | [] => ([], false, [])
  | '\n' :: s => ([], true, s)
  | '\x00' :: s => inputLine raw s
  | '\\' :: c :: s =>
    if raw then
      let (line, ended, rest) := inputLine raw (c :: s)
      (('\\', false) :: line, ended, rest)
    else
      let (line, ended, rest) := inputLine raw s
      ((if c = '\n' then line else (c, true) :: line), ended, rest)
  | c :: s =>
    let (line, ended, rest) := inputLine raw s
    ((if c = '\\' && !raw then line else (c, false) :: line), ended, rest)
termination_by s => s.length

/-- The first field of some atoms, and what follows it with the blanks and the separator that
    belong to the field left out. -/
def firstField (as : List Atom) : Field × List Atom :=
  let isChar := fun (a : Atom) =>
    match a with
    | .char _ _ => true
    | _ => false
  let as := as.dropWhile (· = .blank)
  let rest := (as.dropWhile isChar).dropWhile (· = .blank)
  (Atom.field (as.takeWhile isChar),
    match rest with
    | .separator :: rest => rest.dropWhile (· = .blank)
    | rest => rest)

/-- Give names the fields of a line, whose characters may be quoted; the last name gets all that
    is left. -/
def readInto (e : Expander) (line : List (Char × Bool)) (names : List String) (st : State) :
    State :=
  let as := line.flatMap fun (c, q) => e.put st (String.singleton c) q
  let plain := fun (a : Atom) => a = .blank
  let rec go : List String → List Atom → List (Char × Bool) → State → State
    | [], _, _, st => st
    | [name], as, line, st =>
      let as' := as.dropWhile plain
      let value := match fields as' none false with
        | [] => []
        | [f] => f.text
        | _ =>
          let kept := (as'.reverse.dropWhile plain).length
          ((line.drop (as.length - as'.length)).take kept).map Prod.fst
      st.assign name (String.ofList value)
    | name :: names, as, line, st =>
      let (f, rest) := firstField as
      let st := st.assign name (String.ofList f.text)
      if st.running then go names rest (line.drop (as.length - rest.length)) st else st
  go names as line st

/-- `read`: one line of the input. -/
def readLine (args : List String) (st : State) : State :=
  st.withOptions "p:r" args fun os names =>
    if names.isEmpty then st.fail "arg count"
    else match names.find? fun name => !isName name.toList with
      | some name => st.fail (name ++ ": bad variable name")
      | none =>
        let (line, ended, rest) :=
          inputLine (os.any (·.1 = 'r')) (Octets.ofBytes (st.unread 0))
        let st := st.afterReading 0 (Octets.toBytes rest)
        let st := readInto ⟨fun _ st => ([], st), true⟩ line names
          (st.withStatus (if ended then 0 else 1))
        st

/-- What `getopts` finds at a place in some arguments: the letter, its argument, the number of
    the next argument and how many of its letters are read, or that there are no more options. -/
structure Found where
  letter : Char
  argument : Option String
  next : Nat
  letters : Nat
  complaint : String := ""
  done : Bool := false

/-- Look for the next option, from an argument on of which some letters are read. -/
def findOption (allowed : List Char) (args : List String) (index letters : Nat) : Found :=
  let quiet := allowed.head? = some ':'
  let current := ((args[index - 2]?).getD "").toList
  let inside := 2 ≤ index ∧ 0 < letters ∧ letters < current.length
  let (letters?, next) : Option (List Char) × Nat :=
    if inside then (some (current.drop letters), index)
    else match (args[index - 1]?).map String.toList with
      | some ['-', '-'] => (none, index + 1)
      | some ('-' :: c :: more) => (some (c :: more), index + 1)
      | _ => (none, index)
  match letters? with
  | none => ⟨'?', none, next, 0, "", true⟩
  | some [] => ⟨'?', none, next, 0, "", true⟩
  | some (c :: more) =>
    let word := ((args[next - 2]?).getD "").toList
    let read := if more.isEmpty then 0 else word.length - more.length
    let after := (allowed.dropWhile (· ≠ c)).drop 1
    if c = ':' || !allowed.contains c then
      if quiet then ⟨'?', some (String.singleton c), next, read, "", false⟩
      else ⟨'?', none, next, read, "Illegal option -" ++ String.singleton c ++ "\n", false⟩
    else if after.head? = some ':' then
      if !more.isEmpty then ⟨c, some (String.ofList more), next, 0, "", false⟩
      else match args[next - 1]? with
        | some v => ⟨c, some v, next + 1, 0, "", false⟩
        | none =>
          if quiet then ⟨':', some (String.singleton c), next, 0, "", false⟩
          else ⟨'?', none, next, 0, "No arg for -" ++ String.singleton c ++ " option\n", false⟩
    else ⟨c, some "", next, read, "", false⟩

/-- `getopts`. -/
def getopts (args : List String) (st : State) : State :=
  match args with
  | allowed :: name :: rest =>
    let index := max 1 (((st.value? "OPTIND").bind Signal.digits?).getD 1)
    let f := findOption allowed.toList (if rest.isEmpty then st.args else rest) index st.letters
    let st := st.print 2 f.complaint
    let st := if f.done then st
      else match f.argument with
        | some v => st.assign "OPTARG" v
        | none => st.setVariable "OPTARG" none
    let st := { st.assign "OPTIND" (toString f.next) with letters := f.letters }
    if !isName name.toList then st.fail (name ++ ": bad variable name")
    else (st.assign name (String.singleton f.letter)).withStatus (if f.done then 1 else 0)
  | _ => st.fail "Usage: getopts optstring var [arg]"

/-- What a mask leaves to one kind of user: the letters of the three lowest bits that it does
    not take away. -/
def leftBy (mask : Nat) : String :=
  (if mask / 4 % 2 = 0 then "r" else "") ++ (if mask / 2 % 2 = 0 then "w" else "") ++
    (if mask % 2 = 0 then "x" else "")

/-- `umask`, as far as it tells the mask or takes octal digits. -/
def mask (args : List String) (st : State) : State :=
  st.withOptions "S" args fun os args =>
    match args with
    | [] =>
      let digits := String.ofList (Nat.toDigits 8 st.mask)
      let text := if os.isEmpty then "".pushn '0' (4 - digits.length) ++ digits
        else "u=" ++ leftBy (st.mask / 64) ++ ",g=" ++ leftBy (st.mask / 8) ++ ",o=" ++
          leftBy st.mask
      (st.print 1 (text ++ "\n")).withStatus 0
    | a :: _ =>
      if !(a.toList.headD ' ').isDigit then st.withStatus 0
      else match (Sum.digitsFrom 8 a.toList) with
        | (n, []) => { st with mask := n.toNat % 512, status := 0 }
        | _ => st.fail ("Illegal number: " ++ a)

/-- `alias`. -/
def makeAliases (args : List String) (st : State) : State :=
  let shown := fun (a : String × String) => a.1 ++ "=" ++ singleQuoted a.2 ++ "\n"
  if args.isEmpty then
    (st.print 1 (String.join ((st.aliases.mergeSort fun a b => decide (a.1 ≤ b.1)).map
      shown))).withStatus 0
  else args.foldl (fun (st : State) a =>
    let name := String.ofList (a.toList.takeWhile (· ≠ '='))
    if name.length < a.length && !name.isEmpty then
      { st with aliases := (name, String.ofList (a.toList.drop (name.length + 1))) ::
          st.aliases.filter (·.1 ≠ name) }
    else match st.aliases.lookup a with
      | some text => st.print 1 (shown (a, text))
      | none => (st.print 2 ("alias: " ++ a ++ " not found\n")).withStatus 1) (st.withStatus 0)

/-- `unalias`. -/
def dropAliases (args : List String) (st : State) : State :=
  st.withOptions "a" args fun os args =>
    if !os.isEmpty then { st with aliases := [], status := 0 }
    else args.foldl (fun (st : State) a =>
      if (st.aliases.lookup a).isSome then
        { st with aliases := st.aliases.filter (·.1 ≠ a) }
      else (st.print 2 ("unalias: " ++ a ++ " not found\n")).withStatus 1) (st.withStatus 0)

/-- `wait`: the status of a process in the background. -/
def wait (args : List String) (st : State) : State :=
  match args.getLast? with
  | none => st.withStatus 0
  | some a =>
    match Signal.digits? a with
    | some n => st.withStatus ((st.jobs.lookup n).getD 127)
    | none => if a.toList.head? = some '%' then st.fail ("No such job: " ++ a)
      else st.fail ("Illegal number: " ++ a)

/-- The small commands that are found by their names, beside those of the shell. -/
def toolNames : List String := ["sh", "echo", "true", "false", "cat", "rm", "mkdir", "printf"]

/-- Whether small commands are found where commands are looked for. -/
def State.findsTools (st : State) : Bool :=
  (((st.value? "PATH").getD "").splitOn ":").contains State.toolDirectory

/-- The path of a small command, if there is one of a name. -/
def State.toolPath? (st : State) (name : String) : Option String :=
  if name.toList.contains '/' then
    if st.files.exists? st.home (Octets.toText name) then some name else none
  else if st.findsTools && toolNames.contains name then some (State.toolDirectory ++ "/" ++ name)
  else none

/-- The commands of the shell that work on its state, by their names. -/
def builtin? : String → Option (List String → State → State)
  | ":" => some fun _ st => st.withStatus 0
  | "true" => some fun _ st => st.withStatus 0
  | "false" => some fun _ st => st.withStatus 1
  | "test" => some (Test.run "test")
  | "[" => some (Test.run "[")
  | "kill" => some kill
  | "trap" => some trap
  | "wait" => some wait
  | "jobs" => some fun _ st => st.withStatus 0
  | "hash" => some fun _ st => st.withStatus 0
  | "times" => some fun _ st =>
    (st.print 1 "0m0.000000s 0m0.000000s\n0m0.000000s 0m0.000000s\n").withStatus 0
  | "ulimit" => some fun _ st => (st.print 1 "unlimited\n").withStatus 0
  | "umask" => some mask
  | "exit" => some exit
  | "return" => some returnFrom
  | "break" => some (leaveLoops .leaving)
  | "continue" => some (leaveLoops .again)
  | "cd" => some changeDirectory
  | "chdir" => some changeDirectory
  | "pwd" => some printDirectory
  | "shift" => some shift
  | "set" => some set
  | "export" => some (markVariables "export " ({ · with exported := true }) (·.exported))
  | "readonly" => some (markVariables "readonly " ({ · with fixed := true }) (·.fixed))
  | "local" => some makeLocal
  | "unset" => some unset
  | "read" => some readLine
  | "getopts" => some getopts
  | "alias" => some makeAliases
  | "unalias" => some dropAliases
  | "echo" => some fun args st => st.useTool (Toolbox.echo .shell) args
  | "printf" => some fun args st => st.useTool (Toolbox.printf .shell st.label) args
  | _ => none

/-- Commands of the shell that run other commands. -/
def runners : List String := [".", "command", "eval", "exec", "type", "bg", "fg"]

/-- Whether a name is that of a command of the shell. -/
def isBuiltin (name : String) : Bool := (builtin? name).isSome || runners.contains name

/-- What a command is, as `type` tells it; none if there is no such command. -/
def State.kindOf? (st : State) (name : String) : Option String :=
  if Token.reserved.contains name then some " is a shell keyword"
  else match st.aliases.lookup name with
    | some text => some (" is an alias for " ++ text)
    | none =>
      if (st.functions.lookup name).isSome then some " is a shell function"
      else if specialCommands.contains name then some " is a special shell builtin"
      else if isBuiltin name then some " is a shell builtin"
      else (st.toolPath? name).map (" is " ++ ·)

/-- `type`. -/
def tellKinds (args : List String) (st : State) : State :=
  args.foldl (fun (st : State) name =>
    match st.kindOf? name with
    | some text => st.print 1 (name ++ text ++ "\n")
    | none => (st.print 1 (name ++ ": not found\n")).withStatus 127) (st.withStatus 0)

/-- What stands for a command where it is used, as `command -v` tells it. -/
def tellUse (name : String) (st : State) : State :=
  match st.kindOf? name, st.aliases.lookup name with
  | none, _ => st.withStatus 127
  | some _, some text =>
    (st.print 1 ("alias " ++ name ++ "=" ++ singleQuoted text ++ "\n")).withStatus 0
  | some _, none =>
    let isOwn := Token.reserved.contains name || (st.functions.lookup name).isSome ||
      isBuiltin name
    (st.print 1 ((if isOwn then name else (st.toolPath? name).getD name) ++ "\n")).withStatus 0

end SourceTidy.Shell
