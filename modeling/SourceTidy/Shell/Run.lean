/-
  How scripts run. `Script.run` takes its first argument down by one at each step into a
  script; a script that needs more, or a loop with more rounds, counts as killed. `tested` says
  that a failure is expected, so that it does not end a strict script; `final` that nothing
  follows in this process, so that a program can take its place.
-/
import SourceTidy.Shell.Builtin

namespace SourceTidy.Shell

open Text (Bytes)

/-- How a script is run: whether it is tested, and whether it is final. -/
abbrev Runner := Bool → Bool → Script → State → State

/-- The reason why a file cannot be opened to be written or read. -/
def openReason (writing : Bool) (e : FileError) : String :=
  if e = .notFound || e = .notDirectory then
    (if writing then "Directory nonexistent" else "No such file")
  else Toolbox.reason e

/-- Put new commands in place of old text: run the commands of a text line by line. -/
def evaluateLines (run : Runner) (tested final : Bool) : Nat → Bool → Source → State → State
  | 0, _, _, st => st
  | n + 1, any, source, st =>
    let source := { source with
      documents := st.documents, count := st.count, aliases := st.aliases }
    match Reader.line source with
    | .error fault => { st with line := fault.line }.fail ("Syntax error: " ++ fault.text)
    | .ok (none, _) => if any then st else st.withStatus 0
    | .ok (some script, source) =>
      let st := { st with documents := source.documents, count := source.count }
      let isLast := match source.held with
        | some .finish => true
        | _ => false
      let isNothing := match script with
        | .nothing => true
        | _ => false
      let st := run tested (final && isLast) script st
      if st.running then evaluateLines run tested final n (any || !isNothing) source st else st

/-- Run the commands that a text spells. -/
def evaluate (run : Runner) (tested final : Bool) (text : String) (st : State) : State :=
  evaluateLines run tested final (text.length + 2) false { rest := text.toList } st

/-- Do what is to be done about signals that came. The status stays as it was. -/
def heed (run : Runner) (st : State) : State :=
  st.pending.foldl (fun (st : State) signal =>
    match st.running, st.traps.lookup signal with
    | true, some action =>
      let after := evaluate run false false action st
      if after.running then after.withStatus st.status else after
    | _, _ => st) { st with pending := [] }

/-- Take in signals that parts of the script sent to it. -/
def State.receiveSent (st : State) : State :=
  if st.inner then st
  else st.sent.foldl (fun (st : State) signal => if st.running then st.receive signal else st)
    { st with sent := [] }

/-- End a strict script if a command failed that was not a test. -/
def State.checked (tested : Bool) (st : State) : State :=
  if st.has 'e' && !tested && st.status ≠ 0 && st.running then { st with ending := some .exited }
  else st

/-- Do what is to be done after a command, before the next one. -/
def settle (run : Runner) (tested : Bool) (st : State) : State :=
  (heed run st.receiveSent).checked tested

/-- The end of a process: what is to be done there is done. -/
def finish (run : Runner) (st : State) : State :=
  let ends := match st.ending with
    | some (.killed _) => false
    | some .replaced => false
    | _ => true
  match if ends then st.traps.lookup 0 else none with
  | none => st
  | some action =>
    let after := evaluate run false false action { st with
      traps := st.traps.filter (·.1 ≠ 0), ending := none, command := none }
    match after.ending with
    | some .exited => after
    | some (.killed signal) => { after with ending := some (.killed signal) }
    | _ => after.withStatus st.status

/-- Do something in a process of its own. -/
def part (run : Runner) (act : State → State) (st : State) : State :=
  let inner := finish run (act st.entered)
  let st := st.afterPart inner
  match inner.ending with
  | some (.killed signal) =>
    let text := Signal.remark signal
    if text.isEmpty then st else st.print 2 (text ++ "\n")
  | _ => st

/-- The expansion of words, where scripts are run in a certain way. -/
def expander (run : Runner) : Expander where
  output := fun script st =>
    let (b, after) := st.captured (part run (run false true script))
    (b, { after with status := st.status, substituted := some after.status })
  cutting := true

/-- Write to a file from now on. -/
def State.openToWrite (st : State) (fd : Nat) (path : String) (opening : Opening) :
    Except FileError State := do
  let taken := st.files.isFile st.home path
  if opening = .write && st.has 'C' && taken then throw .alreadyExists
  let grow := opening = .extend || opening = .readWrite
  let files ← st.files.writeFile st.home path [] grow
  let place ← files.fileLocation (FileSystem.linkLimit + 1) st.home path
  let st := { st with files := files }
  match files.node? place with
  | some (.file content) =>
    if opening = .readWrite && fd = 0 then return st.feed fd content
    else return st.redirect fd (.file place)
  | _ => return st.redirect fd .nowhere

/-- Carry out one redirection; if it fails, the state tells that and is not to be used on. -/
def redirectOne (e : Expander) (r : Redirection) (st : State) : Bool × State :=
  match r with
  | .document fd number =>
    let body := (st.documents.lookup number).getD []
    let (atoms, st) := Expander.parts { e with cutting := false } Expander.depth true body st
    (true, st.feed fd (Octets.toBytes (Atom.field atoms).text))
  | .copy fd source =>
    let (s, st) := e.text source st
    if !st.running then (false, st)
    else if s = "-" then (true, st.close fd)
    else match if s.length = 1 then Signal.digits? s else none with
      | none => (false, st.fail "Syntax error: Bad fd number")
      | some n =>
        match st.streams.lookup n with
        | some stream => (true, st.redirect fd stream)
        | none => (false, st.complain 2 (s ++ ": Bad file descriptor"))
  | .file fd opening path =>
    let (s, st) := e.text path st
    if !st.running then (false, st)
    else if opening = .read then
      match st.files.readBytes st.home (Octets.toText s) with
      | .ok b => (true, st.feed fd b)
      | .error .isDirectory => (true, st.feed fd [])
      | .error cause => (false, st.complain 2 ("cannot open " ++ s ++ ": " ++ openReason false cause))
    else match st.openToWrite fd (Octets.toText s) opening with
      | .ok st => (true, st)
      | .error cause =>
        (false, st.complain 2 ("cannot create " ++ s ++ ": " ++ openReason true cause))

/-- Carry out redirections until one fails. -/
def redirectAll (e : Expander) : List Redirection → State → Bool × State
  | [], st => (true, st)
  | r :: rest, st =>
    match redirectOne e r st with
    | (true, st) => redirectAll e rest st
    | failed => failed

/-- Do something under redirections, which end with it. -/
def underRedirections (e : Expander) (rs : List Redirection) (act : State → State) (st : State) :
    State :=
  let (fine, inner) := redirectAll e rs st
  let inner := if fine then act inner else inner
  { inner with streams := st.streams }

/-- The options of a shell in front of its arguments: whether the script is given as text, and
    the rest. -/
def shellOptions : Nat → List String → State → Except String (State × Bool × List String)
  | 0, args, st => .ok (st, false, args)
  | n + 1, args, st =>
    match args with
    | [] => .ok (st, false, [])
    | a :: rest =>
      if a = "-" || a = "--" then .ok (st, false, rest)
      else
        let signed := match a.toList with
          | '-' :: letters => some (true, letters)
          | '+' :: letters => some (false, letters)
          | _ => none
        match signed with
        | none => .ok (st, false, args)
        | some (on, letters) => do
          let (st, rest) ← State.setLetters on (letters.filter (· ≠ 'c')) rest st
          let (st, isText, rest) ← shellOptions n rest st
          return (st, isText || letters.contains 'c', rest)

/-- A shell of its own with some arguments. The state is the one where it begins; what comes of
    it is a status or a signal. -/
def nested (run : Runner) (args : List String) (st : State) : State :=
  let exported := st.bindings.filter fun v => v.2.exported
  let bindings := exported ++ (State.startVariables st.path).filter fun v =>
    !exported.any (·.1 = v.1)
  let st := { State.start st.files st.home "sh" [] (st.number + 1) with
    path := st.path, bindings := bindings, streams := st.streams, sources := st.sources,
    channels := st.channels, traps := st.traps.filter (·.2.isEmpty), mask := st.mask }
  let runFile := fun (b : Bytes) (name : String) (args : List String) (st : State) =>
    evaluate run false false (String.ofList (Octets.ofBytes b)) { st with name := name, args := args }
  st.orFail (shellOptions (args.length + 1) args st) fun (st, isText, rest) =>
    match rest with
    | [] =>
      if isText then st.fail "-c requires an argument"
      else finish run (runFile (st.unread 0) "sh" [] (st.afterReading 0 []))
    | script :: more =>
      if isText then
        finish run (evaluate run false true script
          { st with name := more.headD "sh", args := more.drop 1 })
      else if st.has 's' then finish run (runFile (st.unread 0) "sh" rest (st.afterReading 0 []))
      else match st.files.readBytes st.home (Octets.toText script) with
        | .ok b => finish run (runFile b script more st)
        | .error .isDirectory => st
        | .error cause => st.fail ("cannot open " ++ script ++ ": " ++ openReason false cause)

/-- A program that is found by its name, with its arguments; none if there is no such program. -/
def program? (run : Runner) (final : Bool) (name : String) (args : List String) (st : State) :
    Option State :=
  let tool := fun t => some ({ st.useTool t args with lost := false })
  match name with
  | "sh" =>
    let inner := nested run args st
    let after := { st.afterPart inner with sent := st.sent }
    some (match inner.ending with
      | some (.killed signal) =>
        let text := Signal.remark signal
        if final && st.traps.all (·.2.isEmpty) then { after with ending := some (.killed signal) }
        else if text.isEmpty then after
        else after.print 2 (text ++ "\n")
      | _ => after)
  | "cat" => tool Toolbox.cat
  | "rm" => tool Toolbox.rm
  | "mkdir" => tool Toolbox.mkdir
  | "echo" => tool (Toolbox.echo .program)
  | "printf" => tool (Toolbox.printf .program "printf")
  | "true" => some (st.withStatus 0)
  | "false" => some (st.withStatus 1)
  | _ => none

/-- Run a program, or say why it cannot be run. Nothing that stands in the file system can be
    run. -/
def runProgram (run : Runner) (final : Bool) (name : String) (args : List String) (st : State) :
    State :=
  if name.isEmpty then st.complain 127 ": Permission denied"
  else if name.toList.contains '/' then
    match st.files.look st.home (Octets.toText name) with
    | .ok _ => st.complain 126 (name ++ ": Permission denied")
    | .error e =>
      if e = .notFound || e = .notDirectory then st.complain 127 (name ++ ": not found")
      else st.complain (if e = .tooManyLinks || e = .nameTooLong then 127 else 126)
        (name ++ ": " ++ Toolbox.reason e)
  else match if st.findsTools then program? run final name args st else none with
    | some st => st
    | none => st.complain 127 (name ++ ": not found")

/-- `exec` with a command: it takes the place of the script. -/
def execute (run : Runner) (args : List String) (st : State) : State :=
  match args with
  | [] => st.withStatus 0
  | name :: args =>
    let after := runProgram run true name args st
    match after.ending with
    | some (.killed _) => after
    | _ => { after with ending := some .replaced }

/-- `.`: the commands of a file. -/
def source (run : Runner) (args : List String) (st : State) : State :=
  match args with
  | [] => st.fail "Usage: . file"
  | path :: _ =>
    if !path.toList.contains '/' then st.fail (path ++ ": not found")
    else match st.files.readBytes st.home (Octets.toText path) with
      | .error cause => st.fail ("cannot open " ++ path ++ ": " ++ openReason false cause)
      | .ok b =>
        let inner := evaluate run false false (String.ofList (Octets.ofBytes b))
          { st with command := some path, loops := 0 }
        { inner with
          loops := st.loops
          ending := if inner.ending = some .returning then none else inner.ending }

/-- How deep functions may be carried out inside each other. -/
def callLimit : Nat := 1000

/-- Carry out a function. -/
def call (run : Runner) (tested : Bool) (body : Script) (args : List String) (st : State) :
    State :=
  if callLimit ≤ st.calls then
    st.fail ("Maximum function recursion depth (" ++ toString callLimit ++ ") reached")
  else
    let inner := run tested false body
      { st with args := args, locals := some [], loops := 0, calls := st.calls + 1 }
    let restored := (inner.locals.getD []).foldl (fun (s : State) v => s.setVariable v.1 v.2) inner
    { restored with
      args := st.args
      locals := st.locals
      loops := st.loops
      calls := st.calls
      ending := if inner.ending = some .returning then none else inner.ending }

/-- A command without the words in front that only say how it is to be found, and whether there
    were such words; `command` itself if more is asked of it. -/
def unwrapped : Nat → List String → List String × Bool
  | 0, argv => (argv, false)
  | n + 1, argv =>
    match argv with
    | "command" :: rest =>
      let rest := rest.dropWhile fun a => a.length ≥ 2 && a.toList.head? = some '-' &&
        (a.toList.drop 1).all (· = 'p')
      match rest with
      | [] => (argv, false)
      | "--" :: name :: args => ((unwrapped n (name :: args)).1, true)
      | "--" :: [] => (argv, false)
      | name :: args =>
        if name.length ≥ 2 && name.toList.head? = some '-' then (argv, false)
        else ((unwrapped n (name :: args)).1, true)
    | argv => (argv, false)

/-- `command` where it does not run one. -/
def tellCommand (args : List String) (st : State) : State :=
  st.withOptions "pvV" args fun os names =>
    match names, os.findRev? fun o => o.1 ≠ 'p' with
    | name :: _, some ('v', _) => tellUse name st
    | name :: _, some _ => tellKinds [name] st
    | _, _ => st.withStatus 0

/-- A command of the shell by its name. -/
def shellCommand? (run : Runner) (tested : Bool) (name : String) :
    Option (List String → State → State) :=
  match name with
  | "." => some (source run)
  | "command" => some tellCommand
  | "eval" => some fun args st => evaluate run tested false (" ".intercalate args) st
  | "exec" => some (execute run)
  | "type" => some tellKinds
  | name => builtin? name

/-- Carry out a command of the shell. A mistake in it ends the script only if the command is
    special. -/
def runBuiltin (act : List String → State → State) (name : String) (special : Bool)
    (args : List String) (st : State) : State :=
  let after := act args { st with command := some name }
  let after := if after.lost then
      let told := after.complain (after.status ||| 1) (name ++ ": I/O error")
      { told with lost := false }
    else after
  { after with
    command := st.command
    ending := if after.ending = some .failed && !special then none else after.ending }

/-- Commands whose arguments may be assignments, which are not cut. -/
def takesAssignments (argv : List String) : Bool :=
  ((unwrapped argv.length argv).1.head?).any
    ["alias", "export", "local", "readonly"].contains

/-- The words of a command. -/
def commandWords (e : Expander) : List String → List Word → State → List String × State
  | argv, [], st => (argv, st)
  | argv, w :: ws, st =>
    let (more, st) := match if takesAssignments argv then assignment? w else none with
      | some (name, value) =>
        let (s, st) := e.assigned value st
        ([name ++ "=" ++ s], st)
      | none => e.words w st
    if st.running then commandWords e (argv ++ more) ws st else ([], st)

/-- Give variables their values; what was given, and the variables as they were before. -/
def assignAll (e : Expander) (exported : Bool) : List (String × Word) → State →
    List (String × String) × List (String × Option Variable) × State
  | [], st => ([], [], st)
  | (name, w) :: rest, st =>
    let (s, st) := e.assigned w st
    if !st.running then ([], [], st)
    else
      let before := st.binding? name
      let st := st.assign name s
      let st := if exported && st.running then
          st.setVariable name ((st.binding? name).map ({ · with exported := true }))
        else st
      if !st.running then ([], [], st)
      else
        let (given, old, st) := assignAll e exported rest st
        ((name, s) :: given, (name, before) :: old, st)

/-- Show a command that is about to be run, if that is asked for. -/
def State.trace (st : State) (streams : List (Nat × Stream)) (given : List (String × String))
    (argv : List String) : State :=
  if !st.has 'x' then st
  else
    let words := given.map (fun a => a.1 ++ "=" ++ a.2) ++ argv
    let text := (st.value? "PS4").getD "" ++ " ".intercalate words ++ "\n"
    { { st with streams := streams }.print 2 text with streams := st.streams }

/-- A simple command: assignments alone, or a command under its redirections. -/
def runSimple (run : Runner) (tested final : Bool) (assignments : List (String × Word))
    (ws : List Word) (rs : List Redirection) (st : State) : State :=
  let e := expander run
  let (whole, st) := commandWords e [] ws { st with substituted := none }
  if !st.running then st
  else
    let (argv, wrapped) := unwrapped whole.length whole
    let name := argv.headD ""
    let args := argv.drop 1
    let body? := if wrapped then none else st.functions.lookup name
    let act? := if body?.isSome || argv.isEmpty then none else shellCommand? run tested name
    let special := !wrapped && act?.isSome && specialCommands.contains name
    let (fine, inner) := redirectAll e rs st
    let restored := fun (s : State) => { s with streams := st.streams }
    if !fine then
      let after := restored inner
      if special && after.running then { after with ending := some .failed } else after
    else
      let (given, old, inner) := assignAll e (!argv.isEmpty && !special) assignments inner
      if !inner.running then restored inner
      else
        let inner := inner.trace st.streams given argv
        let forget := fun (s : State) => old.reverse.foldl (fun s v => s.setVariable v.1 v.2) s
        match argv, body?, act? with
        | [], _, _ => restored (inner.withStatus (inner.substituted.getD 0))
        | _, some body, _ => forget (restored (call run tested body args inner))
        | _, none, some act =>
          let after := runBuiltin act name special args inner
          let after := if name = "exec" && args.isEmpty then after else restored after
          if special then after else forget after
        | _, none, none => forget (restored (runProgram run final name args inner))

/-- What is left of an ending after one round of a loop, and whether the loop goes on. -/
def afterRound : Option Ending → Option Ending × Bool
  | none => (none, true)
  | some (.leaving k) => (if k ≤ 1 then none else some (.leaving (k - 1)), false)
  | some (.again k) => if k ≤ 1 then (none, true) else (some (.again (k - 1)), false)
  | some ending => (some ending, false)

/-- How many rounds a loop may have. -/
def roundLimit : Nat := 200000

/-- Rounds as long as a condition holds. The status is that of the last round, or zero. -/
def rounds (condition body : State → State) (untilTrue : Bool) : Nat → Nat → State → State
  | 0, _, st => { st with ending := some (.killed 9) }
  | n + 1, last, st =>
    let st := condition st
    match st.ending with
    | none =>
      if (st.status = 0) = untilTrue then st.withStatus last
      else
        let st := body st
        let (ending, goesOn) := afterRound st.ending
        let st := { st with ending := ending }
        if goesOn then rounds condition body untilTrue n st.status st else st
    | some ending =>
      let (left, goesOn) := afterRound (some ending)
      let st := { st with ending := left }
      if goesOn then rounds condition body untilTrue n last st
      else if left = some .returning then st
      else match ending with
        | .leaving _ => st.withStatus last
        | _ => st

/-- One round for each value, until the loop is left. -/
def roundsFor (name : String) (body : State → State) : List String → State → State
  | [], st => st
  | v :: rest, st =>
    let st := st.assign name v
    if !st.running then st
    else
      let st := body st
      let (ending, goesOn) := afterRound st.ending
      let st := { st with ending := ending }
      if goesOn then roundsFor name body rest st else st

/-- Do something as a loop. -/
def State.inLoop (st : State) (act : State → State) : State :=
  { act { st with loops := st.loops + 1 } with loops := st.loops }

/-- The first arm with a pattern that the text fits. -/
def chosen (e : Expander) (subject : List Char) : List (List Word × Script) → State →
    Option Script × State
  | [], st => (none, st)
  | (patterns, body) :: rest, st =>
    let (found, st) := patterns.foldl (fun (acc : Bool × State) w =>
      if acc.1 || !acc.2.running then acc
      else
        let (f, st) := e.field w acc.2
        (f.isPatternFor subject, st)) (false, st)
    if found then (some body, st) else chosen e subject rest st

/-- Scripts with the output of each as the input of the next, each in a process of its own. -/
def runPipe (run : Runner) (tested : Bool) : List Script → Option Bytes → State → State
  | [], _, st => st
  | s :: rest, input, st =>
    let act := part run fun st =>
      run tested true s (match input with
        | some b => st.feed 0 b
        | none => st)
    if rest.isEmpty then act st
    else
      let (b, st) := st.captured act
      runPipe run tested rest (some b) st

def Script.run : Nat → Bool → Bool → Script → State → State
  | 0, _, _, _, st => { st with ending := some (.killed 9) }
  | n + 1, tested, final, script, st =>
    if !st.running || st.has 'n' then st
    else match script with
      | .nothing => st
      | .simple line assignments ws rs =>
        settle (run n) tested (runSimple (run n) tested final assignments ws rs
          { st with line := line })
      | .seq first second =>
        let st := run n tested false first st
        run n tested final second st
      | .both first second =>
        let st := run n true false first st
        if st.running && st.status = 0 then run n tested final second st else st
      | .either first second =>
        let st := run n true false first st
        if st.running && st.status ≠ 0 then run n tested final second st else st
      | .negation inner =>
        let st := run n true false inner st
        if st.running then st.withStatus (if st.status = 0 then 1 else 0) else st
      | .pipe stages => settle (run n) tested (runPipe (run n) tested stages none st)
      | .branch condition yes no =>
        let st := run n true false condition st
        if !st.running then st
        else if st.status = 0 then run n tested final yes st
        else match no with
          | .nothing => st.withStatus 0
          | no => run n tested final no st
      | .repeated untilTrue condition body =>
        st.inLoop (rounds (run n true false condition) (run n tested false body) untilTrue
          roundLimit 0)
      | .forEach line name words body =>
        let st := { st with line := line }
        let (values, st) := match words with
          | some ws => (expander (run n)).allWords ws st
          | none => (st.args, st)
        if !st.running then st
        else if values.isEmpty then st.withStatus 0
        else st.inLoop (roundsFor name (run n tested false body) values)
      | .choose line subject arms =>
        let e := expander (run n)
        let (text, st) := e.text subject { st with line := line }
        let (body?, st) := if st.running then chosen e text.toList arms st else (none, st)
        match body? with
        | some .nothing => st.withStatus 0
        | some body => run n tested final body st
        | none => if st.running then st.withStatus 0 else st
      | .subshell line inner rs =>
        let act := underRedirections (expander (run n)) rs (run n tested true inner)
        let st := { st with line := line }
        if final && st.traps.all (·.2.isEmpty) then
          let after := act st
          { after with ending := some (after.ending.getD .exited) }
        else settle (run n) tested (part (run n) act st)
      | .redirected line inner rs =>
        underRedirections (expander (run n)) rs (run n tested false inner) { st with line := line }
      | .background inner =>
        let job := st.number + st.jobs.length + 1
        let after := part (run n) (fun st => run n false true inner (st.redirect 0 .nowhere)) st
        { after with jobs := (job, after.status) :: st.jobs, status := 0 }
      | .function name body =>
        { st with functions := (name, body) :: st.functions.filter (·.1 ≠ name), status := 0 }

end SourceTidy.Shell
