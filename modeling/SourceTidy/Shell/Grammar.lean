/-
  How commands are read. Reserved words count only where a command may begin. A script is read
  line by line, so that what stands in front of a mistake can be run before it is found.
-/
import SourceTidy.Shell.Word

namespace SourceTidy.Shell

/-- Where a list of commands stands. -/
inductive Stand where
  /-- On a line of a script, at the end of which it ends. -/
  | line
  /-- In a compound command, which needs a command here. -/
  | needed
  /-- In a compound command that can do without. -/
  | optional
deriving DecidableEq

/-- Commands that belong to the shell so closely that they cannot be made anew. -/
def specialCommands : List String :=
  [".", ":", "break", "continue", "eval", "exec", "exit", "export", "local", "readonly",
    "return", "set", "shift", "times", "trap", "unset"]

/-- Whether a token ends a list of commands. -/
def endsList : Token → Bool
  | .finish => true
  | .sign ")" => true
  | .sign ";;" => true
  | t => t.reserved?.any
    (["do", "done", "elif", "else", "esac", "fi", "then", "\x7d"].contains ·)

/-- A name and an equals sign in front of a word: an assignment. -/
def assignment? (w : Word) : Option (String × Word) :=
  let front := w.takeWhile fun p =>
    match p with
    | .char c false => c ≠ '='
    | _ => false
  match bare? front, w.drop front.length with
  | some name, .char '=' false :: value =>
    if isName name then some (String.ofList name, value) else none
  | _, _ => none

/-- The characters of a word, quoted or not. -/
def spelling (w : Word) : List Char :=
  w.filterMap fun p =>
    match p with
    | .char c _ => some c
    | _ => none

/-- Whether a part of a word was quoted. -/
def isQuoted (w : Word) : Bool :=
  w.any fun p =>
    match p with
    | .char _ q => q
    | _ => true

namespace Reader

/-- What follows a redirection sign. -/
def target (script : Reader Script) (fd : Option Nat) (sign : String) : Reader Redirection := do
  if sign = "<<" || sign = "<<-" then
    match ← token script (.mark false) (← left) with
    | .word w =>
      let number := (← get).count
      let a : Awaited := ⟨number, spelling w, isQuoted w, sign = "<<-"⟩
      modify fun s => { s with count := number + 1, awaited := s.awaited ++ [a] }
      return .document (fd.getD 0) number
    | t => unexpected false t
  else
    match ← next script with
    | .word w =>
      match sign with
      | "<" => return .file (fd.getD 0) .read w
      | "<>" => return .file (fd.getD 0) .readWrite w
      | ">|" => return .file (fd.getD 1) .overwrite w
      | ">>" => return .file (fd.getD 1) .extend w
      | ">&" => return .copy (fd.getD 1) w
      | "<&" => return .copy (fd.getD 0) w
      | _ => return .file (fd.getD 1) .write w
    | t => unexpected false t

/-- The redirections that follow a compound command. -/
def redirections (script : Reader Script) : Nat → Reader (List Redirection)
  | 0 => pure []
  | n + 1 => do
    match ← peek script with
    | .redirect fd sign =>
      skip
      let r ← target script fd sign
      return r :: (← redirections script n)
    | _ => return []

/-- A reserved word that has to stand here. -/
def expect (script : Reader Script) (wanted : String) : Reader Unit := do
  let t ← peek script
  if t.reserved? = some wanted then skip
  else expecting true t ("\x22" ++ wanted ++ "\x22")

/-- A sign that has to stand here. -/
def expectSign (script : Reader Script) (wanted : String) (named : Bool) : Reader Unit := do
  match ← peek script with
  | .sign s =>
    if s = wanted then skip else expecting named (.sign s) ("\x22" ++ wanted ++ "\x22")
  | t => expecting named t ("\x22" ++ wanted ++ "\x22")

/-- Words up to something else. -/
def wordList (script : Reader Script) : Nat → Reader (List Word)
  | 0 => pure []
  | n + 1 => do
    match ← peek script with
    | .word w =>
      skip
      return w :: (← wordList script n)
    | _ => return []

/-- The patterns of one arm, and the bracket behind them. -/
def patterns (script : Reader Script) : Nat → Reader (List Word)
  | 0 => pure []
  | n + 1 => do
    let w := match ← next script with
      | .word w => w
      | _ => []
    match ← peek script with
    | .sign "|" =>
      skip
      return w :: (← patterns script n)
    | _ =>
      expectSign script ")" false
      return [w]

/-- Put other text in place of a word at which a command begins, as long as there is some for
    it; `used` are the words for which that was done. -/
def resolveAlias (script : Reader Script) : Nat → List String → Reader Unit
  | 0, _ => pure ()
  | n + 1, used => do
    match ← peek script with
    | .word w =>
      match (bare? w).map String.ofList with
      | none => pure ()
      | some name =>
        match (← get).aliases.lookup name with
        | none => pure ()
        | some text =>
          if used.contains name then pure ()
          else
            modify fun s => { s with rest := text.toList ++ s.rest, held := none }
            resolveAlias script n (name :: used)
    | _ => pure ()

/-- The rest of a simple command: its assignments, words and redirections so far are given, the
    last ones first. -/
def simple (script command : Reader Script) (line : Nat) : Nat → List (String × Word) →
    List Word → List Redirection → Reader Script
  | 0, _, _, _ => fault "Command too long"
  | n + 1, assigned, words, redirected => do
    match ← peek script with
    | .word w =>
      skip
      match words, assignment? w with
      | [], some a => simple script command line n (a :: assigned) words redirected
      | _, _ => simple script command line n assigned (w :: words) redirected
    | .redirect fd sign =>
      skip
      let r ← target script fd sign
      simple script command line n assigned words (r :: redirected)
    | t =>
      match t, assigned, words, redirected with
      | .sign "(", [], [w], [] =>
        skip
        expectSign script ")" true
        let name := (bare? w).getD []
        if !isName name || specialCommands.contains (String.ofList name) then
          fault "Bad function name"
        else
          skipLineEnds script (← left)
          return .function (String.ofList name) (← command)
      | _, _, _, _ =>
        return .simple line assigned.reverse words.reverse redirected.reverse

/-- A compound command under the redirections that follow it. -/
def withRedirections (script : Reader Script) (line : Nat) (inner : Script) :
    Reader Script := do
  match ← redirections script (← left) with
  | [] => return inner
  | rs => return .redirected line inner rs

mutual

/-- Commands one after the other; `first` are those before, if there are any. -/
def list : Nat → Stand → Option Script → Reader Script
  | 0, _, _ => fault "Script too long"
  | n + 1, stand, first => do
    let script := list n .optional none
    if stand ≠ .line then skipLineEnds script (← left)
    let t ← peek script
    match t with
    | .lineEnd =>
      skip
      return first.getD .nothing
    | .finish =>
      documents script (← get).awaited
      return first.getD .nothing
    | _ =>
      if endsList t && (stand = .optional || (stand = .needed && first.isSome)) then
        return first.getD .nothing
      else
        let c ← andOr n
        let t ← peek script
        let c := match t with
          | .sign "&" => Script.background c
          | _ => c
        let all := match first with
          | some f => Script.seq f c
          | none => c
        match t with
        | .sign "&" =>
          skip
          list n stand (some all)
        | .sign ";" =>
          skip
          list n stand (some all)
        | .lineEnd => list n stand (some all)
        | .finish =>
          documents script (← get).awaited
          return all
        | _ => if stand = .line then unexpected true t else return all

def andOr : Nat → Reader Script
  | 0 => fault "Script too long"
  | n + 1 => do
    let first ← pipeline n
    andOrRest n first

def andOrRest : Nat → Script → Reader Script
  | 0, _ => fault "Script too long"
  | n + 1, first => do
    let script := list n .optional none
    match ← peek script with
    | .sign "&&" =>
      skip
      skipLineEnds script (← left)
      let second ← pipeline n
      andOrRest n (.both first second)
    | .sign "||" =>
      skip
      skipLineEnds script (← left)
      let second ← pipeline n
      andOrRest n (.either first second)
    | _ => return first

def pipeline : Nat → Reader Script
  | 0 => fault "Script too long"
  | n + 1 => do
    let script := list n .optional none
    let negated := (← peek script).reserved? = some "!"
    if negated then skip
    let first ← command n
    let stages ← stagesAfter n
    let all := if stages.isEmpty then first else Script.pipe (first :: stages)
    return if negated then .negation all else all

def stagesAfter : Nat → Reader (List Script)
  | 0 => fault "Script too long"
  | n + 1 => do
    let script := list n .optional none
    match ← peek script with
    | .sign "|" =>
      skip
      skipLineEnds script (← left)
      let stage ← command n
      return stage :: (← stagesAfter n)
    | _ => return []

def command : Nat → Reader Script
  | 0 => fault "Script too long"
  | n + 1 => do
    let script := list n .optional none
    resolveAlias script (← left) []
    let t ← peek script
    let line := (← get).line
    match t with
    | .sign "(" =>
      skip
      let inner ← list n .needed none
      expectSign script ")" true
      return .subshell line inner (← redirections script (← left))
    | .word _ =>
      match t.reserved? with
      | none => simple script (command n) line (← left) [] [] []
      | some "\x7b" =>
        skip
        let inner ← list n .needed none
        expect script "\x7d"
        withRedirections script line inner
      | some "if" =>
        skip
        withRedirections script line (← branches n)
      | some "while" =>
        skip
        withRedirections script line (← loop n false)
      | some "until" =>
        skip
        withRedirections script line (← loop n true)
      | some "for" =>
        skip
        withRedirections script line (← forLoop n line)
      | some "case" =>
        skip
        withRedirections script line (← choice n line)
      | some _ => unexpected true t
    | .redirect _ _ => simple script (command n) line (← left) [] [] []
    | t => unexpected true t

def loop : Nat → Bool → Reader Script
  | 0, _ => fault "Script too long"
  | n + 1, untilTrue => do
    let script := list n .optional none
    let condition ← list n .needed none
    expect script "do"
    let body ← list n .needed none
    expect script "done"
    return .repeated untilTrue condition body

def branches : Nat → Reader Script
  | 0 => fault "Script too long"
  | n + 1 => do
    let script := list n .optional none
    let condition ← list n .needed none
    expect script "then"
    let yes ← list n .needed none
    match (← peek script).reserved? with
    | some "elif" =>
      skip
      return .branch condition yes (← branches n)
    | some "else" =>
      skip
      let no ← list n .needed none
      expect script "fi"
      return .branch condition yes no
    | _ =>
      expect script "fi"
      return .branch condition yes .nothing

def forLoop : Nat → Nat → Reader Script
  | 0, _ => fault "Script too long"
  | n + 1, line => do
    let script := list n .optional none
    let name ← match ← next script with
      | .word w => pure ((bare? w).getD [])
      | _ => pure []
    if !isName name then fault "Bad for loop variable"
    skipLineEnds script (← left)
    let words ← do
      if (← peek script).reserved? = some "in" then
        skip
        let ws ← wordList script (← left)
        match ← peek script with
        | .lineEnd => skip
        | .sign ";" => skip
        | t => unexpected false t
        pure (some ws)
      else
        match ← peek script with
        | .sign ";" => skip
        | _ => pure ()
        pure none
    skipLineEnds script (← left)
    expect script "do"
    let body ← list n .needed none
    expect script "done"
    return .forEach line (String.ofList name) words body

def choice : Nat → Nat → Reader Script
  | 0, _ => fault "Script too long"
  | n + 1, line => do
    let script := list n .optional none
    match ← peek script with
    | .word subject =>
      skip
      skipLineEnds script (← left)
      expect script "in"
      return .choose line subject (← arms n)
    | t => expecting false t "word"

def arms : Nat → Reader (List (List Word × Script))
  | 0 => fault "Script too long"
  | n + 1 => do
    let script := list n .optional none
    skipLineEnds script (← left)
    let t ← peek script
    if t.reserved? = some "esac" then
      skip
      return []
    else
      match t with
      | .sign "(" => skip
      | _ => pure ()
      let ps ← patterns script (← left)
      let body ← list n .optional none
      skipLineEnds script (← left)
      let t ← peek script
      if t.reserved? = some "esac" then
        skip
        return [(ps, body)]
      else
        expectSign script ";;" true
        return (ps, body) :: (← arms n)

end

/-- The commands on the next line of a script; none if there are no more lines. -/
def line : Reader (Option Script) := do
  let n := 16 * (← left)
  match ← peek (list n .optional none) with
  | .finish => return none
  | _ => return some (← list n .line none)

end Reader

end SourceTidy.Shell
