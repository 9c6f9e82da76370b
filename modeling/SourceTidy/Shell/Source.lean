/-
  The text of a script while it is read: what is still to come, the line that has been reached,
  and the here-documents on the way. A token may be held back, so that it is looked at before it
  is taken.
-/
import SourceTidy.Shell.Script

namespace SourceTidy.Shell

/-- Why a text is no script. -/
structure Misreading where
  line : Nat
  text : String
deriving DecidableEq, Repr

inductive Token where
  | word (w : Word)
  | sign (s : String)
  | lineEnd
  /-- A redirection sign, with the number in front of it if there is one. -/
  | redirect (fd : Option Nat) (sign : String)
  | finish

namespace Token

/-- Words that mean something where a command may begin. -/
def reserved : List String :=
  ["!", "case", "do", "done", "elif", "else", "esac", "fi", "for", "if", "in", "then", "until",
    "while", "\x7b", "\x7d"]

/-- The reserved word that a token is, if it is one. -/
def reserved? : Token → Option String
  | .word w => do
    let s := String.ofList (← bare? w)
    if reserved.contains s then some s else none
  | _ => none

/-- A token as messages call it; `named` says whether a reserved word is called by its name. -/
def description (named : Bool) : Token → String
  | .word w =>
    match (Token.word w).reserved? with
    | some s => if named then "\"" ++ s ++ "\"" else "word"
    | none => "word"
  | .sign s => "\"" ++ s ++ "\""
  | .lineEnd => "newline"
  | .redirect _ _ => "redirection"
  | .finish => "end of file"

end Token

/-- A here-document whose text is still to come: its number, the line that ends it, whether
    its text is taken as it is, and whether tabs in front of lines are left out. -/
structure Awaited where
  number : Nat
  mark : List Char
  raw : Bool
  outdented : Bool

structure Source where
  rest : List Char
  line : Nat := 1
  held : Option Token := none
  awaited : List Awaited := []
  /-- How many here-documents there are up to here. -/
  count : Nat := 0
  /-- The texts of here-documents by their numbers. -/
  documents : List (Nat × Word) := []
  /-- Words that stand for other text where a command begins. -/
  aliases : List (String × String) := []

abbrev Reader := StateT Source (Except Misreading)

namespace Reader

/-- The text cannot be read on from here. -/
def fault {α : Type} (text : String) : Reader α := fun s => .error ⟨s.line, text⟩

/-- A token stands where it cannot stand. -/
def unexpected {α : Type} (named : Bool) (t : Token) : Reader α :=
  fault (t.description named ++ " unexpected")

/-- A token stands where only another one can stand. -/
def expecting {α : Type} (named : Bool) (t : Token) (wanted : String) : Reader α :=
  fault (t.description named ++ " unexpected (expecting " ++ wanted ++ ")")

/-- Read a text of its own, which begins at a line. -/
def within {α : Type} (text : List Char) (line : Nat) (reader : Reader α) : Reader α := fun s =>
  match reader { s with rest := text, line := line, held := none, awaited := [] } with
  | .ok (a, t) => .ok (a, { s with count := t.count, documents := t.documents })
  | .error e => .error e

/-- A text without backslashes that join it to the next line, and how many lines that skips. -/
def joined : List Char → List Char × Nat
  | '\\' :: '\n' :: s =>
    let (rest, k) := joined s
    (rest, k + 1)
  | s => (s, 0)

/-- The next character, which is not taken. -/
def peekChar : Reader (Option Char) := fun s =>
  let (rest, k) := joined s.rest
  .ok (rest.head?, { s with rest := rest, line := s.line + k })

/-- Leave out the next character. -/
def skipChar : Reader Unit := fun s =>
  match s.rest with
  | [] => .ok ((), s)
  | c :: rest => .ok ((), { s with rest := rest, line := if c = '\n' then s.line + 1 else s.line })

/-- Take the next character as it is, even where it would join lines. -/
def rawChar : Reader (Option Char) := fun s =>
  match s.rest with
  | [] => .ok (none, s)
  | c :: rest =>
    .ok (some c, { s with rest := rest, line := if c = '\n' then s.line + 1 else s.line })

/-- Take the next character, joined lines apart. -/
def nextChar : Reader (Option Char) := do
  let c ← peekChar
  skipChar
  return c

/-- Take a character if it comes next. -/
def takeIf (c : Char) : Reader Bool := do
  if (← peekChar) = some c then
    skipChar
    return true
  else return false

/-- Take characters of a kind, at most `n` of them. -/
def takeWhile (kind : Char → Bool) : Nat → Reader (List Char)
  | 0 => pure []
  | n + 1 => do
    match ← peekChar with
    | some c =>
      if kind c then
        skipChar
        return c :: (← takeWhile kind n)
      else return []
    | none => return []

/-- Take characters up to one that is left out; none if it does not come. -/
def takeUntil (closing : Char) : Reader (Option (List Char)) := fun s =>
  let inside := s.rest.takeWhile (· ≠ closing)
  let line := s.line + inside.count '\n'
  match s.rest.drop inside.length with
  | [] => .ok (none, { s with rest := [], line := line })
  | c :: rest =>
    .ok (some inside, { s with rest := rest, line := if c = '\n' then line + 1 else line })

/-- How many tokens are left, at most. -/
def left : Reader Nat := fun s => .ok (s.rest.length + 3, s)

end Reader

end SourceTidy.Shell
