/-
  Scripts as trees. A word is a list of parts: characters, and what is put in for parameters,
  sums and the output of other scripts when the word is used. Commands know the line that they
  stand on, which messages name.
-/

namespace SourceTidy.Shell

/-- What is done with a parameter. Where `filled` holds, an empty value counts as none. -/
inductive Use where
  | value
  | length
  /-- A word stands in for a missing value. -/
  | orElse (filled : Bool)
  /-- A word becomes the value if there is none. -/
  | orAssign (filled : Bool)
  /-- It is an error if there is no value. -/
  | orFail (filled : Bool)
  /-- A word stands in for a value that is there. -/
  | ifGiven (filled : Bool)
  /-- What fits a pattern is cut off, at one end of the value. -/
  | without (atEnd longest : Bool)
  /-- Nothing can be done that is written like this. -/
  | malformed
deriving DecidableEq, Repr

/-- How a file is opened. -/
inductive Opening where
  | read
  | readWrite
  | write
  /-- Writes to a file even where files are not to be written over. -/
  | overwrite
  | extend
deriving DecidableEq, Repr

mutual

inductive Part where
  | char (c : Char) (quoted : Bool)
  /-- A quotation begins, which makes a word even if it is empty. -/
  | quote
  | parameter (name : String) (use : Use) (word : List Part) (quoted : Bool)
  | sum (expression : List Part) (quoted : Bool)
  | output (script : Script) (quoted : Bool)

/-- Where a descriptor leads from now on. -/
inductive Redirection where
  | file (fd : Nat) (opening : Opening) (path : List Part)
  /-- To where another descriptor leads. -/
  | copy (fd : Nat) (source : List Part)
  /-- To the text of a here-document, which is known by a number. -/
  | document (fd : Nat) (number : Nat)

inductive Script where
  | nothing
  | simple (line : Nat) (assignments : List (String × List Part)) (words : List (List Part))
      (redirections : List Redirection)
  | seq (first second : Script)
  | both (first second : Script)
  | either (first second : Script)
  | negation (inner : Script)
  | pipe (stages : List Script)
  | branch (condition yes no : Script)
  | repeated (untilTrue : Bool) (condition body : Script)
  /-- One round for each of some words, or for each argument. -/
  | forEach (line : Nat) (name : String) (words : Option (List (List Part))) (body : Script)
  | choose (line : Nat) (subject : List Part) (arms : List (List (List Part) × Script))
  /-- A script in a shell of its own. -/
  | subshell (line : Nat) (inner : Script) (redirections : List Redirection)
  | redirected (line : Nat) (inner : Script) (redirections : List Redirection)
  | background (inner : Script)
  | function (name : String) (body : Script)

end

instance : Inhabited Script := ⟨.nothing⟩

abbrev Word := List Part

/-- The characters of a word that has nothing but characters without quotes. -/
def bare? : Word → Option (List Char)
  | [] => some []
  | .char c false :: w => (bare? w).map (c :: ·)
  | _ :: _ => none

def isNameStart (c : Char) : Bool := c.isAlpha || c = '_'

def isNameChar (c : Char) : Bool := c.isAlphanum || c = '_'

/-- Whether a text can be the name of a variable. -/
def isName : List Char → Bool
  | [] => false
  | c :: s => isNameStart c && s.all isNameChar

end SourceTidy.Shell
