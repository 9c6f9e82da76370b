/-
  Options of small commands. They may stand anywhere in front of two dashes; letters may share
  a dash, and words may be cut short as long as they stay clear.
-/
import SourceTidy.Toolbox.Basic

namespace SourceTidy.Toolbox

/-- Whether a value belongs to an option. -/
inductive Operand where
  | never
  | ifAttached
  | always
deriving DecidableEq

/-- An option: what it is for (`key`), its letters, its word, and its operand. -/
structure OptionForm where
  key : Char
  letters : List Char
  word : String
  operand : Operand := .never

/-- An option as it was given. -/
structure Given where
  key : Char
  value : Option String := none
deriving DecidableEq

/-- The options of a command line, and its other arguments. -/
structure Arranged where
  given : List Given := []
  others : List String := []

namespace Arranged

def has (a : Arranged) (key : Char) : Bool := a.given.any (·.key = key)

/-- The value of an option, the last one if it was given more than once. -/
def value? (a : Arranged) (key : Char) : Option String :=
  (a.given.reverse.find? (·.key = key)).bind (·.value)

end Arranged

/-- The options that a word, perhaps cut short, can stand for. -/
def candidates (forms : List OptionForm) (word : String) : List OptionForm :=
  match forms.find? (·.word = word) with
  | some form => [form]
  | none => forms.filter fun f => word.toList.isPrefixOf f.word.toList

/-- The letters behind one dash. `next` is the argument that follows; the answer says whether it
    was used up as a value. -/
def readLetters (forms : List OptionForm) (next : Option String) :
    List Char → Except String (List Given × Bool)
  | [] => .ok ([], false)
  | c :: rest =>
    match forms.find? (·.letters.contains c) with
    | none => .error ("invalid option -- '" ++ String.singleton c ++ "'")
    | some form =>
      if form.operand = .always then
        if !rest.isEmpty then .ok ([⟨form.key, some (String.ofList rest)⟩], false)
        else match next with
          | some v => .ok ([⟨form.key, some v⟩], true)
          | none => .error ("option requires an argument -- '" ++ String.singleton c ++ "'")
      else do
        let (more, used) ← readLetters forms next rest
        .ok (⟨form.key, none⟩ :: more, used)

/-- What is behind two dashes. The answer is as for letters. -/
def readWord (forms : List OptionForm) (next : Option String) (body : List Char) :
    Except String (List Given × Bool) :=
  let name := body.takeWhile (· ≠ '=')
  let attached : Option String :=
    if name.length = body.length then none else some (String.ofList (body.drop (name.length + 1)))
  let spelled := "'--" ++ String.ofList body ++ "'"
  match candidates forms (String.ofList name) with
  | [] => .error ("unrecognized option " ++ spelled)
  | form :: more =>
    if more.any (·.key ≠ form.key) then
      .error ("option " ++ spelled ++ " is ambiguous; possibilities:" ++
        String.join ((form :: more).map fun f => " '--" ++ f.word ++ "'"))
    else match form.operand, attached, next with
      | .never, some _, _ => .error ("option '--" ++ form.word ++ "' doesn't allow an argument")
      | .always, none, none => .error ("option '--" ++ form.word ++ "' requires an argument")
      | .always, none, some v => .ok ([⟨form.key, some v⟩], true)
      | _, attached, _ => .ok ([⟨form.key, attached⟩], false)

/-- Tell options from other arguments, or say what is wrong with the first bad option. -/
def arrange (forms : List OptionForm) : Nat → List String → Except String Arranged
  | 0, _ => .ok {}
  | _, [] => .ok {}
  | n + 1, a :: rest =>
    match a.toList with
    | ['-', '-'] => .ok { others := rest }
    | '-' :: c :: body => do
      let (given, used) ←
        if c = '-' then readWord forms rest.head? body else readLetters forms rest.head? (c :: body)
      let more ← arrange forms n (if used then rest.tail else rest)
      .ok { more with given := given ++ more.given }
    | _ => do
      let more ← arrange forms n rest
      .ok { more with others := a :: more.others }

/-- Do something with options and other arguments, if all options are known. -/
def withOptions (name : String) (forms : List OptionForm) (s : Setting) (args : List String)
    (act : Arranged → Result) : Result :=
  let help : List OptionForm := [⟨'?', [], "help", .never⟩, ⟨'=', [], "version", .never⟩]
  match arrange (forms ++ help) (args.length + 1) args with
  | .error fault =>
    complain s 1 (name ++ ": " ++ fault ++ "\nTry '" ++ name ++ " --help' for more information.")
  | .ok a => if a.has '?' || a.has '=' then quit s 0 else act a

end SourceTidy.Toolbox
