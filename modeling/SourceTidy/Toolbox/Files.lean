/-
  Commands that make and remove what stands at paths: `rm` and `mkdir`.
-/
import SourceTidy.Toolbox.Options
import SourceTidy.Toolbox.Quoting

namespace SourceTidy.Toolbox

open Text (Bytes)

/-- When `rm` asks before it removes something. -/
inductive Asking where
  | never
  /-- Once, if a lot is to be removed. -/
  | once
  | always
deriving DecidableEq

/-- What `rm` was told to do. -/
structure Removal where
  /-- Directories go with all that is in them. -/
  deep : Bool
  /-- What is missing is no failure. -/
  force : Bool
  /-- Empty directories may go. -/
  emptied : Bool
  verbose : Bool
  asking : Asking

/-- Ask a question and read one line of the input as its answer: whether it is a yes, and what
    comes of that so far. -/
def ask (s : Setting) (question : String) : Bool × Result :=
  let line := s.stdin.takeWhile (· ≠ 10)
  (line.head? = some 121 || line.head? = some 89,
    { output := [.complaint (bytes ("rm: " ++ question ++ "? "))], files := s.files
      unread := some (s.stdin.drop (line.length + 1)) })

namespace Removal

/-- Take away what stands at a location, and say so if wanted. -/
def take (o : Removal) (s : Setting) (what path : String) (l : Location) : Result :=
  { output := [.result (if o.verbose then bytes ("removed " ++ what ++ shown path ++ "\n") else [])]
    files := s.files.erase l }

/-- Do something, if the answer to a question about a path is a yes. -/
def asked (o : Removal) (s : Setting) (question path : String) (act : Setting → Result) :
    Result :=
  if o.asking = .always then
    let (yes, r) := ask s (question ++ " " ++ shown path)
    if yes then r.thenDo s act else r
  else act s

/-- Take away what stands at a location; a directory goes after what is in it. -/
def takeAll (o : Removal) : Nat → Setting → String → Location → Result
  | 0, s, _, _ => quit s 1
  | n + 1, s, path, l =>
    match s.files.node? l with
    | some .directory =>
      let last (s : Setting) : Result :=
        if (s.files.names l).isEmpty then
          o.asked s "remove directory" path fun s => o.take s "directory " path l
        else quit s 0
      if (s.files.names l).isEmpty then last s
      else o.asked s "descend into directory" path fun s =>
        (forEach (fun s name => takeAll o n s (Path.join path name) (l ++ [name]))
          (s.files.names l) s).thenDo s last
    | some node =>
      let kind := match node with
        | .file content => if content.isEmpty then "regular empty file" else "regular file"
        | .link _ => "symbolic link"
        | _ => "character special file"
      o.asked s ("remove " ++ kind) path fun s => o.take s "" path l
    | none => quit s 0

/-- Remove what stands at one path. -/
def one (o : Removal) (s : Setting) (path : String) : Result :=
  let refuse := fun e => complain s 1 ("rm: cannot remove " ++ shown path ++ ": " ++ reason e)
  let last := (FileSystem.trimmedParts path).getLastD ""
  match s.files.lookAt s.home path, s.files.ownLocation s.home path with
  | .error e, _ => if o.force && (e = .notFound || e = .notDirectory) then quit s 0 else refuse e
  | _, .error e => refuse e
  | .ok .directory, .ok l =>
    let full := !(s.files.names l).isEmpty
    if !o.deep && (!o.emptied || full) then
      refuse (if o.emptied then .notEmpty else .isDirectory)
    else if last = "." || last = ".." then
      complain s 1 ("rm: refusing to remove '.' or '..' directory: skipping " ++ shown path)
    else o.takeAll (s.files.height + 2) s path l
  | .ok _, .ok l =>
    if FileSystem.asksForDirectory path then refuse .notDirectory
    else o.takeAll 1 s path l

/-- Remove what stands at some paths. -/
def all (o : Removal) (paths : List String) (s : Setting) : Result :=
  if o.asking = .once && (o.deep || 3 < paths.length) then
    let (yes, r) := ask s ("remove " ++ toString paths.length ++
      (if paths.length = 1 then " argument" else " arguments") ++
      (if o.deep then " recursively" else ""))
    if yes then r.thenDo s (forEach o.one paths) else r
  else forEach o.one paths s

/-- When to ask: the last option on that decides. -/
def askingOf (given : List Given) : Asking :=
  given.foldl (fun asking g =>
    if g.key = 'f' then .never
    else if g.key = 'i' then .always
    else if g.key = 'I' then .once
    else if g.key = 'w' then
      match g.value with
      | some "never" => .never
      | some "once" => .once
      | _ => .always
    else asking) .never

/-- Whether missing paths are failures: the last option on that decides. -/
def forceOf (given : List Given) : Bool :=
  given.foldl (fun force g =>
    if g.key = 'f' then true else if g.key = 'i' || g.key = 'I' then false else force) false

def ofOptions (a : Arranged) : Removal :=
  { deep := a.has 'r', force := forceOf a.given, emptied := a.has 'd', verbose := a.has 'v'
    asking := askingOf a.given }

end Removal

def rmForms : List OptionForm :=
  [⟨'f', ['f'], "force", .never⟩, ⟨'w', [], "interactive", .ifAttached⟩,
    ⟨'x', [], "one-file-system", .never⟩, ⟨'n', [], "no-preserve-root", .never⟩,
    ⟨'p', [], "preserve-root", .ifAttached⟩, ⟨'r', ['r', 'R'], "recursive", .never⟩,
    ⟨'d', ['d'], "dir", .never⟩, ⟨'v', ['v'], "verbose", .never⟩, ⟨'i', ['i'], "", .never⟩,
    ⟨'I', ['I'], "", .never⟩]

/-- `rm`: files, and with options whole directories or empty ones. -/
def rm (s : Setting) (args : List String) : Result :=
  withOptions "rm" rmForms s args fun a =>
    let o := Removal.ofOptions a
    if a.others.isEmpty then
      if o.force then quit s 0
      else complain s 1 "rm: missing operand\nTry 'rm --help' for more information."
    else (o.all a.others s).keptBack

/-- Letters of a symbolic mode: who, what is done, and what it is about. -/
def isModeClause (s : List Char) : Bool :=
  let who := s.dropWhile "ugoa".toList.contains
  let isOperator := fun c : Char => c = '+' || c = '-' || c = '='
  let afterOperator := who.drop 1
  who.head?.any isOperator &&
    afterOperator.all (fun c => isOperator c || "rwxXstugo".toList.contains c) ||
    who.head?.any isOperator && !afterOperator.isEmpty &&
      afterOperator.all fun c => '0' ≤ c && c ≤ '7'

/-- Permissions as an octal number of four digits or in clauses of letters. -/
def isMode (text : String) : Bool :=
  let s := text.toList
  if s.head?.any Char.isDigit then
    s.all (fun c => '0' ≤ c && c ≤ '7') && (s.dropWhile (· = '0')).length ≤ 4
  else (text.splitOn ",").all fun clause => isModeClause clause.toList

/-- What `mkdir` says about a path. -/
def mkdirComplaint (s : Setting) (path : String) (e : FileError) : Result :=
  complain s 1 ("mkdir: cannot create directory " ++ shown path ++ ": " ++ reason e)

/-- A directory was made. -/
def made (verbose : Bool) (path : String) (fs : FileSystem) : Result :=
  { output := [.result (if verbose then bytes ("mkdir: created directory " ++ shown path ++ "\n")
      else [])]
    files := fs }

/-- Make one directory. -/
def mkdirOne (verbose : Bool) (s : Setting) (path : String) : Result :=
  match s.files.makeDirectory s.home path with
  | .ok fs => made verbose path fs
  | .error e => mkdirComplaint s path e

/-- Make a directory and those on the way to it, from the outermost on. `front` is the way so
    far, `tail` what stands behind the last part. -/
def mkdirAll (verbose : Bool) (tail front : String) : List String → Setting → Result
  | [], s => quit s 0
  | part :: rest, s =>
    let path := front ++ part ++ if rest.isEmpty then tail else ""
    if path.isEmpty || s.files.isDirectory s.home path then
      mkdirAll verbose tail (path ++ "/") rest s
    else match s.files.makeDirectory s.home path with
      | .ok fs =>
        (made verbose path fs).thenDo s (mkdirAll verbose tail (path ++ "/") rest)
      | .error .alreadyExists =>
        mkdirComplaint s path (if rest.isEmpty then .alreadyExists else .notDirectory)
      | .error e => mkdirComplaint s path e

/-- Make one directory, with those on the way to it. -/
def mkdirParents (verbose : Bool) (s : Setting) (path : String) : Result :=
  if path.isEmpty then mkdirComplaint s path .notFound
  else
    let slashes := path.toList.reverse.takeWhile (· = '/')
    mkdirAll verbose (String.ofList slashes) "" (FileSystem.trimmedParts path) s

def mkdirForms : List OptionForm :=
  [⟨'Z', [], "context", .ifAttached⟩, ⟨'m', ['m'], "mode", .always⟩,
    ⟨'p', ['p'], "parents", .never⟩, ⟨'v', ['v'], "verbose", .never⟩, ⟨'Z', ['Z'], "", .never⟩]

/-- `mkdir`: directories, and with an option those above them. -/
def mkdir (s : Setting) (args : List String) : Result :=
  withOptions "mkdir" mkdirForms s args fun a =>
    let verbose := a.has 'v'
    if a.others.isEmpty then
      complain s 1 "mkdir: missing operand\nTry 'mkdir --help' for more information."
    else match (a.value? 'm').filter fun mode => !isMode mode with
      | some mode => complain s 1 ("mkdir: invalid mode " ++ shownValue mode)
      | none =>
        (forEach (if a.has 'p' then mkdirParents verbose else mkdirOne verbose) a.others s).keptBack

end SourceTidy.Toolbox
