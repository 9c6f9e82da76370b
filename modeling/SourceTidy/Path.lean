/-
  Paths as text. A path is cut into parts at its slashes; empty parts and parts that are one
  point name the same place as the part before them. Nothing here looks at a file system.
-/

namespace SourceTidy.Path

/-- The parts of a path between its slashes, empty ones included. -/
def split : List Char → List (List Char)
  | [] => [[]]
  | c :: s =>
    if c = '/' then [] :: split s
    else match split s with
      | [] => [[c]]
      | part :: parts => (c :: part) :: parts

theorem split_ne_nil (s : List Char) : split s ≠ [] := by
  cases s with
  | nil => simp [split]
  | cons c s =>
    rw [split]
    split
    · simp
    · split <;> simp

/-- The parts of a path as strings. -/
def parts (p : String) : List String := (split p.toList).map String.ofList

/-- The parts that name something: neither empty nor one point. -/
def named (p : List Char) : List (List Char) :=
  (split p).filter fun part => part ≠ [] && part ≠ ['.']

/-- A path that starts from the top directory. -/
def isAbsolute (p : String) : Bool := p.toList.head? = some '/'

/-- The last part that names something, unless it goes up. -/
def fileName? (p : List Char) : Option (List Char) :=
  match (named p).getLast? with
  | some part => if part = ['.', '.'] then none else some part
  | none => none

/-- What follows the last point of a file name; none if there is no point, or if the only
    one comes first. -/
def extensionOf? (name : List Char) : Option (List Char) :=
  let after := name.reverse.takeWhile (· ≠ '.')
  let before := name.reverse.drop (after.length + 1)
  if after.length = name.length || before.isEmpty then none else some after.reverse

/-- The extension of a path's file name. -/
def extension? (p : List Char) : Option (List Char) := (fileName? p).bind extensionOf?

/-- Whether a path has the extension, which may be given with or without its point. The empty
    extension is never matched. -/
def hasExtension (path ext : String) : Bool :=
  let wanted := match ext.toList with
    | '.' :: s => s
    | s => s
  !wanted.isEmpty && extension? path.toList = some wanted

/-- Whether a path is one dash, with nothing behind it but slashes and points that name
    nothing. -/
def isDash (p : String) : Bool :=
  match split p.toList with
  | ['-'] :: rest => rest.all fun part => part = [] || part = ['.']
  | _ => false

/-- The path of an entry of a directory. -/
def join (dir name : String) : String :=
  if dir.isEmpty then name
  else if dir.toList.getLast? = some '/' then dir ++ name
  else dir ++ "/" ++ name

/-- A path written backwards, without slashes and points at its end that name nothing. The top
    directory and a point that stands alone stay. -/
def trimBackward : List Char → List Char
  | '/' :: [] => ['/']
  | '/' :: s => trimBackward s
  | '.' :: '/' :: s => trimBackward ('/' :: s)
  | s => s

/-- The path without its last part; none if it has no part to lose. -/
def parent? (p : String) : Option String :=
  match trimBackward p.toList.reverse with
  | [] => none
  | ['/'] => none
  | s => some (String.ofList (trimBackward (s.dropWhile (· ≠ '/'))).reverse)

/-- Parts put behind each other, each after a slash. -/
def slashed (parts : List (List Char)) : List Char := parts.flatMap ('/' :: ·)

/-- Whether a path has exactly two slashes in front, which some systems tell from one. -/
def startsWithTwoSlashes (p : List Char) : Bool :=
  p.take 2 = ['/', '/'] && p.take 3 ≠ ['/', '/', '/']

/-- The path from the top directory to what `path` names from `home`. Empty parts and points
    are dropped, steps up are kept, and so is a slash at the end. None for the empty path. -/
def absolute? (home path : String) : Option String :=
  let p := path.toList
  if p.isEmpty then none
  else
    let names := named p
    let start :=
      if startsWithTwoSlashes p then ['/']
      else if isAbsolute path then []
      else if home = "/" then []
      else home.toList
    let body :=
      if names.isEmpty && startsWithTwoSlashes p then ['/', '/'] else start ++ slashed names
    let closed :=
      if p.getLast? = some '/' && body.getLast? ≠ some '/' then body ++ ['/'] else body
    some (String.ofList (if closed.isEmpty then ['/'] else closed))

end SourceTidy.Path
