/-
  Making and removing what stands at a path: directories, files, links and whole trees. The
  last part of a path is not followed where something is made or removed in its place.
-/
import SourceTidy.FileSystem.Resolve

namespace SourceTidy.FileSystem

open Text (Bytes)

/-- The parts of a path without empty ones at its end. -/
def trimmedParts (path : String) : List String :=
  ((Path.parts path).reverse.dropWhile (· = "")).reverse

/-- The directory that a path's last part stands in, and that part. -/
def seat (fs : FileSystem) (home : Location) (path : String) :
    Except FileError (Location × String) :=
  match pathFault? path with
  | some e => .error e
  | none =>
    let parts := trimmedParts path
    match parts.getLast? with
    | none => .error .alreadyExists
    | some last =>
      let start := if Path.isAbsolute path then [] else home
      match fs.resolveFrom linkLimit start parts.dropLast with
      | .error e => .error e
      | .ok a =>
        match fs.node? a.place with
        | some .directory =>
          if last = "" ∨ last = "." then .ok (a.place.dropLast, a.place.getLastD "")
          else if last = ".." then
            .ok (a.place.dropLast.dropLast, a.place.dropLast.getLastD "")
          else if 255 < last.utf8ByteSize then .error .nameTooLong
          else .ok (a.place, last)
        | some _ => .error .notDirectory
        | none => .error .notFound

/-- The location of a seat; the top directory has no name. -/
def seatLocation (s : Location × String) : Location := if s.2 = "" then s.1 else s.1 ++ [s.2]

/-- The location where a path's last part stands, without following it. -/
def ownLocation (fs : FileSystem) (home : Location) (path : String) :
    Except FileError Location :=
  (fs.seat home path).map seatLocation

/-- What stands at a path itself, a link included. -/
def lookAt (fs : FileSystem) (home : Location) (path : String) : Except FileError Node := do
  let l ← fs.ownLocation home path
  match fs.node? l with
  | some n => .ok n
  | none => .error .notFound

/-- Make a directory; its parent must be there. -/
def makeDirectory (fs : FileSystem) (home : Location) (path : String) :
    Except FileError FileSystem := do
  let l ← fs.ownLocation home path
  match fs.node? l with
  | some _ => .error .alreadyExists
  | none => .ok (fs.insert l .directory)

/-- Make a directory and those above it that are missing. The paths are the directory's own
    and those of its parents, the innermost first. -/
def makeDirectoriesFrom (home : Location) : List String → FileSystem →
    Except FileError FileSystem
  | [], fs => .ok fs
  | path :: above, fs =>
    if path.isEmpty then .ok fs
    else match fs.makeDirectory home path with
      | .ok fs => .ok fs
      | .error .notFound =>
        match makeDirectoriesFrom home above fs with
        | .ok fs =>
          match fs.makeDirectory home path with
          | .ok fs => .ok fs
          | .error e => if fs.isDirectory home path then .ok fs else .error e
        | .error e => .error e
      | .error e => if fs.isDirectory home path then .ok fs else .error e

/-- A path and its parents, as far as `n` steps up. -/
def lineage : Nat → String → List String
  | 0, path => [path]
  | n + 1, path =>
    match Path.parent? path with
    | some above => path :: lineage n above
    | none => [path]

def makeDirectories (fs : FileSystem) (home : Location) (path : String) :
    Except FileError FileSystem :=
  makeDirectoriesFrom home (lineage path.length path) fs

/-- A path with a slash at its end asks for a directory. -/
def asksForDirectory (path : String) : Bool := path.toList.getLast? = some '/'

/-- Where a file that a path leads to stands or would stand, through at most `n` links. -/
def fileLocation (fs : FileSystem) : Nat → Location → String → Except FileError Location
  | 0, _, _ => .error .tooManyLinks
  | n + 1, home, path => do
    let s ← fs.seat home path
    if asksForDirectory path then .error .isDirectory
    else match fs.node? (seatLocation s) with
      | some (.link target) => fileLocation fs n s.1 target
      | _ => .ok (seatLocation s)

/-- Write a file, which is made if it is not there; `grow` says whether new content goes
    behind the old one. -/
def writeFile (fs : FileSystem) (home : Location) (path : String) (content : Bytes)
    (grow : Bool) : Except FileError FileSystem := do
  let l ← fs.fileLocation (linkLimit + 1) home path
  match fs.node? l with
  | some (.file old) => .ok (fs.setContent l (if grow then old ++ content else content))
  | some .directory => .error .isDirectory
  | some .device => .ok fs
  | some (.link _) => .error .tooManyLinks
  | none => .ok (fs.insert l (.file content))

/-- Make a link. -/
def makeLink (fs : FileSystem) (home : Location) (path target : String) :
    Except FileError FileSystem := do
  if target.isEmpty then .error .notFound
  else if pathLimit < target.utf8ByteSize then .error .nameTooLong
  else
    let l ← fs.ownLocation home path
    match fs.node? l with
    | some _ => .error .alreadyExists
    | none =>
      if asksForDirectory path then .error .notFound
      else .ok (fs.insert l (.link target))

/-- Remove what stands at a path, with all that is in it; a link goes, not its target. -/
def removeTree (fs : FileSystem) (home : Location) (path : String) :
    Except FileError FileSystem := do
  let l ← fs.ownLocation home path
  match fs.node? l with
  | none => .error .notFound
  | some _ => .ok (fs.erase l)

/-- What stands below a location, each with its path from there. -/
def below (fs : FileSystem) (top : Location) : List (String × Node) :=
  fs.entries.filterMap fun e =>
    if top.isPrefixOf e.1 && top.length < e.1.length then
      some ("/".intercalate (e.1.drop top.length), e.2)
    else none

end SourceTidy.FileSystem
