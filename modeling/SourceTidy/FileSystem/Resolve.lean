/-
  What a path leads to. The parts of a path are taken one after the other from a starting
  directory; a link is replaced by the parts of its target. `resolve` gives the location at
  the end, and the looks at a file system that follow are all made through it.
-/
import SourceTidy.FileSystem.Basic

namespace SourceTidy

open Text (Bytes)

/-- Why something could not be done with a path. -/
inductive FileError where
  | notFound
  | notDirectory
  | isDirectory
  | tooManyLinks
  | nameTooLong
  | permissionDenied
  | alreadyExists
  | notEmpty
  | busy
  /-- A path that holds a character that no path may hold. -/
  | badPath
  /-- A command that holds a character that no command may hold. -/
  | badCommand
  | notText
  | missingEntity
  | other (text : String)
deriving DecidableEq, Repr

namespace FileError

def message : FileError → String
  | notFound => "No such file or directory (os error 2)"
  | notDirectory => "Not a directory (os error 20)"
  | isDirectory => "Is a directory (os error 21)"
  | tooManyLinks => "Too many levels of symbolic links (os error 40)"
  | nameTooLong => "File name too long (os error 36)"
  | permissionDenied => "Permission denied (os error 13)"
  | alreadyExists => "File exists (os error 17)"
  | notEmpty => "Directory not empty (os error 39)"
  | busy => "Device or resource busy (os error 16)"
  | badPath => "file name contained an unexpected NUL byte"
  | badCommand => "nul byte found in provided data"
  | notText => "stream did not contain valid UTF-8"
  | missingEntity => "entity not found"
  | other text => text

end FileError

namespace FileSystem

/-- Where a path ended, and how many more links it could have gone through. -/
structure Arrival where
  place : Location
  links : Nat
deriving DecidableEq

/-- The error for a name that is not there. -/
def missing (name : String) : FileError :=
  if 255 < name.utf8ByteSize then .nameTooLong else .notFound

/-- Take the parts of a path from a directory. What happens at a link is up to `enter`, which
    gets the directory where the target starts and all parts that are left then. -/
def follow (fs : FileSystem) (links : Nat)
    (enter : Location → List String → Except FileError Arrival) :
    Location → List String → Except FileError Arrival
  | here, [] => .ok ⟨here, links⟩
  | here, part :: parts =>
    match fs.node? here with
    | some .directory =>
      if part = "" ∨ part = "." then follow fs links enter here parts
      else if part = ".." then follow fs links enter here.dropLast parts
      else match fs.node? (here ++ [part]) with
        | none => .error (missing part)
        | some (.link target) =>
          enter (if Path.isAbsolute target then [] else here) (Path.parts target ++ parts)
        | some _ => follow fs links enter (here ++ [part]) parts
    | some _ => .error .notDirectory
    | none => .error .notFound

/-- Take the parts of a path from a directory, through at most `links` links. -/
def resolveFrom (fs : FileSystem) : Nat → Location → List String → Except FileError Arrival
  | 0 => follow fs 0 fun _ _ => .error .tooManyLinks
  | n + 1 => follow fs (n + 1) (resolveFrom fs n)

/-- How many links a path may go through. -/
def linkLimit : Nat := 40

/-- How many bytes the text of a path may have. -/
def pathLimit : Nat := 4095

/-- What is wrong with the text of a path, if something is. -/
def pathFault? (path : String) : Option FileError :=
  if path.isEmpty then some .notFound
  else if path.toList.contains '\x00' then some .badPath
  else if pathLimit < path.utf8ByteSize then some .nameTooLong
  else none

/-- Where a path leads, from the directory `home` if it does not start from the top. -/
def arrive (fs : FileSystem) (home : Location) (path : String) : Except FileError Arrival :=
  match pathFault? path with
  | some e => .error e
  | none =>
    fs.resolveFrom linkLimit (if Path.isAbsolute path then [] else home) (Path.parts path)

/-- The location that a path leads to. -/
def resolve (fs : FileSystem) (home : Location) (path : String) : Except FileError Location :=
  (fs.arrive home path).map (·.place)

/-- What a path leads to. -/
def look (fs : FileSystem) (home : Location) (path : String) : Except FileError Node :=
  match fs.resolve home path with
  | .error e => .error e
  | .ok l =>
    match fs.node? l with
    | some n => .ok n
    | none => .error .notFound

def exists? (fs : FileSystem) (home : Location) (path : String) : Bool :=
  match fs.look home path with
  | .ok _ => true
  | .error _ => false

def isFile (fs : FileSystem) (home : Location) (path : String) : Bool :=
  match fs.look home path with
  | .ok (.file _) => true
  | _ => false

def isDirectory (fs : FileSystem) (home : Location) (path : String) : Bool :=
  match fs.look home path with
  | .ok .directory => true
  | _ => false

/-- The bytes of the file that a path leads to. -/
def readBytes (fs : FileSystem) (home : Location) (path : String) : Except FileError Bytes :=
  match fs.look home path with
  | .ok (.file content) => .ok content
  | .ok .device => .ok []
  | .ok .directory => .error .isDirectory
  | .ok (.link _) => .error .tooManyLinks
  | .error e => .error e

/-- The text of the file that a path leads to. -/
def readText (fs : FileSystem) (home : Location) (path : String) : Except FileError String :=
  match fs.readBytes home path with
  | .error e => .error e
  | .ok bytes =>
    match Text.Utf8.toString? bytes with
    | some s => .ok s
    | none => .error .notText

/-- The first line of the file that a path leads to; the rest of the file is not looked at. -/
def readFirstLine (fs : FileSystem) (home : Location) (path : String) :
    Except FileError String :=
  match fs.readBytes home path with
  | .error e => .error e
  | .ok bytes =>
    match Text.Utf8.toString? (Text.Utf8.firstLine bytes) with
    | some s => .ok s
    | none => .error .notText

/-- The directory that a path leads to, and what is in it. -/
def openDirectory (fs : FileSystem) (home : Location) (path : String) :
    Except FileError (Location × List (String × Node)) :=
  match fs.resolve home path with
  | .error e => .error e
  | .ok l =>
    match fs.node? l with
    | some .directory => .ok (l, fs.listing l)
    | some _ => .error .notDirectory
    | none => .error .notFound

/-- Put new content into the file that a path leads to. -/
def overwrite (fs : FileSystem) (home : Location) (path : String) (content : Bytes) :
    Except FileError FileSystem :=
  match fs.resolve home path with
  | .error e => .error e
  | .ok l =>
    match fs.node? l with
    | some (.file _) => .ok (fs.setContent l content)
    | some .device => .ok fs
    | some .directory => .error .isDirectory
    | some (.link _) => .error .tooManyLinks
    | none => .error .notFound

end FileSystem

end SourceTidy
