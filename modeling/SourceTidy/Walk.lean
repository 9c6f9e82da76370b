/-
  Walks: every file with an extension at or below a path, in a fixed order. Entries of a
  directory come by rising name, and what is in a directory comes right after it. Links are
  followed. A link to a directory that the walk is already in is left out, and so is an entry
  that leads nowhere; each leaves a note. All else that goes wrong ends the walk.

  A walk does not own the file system it looks at: it may change at every file, and each look
  is made at the file system of that moment.
-/
import SourceTidy.Diagnostics.Basic
import SourceTidy.Failure

namespace SourceTidy

/-- What a walk needs from its caller's state: the file system in it, a place for notes, and
    what to do at a file. -/
structure Watcher (σ : Type) where
  files : σ → FileSystem
  tell : Note → σ → σ
  meet : String → σ → Except Failure Unit × σ

namespace Walk

/-- A directory that the walk is in: its path, and the location that led to. -/
structure Ancestor where
  path : String
  place : Location

/-- The walk's own parameters. -/
structure Route where
  home : Location
  root : String
  ext : String

def loopNote (link : String) (a : Ancestor) : Note :=
  .log .walk .warn ("skipping symlink loop: File system loop found: " ++ link ++
    " points to an ancestor " ++ a.path)

def brokenNote (path : String) : Note :=
  .log .walk .warn ("skipping broken link: " ++ Failure.entryMessage path .notFound)

variable {σ : Type}

/-- An entry that cannot be looked at: left out if it leads nowhere, fatal otherwise. -/
def trouble (w : Watcher σ) (r : Route) (path : String) (cause : FileError) (s : σ) :
    Except Failure Unit × σ :=
  if cause = .notFound then (.ok (), w.tell (brokenNote path) s)
  else (.error (.walk r.root path cause), s)

/-- A file. -/
def file (w : Watcher σ) (r : Route) (path : String) (s : σ) : Except Failure Unit × σ :=
  if Path.hasExtension path r.ext then w.meet path s else (.ok (), s)

/-- A link: it counts as what it leads to. -/
def link (w : Watcher σ) (r : Route)
    (enter : List Ancestor → String → σ → Except Failure Unit × σ)
    (ancestors : List Ancestor) (path : String) (s : σ) : Except Failure Unit × σ :=
  match (w.files s).resolve r.home path with
  | .error cause => trouble w r path cause s
  | .ok place =>
    match (w.files s).node? place with
    | some (.file _) => file w r path s
    | some .directory =>
      match ancestors.find? (·.place = place) with
      | some a => (.ok (), w.tell (loopNote path a) s)
      | none => enter ancestors path s
    | _ => (.ok (), s)

/-- One entry of a directory. -/
def entry (w : Watcher σ) (r : Route)
    (enter : List Ancestor → String → σ → Except Failure Unit × σ)
    (ancestors : List Ancestor) (path : String) (n : Node) (s : σ) : Except Failure Unit × σ :=
  match n with
  | .file _ => file w r path s
  | .directory => enter ancestors path s
  | .link _ => link w r enter ancestors path s
  | .device => (.ok (), s)

/-- The entries of a directory, one after the other. -/
def entries (w : Watcher σ) (r : Route)
    (enter : List Ancestor → String → σ → Except Failure Unit × σ)
    (ancestors : List Ancestor) (dir : String) :
    List (String × Node) → σ → Except Failure Unit × σ
  | [], s => (.ok (), s)
  | (name, n) :: rest, s =>
    match entry w r enter ancestors (Path.join dir name) n s with
    | (.error e, s) => (.error e, s)
    | (.ok (), s) => entries w r enter ancestors dir rest s

/-- A directory and all below it, at most `levels` directories deep. -/
def directory (w : Watcher σ) (r : Route) :
    Nat → List Ancestor → String → σ → Except Failure Unit × σ
  | 0, _, path, s => (.error (.walk r.root path .nameTooLong), s)
  | levels + 1, ancestors, path, s =>
    match (w.files s).openDirectory r.home path with
    | .error cause => trouble w r path cause s
    | .ok (place, listing) =>
      entries w r (directory w r levels) (⟨path, place⟩ :: ancestors) path listing s

/-- How deep a walk can go. Each level makes the path longer, and a path that is too long cannot
    be opened, so that what `directory` says at depth 0 is what it would say there anyway. -/
def levels : Nat := FileSystem.pathLimit + 1

end Walk

/-- Meet every file with extension `ext` at or below `root`. One dash stands for the standard
    input, where there are no files. -/
def visit {σ : Type} (w : Watcher σ) (home : Location) (root ext : String) (s : σ) :
    Except Failure Unit × σ :=
  let r : Walk.Route := ⟨home, root, ext⟩
  match (w.files s).look home root with
  | .error _ => (.error (.file root .missingEntity), s)
  | .ok (.file _) => Walk.file w r root s
  | .ok .directory =>
    if Path.isDash root then (.ok (), s)
    else Walk.directory w r Walk.levels [] root s
  | .ok _ => (.ok (), s)

end SourceTidy
