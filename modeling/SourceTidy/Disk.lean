/-
  Between a disk and file system values. What some paths lead to is read into a value, with
  the settings files and repository marks above it; afterwards the value's changes are written
  back. This is the only part that looks at a disk.
-/
import SourceTidy.Discovery
import SourceTidy.FileSystem.Edit

namespace SourceTidy.Disk

/-- What has been read so far, and the directories whose contents are all there. -/
structure Snapshot where
  files : FileSystem := .empty
  whole : List Location := []

abbrev Reader := StateT Snapshot IO

/-- The location of a path from the top directory without links in it. -/
def locationOf (path : String) : Location := (Path.parts path).filter isName

/-- A target that leads nowhere. -/
def nowhere : String := "/..nowhere"

/-- The target of the link at a path. A link that leads back to itself stays one. -/
def targetOf (path : String) : IO String := do
  match ← (IO.FS.realPath path).toBaseIO with
  | .ok target => return toString target
  | .error (.noFileOrDirectory _ _ _) => return nowhere
  | .error _ => return path

/-- What stands at a location. What cannot be read counts as missing. -/
def nodeAt? (l : Location) : IO (Option Node) := do
  let path := System.mkFilePath [l.path]
  match ← path.symlinkMetadata.toBaseIO with
  | .error _ => return none
  | .ok found =>
    match found.type with
    | .dir => return some .directory
    | .symlink => return some (.link (← targetOf l.path))
    | .other => return some .device
    | .file =>
      match ← (IO.FS.readBinFile path).toBaseIO with
      | .ok content => return some (.file content.toList)
      | .error _ => return none

/-- The names in the directory at a location. -/
def namesAt (l : Location) : IO (List String) := do
  match ← (System.mkFilePath [l.path]).readDir.toBaseIO with
  | .ok found => return found.toList.map (·.fileName)
  | .error _ => return []

mutual

/-- Read what stands at a location; behind a link, what it leads to. -/
partial def takeNode (l : Location) : Reader Unit := do
  if ((← get).files.node? l).isNone then
    match ← nodeAt? l with
    | none => return ()
    | some n =>
      modify fun s => { s with files := s.files.insert l n }
      match n with
      | .link target => if target ≠ l.path then takeTree (locationOf target)
      | _ => return ()

/-- Read the directories above a location, and what in them matters to settings. -/
partial def takeAbove (l : Location) : Reader Unit := do
  for n in List.range l.length do
    let dir := l.take n
    takeNode dir
    takeNode (dir ++ [Discovery.settingsName])
    takeNode (dir ++ [Discovery.repositoryMark])

/-- Read all that lies at and below a location. -/
partial def takeTree (l : Location) : Reader Unit := do
  takeAbove l
  takeNode l
  if (← get).files.node? l = some .directory && !(← get).whole.contains l then
    modify fun s => { s with whole := l :: s.whole }
    for name in ← namesAt l do
      takeTree (l ++ [name])

end

/-- Read what is on the way from a directory along some parts, and all that lies at its end. -/
def takeParts : Location → List String → Reader Unit
  | here, [] => takeTree here
  | here, part :: rest =>
    if part = "" ∨ part = "." then takeParts here rest
    else if part = ".." then takeParts here.dropLast rest
    else do
      let next := here ++ [part]
      takeAbove next
      takeNode next
      match (← get).files.node? next with
      | some (.link target) => takeParts (locationOf target) rest
      | some _ => takeParts next rest
      | none => return ()

/-- The working directory. -/
def home : IO Location := return locationOf (toString (← IO.FS.realPath "."))

/-- Read all that some paths lead to from a directory. -/
def read (home : Location) (paths : List String) : IO FileSystem := do
  let reader : Reader Unit := do
    takeAbove (home ++ ["."])
    for path in paths do
      takeParts (if Path.isAbsolute path then [] else home) (Path.parts path)
  return (← reader.run {}).2.files

/-- Write back what has changed. -/
def store (before after : FileSystem) : IO Unit := do
  for (l, _) in before.entries do
    if (after.node? l).isNone then
      let path := System.mkFilePath [l.path]
      if ← path.isDir then IO.FS.removeDirAll path
      else if ← path.pathExists then IO.FS.removeFile path
  for (l, n) in after.entries do
    if before.node? l ≠ some n then
      match n with
      | .directory => IO.FS.createDirAll l.path
      | .file content => IO.FS.writeBinFile l.path ⟨content.toArray⟩
      | _ => return ()

end SourceTidy.Disk
