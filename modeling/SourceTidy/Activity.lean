/-
  Activities: what an action does, as a function from the file system it finds to a report.
  The report holds the file system it leaves, its output and its notes, also when it fails;
  an activity cannot see what was put out before it.
-/
import SourceTidy.Diagnostics.Basic
import SourceTidy.Failure
import SourceTidy.Styled
import SourceTidy.Tool

namespace SourceTidy

/-- Where a run takes place: the working directory, how tools are started, and what the output
    can show. -/
structure Host where
  home : Location
  launch : Launcher
  rendering : Rendering

/-- What has come of an activity so far. -/
structure Progress where
  files : FileSystem
  out : List Piece
  notes : List Note

namespace Progress

/-- Nothing put out yet. -/
def start (fs : FileSystem) : Progress := ⟨fs, [], []⟩

/-- What came first, and then what followed on the file system it left. -/
def followedBy (p q : Progress) : Progress := ⟨q.files, p.out ++ q.out, p.notes ++ q.notes⟩

theorem start_followedBy (fs : FileSystem) (p : Progress) : (start fs).followedBy p = p := rfl

theorem followedBy_start (p : Progress) : p.followedBy (start p.files) = p := by
  simp [followedBy, start]

theorem followedBy_assoc (p q r : Progress) :
    (p.followedBy q).followedBy r = p.followedBy (q.followedBy r) := by
  simp [followedBy, List.append_assoc]

end Progress

/-- How an activity ended, and what has come of it. -/
structure Report (α : Type) where
  outcome : Except Failure α
  progress : Progress

def Activity (α : Type) := Host → FileSystem → Report α

namespace Activity

def pure {α : Type} (a : α) : Activity α := fun _ fs => ⟨.ok a, .start fs⟩

/-- One activity and then another; a failure ends the whole where it happens. -/
def bind {α β : Type} (x : Activity α) (f : α → Activity β) : Activity β := fun h fs =>
  match x h fs with
  | ⟨.error e, p⟩ => ⟨.error e, p⟩
  | ⟨.ok a, p⟩ =>
    match f a h p.files with
    | ⟨o, q⟩ => ⟨o, p.followedBy q⟩

instance : Monad Activity where
  pure := pure
  bind := bind

theorem pure_apply {α : Type} (a : α) (h : Host) (fs : FileSystem) :
    (Pure.pure a : Activity α) h fs = ⟨.ok a, .start fs⟩ := rfl

theorem bind_error {α β : Type} {x : Activity α} {h : Host} {fs : FileSystem} {e : Failure}
    {p : Progress} (hx : x h fs = ⟨.error e, p⟩) (f : α → Activity β) :
    (x >>= f) h fs = ⟨.error e, p⟩ := by
  show bind x f h fs = _
  simp [bind, hx]

theorem bind_ok {α β : Type} {x : Activity α} {h : Host} {fs : FileSystem} {a : α}
    {p : Progress} (hx : x h fs = ⟨.ok a, p⟩) (f : α → Activity β) :
    (x >>= f) h fs = ⟨(f a h p.files).outcome, p.followedBy (f a h p.files).progress⟩ := by
  show bind x f h fs = _
  simp [bind, hx]

theorem bind_pure_eq {α : Type} (x : Activity α) : bind x pure = x := by
  funext h fs
  rcases hx : x h fs with ⟨o | a, p⟩
  · simp [bind, hx]
  · simp [bind, hx, pure, Progress.followedBy_start]

theorem bind_assoc_eq {α β γ : Type} (x : Activity α) (f : α → Activity β)
    (g : β → Activity γ) : bind (bind x f) g = bind x fun a => bind (f a) g := by
  funext h fs
  rcases hx : x h fs with ⟨o | a, p⟩
  · simp [bind, hx]
  · rcases hf : f a h p.files with ⟨o | b, q⟩
    · simp [bind, hx, hf]
    · simp [bind, hx, hf, Progress.followedBy, List.append_assoc]

instance : LawfulMonad Activity :=
  LawfulMonad.mk' Activity bind_pure_eq (fun _ _ => rfl) bind_assoc_eq

def fail {α : Type} (e : Failure) : Activity α := fun _ fs => ⟨.error e, .start fs⟩

/-- Put out one piece. -/
def write (p : Piece) : Activity Unit := fun _ fs => ⟨.ok (), ⟨fs, [p], []⟩⟩

/-- Put out a text without style. -/
def say (text : String) : Activity Unit := write (.plain text)

/-- Leave a note. -/
def note (n : Note) : Activity Unit := fun _ fs => ⟨.ok (), ⟨fs, [], [n]⟩⟩

def log (topic : Topic) (level : Level) (text : String) : Activity Unit :=
  note (.log topic level text)

/-- The file system as it is. -/
def files : Activity FileSystem := fun _ fs => ⟨.ok fs, .start fs⟩

/-- Go on with another file system. -/
def setFiles (fs : FileSystem) : Activity Unit := fun _ _ => ⟨.ok (), .start fs⟩

/-- Where the run takes place. -/
def host : Activity Host := fun h fs => ⟨.ok h, .start fs⟩

/-- The value of a result, or its failure. -/
def ofExcept {α : Type} (r : Except Failure α) : Activity α :=
  match r with
  | .ok a => pure a
  | .error e => fail e

/-- Say something about a file. -/
def finding (message path : String) : Activity Unit := do
  say (message ++ " ")
  write (.styled .path path)
  say "\n"

/-- Run a tool and pass on its output. A tool that cannot be started is reported, and that is
    all that comes of it. -/
def runTool (c : Command) : Activity (Option ToolOutput) := do
  log .tool .debug ("running " ++ c.display)
  let h ← host
  match h.launch c (← files) with
  | .error e =>
    log .action .warn ("failed to start " ++ c.program ++ ": " ++ e.message)
    write (.styled .failure (c.program ++ " could not be run: " ++ e.message))
    say "\n"
    return none
  | .ok (result, fs) =>
    setFiles fs
    let output := ToolOutput.ofResult result
    log .tool .debug (c.program ++ " exited with " ++ showCode output.code)
    say output.stdout
    if !output.stderr.isEmpty then note (.toolError output.stderr)
    if !output.succeeded then
      log .action .debug (c.program ++ " finished with " ++ showCode output.code)
    return some output

/-- Run a tool if there is a command for it. -/
def runTool? (c : Option Command) : Activity Unit :=
  match c with
  | none => pure ()
  | some c => do
    let _ ← runTool c
    return ()

end Activity

end SourceTidy
