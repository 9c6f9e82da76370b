/-
  The settings of a run and what can be wrong with them. `Settings.check` holds the rules
  that any settings must meet, wherever they come from.
-/
import SourceTidy.Text.Blank
import SourceTidy.Text.Quoted

namespace SourceTidy

/-- Command lines of the outside tools: a program and its leading arguments. -/
structure ToolLines where
  formatter : List String := ["black"]
  linter : List String := ["flake8"]
  doctest : List String := ["python3", "-m", "doctest"]
deriving DecidableEq, Repr

structure Settings where
  /-- The longest line that the formatter leaves. -/
  lineLength : Nat := 80
  /-- The extension of source files, with its point. -/
  extension : String := ".py"
  /-- The extension of example sessions, with its point. -/
  replExtension : String := ".repl"
  /-- What a header line starts with. -/
  commentMarker : String := "#"
  tools : ToolLines := {}
deriving DecidableEq, Repr

/-- Why a text does not give settings. -/
inductive SettingsError where
  /-- The text is no well-formed document. -/
  | malformed
  | unknownKey (key : String) (known : List String)
  | wrongType (found wanted : String)
  | negative (n : Int)
  | integerOverflow
  | floatOverflow
  | zeroLineLength
  | badExtension (key value : String)
  | emptyMarker
  | noProgram (key : String)
  | other (text : String)
deriving DecidableEq, Repr

namespace SettingsError

/-- A name between the marks that messages put around names. -/
def marked (name : String) : String := "`" ++ name ++ "`"

def message : SettingsError → String
  | malformed => "invalid document"
  | unknownKey key known =>
    "unknown field " ++ marked key ++ ", expected one of " ++
      String.intercalate ", " (known.map marked)
  | wrongType found wanted => "invalid type: " ++ found ++ ", expected " ++ wanted
  | negative n => "invalid value: integer " ++ marked (toString n) ++ ", expected usize"
  | integerOverflow => "integer number overflowed"
  | floatOverflow => "floating-point number overflowed"
  | zeroLineLength => "line_length must be greater than zero"
  | badExtension key value =>
    key ++ " must look like \".py\", got " ++ Text.quoted value
  | emptyMarker => "comment_marker must not be empty"
  | noProgram key => "tools." ++ key ++ " must name a program"
  | other text => text

end SettingsError

/-- A point and at least one byte after it. -/
def looksLikeExtension (s : String) : Bool :=
  s.toList.head? = some '.' && 2 ≤ s.utf8ByteSize

/-- A command line whose first word is there and not blank. -/
def namesProgram (line : List String) : Bool :=
  match line with
  | [] => false
  | program :: _ => !Text.allBlank program.toList

namespace Settings

def checkExtension (key value : String) : Except SettingsError Unit :=
  if looksLikeExtension value then .ok () else .error (.badExtension key value)

def checkTool (key : String) (line : List String) : Except SettingsError Unit :=
  if namesProgram line then .ok () else .error (.noProgram key)

/-- The rules, in the order in which a breach is reported. -/
def check (s : Settings) : Except SettingsError Unit := do
  if s.lineLength = 0 then throw .zeroLineLength
  checkExtension "extension" s.extension
  checkExtension "repl_extension" s.replExtension
  if s.commentMarker.isEmpty then throw .emptyMarker
  checkTool "formatter" s.tools.formatter
  checkTool "linter" s.tools.linter
  checkTool "doctest" s.tools.doctest

end Settings

end SourceTidy
