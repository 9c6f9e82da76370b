/-
  Output in pieces, some of them with a style. What a piece looks like is decided only when
  the output is rendered: plainly, or with escape sequences around each styled piece.
-/

namespace SourceTidy

/-- What a styled text is. -/
inductive Style where
  | actionName
  | skipNotice
  | path
  | failure
deriving DecidableEq, Repr

/-- The colours in use, by their numbers in escape sequences. -/
inductive Colour where
  | red
  | yellow
  | cyan
deriving DecidableEq, Repr

namespace Style

def isBold : Style → Bool
  | actionName => true
  | failure => true
  | _ => false

def colour? : Style → Option Colour
  | actionName => none
  | skipNotice => some .yellow
  | path => some .cyan
  | failure => some .red

end Style

def Colour.number : Colour → String
  | red => "1"
  | yellow => "3"
  | cyan => "6"

/-- One escape sequence that sets an attribute. -/
def escapeSequence (code : String) : String := "\x1b[" ++ code ++ "m"

/-- The sequence that ends all styling. -/
def resetSequence : String := escapeSequence "0"

/-- The sequences that begin a style; they end any other style first. -/
def Style.opening (s : Style) : String :=
  resetSequence ++ (if s.isBold then escapeSequence "1" else "") ++
    match s.colour? with
    | some c => escapeSequence ("3" ++ c.number)
    | none => ""

inductive Piece where
  | plain (text : String)
  | styled (style : Style) (text : String)
deriving DecidableEq, Repr

namespace Piece

/-- The text of a piece without its style. -/
def text : Piece → String
  | plain t => t
  | styled _ t => t

/-- A piece with escape sequences. -/
def ansi : Piece → String
  | plain t => t
  | styled s t => s.opening ++ t ++ resetSequence

end Piece

/-- Whether an output can show styles. -/
inductive Rendering where
  | plain
  | ansi
deriving DecidableEq, Repr

/-- Output as one text. -/
def render (r : Rendering) (ps : List Piece) : String :=
  String.join (ps.map (match r with | .plain => Piece.text | .ansi => Piece.ansi))

/-- When styles are wanted on the standard output. -/
inductive ColourChoice where
  | auto
  | never
deriving DecidableEq, Repr

/-- Styles are for terminals, and only if nobody asked for none. -/
def chooseColour (isTerminal noColour : Bool) : ColourChoice :=
  if isTerminal && !noColour then .auto else .never

end SourceTidy
