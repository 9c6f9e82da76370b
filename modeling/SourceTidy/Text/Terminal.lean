/-
  How a text looks on a terminal. Control sequences begin with the escape character and show
  nothing; a reader of the text is at any time in one `Phase` of such a sequence. What is left
  is `visible`. The columns that a line takes are counted without regard to that.
-/
import SourceTidy.Text.Utf8

namespace SourceTidy.Text

/-- Where in a control sequence a reader is. -/
inductive Phase where
  /-- Outside of all sequences. -/
  | plain
  /-- Right after the escape character. -/
  | escape
  /-- After the escape character and some intermediate ones. -/
  | intermediate
  /-- After the escape character and a bracket; a letter ends the sequence. -/
  | parameters
  /-- In the title of a window; a bell ends it. -/
  | title
  /-- In another string for the terminal. -/
  | payload
deriving DecidableEq, Repr

/-- A control character that moves to another place of the page. -/
def isLayout (c : Char) : Bool := c = '\t' || c = '\n' || c = '\x0c' || c = '\r'

/-- One of the 33 control characters of the ASCII table. -/
def isAsciiControl (c : Char) : Bool := c.toNat < 0x20 || c.toNat = 0x7F

/-- The character holds the byte that ends a string for the terminal. -/
def endsPayload (c : Char) : Bool := 0x80 ≤ c.toNat && (Utf8.encodeChar c).contains 0x9C

namespace Phase

/-- The phase after a graphic ASCII character. -/
def afterGraphic (c : Char) : Phase → Phase
  | plain => plain
  | escape =>
    if c = '[' then parameters
    else if c = ']' then title
    else if c = 'P' || c = 'X' || c = '^' || c = '_' then payload
    else if c < '0' then intermediate
    else plain
  | intermediate => if c < '0' then intermediate else plain
  | parameters => if c < '@' then parameters else plain
  | title => title
  | payload => payload

/-- The phase after a character, and whether that character shows. In a sequence of letters
    and numbers a layout character shows, and the sequence is over. -/
def step (p : Phase) (c : Char) : Phase × Bool :=
  if c = '\x1b' then (escape, false)
  else if c = '\x18' || c = '\x1a' then (plain, false)
  else match p with
    | plain => (plain, isLayout c || !isAsciiControl c)
    | title => (if c = '\x07' then plain else title, false)
    | payload => (if endsPayload c then plain else payload, false)
    | p =>
      if isLayout c then (plain, true)
      else if isAsciiControl c || 0x80 ≤ c.toNat then (p, false)
      else (p.afterGraphic c, false)

end Phase

/-- The longest stretches of characters that show, with an empty one for each that does not. -/
def visibleRuns (p : Phase) : List Char → List (List Char)
  | [] => [[]]
  | c :: s =>
    let (q, shown) := p.step c
    match visibleRuns q s with
    | run :: runs => if shown then (c :: run) :: runs else [] :: run :: runs
    | [] => []

/-- The text as it shows. -/
def visible (s : String) : String := String.ofList (visibleRuns .plain s.toList).flatten

/-- The columns of a text. A control character ends the counting up to the next letter m, which
    ends a sequence of attributes. -/
def columnsFrom (counting : Bool) : List Char → Nat
  | [] => 0
  | c :: s =>
    if isAsciiControl c then columnsFrom false s
    else if counting then 1 + columnsFrom true s
    else columnsFrom (c = 'm') s

def columns (s : String) : Nat := columnsFrom true s.toList

/-- The columns of the stretches that show. -/
def visibleColumns (s : String) : Nat :=
  (visibleRuns .plain s.toList).foldl (fun n run => n + columnsFrom true run) 0

/-- The text up to its first empty line. -/
def beforeEmptyLine : List Char → List Char
  | '\n' :: '\n' :: _ => []
  | c :: s => c :: beforeEmptyLine s
  | [] => []

/-- The text with further lines moved to the right. -/
def hanging (width : Nat) (s : String) : String :=
  String.ofList (s.toList.flatMap fun c =>
    if c = '\n' then '\n' :: List.replicate width ' ' else [c])

end SourceTidy.Text
