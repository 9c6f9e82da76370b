/-
  The command `cat`: files one after the other, with numbers in front of lines, without
  repeated empty lines, or with marks for what does not show. The options look at the joined
  text, so that a line may begin in one file and end in another.
-/
import SourceTidy.Toolbox.Options
import SourceTidy.Toolbox.Quoting

namespace SourceTidy.Toolbox

open Text (Bytes)

/-- How the joined text is shown. -/
structure Display where
  numbers : Bool := false
  /-- Empty lines get no number. -/
  skipEmpty : Bool := false
  /-- Of empty lines that follow each other only the first is shown. -/
  squeeze : Bool := false
  marksEnds : Bool := false
  marksTabs : Bool := false
  marksOthers : Bool := false

namespace Display

/-- A control character as a letter behind a caret. -/
def caret (b : UInt8) : Bytes := [94, if b = 127 then 63 else b + 64]

/-- A character that has a mark unless it is a line end. -/
def mark (d : Display) (b : UInt8) : Bytes :=
  if b = 9 then if d.marksTabs then caret b else [b]
  else if !d.marksOthers then [b]
  else
    let low := if 128 ≤ b then b - 128 else b
    (if 128 ≤ b then [77, 45] else []) ++ if low < 32 || low = 127 then caret low else [low]

/-- The number in front of a line, six characters wide, and a tab. -/
def label (n : Nat) : Bytes :=
  let ds := bytes (toString n)
  List.replicate (6 - ds.length) 32 ++ ds ++ [9]

/-- Where in the joined text something is shown: `blank` is none inside a line, and else the
    number of empty lines just before; `number` is the next number. -/
structure Position where
  blank : Option Nat := some 0
  number : Nat := 1

/-- One character at a position, `next` behind it: what is shown, and the position after it. -/
def step (d : Display) (next : Option UInt8) (p : Position) (b : UInt8) : Bytes × Position :=
  let numbered := p.blank.isSome && d.numbers && !(d.skipEmpty && b = 10)
  let front := if numbered then label p.number else []
  let number := if numbered then p.number + 1 else p.number
  if b = 10 then
    let ended := (if d.marksEnds then [36] else []) ++ [10]
    match p.blank with
    | none => (ended, ⟨some 0, p.number⟩)
    | some k =>
      if d.squeeze && 1 ≤ k then ([], ⟨some (k + 1), p.number⟩)
      else (front ++ ended, ⟨some (k + 1), number⟩)
  else
    let shown := if b = 13 && d.marksEnds && next = some 10 then caret b else d.mark b
    (front ++ shown, ⟨none, number⟩)

/-- A part of the joined text, `after` behind it: what is shown, the last character first. -/
def render (d : Display) (after : Option UInt8) : Bytes → Bytes → Position → Bytes × Position
  | [], shown, p => (shown, p)
  | b :: rest, shown, p =>
    let (out, p) := d.step (rest.head?.or after) p b
    render d after rest (out.reverse ++ shown) p

/-- All parts of the joined text; complaints between them stay where they are. -/
def renderAll (d : Display) : List Written → Position → List Written
  | [], _ => []
  | .complaint b :: rest, p => .complaint b :: renderAll d rest p
  | .result b :: rest, p =>
    let after := rest.findSome? fun w =>
      match w with
      | .result c => c.head?
      | .complaint _ => none
    let (shown, p) := d.render after b [] p
    .result shown.reverse :: renderAll d rest p

def ofOptions (a : Arranged) : Display :=
  { numbers := a.has 'n' || a.has 'b'
    skipEmpty := a.has 'b'
    squeeze := a.has 's'
    marksEnds := a.has 'A' || a.has 'e' || a.has 'E'
    marksTabs := a.has 'A' || a.has 't' || a.has 'T'
    marksOthers := a.has 'A' || a.has 'e' || a.has 't' || a.has 'v' }

end Display

/-- The bytes of one file. A file that is being written to is not read if there is something
    in it, since it would never end. -/
def catOne (s : Setting) (path : String) : Result :=
  if path = "-" then { output := [.result s.stdin], unread := some [], files := s.files }
  else
    let fault := fun text => complain s 1 ("cat: " ++ shownBeforeColon path ++ ": " ++ text)
    match s.files.readBytes s.home path with
    | .error e => fault (reason e)
    | .ok b =>
      let place := (s.files.resolve s.home path).toOption
      if s.sink.isSome && place = s.sink && !b.isEmpty then
        fault "input file is output file"
      else { output := [.result b], files := s.files }

def catForms : List OptionForm :=
  [⟨'b', ['b'], "number-nonblank", .never⟩, ⟨'n', ['n'], "number", .never⟩,
    ⟨'s', ['s'], "squeeze-blank", .never⟩, ⟨'v', ['v'], "show-nonprinting", .never⟩,
    ⟨'E', ['E'], "show-ends", .never⟩, ⟨'T', ['T'], "show-tabs", .never⟩,
    ⟨'A', ['A'], "show-all", .never⟩, ⟨'e', ['e'], "", .never⟩, ⟨'t', ['t'], "", .never⟩,
    ⟨'u', ['u'], "", .never⟩]

def cat (s : Setting) (args : List String) : Result :=
  withOptions "cat" catForms s args fun a =>
    let r := forEach catOne (if a.others.isEmpty then ["-"] else a.others) s
    { r with output := (Display.ofOptions a).renderAll r.output {} }

end SourceTidy.Toolbox
