/-
  The command `printf`: a format with directives, each of which writes one argument. The format
  is gone through again as long as there are arguments left.
-/
import SourceTidy.Toolbox.Numeral
import SourceTidy.Toolbox.Quoting

namespace SourceTidy.Toolbox

open Text (Bytes)
open Number (Fraction BinaryFormat)

/-- How a value is fitted into its room. -/
structure Fitting where
  left : Bool := false
  zeros : Bool := false
  plus : Bool := false
  blank : Bool := false
  /-- The form that shows the base of a number, or all places of it. -/
  alternate : Bool := false
  width : Nat := 0
  precision : Option Nat := none

/-- Fit some bytes, the first `signs` of which stay in front of padding zeros. -/
def fit (f : Fitting) (signs : Nat) (b : Bytes) : Bytes :=
  let room := f.width - b.length
  if f.left then b ++ List.replicate room 32
  else if f.zeros then b.take signs ++ List.replicate room 48 ++ b.drop signs
  else List.replicate room 32 ++ b

/-- The sign in front of a number. -/
def Fitting.sign (f : Fitting) (negative : Bool) : List Char :=
  if negative then ['-'] else if f.plus then ['+'] else if f.blank then [' '] else []

/-- A sign and the rest of a number, fitted. -/
def fitNumber (f : Fitting) (front body : List Char) : Bytes :=
  fit f front.length (bytes (String.ofList (front ++ body)))

/-- Digits of a whole number; the precision is their least number. -/
def integerDigits (f : Fitting) (base n : Nat) : List Char :=
  let ds := if n = 0 ∧ f.precision = some 0 then [] else Nat.toDigits base n
  List.replicate (f.precision.getD 0 - ds.length) '0' ++ ds

/-- A whole number. -/
def integerText (f : Fitting) (kind : Char) (n : Int) : Bytes :=
  let f := if f.precision.isSome then { f with zeros := false } else f
  let m := n.natAbs
  if kind = 'd' || kind = 'i' then fitNumber f (f.sign (n < 0)) (integerDigits f 10 m)
  else if kind = 'u' then fitNumber f [] (integerDigits f 10 m)
  else if kind = 'o' then
    let ds := integerDigits f 8 m
    fitNumber f [] (if f.alternate && ds.head? ≠ some '0' then '0' :: ds else ds)
  else
    let ds := integerDigits f 16 m
    let front := if f.alternate && m ≠ 0 then ['0', 'x'] else []
    if kind = 'X' then fitNumber f (front.map Char.toUpper) (ds.map Char.toUpper)
    else fitNumber f front ds

/-- The digits before and behind a point; without places there is a point only if asked for. -/
def pointed (f : Fitting) (whole places : List Char) : List Char :=
  whole ++ if places.isEmpty && !f.alternate then [] else '.' :: places

/-- The power of ten of a number, in two digits at least. -/
def powerText (k : Int) : List Char :=
  ['e', if k < 0 then '-' else '+'] ++ Number.digitsOfWidth 2 k.natAbs

/-- Places without the zeros at their end, unless all are asked for. -/
def significant (f : Fitting) (places : List Char) : List Char :=
  if f.alternate then places else (places.reverse.dropWhile (· = '0')).reverse

/-- A fraction in the form of a lower-case kind: with a point, with a power of ten, or in the
    shorter of both. -/
def fractionText (f : Fitting) (kind : Char) (x : Fraction) : List Char :=
  let precision := f.precision.getD 6
  if kind = 'f' then
    let (whole, places) := x.fixed precision
    pointed f whole places
  else if kind = 'e' then
    let (whole, places, k) := x.scientific precision
    pointed f whole places ++ powerText k
  else
    let precision := max precision 1
    let (whole, places, k) := x.scientific (precision - 1)
    if k < -4 ∨ (precision : Int) ≤ k then
      pointed f whole (significant f places) ++ powerText k
    else
      let (whole, places) := x.fixed (precision - 1 - k).toNat
      pointed f whole (significant f places)

/-- A real number; the case of the kind is that of its letters. -/
def realText (f : Fitting) (kind : Char) (x : RealNumber) : Bytes :=
  let cased := fun (s : List Char) => if kind.isUpper then s.map Char.toUpper else s
  match x with
  | .finite negative x => fitNumber f (f.sign negative) (cased (fractionText f kind.toLower x))
  | .infinite negative =>
    fitNumber { f with zeros := false } (f.sign negative) (cased ['i', 'n', 'f'])
  | .undefined negative =>
    fitNumber { f with zeros := false } (f.sign negative) (cased ['n', 'a', 'n'])

/-- What is said about an argument that is no number, or more than one. -/
def numberComplaint (d : Dialect) (a : String) (fitness : Fitness) : Option String :=
  let what := match d with
    | .program => shownValue a
    | .shell => a
  match fitness with
  | .whole => none
  | .partly => some (what ++ match d with
    | .program => ": value not completely converted"
    | .shell => ": not completely converted")
  | .nothing => some (what ++ match d with
    | .program => ": expected a numeric value"
    | .shell => ": expected numeric value")
  | .tooLarge => some (what ++ ": Numerical result out of range")

/-- A directive: its text, flags, and where its width and precision come from. -/
structure Directive where
  text : List Char
  flags : List Char
  width : Option Nat
  widthGiven : Bool
  precision : Option Nat
  precisionGiven : Bool
  kind : Char

namespace Directive

/-- A number at the front, or a star for a number among the arguments. -/
def roomFrom (s : List Char) : Option Nat × Bool × List Char :=
  match s with
  | '*' :: s => (none, true, s)
  | s =>
    let (v, count, rest) := digitsFrom 10 s
    (if count = 0 then none else some v, false, rest)

/-- The directive behind a percent sign, and what follows; none if the format ends in it. -/
def read? (d : Dialect) (s : List Char) : Option (Directive × List Char) :=
  let isFlag := fun c : Char => c = '-' || c = '+' || c = ' ' || c = '#' || c = '0' ||
    (d = .program && (c = '\x27' || c = 'I'))
  let flags := s.takeWhile isFlag
  let (width, widthGiven, rest) := roomFrom (s.drop flags.length)
  let (precision, precisionGiven, rest) : Option Nat × Bool × List Char := match rest with
    | '.' :: rest =>
      let (p, given, rest) := roomFrom rest
      (some (p.getD 0), given, rest)
    | rest => (none, false, rest)
  let rest := if d = .program then rest.dropWhile "lLhjtz".toList.contains else rest
  match rest with
  | [] => none
  | kind :: after =>
    some (⟨s.take (s.length - after.length), flags, width, widthGiven, precision,
      precisionGiven, kind⟩, after)

/-- Kinds that make a number of their argument. -/
def isInteger (kind : Char) : Bool := "diouxX".toList.contains kind

def isReal (kind : Char) : Bool := "eEfFgG".toList.contains kind

/-- The kinds that go with flags and precision; the shell lets all go together. -/
def isValid (d : Dialect) (x : Directive) : Bool :=
  match d with
  | .shell => "bcs".toList.contains x.kind || isInteger x.kind || isReal x.kind
  | .program =>
    let bare := x.text.length = 1
    if x.kind = 'b' || x.kind = 'q' then bare
    else if x.kind = 'c' then
      !x.flags.any "#0\x27I".toList.contains && x.precision.isNone
    else if x.kind = 's' then !x.flags.any "#0\x27I".toList.contains
    else if "diu".toList.contains x.kind then !x.flags.contains '#'
    else if "oxXeE".toList.contains x.kind then !x.flags.any "\x27I".toList.contains
    else isReal x.kind

end Directive

/-- What has been written of a format. -/
structure Printed where
  out : Bytes := []
  err : Bytes := []
  args : List String
  used : Bool := false
  stopped : Bool := false
  code : Nat := 0

namespace Printed

def write (p : Printed) (b : Bytes) : Printed := { p with out := p.out ++ b }

/-- Complain while a format is gone through. -/
def complain (p : Printed) (name text : String) (code : Nat) : Printed :=
  { p with err := p.err ++ bytes (name ++ ": " ++ text ++ "\n"), code := max p.code code }

/-- Complain about an argument, if something is wrong with it. -/
def judge (d : Dialect) (name a : String) (fitness : Fitness) (p : Printed) : Printed :=
  match d, quotedByte? a, afterQuotedByte a with
  | .program, some _, b :: rest =>
    { p with err := p.err ++ bytes (name ++ ": warning: ") ++ (b :: rest) ++
        bytes ": character(s) following character constant have been ignored\n" }
  | _, _, _ =>
    match numberComplaint d a fitness with
    | some text => p.complain name text 1
    | none => p

/-- The next argument, if there is one. -/
def next (p : Printed) : Option String × Printed :=
  (p.args.head?, { p with args := p.args.tail, used := p.used || !p.args.isEmpty })

/-- A width or precision among the arguments. -/
def room (d : Dialect) (name : String) (p : Printed) : Int × Printed :=
  match p.next with
  | (none, p) => (0, p)
  | (some a, p) =>
    let (n, fitness) := wholeNumber true a
    (n, p.judge d name a fitness)

/-- Flags, width and precision of a directive. A negative width asks for the left side, and a
    negative precision is none. -/
def fitting (d : Dialect) (name : String) (x : Directive) (p : Printed) : Fitting × Printed :=
  let (w, p) : Int × Printed :=
    if x.widthGiven then p.room d name else ((x.width.getD 0 : Nat), p)
  let (precision, p) : Option Nat × Printed :=
    if x.precisionGiven then
      let (n, p) := p.room d name
      (if n < 0 then none else some n.toNat, p)
    else (x.precision, p)
  ({ left := x.flags.contains '-' || w < 0
     zeros := x.flags.contains '0'
     plus := x.flags.contains '+'
     blank := x.flags.contains ' '
     alternate := x.flags.contains '#'
     width := w.natAbs
     precision := precision }, p)

/-- Carry out a directive that is valid. -/
def carryOut (d : Dialect) (name : String) (x : Directive) (p : Printed) : Printed :=
  let (f, p) := p.fitting d name x
  let (given, p) := p.next
  let a := given.getD ""
  let plain := { f with zeros := false }
  let cut := fun (b : Bytes) => match f.precision with
    | some n => b.take n
    | none => b
  if Directive.isInteger x.kind then
    let (n, fitness) := wholeNumber (x.kind = 'd' || x.kind = 'i') a
    (p.write (integerText f x.kind n)).judge d name a fitness
  else if Directive.isReal x.kind then
    let (n, fitness) := realNumber (if d = .program then .extended else .double) a
    (p.write (realText f x.kind n)).judge d name a fitness
  else if x.kind = 'c' then
    p.write (fit plain 0 (((bytes a).take 1) ++ if a.isEmpty then [0] else []))
  else if x.kind = 'b' then
    let u := unescapeAll (.ofArgument d) (a.length + 1) a.toList
    let p := { p.write (fit plain 0 (cut u.out)) with stopped := u.stopped }
    match u.fault with
    | some text => p.complain name text 1
    | none => p
  else if x.kind = 'q' then
    p.write (if given.isNone then [] else bytes (asScriptWord false (bytes a)))
  else p.write (fit plain 0 (cut (bytes a)))

end Printed

/-- Go through a format once. -/
def printOnce (d : Dialect) (name : String) : Nat → List Char → Printed → Printed
  | 0, _, p => p
  | n + 1, s, p =>
    if p.stopped then p
    else match s with
    | [] => p
    | '%' :: '%' :: rest => printOnce d name n rest (p.write [37])
    | '%' :: rest =>
      match Directive.read? d rest with
      | none =>
        match d with
        | .program =>
          { p.complain name ("%" ++ String.ofList rest ++ ": invalid conversion specification") 1
            with stopped := true }
        | .shell => { p.complain name "missing format character" 2 with stopped := true }
      | some (x, after) =>
        if x.isValid d then printOnce d name n after (p.carryOut d name x)
        else
          let text := "%" ++ String.ofList x.text
          match d with
          | .program =>
            { p.complain name (text ++ ": invalid conversion specification") 1 with stopped := true }
          | .shell => { p.complain name (text ++ ": invalid directive") 2 with stopped := true }
    | '\\' :: rest =>
      match unescape (.ofFormat d) rest with
      | .stop => { p with stopped := true }
      | .fault text => { p.complain name text 1 with stopped := true }
      | .bytes b rest => printOnce d name n rest (p.write b)
    | c :: rest => printOnce d name n rest (p.write (Text.Utf8.encodeChar c))

/-- Go through a format until all arguments are used. A format that uses none is gone through
    once, and a program warns of what is left over. -/
def printAll (d : Dialect) (name : String) (format : List Char) : Nat → Printed → Printed
  | 0, p => p
  | n + 1, p =>
    let q := printOnce d name (2 * format.length + 1) format { p with used := false }
    match q.args with
    | [] => q
    | a :: _ =>
      if q.stopped then q
      else if q.used then printAll d name format n q
      else match d with
        | .shell => q
        | .program =>
          { q with err := q.err ++
              bytes (name ++ ": warning: ignoring excess arguments, starting with " ++
                shownValue a ++ "\n") }

/-- `printf`: a format and its arguments. -/
def printf (d : Dialect) (name : String) (s : Setting) (args : List String) : Result :=
  let args := match args with
    | "--" :: args => args
    | args => args
  match args with
  | [] =>
    match d with
    | .program =>
      complain s 1 (name ++ ": missing operand\nTry '" ++ name ++
        " --help' for more information.")
    | .shell => complain s 2 (name ++ ": usage: printf format [arg ...]")
  | format :: args =>
    let p := printAll d name format.toList (args.length + 1) { args := args }
    { code := p.code, output := [.complaint p.err, .result p.out], files := s.files }

end SourceTidy.Toolbox
