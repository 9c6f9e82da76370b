/-
  Which log lines are shown. A filter is a list of directives, each a level for the topics
  that start with its name; of several that fit, the one with the longest name counts. A
  directive may also ask for fields that a line has, or for a span around the line; the lines
  of this program have one field, the message, and stand in no span.
-/
import SourceTidy.Diagnostics.Basic

namespace SourceTidy

/-- A level for the lines whose topics start with `topic` and that have all the fields. -/
structure Directive where
  topic : String
  fields : List String := []
  /-- Only lines in some span, or with some value in a field, are meant. -/
  narrowed : Bool := false
  level : Level
deriving DecidableEq, Repr

namespace Level

/-- The levels by rank. -/
def all : List Level := [.off, .error, .warn, .info, .debug, .trace]

/-- A level by its name, in either case, or by its rank, which may have a plus sign and zeros in
    front. -/
def ofName? (s : String) : Option Level :=
  let digits := match s.toList with
    | '+' :: digits => digits
    | digits => digits
  if !digits.isEmpty && digits.all Char.isDigit then
    all[digits.foldl (fun n c => n * 10 + (c.toNat - '0'.toNat)) 0]?
  else match s.toLower with
    | "off" => some .off
    | "error" => some .error
    | "warn" => some .warn
    | "info" => some .info
    | "debug" => some .debug
    | "trace" => some .trace
    | _ => none

end Level

namespace Filter

/-- The field that every line of this program has. -/
def messageField : String := "message"

/-- A text cut at its commas. -/
def splitCommas : List Char → List (List Char)
  | [] => [[]]
  | c :: s =>
    if c = ',' then [] :: splitCommas s
    else match splitCommas s with
      | [] => [[c]]
      | part :: parts => (c :: part) :: parts

def trim (s : List Char) : List Char :=
  ((s.dropWhile Char.isWhitespace).reverse.dropWhile Char.isWhitespace).reverse

/-- A directive may start with a letter, a digit, or one of these. -/
def startsWell (c : Char) : Bool :=
  c.isAlphanum || c = '-' || c = ':' || c = '_' || 0x80 ≤ c.toNat

/-- The scope of a directive, after its opening bracket: the name of a span, or a field between
    braces, or both, and the closing bracket. The answer is what it adds to the directive, and
    what follows. -/
def scope? (s : List Char) : Option ((Directive → Directive) × List Char) :=
  let span := s.takeWhile fun c => c ≠ ']' && c ≠ '\x7b'
  match s.drop span.length with
  | ']' :: rest => some (fun d => { d with narrowed := true }, rest)
  | '\x7b' :: rest =>
    let field := rest.takeWhile (· ≠ '\x7d')
    let name := String.ofList (field.takeWhile (· ≠ '='))
    match field.isEmpty, rest.drop field.length with
    | false, '\x7d' :: ']' :: rest =>
      some (fun d =>
        { d with fields := [name], narrowed := !span.isEmpty || field.contains '=' }, rest)
    | _, _ => none
  | _ => none

/-- The level behind an equals sign; without a name it lets everything pass. -/
def levelText? (s : List Char) : Option Level :=
  if s.isEmpty then some .trace else Level.ofName? (String.ofList s)

/-- A directive: a level alone, a topic alone, or a topic, an equals sign and a level; after the
    topic there may be a scope. A topic without a level lets all its lines pass. The places of
    topic and level are found in `s`, which is the directive without the blanks around it; but
    they are cut from the `whole` directive at these places, so that blanks in front move them
    to the left, and blanks behind belong to the last one. -/
def directiveAt? (whole s : List Char) : Option Directive :=
  let name := s.takeWhile fun c => c ≠ '=' && c ≠ '['
  let topic := String.ofList (whole.take name.length)
  let behind? (rest : List Char) : Option Level :=
    match rest with
    | [] => some .trace
    | '=' :: text => levelText? (whole.drop (s.length - text.length))
    | _ => none
  if !s.head?.any (fun c => c = '[' || startsWell c) then none
  else match s.drop name.length with
    | [] =>
      match Level.ofName? (String.ofList whole) with
      | some level => some { topic := "", level }
      | none => some { topic := String.ofList whole, level := .trace }
    | '[' :: rest => do
      let (narrow, rest) ← scope? rest
      let level ← behind? rest
      some (narrow { topic, level })
    | rest => do
      let level ← behind? rest
      some { topic, level }

def directive? (s : List Char) : Option Directive :=
  directiveAt? s (trim s)

/-- The directives of a filter text; none if one of them makes no sense. -/
def parse? (s : String) : Option (List Directive) :=
  ((splitCommas s.toList).filter (· ≠ [])).mapM directive?

/-- The directive has something to say about the lines of a topic. -/
def fits (d : Directive) (topic : String) : Bool :=
  !d.narrowed && d.topic.toList.isPrefixOf topic.toList && d.fields.all (· = messageField)

/-- How much a directive asks for: first the length of its topic counts, then its fields. -/
def rank (d : Directive) : Nat := 2 * d.topic.utf8ByteSize + min d.fields.length 1

/-- The directive that counts for a topic: the last of those that ask for most. -/
def governing? (ds : List Directive) (topic : String) : Option Directive :=
  (ds.filter (fits · topic)).foldl (fun best d =>
    match best with
    | none => some d
    | some b => if rank b ≤ rank d then some d else best) none

/-- The directives in force. Without a filter, or with one that makes no sense, warnings and
    worse are shown; an empty filter shows only errors. -/
def inForce (text : Option String) : List Directive :=
  match text.bind parse? with
  | none => [{ topic := "", level := .warn }]
  | some [] => [{ topic := "", level := .error }]
  | some ds => ds

/-- Whether lines of a topic and a level are shown. -/
def passes (text : Option String) (topic : Topic) (level : Level) : Bool :=
  match governing? (inForce text) topic.name with
  | some d => level.rank ≤ d.level.rank
  | none => false

end Filter

end SourceTidy
