/-
  What words stand for: parameters, sums and the output of other scripts are put in, what was
  put in without quotes is cut into fields, and wildcards are replaced by paths.
-/
import SourceTidy.Shell.Arithmetic
import SourceTidy.Shell.Pattern
import SourceTidy.Shell.State

namespace SourceTidy.Shell

open Text (Bytes)

/-- What an expanded word is made of before it is cut into fields. -/
inductive Atom where
  | char (c : Char) (quoted : Bool)
  /-- A blank that separates fields. -/
  | blank
  /-- Another character that separates fields. -/
  | separator
  /-- A place that separates fields and is no character. -/
  | cut
  /-- A quotation, which makes a field even if it is empty. -/
  | quote
deriving DecidableEq

/-- The characters of some atoms, with whether they were quoted. -/
def Atom.field (as : List Atom) : Field :=
  as.filterMap fun a =>
    match a with
    | .char c q => some (c, q)
    | _ => none

/-- Cut atoms into fields. `current` is the field so far, its last character first; `absorbs`
    says that a separator still belongs to the blanks that ended the field before. -/
def fields : List Atom → Option Field → Bool → List Field
  | [], current, _ => (current.map List.reverse).toList
  | .char c q :: as, current, _ => fields as (some ((c, q) :: current.getD [])) false
  | .quote :: as, current, _ => fields as (some (current.getD [])) false
  | .cut :: as, current, _ => (current.map List.reverse).toList ++ fields as none false
  | .blank :: as, none, absorbs => fields as none absorbs
  | .blank :: as, some f, _ => f.reverse :: fields as none true
  | .separator :: as, none, absorbs =>
    if absorbs then fields as none false else [] :: fields as none false
  | .separator :: as, some f, _ => f.reverse :: fields as none false

/-- The letters of options, in the order in which they are shown. -/
def optionLetters : List Char := "efIimnsxvVECabu".toList

namespace State

/-- What stands between the arguments where they are one text. -/
def joint (st : State) : String :=
  match st.value? "IFS" with
  | none => " "
  | some s => String.ofList (s.toList.take 1)

/-- The value of a parameter as one text. -/
def parameter? (st : State) (name : String) : Option String :=
  match name.toList with
  | ['0'] => some st.name
  | ['#'] => some (toString st.args.length)
  | ['?'] => some (toString st.status)
  | ['$'] => some (toString st.number)
  | ['@'] => some (st.joint.intercalate st.args)
  | ['*'] => some (st.joint.intercalate st.args)
  | ['!'] => st.jobs.head?.map fun j => toString j.1
  | ['-'] => some (String.ofList (optionLetters.filter st.has))
  | c :: _ =>
    if c.isDigit then name.toNat?.bind fun n => if n = 0 then some st.name else st.args[n - 1]?
    else st.value? name
  | [] => none

/-- The home directory of a user, or of nobody in particular. -/
def homeOf (st : State) (user : List Char) : Option String :=
  if user.isEmpty then st.value? "HOME"
  else if user = "root".toList then some "/root"
  else none

/-- A word in which tildes stand for home directories: one at its front, and in the value of a
    variable those behind colons. -/
def withHomes (st : State) (value : Bool) : Bool → Word → Word
  | _, [] => []
  | fresh, .char c false :: w =>
    let rest := withHomes st value (value && c = ':') w
    if c = '~' && fresh then
      let isEnd := fun (p : Part) =>
        match p with
        | .char d false => d = '/' || (value && d = ':')
        | _ => true
      let user := w.takeWhile (!isEnd ·)
      let ends := match w.drop user.length with
        | [] => true
        | .char _ false :: _ => true
        | _ => false
      match if ends then (bare? user).bind st.homeOf else none with
      | some home => home.toList.map (Part.char · true) ++ rest.drop user.length
      | none => .char c false :: rest
    else .char c false :: rest
  | _, p :: w => p :: withHomes st value false w

end State

/-- How words are expanded: how a script is run for its output, and whether what is put in is
    cut into fields. -/
structure Expander where
  output : Script → State → Bytes × State
  cutting : Bool

namespace Expander

/-- A text that was put in. -/
def put (e : Expander) (st : State) (s : String) (quoted : Bool) : List Atom :=
  let separators := ((st.value? "IFS").getD " \t\n").toList
  s.toList.map fun c =>
    if e.cutting && !quoted && separators.contains c then
      (if c = ' ' || c = '\t' || c = '\n' then .blank else .separator)
    else .char c quoted

/-- The value of a parameter. All arguments are a field each, unless one text is asked for. -/
def value (e : Expander) (st : State) (name : String) (quoted : Bool) : List Atom :=
  if e.cutting && (name = "@" || (name = "*" && !quoted)) then
    ((st.args.map fun a =>
      (if quoted then [Atom.quote] else []) ++ e.put st a quoted).intersperse [.cut]).flatten
  else e.put st ((st.parameter? name).getD "") quoted

/-- A text without the line ends behind it. -/
def withoutLastLineEnds (s : List Char) : List Char :=
  (s.reverse.dropWhile (· = '\n')).reverse

/-- The atoms that some parts of a word stand for one by one. -/
def collect (part : Part → State → List Atom × State) (w : Word) (st : State) :
    List Atom × State :=
  let (done, st) := w.foldl (fun (acc : List (List Atom) × State) p =>
    if acc.2.running then
      let (as, st) := part p acc.2
      (as :: acc.1, st)
    else acc) ([], st)
  (done.reverse.flatten, st)

/-- A word, with other words inside it up to a depth. `inside` says that it stands in another
    one, where characters without quotes are cut like what is put in. -/
def parts (e : Expander) : Nat → Bool → Word → State → List Atom × State
  | 0, _, _, st => ([], st)
  | n + 1, inside, w, st =>
    collect (fun p st =>
      match p with
      | .char c quoted => (if inside then e.put st (String.singleton c) quoted
          else [.char c quoted], st)
      | .quote => ([.quote], st)
      | .sum expression quoted =>
        let (atoms, st) := parts { e with cutting := false } n true expression st
        let text := (Atom.field atoms).text
        if !st.running then ([], st)
        else match (do (← Sum.parse text).eval text (fun x => (st.value? x).getD "") []) with
          | .ok (v, assigned) =>
            let st := assigned.reverse.foldl (fun (st : State) a =>
              if st.running then st.assign a.1 (toString a.2) else st) st
            (e.put st (toString v) quoted, st)
          | .error text => ([], st.fail text)
      | .output script quoted =>
        let (b, st) := e.output script st
        let s := withoutLastLineEnds ((Octets.ofBytes b).filter (· ≠ '\x00'))
        (e.put st (String.ofList s) quoted, st)
      | .parameter name use word quoted =>
        let given := st.parameter? name
        let isMissing := fun (filled : Bool) => given.isNone || (filled && given = some "")
        let word := if quoted then word else st.withHomes false true word
        let strict := given.isNone && st.has 'u'
        match use with
        | .malformed => ([], st.fail "Bad substitution")
        | .value =>
          if strict then ([], st.fail (name ++ ": parameter not set"))
          else (e.value st name quoted, st)
        | .length =>
          if strict then ([], st.fail (name ++ ": parameter not set"))
          else (e.put st (toString (given.getD "").length) quoted, st)
        | .orElse filled =>
          if isMissing filled then parts e n true word st else (e.value st name quoted, st)
        | .ifGiven filled => if isMissing filled then ([], st) else parts e n true word st
        | .orAssign filled =>
          if isMissing filled then
            let (atoms, st) := parts { e with cutting := false } n true word st
            let text := String.ofList (Atom.field atoms).text
            if !st.running then ([], st)
            else if !isName name.toList then ([], st.fail (name ++ ": bad variable name"))
            else
              let st := st.assign name text
              (e.put st text quoted, st)
          else (e.value st name quoted, st)
        | .orFail filled =>
          if isMissing filled then
            let (atoms, st) := parts { e with cutting := false } n true word st
            let text := String.ofList (Atom.field atoms).text
            let reason := if !word.isEmpty then text
              else if filled then "parameter not set or null"
              else "parameter not set"
            ([], if st.running then st.fail (name ++ ": " ++ reason) else st)
          else (e.value st name quoted, st)
        | .without atEnd longest =>
          if strict then ([], st.fail (name ++ ": parameter not set"))
          else
            let (atoms, st) := parts { e with cutting := false } n true word st
            let rest := (Atom.field atoms).trim atEnd longest (given.getD "").toList
            (e.put st (String.ofList rest) quoted, st)) w st

/-- How deep words may stand inside each other. -/
def depth : Nat := 100

/-- The words that a word of a script stands for. -/
def words (e : Expander) (w : Word) (st : State) : List String × State :=
  let (atoms, st) := e.parts depth false (st.withHomes false true w) st
  let found := fields atoms none false
  (if st.has 'f' then found.map fun f => String.ofList f.text
    else found.flatMap (Field.words st.files st.home), st)

/-- The words that some words of a script stand for. -/
def allWords (e : Expander) : List Word → State → List String × State
  | [], st => ([], st)
  | w :: rest, st =>
    let (here, st) := e.words w st
    if st.running then
      let (more, st) := allWords e rest st
      (here ++ more, st)
    else ([], st)

/-- The one field that a word stands for where it is not cut. -/
def field (e : Expander) (w : Word) (st : State) : Field × State :=
  let (atoms, st) := parts { e with cutting := false } depth false (st.withHomes false true w) st
  (Atom.field atoms, st)

/-- The one text that a word stands for where it is not cut. -/
def text (e : Expander) (w : Word) (st : State) : String × State :=
  let (f, st) := e.field w st
  (String.ofList f.text, st)

/-- The value that a word gives a variable. -/
def assigned (e : Expander) (w : Word) (st : State) : String × State :=
  let (atoms, st) := parts { e with cutting := false } depth false (st.withHomes true true w) st
  (String.ofList (Atom.field atoms).text, st)

end Expander

end SourceTidy.Shell
