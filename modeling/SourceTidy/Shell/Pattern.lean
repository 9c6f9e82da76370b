/-
  Patterns with wildcards: a star for any text, a question mark for one character, and
  brackets for one of some characters. A quoted character stands for itself. `pathsFor` lists
  the paths that fit a pattern part by part.
-/
import SourceTidy.FileSystem.Edit
import SourceTidy.Shell.Octets

namespace SourceTidy.Shell

/-- Characters, each with whether it was quoted. -/
abbrev Field := List (Char × Bool)

/-- The characters of a field. -/
def Field.text (f : Field) : List Char := f.map Prod.fst

/-- What brackets let through. -/
inductive Member where
  | range (first last : Char)
  /-- The characters of a class that has a name. -/
  | kind (holds : Char → Bool)

/-- Whether a character is let through. -/
def Member.admits (c : Char) : Member → Bool
  | .range a b => a ≤ c && c ≤ b
  | .kind holds => holds c

inductive Wildcard where
  | char (c : Char)
  | one
  | many
  | oneOf (inverted : Bool) (members : List Member)

/-- The classes of characters. -/
def kinds : List (String × (Char → Bool)) :=
  let isBlank := fun c : Char => c = ' ' || c = '\t'
  let isVisible := fun c : Char => '!' ≤ c && c ≤ '~'
  [("alnum", Char.isAlphanum), ("alpha", Char.isAlpha), ("blank", isBlank),
    ("cntrl", fun c => c < ' ' || c = '\x7f'), ("digit", Char.isDigit), ("graph", isVisible),
    ("lower", Char.isLower), ("print", fun c => c = ' ' || isVisible c),
    ("punct", fun c => isVisible c && !c.isAlphanum),
    ("space", fun c => isBlank c || '\n' ≤ c && c ≤ '\r'), ("upper", Char.isUpper),
    ("xdigit", fun c => c.isDigit || 'a' ≤ c && c ≤ 'f' || 'A' ≤ c && c ≤ 'F')]

/-- A class with its colons and the bracket behind them, after the first bracket. -/
def kind? (f : Field) : Option (Member × Field) :=
  match f with
  | (':', _) :: rest =>
    let name := (Field.text rest).takeWhile (· ≠ ':')
    match rest.drop name.length, kinds.lookup (String.ofList name) with
    | (':', _) :: (']', _) :: rest, some holds => some (.kind holds, rest)
    | _, _ => none
  | _ => none

/-- What stands between brackets, and what follows them; none if they are not closed. A closing
    bracket that comes first stands for itself. -/
def members? : Nat → Bool → Field → Option (List Member × Field)
  | 0, _, _ => none
  | n + 1, first, f =>
    match f with
    | [] => none
    | (c, q) :: rest =>
      if c = ']' && !q && !first then some ([], rest)
      else
        let (member, rest) : Member × Field :=
          match if c = '[' && !q then kind? rest else none with
          | some found => found
          | none =>
            match rest with
            | ('-', false) :: (d, r) :: more =>
              if d = ']' && !r then (.range c c, rest) else (.range c d, more)
            | _ => (.range c c, rest)
        (members? n false rest).map fun (ms, rest) => (member :: ms, rest)

/-- What is between brackets that are closed, and what follows them. -/
def bracketed? (f : Field) : Option (Wildcard × Field) :=
  let (inverted, inside) : Bool × Field := match f with
    | ('!', false) :: s => (true, s)
    | ('^', false) :: s => (true, s)
    | s => (false, s)
  (members? (inside.length + 1) true inside).map fun (ms, rest) => (.oneOf inverted ms, rest)

/-- The wildcards of a field, read with at most `n` steps. -/
def wildcards : Nat → Field → List Wildcard
  | 0, _ => []
  | n + 1, f =>
    match f with
    | [] => []
    | ('*', false) :: s => .many :: wildcards n s
    | ('?', false) :: s => .one :: wildcards n s
    | ('[', false) :: s =>
      match bracketed? s with
      | some (w, rest) => w :: wildcards n rest
      | none => .char '[' :: wildcards n s
    | (c, _) :: s => .char c :: wildcards n s

/-- All ends of a text, the text itself first. -/
def ends : List Char → List (List Char)
  | [] => [[]]
  | c :: s => (c :: s) :: ends s

/-- Whether a whole text fits. -/
def fits : List Wildcard → List Char → Bool
  | [], s => s.isEmpty
  | .char c :: ws, a :: s => a = c && fits ws s
  | .one :: ws, _ :: s => fits ws s
  | .oneOf inverted members :: ws, a :: s => members.any (·.admits a) != inverted && fits ws s
  | .many :: ws, s => (ends s).any fun t => fits ws t
  | _, [] => false

/-- Whether a text fits the pattern that a field spells. -/
def Field.isPatternFor (f : Field) (s : List Char) : Bool := fits (wildcards f.length f) s

/-- A text without a part at one end that fits a pattern: the shortest such part, or the
    longest. -/
def Field.trim (f : Field) (atEnd longest : Bool) (s : List Char) : List Char :=
  let ws := wildcards f.length f
  let lengths := List.range (s.length + 1)
  let found := (if longest then lengths.reverse else lengths).find? fun k =>
    fits ws (if atEnd then s.drop (s.length - k) else s.take k)
  match found with
  | some k => if atEnd then s.take (s.length - k) else s.drop k
  | none => s

/-- Whether a field has a wildcard at all. -/
def Field.hasWildcard (f : Field) : Bool :=
  (wildcards f.length f).any fun w =>
    match w with
    | .char _ => false
    | _ => true

/-- The parts of a field between slashes. -/
def Field.parts : Field → List Field
  | [] => [[]]
  | (c, q) :: f =>
    if c = '/' then [] :: Field.parts f
    else match Field.parts f with
      | [] => [[(c, q)]]
      | p :: ps => ((c, q) :: p) :: ps

/-- The names in a directory that fit. Names that begin with a point have to be asked for. -/
def namesFor (fs : FileSystem) (home : Location) (dir : String) (f : Field) : List String :=
  match fs.openDirectory home (if dir.isEmpty then "." else Octets.toText dir) with
  | .error _ => []
  | .ok (_, listing) =>
    ("." :: ".." :: listing.map fun e => Octets.ofText e.1).filter fun name =>
      (name.toList.head? ≠ some '.' || f.head?.any (·.1 = '.')) && f.isPatternFor name.toList

/-- The paths that fit some parts, below a directory whose path is a text to put in front. -/
def pathsFor (fs : FileSystem) (home : Location) : String → List Field → List String
  | _, [] => []
  | front, [f] =>
    if f.hasWildcard then (namesFor fs home front f).map (front ++ ·)
    else
      let path := front ++ String.ofList f.text
      match fs.lookAt home (Octets.toText path) with
      | .ok _ => [path]
      | .error _ => []
  | front, f :: rest =>
    if f.hasWildcard then
      (namesFor fs home front f).flatMap fun name => pathsFor fs home (front ++ name ++ "/") rest
    else pathsFor fs home (front ++ String.ofList f.text ++ "/") rest

/-- What a field stands for: the paths that fit it in their order, or itself if there are
    none. -/
def Field.words (fs : FileSystem) (home : Location) (f : Field) : List String :=
  let own := [String.ofList f.text]
  if f.hasWildcard then
    match pathsFor fs home "" f.parts with
    | [] => own
    | found => found.mergeSort fun a b => decide (a ≤ b)
  else own

end SourceTidy.Shell
