/-
  How words and tokens are read. What a character means depends on what it stands in; scripts
  inside words are read by a reader that is given.
-/
import SourceTidy.Shell.Source

namespace SourceTidy.Shell

/-- What the characters of a word stand in. -/
inductive Frame where
  | plain
  /-- The word that names the end of a here-document, or a quotation in it. -/
  | mark (quoted : Bool)
  | quotes
  /-- Between the braces of a parameter, after its name. -/
  | braces (quoted : Bool)
  | document
  | sum
deriving DecidableEq

namespace Frame

/-- Whether what stands here counts as quoted. -/
def quoted : Frame → Bool
  | plain => false
  | mark q => q
  | braces q => q
  | _ => true

/-- Whether quotation marks have their meaning here. -/
def hasQuotations : Frame → Bool
  | plain => true
  | mark q => !q
  | braces q => !q
  | _ => false

/-- Whether dollar signs have their meaning here. -/
def hasDollars : Frame → Bool
  | mark _ => false
  | _ => true

end Frame

/-- Characters that end a word. -/
def endsWord (c : Char) : Bool := " \t\n;&|()<>".toList.contains c

/-- Parameters with names of one character. -/
def isSpecial (c : Char) : Bool := "@*#?-$!".toList.contains c || c.isDigit

namespace Reader

/-- A backslash was taken: what it makes of the next character. -/
def escaped (frame : Frame) : Reader Word := do
  match ← rawChar with
  | none => return [.char '\\' frame.quoted]
  | some c =>
    let special := "\\\x60$".toList.contains c || (c = '\x22' && frame ≠ .document) ||
      (c = '\x7d' && frame = .braces true)
    if frame.quoted && !special then return [.char '\\' true, .char c true]
    else return [.char c true]

/-- The text between backquotes, the first of which was taken. -/
def backquoted (quoted : Bool) : Nat → Reader (List Char)
  | 0 => fault "EOF in backquote substitution"
  | n + 1 => do
    match ← nextChar with
    | none => fault "EOF in backquote substitution"
    | some '\x60' => return []
    | some '\\' =>
      match ← rawChar with
      | none => fault "EOF in backquote substitution"
      | some c =>
        let rest ← backquoted quoted n
        if "\\\x60$".toList.contains c || (quoted && c = '\x22') then return c :: rest
        else return '\\' :: c :: rest
    | some c => return c :: (← backquoted quoted n)

/-- The bracket that ends a script inside a word. -/
def closed : Reader Unit := fun s =>
  match s.held with
  | some (.sign ")") => .ok ((), { s with held := none })
  | t => expecting true (t.getD .finish) "\")\"" s

/-- The parameter that opening braces are followed by, and whether its length is meant; none if
    there is no parameter of that name. -/
def bracedName : Reader (Option String × Bool) := do
  let n ← left
  match ← peekChar with
  | some '#' =>
    skipChar
    match ← peekChar with
    | some c =>
      if isNameStart c then return (some (String.ofList (← takeWhile isNameChar n)), true)
      else if c.isDigit then return (some (String.ofList (← takeWhile Char.isDigit n)), true)
      else if c = '\x7d' || (← get).rest[1]? ≠ some '\x7d' then return (some "#", false)
      else
        skipChar
        return (if isSpecial c then some (String.singleton c) else none, true)
    | none => return (some "#", false)
  | some c =>
    if isNameStart c then return (some (String.ofList (← takeWhile isNameChar n)), false)
    else if c.isDigit then return (some (String.ofList (← takeWhile Char.isDigit n)), false)
    else if c = '\x7d' then return (none, false)
    else
      skipChar
      return (if isSpecial c then some (String.singleton c) else none, false)
  | none => return (none, false)

/-- What is done with a parameter, after its name. -/
def use : Reader Use := do
  match ← nextChar with
  | some ':' =>
    match ← nextChar with
    | some '-' => return .orElse true
    | some '=' => return .orAssign true
    | some '?' => return .orFail true
    | some '+' => return .ifGiven true
    | _ => return .malformed
  | some '-' => return .orElse false
  | some '=' => return .orAssign false
  | some '?' => return .orFail false
  | some '+' => return .ifGiven false
  | some '%' => return .without true (← takeIf '%')
  | some '#' => return .without false (← takeIf '#')
  | _ => return .malformed

/-- Two marks around all arguments and nothing else: no word at all if there are none. -/
def quotation : Word → Word
  | [.parameter "@" .value [] true] => [.parameter "@" .value [] true]
  | inner => .quote :: inner

mutual

/-- The parts of a word up to its end; `done` are those before, the last one first. `depth` is
    the number of open brackets in a sum, and one inside quotation marks between braces. -/
def stretch (script : Reader Script) : Nat → Frame → Nat → Word → Reader Word
  | 0, _, _, _ => fault "Word too long"
  | n + 1, frame, depth, done => do
    match ← peekChar with
    | none =>
      match frame with
      | .quotes => fault "Unterminated quoted string"
      | .mark true => fault "Unterminated quoted string"
      | .braces q => fault (if q then "Unterminated quoted string" else "Missing '\x7d'")
      | .sum => fault "Missing '))'"
      | _ => return done.reverse
    | some c =>
      if (frame = .plain || frame = .mark false) && endsWord c then return done.reverse
      skipChar
      if c = '\x22' && (frame = .quotes || frame = .mark true) then return done.reverse
      else if c = '\x7d' && (frame = .braces true || frame = .braces false) && depth = 0 then
        return done.reverse
      else if c = ')' && frame = .sum && depth = 0 then
        if ← takeIf ')' then return done.reverse
        else stretch script n frame depth (.char c true :: done)
      else if c = '\\' then
        stretch script n frame depth ((← escaped frame).reverse ++ done)
      else if c = '\x27' && frame.hasQuotations then
        match ← takeUntil '\x27' with
        | none => fault "Unterminated quoted string"
        | some s =>
          stretch script n frame depth ((s.map (Part.char · true)).reverse ++ .quote :: done)
      else if c = '\x22' && frame.hasQuotations then
        let inner ← stretch script n (if frame = .mark false then .mark true else .quotes) 0 []
        stretch script n frame depth ((quotation inner).reverse ++ done)
      else if c = '\x22' && frame = .braces true then
        stretch script n frame (1 - depth) (.quote :: done)
      else if c = '$' && frame.hasDollars then
        stretch script n frame depth ((← dollar script n frame) :: done)
      else if c = '\x60' then
        if frame.hasDollars then
          let text ← backquoted frame.quoted (← left)
          let inner ← within text 1 script
          stretch script n frame depth (.output inner frame.quoted :: done)
        else stretch script n frame depth (.char c true :: done)
      else
        let depth := if frame ≠ .sum then depth
          else if c = '(' then depth + 1
          else if c = ')' then depth - 1
          else depth
        stretch script n frame depth (.char c frame.quoted :: done)

/-- What a dollar sign begins, which was taken. -/
def dollar (script : Reader Script) : Nat → Frame → Reader Part
  | 0, _ => fault "Word too long"
  | n + 1, frame => do
    match ← peekChar with
    | some '(' =>
      skipChar
      if ← takeIf '(' then return .sum (← stretch script n .sum 0 []) frame.quoted
      else
        let inner ← script
        closed
        return .output inner frame.quoted
    | some '\x7b' =>
      skipChar
      let (name, length) ← bracedName
      if length then
        if ← takeIf '\x7d' then
          return .parameter (name.getD "") (if name.isSome then .length else .malformed) []
            frame.quoted
        else
          let _ ← stretch script n (.braces frame.quoted) 0 []
          return .parameter "" .malformed [] frame.quoted
      else match name with
        | none =>
          let _ ← stretch script n (.braces frame.quoted) 0 []
          return .parameter "" .malformed [] frame.quoted
        | some name =>
          if ← takeIf '\x7d' then return .parameter name .value [] frame.quoted
          else
            let u ← use
            let quoted := match u with
              | .without _ _ => false
              | _ => frame.quoted
            return .parameter name u (← stretch script n (.braces quoted) 0 []) frame.quoted
    | some c =>
      if isNameStart c then
        return .parameter (String.ofList (← takeWhile isNameChar (← left))) .value []
          frame.quoted
      else if isSpecial c then
        skipChar
        return .parameter (String.singleton c) .value [] frame.quoted
      else return .char '$' frame.quoted
    | none => return .char '$' frame.quoted

end

/-- Whether a line ends in a backslash that joins it to the next one. -/
def isJoint (line : List Char) : Bool :=
  (line.reverse.takeWhile (· = '\\')).length % 2 = 1

/-- The text of a here-document, up to the line that ends it; `fresh` says whether a line that
    begins here can be that line. -/
def documentText (a : Awaited) : Nat → Bool → Reader (List Char)
  | 0, _ => pure []
  | n + 1, fresh => do
    let s ← get
    if s.rest.isEmpty then return []
    let whole := s.rest.takeWhile (· ≠ '\n')
    let rest := s.rest.drop whole.length
    set { s with rest := rest.drop 1, line := s.line + 1 }
    let line := if a.outdented && fresh then whole.dropWhile (· = '\t') else whole
    if fresh && line = a.mark then return []
    else
      let more ← documentText a n (a.raw || !isJoint whole)
      return line ++ rest.take 1 ++ more

/-- Read the texts of the here-documents that are awaited. -/
def documents (script : Reader Script) : List Awaited → Reader Unit
  | [] => modify fun s => { s with awaited := [] }
  | a :: rest => do
    let line := (← get).line
    let text ← documentText a (← left) true
    let body ← if a.raw then pure (text.map (Part.char · true))
      else within text line do stretch script (2 * (← left)) .document 0 []
    modify fun s => { s with documents := (a.number, body) :: s.documents }
    documents script rest

/-- A redirection sign, the first character of which was taken. -/
def redirection (fd : Option Nat) (c : Char) : Reader Token := do
  if c = '>' then
    if ← takeIf '>' then return .redirect fd ">>"
    else if ← takeIf '&' then return .redirect fd ">&"
    else if ← takeIf '|' then return .redirect fd ">|"
    else return .redirect fd ">"
  else if ← takeIf '<' then
    if ← takeIf '-' then return .redirect fd "<<-" else return .redirect fd "<<"
  else if ← takeIf '&' then return .redirect fd "<&"
  else if ← takeIf '>' then return .redirect fd "<>"
  else return .redirect fd "<"

/-- The next token; words are read as in a frame. -/
def token (script : Reader Script) (frame : Frame) : Nat → Reader Token
  | 0 => pure .finish
  | n + 1 => do
    match ← peekChar with
    | none => return .finish
    | some c =>
      if c = ' ' || c = '\t' then
        skipChar
        token script frame n
      else if c = '#' then
        modify fun s => { s with rest := s.rest.dropWhile (· ≠ '\n') }
        token script frame n
      else if c = '\n' then
        skipChar
        documents script (← get).awaited
        return .lineEnd
      else if c = '&' then
        skipChar
        return .sign (if ← takeIf '&' then "&&" else "&")
      else if c = '|' then
        skipChar
        return .sign (if ← takeIf '|' then "||" else "|")
      else if c = ';' then
        skipChar
        return .sign (if ← takeIf ';' then ";;" else ";")
      else if c = '(' || c = ')' then
        skipChar
        return .sign (String.singleton c)
      else if c = '<' || c = '>' then
        skipChar
        redirection none c
      else
        let w ← stretch script (2 * (← left)) frame 0 []
        match w, ← peekChar with
        | [.char d false], some c =>
          if d.isDigit && (c = '<' || c = '>') then
            skipChar
            redirection (some (d.toNat - '0'.toNat)) c
          else return .word w
        | _, _ => return .word w

/-- The next token, which is not taken. -/
def peek (script : Reader Script) : Reader Token := do
  match (← get).held with
  | some t => return t
  | none =>
    let t ← token script .plain (← left)
    modify fun s => { s with held := some t }
    return t

/-- Leave out the token that is held. -/
def skip : Reader Unit := modify fun s => { s with held := none }

/-- Take the next token. -/
def next (script : Reader Script) : Reader Token := do
  let t ← peek script
  skip
  return t

/-- Leave out line ends. -/
def skipLineEnds (script : Reader Script) : Nat → Reader Unit
  | 0 => pure ()
  | n + 1 => do
    match ← peek script with
    | .lineEnd =>
      skip
      skipLineEnds script n
    | _ => pure ()

end Reader

end SourceTidy.Shell
