/-
  Blanks, comments, line ends and strings of a TOML document. Every reader takes the
  characters that are left and gives what it read and what is left then.
-/
import SourceTidy.Toml.Scalar

namespace SourceTidy.Toml

/-- Space and tab. -/
def isSpace (c : Char) : Bool := c = ' ' || c = '\t'

/-- A character that may stand in comments and strings as it is. -/
def isPlain (c : Char) : Bool := c = '\t' || (0x20 ≤ c.toNat && c.toNat ≠ 0x7F)

def skipSpaces (s : List Char) : List Char := s.dropWhile isSpace

/-- A line end, if the text starts with one. -/
def lineEnd? : List Char → Option (List Char)
  | '\n' :: s => some s
  | '\r' :: '\n' :: s => some s
  | _ => none

/-- The rest of a comment, up to the line end. -/
def skipComment : List Char → List Char
  | [] => []
  | c :: s => if isPlain c then skipComment s else c :: s

/-- Spaces and perhaps a comment, then the end of the line or of the text. -/
def endOfLine? (s : List Char) : Option (List Char) :=
  let s := skipSpaces s
  let s := match s with
    | '#' :: s => skipComment s
    | s => s
  if s.isEmpty then some [] else lineEnd? s

/-- Spaces, line ends and comments, as between the items of an array. -/
def skipGap : Nat → List Char → List Char
  | 0, s => s
  | n + 1, s =>
    match s with
    | '#' :: s => skipGap n (skipComment s)
    | '\n' :: s => skipGap n s
    | '\r' :: '\n' :: s => skipGap n s
    | c :: s => if isSpace c then skipGap n s else c :: s
    | [] => []

/-- The character with the given number, surrogates and numbers past the last one refused. -/
def scalar? (n : Nat) : Option Char :=
  if n < 0xD800 ∨ (0xDFFF < n ∧ n < 0x110000) then some (Char.ofNat n) else none

/-- A character given by exactly `len` hexadecimal digits. -/
def byNumber (len : Nat) (s : List Char) : Option (Char × List Char) := do
  if s.length < len then none
  else
    let c ← scalar? (← Scalar.digitsFrom 16 (s.take len) 0)
    some (c, s.drop len)

/-- What a backslash and the characters behind it stand for. -/
def escape : List Char → Option (Char × List Char)
  | 'b' :: s => some ('\x08', s)
  | 't' :: s => some ('\t', s)
  | 'n' :: s => some ('\n', s)
  | 'f' :: s => some ('\x0c', s)
  | 'r' :: s => some ('\r', s)
  | 'e' :: s => some ('\x1b', s)
  | '\x22' :: s => some ('\x22', s)
  | '\\' :: s => some ('\\', s)
  | 'x' :: s => byNumber 2 s
  | 'u' :: s => byNumber 4 s
  | 'U' :: s => byNumber 8 s
  | _ => none

/-- A string between single quotes on one line, after the first quote. -/
def literalString : List Char → Option (List Char × List Char)
  | [] => none
  | c :: s =>
    if c = '\x27' then some ([], s)
    else if isPlain c then (literalString s).map fun (t, r) => (c :: t, r)
    else none

/-- A string between double quotes on one line, after the first quote. -/
def basicString : Nat → List Char → Option (List Char × List Char)
  | 0, _ => none
  | n + 1, s =>
    match s with
    | [] => none
    | c :: s =>
      if c = '\x22' then some ([], s)
      else if c = '\\' then do
        let (e, s) ← escape s
        let (t, r) ← basicString n s
        some (e :: t, r)
      else if isPlain c then (basicString n s).map fun (t, r) => (c :: t, r)
      else none

/-- The end of a string between triple quotes: up to two more quotes belong to the string. -/
def tripleEnd? (quote : Char) (s : List Char) : Option (List Char × List Char) :=
  let run := (s.takeWhile (· = quote)).length
  if run < 3 then none
  else
    let inside := min (run - 3) 2
    some (List.replicate inside quote, s.drop (inside + 3))

/-- The line end right after an opening triple quote does not belong to the string. -/
def dropFirstLineEnd (s : List Char) : List Char := (lineEnd? s).getD s

/-- A string between triple single quotes, after those. -/
def literalBlock : Nat → List Char → Option (List Char × List Char)
  | 0, _ => none
  | n + 1, s =>
    match tripleEnd? '\x27' s with
    | some found => some found
    | none =>
      match s with
      | '\n' :: s => (literalBlock n s).map fun (t, r) => ('\n' :: t, r)
      | '\r' :: '\n' :: s => (literalBlock n s).map fun (t, r) => ('\r' :: '\n' :: t, r)
      | c :: s =>
        if isPlain c then (literalBlock n s).map fun (t, r) => (c :: t, r) else none
      | [] => none

/-- Spaces and line ends, as a backslash at the end of a line drops them. -/
def skipBlankLines : Nat → List Char → List Char
  | 0, s => s
  | n + 1, s =>
    match s with
    | '\n' :: s => skipBlankLines n s
    | '\r' :: '\n' :: s => skipBlankLines n s
    | c :: s => if isSpace c then skipBlankLines n s else c :: s
    | [] => []

/-- A string between triple double quotes, after those. -/
def basicBlock : Nat → List Char → Option (List Char × List Char)
  | 0, _ => none
  | n + 1, s =>
    match tripleEnd? '\x22' s with
    | some found => some found
    | none =>
      match s with
      | '\n' :: s => (basicBlock n s).map fun (t, r) => ('\n' :: t, r)
      | '\r' :: '\n' :: s => (basicBlock n s).map fun (t, r) => ('\r' :: '\n' :: t, r)
      | '\\' :: s =>
        match lineEnd? (skipSpaces s) with
        | some s => basicBlock n (skipBlankLines s.length s)
        | none => do
          let (e, s) ← escape s
          let (t, r) ← basicBlock n s
          some (e :: t, r)
      | c :: s =>
        if isPlain c then (basicBlock n s).map fun (t, r) => (c :: t, r) else none
      | [] => none

/-- A quoted string on one line, if the text starts with one. -/
def lineString? : List Char → Option (List Char × List Char)
  | c :: s =>
    if c = '\x27' then literalString s
    else if c = '\x22' then basicString s.length s
    else none
  | [] => none

/-- A quoted string of either length, if the text starts with one. -/
def string? (s : List Char) : Option (List Char × List Char) :=
  if s.take 3 = ['\x27', '\x27', '\x27'] then
    let body := dropFirstLineEnd (s.drop 3)
    literalBlock (body.length + 1) body
  else if s.take 3 = ['\x22', '\x22', '\x22'] then
    let body := dropFirstLineEnd (s.drop 3)
    basicBlock (body.length + 1) body
  else lineString? s

/-- A character of a key without quotes. -/
def isBareKey (c : Char) : Bool := c.isAlphanum || c = '_' || c = '-'

/-- One part of a key. -/
def simpleKey? (s : List Char) : Option (String × List Char) :=
  match lineString? s with
  | some (k, r) => some (String.ofList k, r)
  | none =>
    let k := s.takeWhile isBareKey
    if k.isEmpty then none else some (String.ofList k, s.dropWhile isBareKey)

/-- How deep a document may nest: brackets within brackets, and the parts of one key. -/
def nestingLimit : Nat := 80

/-- At most `n` parts of a key, with points between them and spaces around those. -/
def keyParts? : Nat → List Char → Option (List String × List Char)
  | 0, _ => none
  | n + 1, s => do
    let (k, s) ← simpleKey? (skipSpaces s)
    match skipSpaces s with
    | '.' :: s => do
      let (ks, s) ← keyParts? n s
      some (k :: ks, s)
    | s => some ([k], s)

/-- A key. -/
def keyPath? (s : List Char) : Option (List String × List Char) := keyParts? nestingLimit s

end SourceTidy.Toml
