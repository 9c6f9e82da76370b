/-
  The command `echo`, and escapes: backslashes with a letter or with digits behind them. Who
  writes decides which escapes there are.
-/
import SourceTidy.Toolbox.Basic

namespace SourceTidy.Toolbox

open Text (Bytes)

/-- Who carries out a command: a program, or the shell itself. -/
inductive Dialect where
  | program
  | shell
deriving DecidableEq

/-- The value of an octal digit. -/
def octal? (c : Char) : Option Nat :=
  if '0' ≤ c ∧ c ≤ '7' then some (c.toNat - '0'.toNat) else none

/-- Up to `n` octal digits: their value and what follows. -/
def octalFrom : Nat → Nat → List Char → Nat × List Char
  | 0, acc, s => (acc, s)
  | n + 1, acc, s =>
    match s with
    | [] => (acc, [])
    | c :: rest =>
      match octal? c with
      | some d => octalFrom n (acc * 8 + d) rest
      | none => (acc, c :: rest)

/-- The value of a hexadecimal digit. -/
def hexadecimal? (c : Char) : Option Nat :=
  if c.isDigit then some (c.toNat - '0'.toNat)
  else if 'a' ≤ c ∧ c ≤ 'f' then some (c.toNat - 'a'.toNat + 10)
  else if 'A' ≤ c ∧ c ≤ 'F' then some (c.toNat - 'A'.toNat + 10)
  else none

/-- Up to `n` hexadecimal digits: their value, how many there are, and what follows. -/
def hexadecimalFrom : Nat → List Char → Nat × Nat × List Char
  | n, s =>
    let ds := (s.take n).takeWhile fun c => (hexadecimal? c).isSome
    (ds.foldl (fun acc c => acc * 16 + (hexadecimal? c).getD 0) 0, ds.length, s.drop ds.length)

/-- Which escapes there are. -/
structure EscapeRules where
  writer : Dialect
  /-- A zero in front of octal digits is none of them. -/
  zeroFirst : Bool
  /-- The letter c ends all output. -/
  stops : Bool
  /-- Escapes for characters by number must be complete. -/
  strict : Bool

namespace EscapeRules

/-- Those of `echo` as a program, and as the shell has it. -/
def ofEcho : Dialect → EscapeRules
  | .program => ⟨.program, true, true, false⟩
  | .shell => ⟨.shell, true, true, false⟩

/-- Those of a format. -/
def ofFormat : Dialect → EscapeRules
  | .program => ⟨.program, false, true, true⟩
  | .shell => ⟨.shell, false, false, false⟩

/-- Those of an argument that a format writes with its escapes carried out. -/
def ofArgument : Dialect → EscapeRules
  | .program => ⟨.program, true, true, true⟩
  | .shell => ⟨.shell, true, true, false⟩

end EscapeRules

/-- What a backslash and what is behind it give: bytes and what follows, the end of all
    output, or a complaint. -/
inductive Escaped where
  | bytes (b : Bytes) (rest : List Char)
  | stop
  | fault (text : String)

/-- The bytes that letters stand for behind a backslash. -/
def letterEscapes : List (Char × UInt8) :=
  [('n', 10), ('t', 9), ('r', 13), ('a', 7), ('b', 8), ('f', 12), ('v', 11), ('\\', 92)]

/-- A character by its number of `n` digits, as an output without such characters spells it. -/
def universal (letter : Char) (n : Nat) (s : List Char) : Escaped :=
  let (v, count, rest) := hexadecimalFrom n s
  let spell := fun (width : Nat) (ds : List Char) =>
    String.ofList (List.replicate (width - ds.length) '0' ++ ds)
  if count < n then .fault "missing hexadecimal number in escape"
  else if (v < 0xA0 ∧ v ≠ 0x24 ∧ v ≠ 0x40 ∧ v ≠ 0x60) ∨ (0xD800 ≤ v ∧ v ≤ 0xDFFF) then
    .fault ("invalid universal character name \\" ++ String.singleton letter ++
      spell n (Nat.toDigits 16 v))
  else if v < 0x80 then .bytes [UInt8.ofNat v] rest
  else
    let upper := (Nat.toDigits 16 v).map Char.toUpper
    .bytes (bytes (if v < 0x10000 then "\\u" ++ spell 4 upper else "\\U" ++ spell 8 upper)) rest

/-- Read what is behind a backslash. -/
def unescape (r : EscapeRules) : List Char → Escaped
  | [] => .bytes [92] []
  | c :: s =>
    let program := decide (r.writer = .program)
    match letterEscapes.lookup c with
    | some b => .bytes [b] s
    | none =>
      if (octal? c).isSome then
        let (v, rest) := octalFrom 3 0 (if r.zeroFirst && c = '0' then s else c :: s)
        .bytes [UInt8.ofNat v] rest
      else if c = 'c' && r.stops then .stop
      else if !program then .bytes [92] (c :: s)
      else if c = 'e' then .bytes [27] s
      else if c = 'x' then
        let (v, count, rest) := hexadecimalFrom 2 s
        if 0 < count then .bytes [UInt8.ofNat v] rest
        else if r.strict then .fault "missing hexadecimal number in escape"
        else .bytes [92, 120] s
      else if r.strict && c = '\x22' then .bytes [34] s
      else if r.strict && c = 'u' then universal c 4 s
      else if r.strict && c = 'U' then universal c 8 s
      else .bytes (92 :: Text.Utf8.encodeChar c) s

/-- How a text with escapes came out: its bytes, whether output ends there, and a complaint. -/
structure Unescaped where
  out : Bytes := []
  stopped : Bool := false
  fault : Option String := none

/-- A text with its escapes carried out. -/
def unescapeAll (r : EscapeRules) : Nat → List Char → Unescaped
  | 0, _ => {}
  | n + 1, s =>
    match s with
    | [] => {}
    | '\\' :: rest =>
      match unescape r rest with
      | .stop => { stopped := true }
      | .fault text => { stopped := true, fault := some text }
      | .bytes b rest =>
        let more := unescapeAll r n rest
        { more with out := b ++ more.out }
    | c :: rest =>
      let more := unescapeAll r n rest
      { more with out := Text.Utf8.encodeChar c ++ more.out }

/-- Arguments with spaces between them, a line end behind them unless told otherwise. -/
def joined (args : List String) (lineEnd : Bool) : String :=
  " ".intercalate args ++ if lineEnd then "\n" else ""

/-- Arguments as `echo` writes them, escapes carried out. -/
def echoEscaped (d : Dialect) (args : List String) (lineEnd : Bool) : Bytes :=
  let text := (" ".intercalate args).toList
  let u := unescapeAll (.ofEcho d) (text.length + 1) text
  if lineEnd && !u.stopped then u.out ++ [10] else u.out

/-- The options in front of `echo`'s arguments: no line end, escapes, and what is left. -/
def echoOptions : List String → Bool → Bool → Bool × Bool × List String
  | [], noEnd, escapes => (noEnd, escapes, [])
  | a :: rest, noEnd, escapes =>
    match a.toList with
    | '-' :: c :: letters =>
      if (c :: letters).all (fun l => l = 'n' || l = 'e' || l = 'E') then
        let setting := (c :: letters).foldl (fun (e : Bool) l =>
          if l = 'e' then true else if l = 'E' then false else e) escapes
        echoOptions rest (noEnd || (c :: letters).contains 'n') setting
      else (noEnd, escapes, a :: rest)
    | _ => (noEnd, escapes, a :: rest)

/-- `echo`. A program carries out escapes only with an option, the shell always. -/
def echo (d : Dialect) (s : Setting) (args : List String) : Result :=
  let out := match d with
    | .program =>
      let (noEnd, escapes, args) := echoOptions args false false
      if escapes then echoEscaped d args !noEnd else bytes (joined args !noEnd)
    | .shell =>
      match args with
      | "-n" :: args => echoEscaped d args false
      | args => echoEscaped d args true
  { output := [.result out], files := s.files }

end SourceTidy.Toolbox
