/-
  Sums in scripts: whole numbers of 64 bits, with the usual operators from the loosest to the
  tightest, a choice, and assignments.
-/
import SourceTidy.Number.Power
import SourceTidy.Shell.Script

namespace SourceTidy.Shell

open Number (twoTo)

inductive Sum where
  | number (n : Int)
  | variable (name : String)
  | unary (op : Char) (inner : Sum)
  | binary (op : String) (first second : Sum)
  | choose (condition yes no : Sum)
  /-- Give a name a value; with an operator, one that starts from its old value. -/
  | assign (name : String) (op : Option String) (value : Sum)

inductive SumToken where
  | number (n : Int)
  | name (s : String)
  | sign (s : String)
deriving DecidableEq

namespace Sum

/-- A number fitted into 64 bits. -/
def wrap (n : Int) : Int := Int.bmod n (twoTo 64)

/-- A number kept within what 64 bits hold. -/
def saturate (n : Int) : Int := max (-(twoTo 63 : Nat)) (min n ((twoTo 63 : Nat) - 1))

/-- The value of a digit; none if it is no digit in a base. -/
def digit? (base : Nat) (c : Char) : Option Nat :=
  let d :=
    if c.isDigit then c.toNat - '0'.toNat
    else if c.isAlpha then c.toLower.toNat - 'a'.toNat + 10
    else base
  if d < base then some d else none

/-- The digits at the front of a text as a number, and what follows. -/
def digitsFrom (base : Nat) (s : List Char) : Int × List Char :=
  let ds := s.takeWhile fun c => (digit? base c).isSome
  (ds.foldl (fun acc c => acc * base + ((digit? base c).getD 0 : Nat)) 0, s.drop ds.length)

/-- The number at the front of a text, hexadecimal, octal or decimal, and what follows. -/
def numberFrom (s : List Char) : Int × List Char :=
  match s with
  | '0' :: x :: d :: rest =>
    if (x = 'x' || x = 'X') && (digit? 16 d).isSome then digitsFrom 16 (d :: rest)
    else digitsFrom 8 s
  | '0' :: _ => digitsFrom 8 s
  | _ => digitsFrom 10 s

/-- Signs of more than one character, the longer ones first. -/
def longSigns : List String :=
  ["<<=", ">>=", "&&", "||", "==", "!=", "<=", ">=", "<<", ">>", "+=", "-=", "*=", "/=", "%=",
    "&=", "|=", "^="]

/-- The tokens of a sum; what is no token is a sign that no sum has. -/
def tokens : Nat → List Char → List SumToken
  | 0, _ => []
  | n + 1, s =>
    match s with
    | [] => []
    | c :: rest =>
      if c = ' ' || c = '\t' || c = '\n' then tokens n rest
      else if c.isDigit then
        let (v, rest) := numberFrom s
        .number (saturate v) :: tokens n rest
      else if isNameStart c then
        let run := s.takeWhile isNameChar
        .name (String.ofList run) :: tokens n (s.drop run.length)
      else match longSigns.find? fun l => l.toList.isPrefixOf s with
        | some l => .sign l :: tokens n (s.drop l.length)
        | none => .sign (String.singleton c) :: tokens n rest

/-- Operators between two values, the loosest first. -/
def levels : List (List String) :=
  [["||"], ["&&"], ["|"], ["^"], ["&"], ["==", "!="], ["<", ">", "<=", ">="], ["<<", ">>"],
    ["+", "-"], ["*", "/", "%"]]

/-- The signs that give a name a value, each with its operator. -/
def assignments : List (String × Option String) :=
  [("=", none), ("+=", some "+"), ("-=", some "-"), ("*=", some "*"), ("/=", some "/"),
    ("%=", some "%"), ("<<=", some "<<"), (">>=", some ">>"), ("&=", some "&"),
    ("|=", some "|"), ("^=", some "^")]

mutual

/-- An assignment or a choice. -/
def whole : Nat → List SumToken → Except String (Sum × List SumToken)
  | 0, _ => .error "expecting primary"
  | n + 1, ts =>
    match ts with
    | .name x :: .sign s :: rest =>
      match assignments.lookup s with
      | some op => do
        let (v, rest) ← whole n rest
        return (.assign x op v, rest)
      | none => choice n ts
    | _ => choice n ts

/-- A choice between two values, or a value. -/
def choice : Nat → List SumToken → Except String (Sum × List SumToken)
  | 0, _ => .error "expecting primary"
  | n + 1, ts => do
    let (condition, rest) ← level n levels ts
    match rest with
    | .sign "?" :: rest =>
      let (yes, rest) ← whole n rest
      match rest with
      | .sign ":" :: rest =>
        let (no, rest) ← choice n rest
        return (.choose condition yes no, rest)
      | _ => .error "expecting ':'"
    | rest => return (condition, rest)

/-- Values joined by the operators of a level, each value of the tighter levels. -/
def level : Nat → List (List String) → List SumToken → Except String (Sum × List SumToken)
  | 0, _, _ => .error "expecting primary"
  | n + 1, [], ts => single n ts
  | n + 1, ops :: tighter, ts => do
    let (first, rest) ← level n tighter ts
    levelRest n ops tighter first rest

def levelRest : Nat → List String → List (List String) → Sum → List SumToken →
    Except String (Sum × List SumToken)
  | 0, _, _, _, _ => .error "expecting primary"
  | n + 1, ops, tighter, first, ts =>
    match ts with
    | .sign s :: rest =>
      if ops.contains s then do
        let (second, rest) ← level n tighter rest
        levelRest n ops tighter (.binary s first second) rest
      else .ok (first, ts)
    | ts => .ok (first, ts)

/-- A number, a name, a value with a sign in front, or a sum between brackets. -/
def single : Nat → List SumToken → Except String (Sum × List SumToken)
  | 0, _ => .error "expecting primary"
  | n + 1, ts =>
    match ts with
    | .number v :: rest => .ok (.number v, rest)
    | .name x :: rest => .ok (.variable x, rest)
    | .sign "(" :: rest => do
      let (s, rest) ← whole n rest
      match rest with
      | .sign ")" :: rest => return (s, rest)
      | _ => .error "expecting ')'"
    | .sign "-" :: rest => (single n rest).map fun (s, r) => (.unary '-' s, r)
    | .sign "+" :: rest => single n rest
    | .sign "!" :: rest => (single n rest).map fun (s, r) => (.unary '!' s, r)
    | .sign "~" :: rest => (single n rest).map fun (s, r) => (.unary '~' s, r)
    | _ => .error "expecting primary"

end

/-- What a message says about a sum that is no good. -/
def complaint (text : List Char) (reason : String) : String :=
  "arithmetic expression: " ++ reason ++ ": \x22" ++ String.ofList text ++ "\x22"

/-- The sum that a text spells. -/
def parse (text : List Char) : Except String Sum := do
  let ts := tokens (text.length + 1) text
  let (s, rest) ← (whole (16 * ts.length + 16) ts).mapError (complaint text)
  if rest.isEmpty then return s else .error (complaint text "expecting EOF")

/-- One for a true statement, zero for a false one. -/
def truth (b : Bool) : Int := if b then 1 else 0

/-- A number of 64 bits as the natural number with the same bits. -/
def bits (n : Int) : Nat := (n % twoTo 64).toNat

/-- An operator between two values; none for a division by zero. -/
def apply (op : String) (a b : Int) : Option Int :=
  match op with
  | "+" => some (wrap (a + b))
  | "-" => some (wrap (a - b))
  | "*" => some (wrap (a * b))
  | "/" => if b = 0 then none else some (wrap (Int.tdiv a b))
  | "%" => if b = 0 then none else some (Int.tmod a b)
  | "<<" => some (wrap (a * twoTo (bits b % 64)))
  | ">>" => some (Int.fdiv a (twoTo (bits b % 64)))
  | "&" => some (wrap (bits a &&& bits b))
  | "|" => some (wrap (bits a ||| bits b))
  | "^" => some (wrap (bits a ^^^ bits b))
  | "==" => some (truth (a = b))
  | "!=" => some (truth (a ≠ b))
  | "<" => some (truth (a < b))
  | ">" => some (truth (b < a))
  | "<=" => some (truth (a ≤ b))
  | ">=" => some (truth (b ≤ a))
  | _ => none

/-- The number that a variable holds. Blanks may stand around it, and no text is zero. -/
def valueOf (text : String) : Except String Int :=
  let isSpace := fun c : Char => c = ' ' || '\t' ≤ c && c ≤ '\r'
  let s := text.toList.dropWhile isSpace
  let (negative, digits) : Bool × List Char := match s with
    | '-' :: s => (true, s)
    | '+' :: s => (false, s)
    | s => (false, s)
  let (n, rest) := numberFrom digits
  let v := if negative then -n else n
  if !rest.all isSpace || (digits.length < s.length && digits.length = rest.length) ||
      v ≠ saturate v then
    .error ("Illegal number: " ++ text)
  else .ok v

/-- The value of a sum and the values that it assigned, the latest first. `outer` are the values
    of variables before it. -/
def eval (text : List Char) (outer : String → String) :
    Sum → List (String × Int) → Except String (Int × List (String × Int))
  | .number n, vs => .ok (n, vs)
  | .variable x, vs =>
    match vs.lookup x with
    | some v => .ok (v, vs)
    | none => (valueOf (outer x)).map (·, vs)
  | .unary op s, vs => do
    let (a, vs) ← eval text outer s vs
    return (if op = '-' then wrap (-a) else if op = '!' then truth (a = 0) else wrap (-a - 1), vs)
  | .binary op s t, vs => do
    let (a, vs) ← eval text outer s vs
    if op = "&&" && a = 0 then return (0, vs)
    else if op = "||" && a ≠ 0 then return (1, vs)
    else
      let (b, vs) ← eval text outer t vs
      if op = "&&" || op = "||" then return (truth (b ≠ 0), vs)
      else match apply op a b with
        | some v => return (v, vs)
        | none => .error (complaint text "division by zero")
  | .choose c s t, vs => do
    let (a, vs) ← eval text outer c vs
    if a ≠ 0 then eval text outer s vs else eval text outer t vs
  | .assign x op s, vs => do
    let (b, vs) ← eval text outer s vs
    match op with
    | none => return (b, (x, b) :: vs)
    | some op =>
      let a ← match vs.lookup x with
        | some v => .ok v
        | none => valueOf (outer x)
      match apply op a b with
      | some v => return (v, (x, v) :: vs)
      | none => .error (complaint text "division by zero")

end Sum

end SourceTidy.Shell
