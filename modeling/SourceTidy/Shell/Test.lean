/-
  The command `test`: questions about texts, numbers and files. A question is read from left to
  right; the words that are left are kept together with the last one that was read.
-/
import SourceTidy.Shell.Arithmetic
import SourceTidy.Shell.State

namespace SourceTidy.Shell.Test

/-- What a word is among the words of a test. -/
inductive Operator where
  | unary (name : String)
  | binary (name : String)
  | negation
  | both
  | either
  | opening
  | closing
deriving DecidableEq, Repr

def operator? (s : String) : Option Operator :=
  if s = "!" then some .negation
  else if s = "-a" then some .both
  else if s = "-o" then some .either
  else if s = "(" then some .opening
  else if s = ")" then some .closing
  else if ["=", "!=", "<", ">", "-eq", "-ne", "-ge", "-gt", "-le", "-lt", "-nt", "-ot",
      "-ef"].contains s then some (.binary s)
  else if ["-r", "-w", "-x", "-e", "-f", "-d", "-c", "-b", "-p", "-u", "-g", "-k", "-s", "-t",
      "-z", "-n", "-h", "-O", "-G", "-L", "-S"].contains s then some (.unary s)
  else none

/-- A word at the front that is read: the end, an operator, or an operand. -/
inductive Mark where
  | finish
  | operand
  | operator (o : Operator)
deriving DecidableEq, Repr

/-- What the word at the front is. An operator with nothing to work on is an operand. -/
def mark : List String → Mark
  | [] => .finish
  | s :: rest =>
    match operator? s with
    | none => .operand
    | some (.unary name) =>
      let isOperand := match rest with
        | [] => true
        | [_] => false
        | t :: _ :: _ => match operator? t with
          | some (.binary _) => true
          | _ => false
      if isOperand then .operand else .operator (.unary name)
    | some .opening => if rest.isEmpty then .operand else .operator .opening
    | some o => .operator o

/-- The number that a word is. -/
def numberOf (s : String) : Except String Int :=
  let isSpace := fun c : Char => c = ' ' || '\t' ≤ c && c ≤ '\r'
  let body := (s.toList.dropWhile isSpace).reverse.dropWhile isSpace |>.reverse
  let (negative, ds) : Bool × List Char := match body with
    | '-' :: ds => (true, ds)
    | '+' :: ds => (false, ds)
    | ds => (false, ds)
  let (n, rest) := Sum.digitsFrom 10 ds
  let v := if negative then -n else n
  if ds.isEmpty || !rest.isEmpty || v ≠ Sum.saturate v then .error ("Illegal number: " ++ s)
  else .ok v

/-- A question about one word. -/
def askUnary (st : State) (name operand : String) : Except String Bool :=
  let path := Octets.toText operand
  let isThere := st.files.exists? st.home path
  match name with
  | "-n" => .ok !operand.isEmpty
  | "-z" => .ok operand.isEmpty
  | "-f" => .ok (st.files.isFile st.home path)
  | "-d" => .ok (st.files.isDirectory st.home path)
  | "-x" => .ok (st.files.isDirectory st.home path)
  | "-s" => .ok (match st.files.look st.home path with
      | .ok (.file content) => !content.isEmpty
      | .ok .directory => true
      | _ => false)
  | "-c" => .ok (match st.files.look st.home path with
      | .ok .device => true
      | _ => false)
  | "-t" => (numberOf operand).map fun _ => false
  | _ =>
    if name = "-L" || name = "-h" then .ok (match st.files.lookAt st.home path with
      | .ok (.link _) => true
      | _ => false)
    else if ["-e", "-r", "-w", "-O", "-G"].contains name then .ok isThere
    else .ok false

/-- A question about two words. -/
def askBinary (st : State) (a name b : String) : Except String Bool :=
  let compare := fun (holds : Int → Int → Bool) => do
    return holds (← numberOf a) (← numberOf b)
  match name with
  | "=" => .ok (a = b)
  | "!=" => .ok (a ≠ b)
  | "<" => .ok (decide (a < b))
  | ">" => .ok (decide (b < a))
  | "-eq" => compare fun m n => m = n
  | "-ne" => compare fun m n => m ≠ n
  | "-lt" => compare fun m n => m < n
  | "-le" => compare fun m n => m ≤ n
  | "-gt" => compare fun m n => n < m
  | "-ge" => compare fun m n => n ≤ m
  | "-ef" =>
    .ok (match st.files.resolve st.home (Octets.toText a),
        st.files.resolve st.home (Octets.toText b) with
      | .ok l, .ok m => l = m
      | _, _ => false)
  | _ => .ok false

mutual

/-- Questions with "or" between them. -/
def either (st : State) : Nat → List String → Except String (Bool × List String)
  | 0, _ => .error "argument expected"
  | n + 1, ws => do
    let (a, ws) ← both st n ws
    if mark (ws.drop 1) = .operator .either then
      let (b, ws) ← either st n (ws.drop 2)
      return (a || b, ws)
    else return (a, ws)

/-- Questions with "and" between them. -/
def both (st : State) : Nat → List String → Except String (Bool × List String)
  | 0, _ => .error "argument expected"
  | n + 1, ws => do
    let (a, ws) ← negation st n ws
    if mark (ws.drop 1) = .operator .both then
      let (b, ws) ← both st n (ws.drop 2)
      return (a && b, ws)
    else return (a, ws)

def negation (st : State) : Nat → List String → Except String (Bool × List String)
  | 0, _ => .error "argument expected"
  | n + 1, ws =>
    if mark ws ≠ .operator .negation then single st n ws
    else if ws.length = 1 then .ok (true, ws)
    else (negation st n (ws.drop 1)).map fun (a, ws) => (!a, ws)

def single (st : State) : Nat → List String → Except String (Bool × List String)
  | 0, _ => .error "argument expected"
  | n + 1, ws =>
    match mark ws, ws with
    | .finish, ws => .ok (false, ws)
    | .operator .opening, _ :: rest =>
      if mark rest = .operator .closing then .ok (false, rest)
      else do
        let (a, ws) ← either st n rest
        if mark (ws.drop 1) = .operator .closing then return (a, ws.drop 1)
        else .error "closing paren expected"
    | .operator (.unary name), _ :: operand :: rest =>
      (askUnary st name operand).map (·, operand :: rest)
    | _, a :: rest =>
      match mark rest, rest with
      | .operator (.binary name), [_] => .error (name ++ ": argument expected")
      | .operator (.binary name), _ :: b :: rest => (askBinary st a name b).map (·, b :: rest)
      | _, _ => .ok (!a.isEmpty, ws)
    | _, [] => .ok (false, [])

end

/-- The answer to a whole question. -/
def whole (st : State) (ws : List String) : Except String Bool := do
  let (a, ws) ← either st (4 * ws.length + 8) ws
  match ws with
  | w :: _ :: _ => .error (if w.isEmpty then "unexpected operator" else w ++ ": unexpected operator")
  | _ => return a

/-- The answer to the words of a test, or to their opposite. A few words are understood by their
    number; however many signs of negation they begin with count as one. -/
def answer (st : State) (negated : Bool) : List String → Except String Bool
  | [] => .ok negated
  | [a, b, c] =>
    match operator? b with
    | some (.binary name) => (askBinary st a name c).map (· != negated)
    | _ =>
      if a = "(" && c = ")" then answer st negated [b]
      else if a = "!" then answer st true [b, c]
      else (whole st [a, b, c]).map (· != negated)
  | [a, b, c, d] =>
    if a = "(" && d = ")" then answer st negated [b, c]
    else if a = "!" then answer st true [b, c, d]
    else (whole st [a, b, c, d]).map (· != negated)
  | ws => (whole st ws).map (· != negated)
termination_by ws => ws.length

/-- The status that a test gives, or a complaint. -/
def run (name : String) (args : List String) (st : State) : State :=
  let args? := if name = "[" then
      (if args.getLast? = some "]" then some args.dropLast else none)
    else some args
  match args? with
  | none => st.complain 2 "missing ]"
  | some args =>
    match answer st false args with
    | .ok b => st.withStatus (if b then 0 else 1)
    | .error text => st.complain 2 text

end SourceTidy.Shell.Test
