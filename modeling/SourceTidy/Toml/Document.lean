/-
  TOML documents. A document is read line by line into sections; what a section holds goes
  at once into the table it names. `Entry` remembers how a table came to be, since that
  decides what may still be added to it.
-/
import SourceTidy.Toml.Text

namespace SourceTidy.Toml

/-- How a table came to be: opened by its own header, named on the way to another header,
    or named on the way of a dotted key. -/
inductive Origin where
  | header
  | implied
  | dotted
deriving DecidableEq

/-- What stands under a key while the document is being read. -/
inductive Entry where
  | value (v : Value)
  | table (origin : Origin) (rows : List (String × Entry))
  | tables (closed : List (List (String × Entry))) (last : List (String × Entry))

abbrev Rows := List (String × Entry)

mutual

/-- The finished value of an entry. -/
def Entry.close : Entry → Value
  | .value v => v
  | .table _ rows => .table (closeRows rows)
  | .tables closed last => .array (closeTables closed ++ [.table (closeRows last)])

def closeRows : List (String × Entry) → List (String × Value)
  | [] => []
  | (k, e) :: rows => (k, e.close) :: closeRows rows

def closeTables : List (List (String × Entry)) → List Value
  | [] => []
  | rows :: rest => .table (closeRows rows) :: closeTables rest

end

/-- Replace what stands under a key that is there. -/
def replaceRow (k : String) (e : Entry) : Rows → Rows
  | [] => []
  | (j, d) :: rows => if j = k then (k, e) :: rows else (j, d) :: replaceRow k e rows

/-- Go down a path and change the table at its end; tables that are missing on the way are
    made, with origin `made`. Of an array of tables the last one is meant. A dotted key does
    not pass through a table that has a header of its own. -/
def descend (made : Origin) (change : Origin → Rows → Option Rows) :
    List String → Origin → Rows → Option Rows
  | [], origin, rows => change origin rows
  | k :: path, _, rows =>
    match rows.lookup k with
    | none => do
      let inner ← descend made change path made []
      some (rows ++ [(k, .table made inner)])
    | some (.table origin inner) =>
      if made = .dotted ∧ origin = .header then none
      else do
        let inner ← descend made change path origin inner
        some (replaceRow k (.table origin inner) rows)
    | some (.tables closed last) => do
      let last ← descend made change path .header last
      some (replaceRow k (.tables closed last) rows)
    | some (.value _) => none

/-- Add a row under a new key. -/
def addRow (k : String) (e : Entry) (rows : Rows) : Option Rows :=
  if (rows.lookup k).isSome then none else some (rows ++ [(k, e)])

/-- Set a value under a dotted key. The table that gets the row must have been made by dotted
    keys, unless the key has one part only. -/
def setValue (path : List String) (v : Value) (rows : Rows) : Option Rows :=
  match path.reverse with
  | [] => none
  | [k] => addRow k (.value v) rows
  | k :: above =>
    descend .dotted
      (fun origin inner => if origin = .dotted then addRow k (.value v) inner else none)
      above.reverse .header rows

/-- Open the table of a header. One that was only named so far may still be opened. -/
def openTable (path : List String) (rows : Rows) : Option Rows :=
  match path.reverse with
  | [] => none
  | k :: above =>
    descend .implied
      (fun _ inner =>
        match inner.lookup k with
        | none => some (inner ++ [(k, .table .header [])])
        | some (.table .implied found) => some (replaceRow k (.table .header found) inner)
        | some _ => none)
      above.reverse .header rows

/-- Open one more table of an array of tables. -/
def openArrayTable (path : List String) (rows : Rows) : Option Rows :=
  match path.reverse with
  | [] => none
  | k :: above =>
    descend .implied
      (fun _ inner =>
        match inner.lookup k with
        | none => some (inner ++ [(k, .tables [] [])])
        | some (.tables closed last) =>
          some (replaceRow k (.tables (closed ++ [last]) []) inner)
        | some _ => none)
      above.reverse .header rows

/-- Set a value in the section that the path names. -/
def setInSection (section_ : List String) (path : List String) (v : Value) (rows : Rows) :
    Option Rows :=
  descend .implied (fun _ inner => setValue path v inner) section_ .header rows

/-- A token without quotes or brackets. A date may go on after one space. -/
def tokenValue? (s : List Char) : Option (Value × List Char) :=
  let inToken (c : Char) : Bool :=
    !(c = '=' || c = ',' || c = '[' || c = ']' || c = '\x7b' || c = '\x7d' || c = '#' ||
      c = ' ' || c = '\t' || c = '\n' || c = '\r')
  let token := s.takeWhile inToken
  let rest := s.dropWhile inToken
  match rest with
  | ' ' :: c :: more =>
    if Scalar.isDate token && inToken c then
      let clock := (c :: more).takeWhile inToken
      (Scalar.read (token ++ ' ' :: clock)).map (·, (c :: more).dropWhile inToken)
    else (Scalar.read token).map (·, rest)
  | _ => (Scalar.read token).map (·, rest)

mutual

/-- A value, with at most `depth` levels of brackets. The first number bounds the steps. -/
def value? : Nat → Nat → List Char → Option (Value × List Char)
  | 0, _, _ => none
  | n + 1, depth, s =>
    match s with
    | '[' :: s =>
      if depth = 0 then none
      else (items? n (depth - 1) s).map fun (vs, r) => (.array vs, r)
    | '\x7b' :: s =>
      if depth = 0 then none
      else (inlineRows? n (depth - 1) [] s).map fun (rows, r) => (.table (closeRows rows), r)
    | c :: _ =>
      if c = '\x27' ∨ c = '\x22' then
        (string? s).map fun (t, r) => (.string (String.ofList t), r)
      else tokenValue? s
    | [] => none

/-- The items of an array, after its bracket or after a comma. -/
def items? : Nat → Nat → List Char → Option (List Value × List Char)
  | 0, _, _ => none
  | n + 1, depth, s =>
    match skipGap s.length s with
    | ']' :: s => some ([], s)
    | s => do
      let (v, s) ← value? n depth s
      match skipGap s.length s with
      | ',' :: s => do
        let (vs, s) ← items? n depth s
        some (v :: vs, s)
      | ']' :: s => some ([v], s)
      | _ => none

/-- The rows of an inline table, after its bracket or after a comma. -/
def inlineRows? : Nat → Nat → Rows → List Char → Option (Rows × List Char)
  | 0, _, _, _ => none
  | n + 1, depth, rows, s =>
    match skipGap s.length s with
    | '\x7d' :: s => some (rows, s)
    | s => do
      let (path, s) ← keyPath? s
      match s with
      | '=' :: s => do
        let (v, s) ← value? n depth (skipSpaces s)
        let rows ← setValue path v rows
        match skipGap s.length s with
        | ',' :: s => inlineRows? n depth rows s
        | '\x7d' :: s => some (rows, s)
        | _ => none
      | _ => none

end

/-- The key of a header, up to its closing bracket. -/
def headerPath? (s : List Char) : Option (List String × List Char) :=
  match keyPath? s with
  | some (path, ']' :: s) => some (path, s)
  | _ => none

/-- Read the lines that are left into the section they belong to. -/
def lines? : Nat → List String → Rows → List Char → Option Rows
  | 0, _, _, _ => none
  | n + 1, current, rows, s =>
    match endOfLine? s with
    | some [] => some rows
    | some s => lines? n current rows s
    | none =>
      match skipSpaces s with
      | '[' :: '[' :: s => do
        match ← headerPath? s with
        | (path, ']' :: s) => do
          let rows ← openArrayTable path rows
          lines? n path rows (← endOfLine? s)
        | _ => none
      | '[' :: s => do
        let (path, s) ← headerPath? s
        let rows ← openTable path rows
        lines? n path rows (← endOfLine? s)
      | s => do
        let (path, s) ← keyPath? s
        match s with
        | '=' :: s => do
          let s := skipSpaces s
          let (v, s) ← value? (2 * s.length + 2) nestingLimit s
          let rows ← setInSection current path v rows
          lines? n current rows (← endOfLine? s)
        | _ => none

/-- The top table of a document; none if it is not well formed. -/
def parse? (text : String) : Option (List (String × Value)) :=
  let s := match text.toList with
    | '\uFEFF' :: s => s
    | s => s
  (lines? (s.length + 1) [] [] s).map closeRows

end SourceTidy.Toml
