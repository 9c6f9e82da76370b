/-
  Values without quotes or brackets: booleans, integers, floats, dates and times. Each reader
  takes the whole of a token and says what it stands for, if it is well formed.
-/
import SourceTidy.Toml.Value

namespace SourceTidy.Toml.Scalar

/-- The value of a digit in a base up to sixteen; letters count in both cases. -/
def digitValue? (base : Nat) (c : Char) : Option Nat :=
  let v :=
    if '0' ≤ c ∧ c ≤ '9' then c.toNat - '0'.toNat
    else if 'a' ≤ c ∧ c ≤ 'f' then c.toNat - 'a'.toNat + 10
    else if 'A' ≤ c ∧ c ≤ 'F' then c.toNat - 'A'.toNat + 10
    else base
  if v < base then some v else none

/-- The value of digits in a base, read from the left onto `acc`; none if some character is no
    digit. -/
def digitsFrom (base : Nat) : List Char → Nat → Option Nat
  | [], acc => some acc
  | c :: s, acc => do digitsFrom base s (acc * base + (← digitValue? base c))

/-- A digit of some base. -/
def isDigitAtMost (base : Nat) (c : Char) : Bool := (digitValue? base c).isSome

/-- Every underscore has a digit on both sides; `ready` says that one may come next. -/
def spacedFrom (isDigit : Char → Bool) : Bool → List Char → Bool
  | _, [] => true
  | ready, '_' :: c :: s => ready && isDigit c && spacedFrom isDigit true s
  | _, c :: s => c ≠ '_' && spacedFrom isDigit (isDigit c) s

/-- Underscores stand between digits only. The one character in front of the first underscore
    may also be a sign. -/
def wellSpaced (isDigit : Char → Bool) : List Char → Bool
  | [] => true
  | c :: s => c ≠ '_' && spacedFrom isDigit true s

/-- The token without its underscores. -/
def compact (s : List Char) : List Char := s.filter (· ≠ '_')

/-- A sign, if there is one, and whether it is a minus. -/
def sign : List Char → Bool × List Char
  | '+' :: s => (false, s)
  | '-' :: s => (true, s)
  | s => (false, s)

/-- The digits before the point must not start with a zero, unless they are just that. -/
def leadingZero : List Char → Bool
  | '0' :: c :: _ => c.isDigit || c = '_'
  | _ => false

/-- The exponent of a float, after its mark. -/
def exponent (s : List Char) : Option Int := do
  let (negative, s) := sign s
  if s.isEmpty then none
  else
    let n ← digitsFrom 10 s 0
    some (if negative then -(n : Int) else n)

/-- The value of a float without sign and underscores: digits, then a point and digits, or an
    exponent, or both. -/
def floatOf (negative : Bool) (s : List Char) : Option Value := do
  let whole := s.takeWhile Char.isDigit
  if whole.isEmpty then none
  else
    let (places, rest) := match s.dropWhile Char.isDigit with
      | '.' :: rest => (some (rest.takeWhile Char.isDigit), rest.dropWhile Char.isDigit)
      | rest => (none, rest)
    if places = some [] then none
    else
      let places := places.getD []
      let digits ← digitsFrom 10 (whole ++ places) 0
      match rest with
      | [] => some (.float (.decimal negative digits (-(places.length : Int))))
      | e :: rest =>
        if e = 'e' ∨ e = 'E' then
          let x ← exponent rest
          some (.float (.decimal negative digits (x - places.length)))
        else none

/-- A decimal integer or float. A point or an exponent mark makes it a float. Otherwise digits
    with an underscore behind them make it an integer, whatever follows. -/
def number (s : List Char) : Option Value :=
  let (negative, body) := sign s
  let rest := body.dropWhile Char.isDigit
  if leadingZero body ∨ body.isEmpty then none
  else if rest.any (fun c => c = '.' ∨ c = 'e' ∨ c = 'E') then
    if wellSpaced Char.isDigit s then floatOf negative (compact body) else none
  else if rest.isEmpty ∨ rest.head? = some '_' then
    if wellSpaced (isDigitAtMost 16) s then
      match digitsFrom 10 (compact body) 0 with
      | some n => some (.integer (if negative then -(n : Int) else n))
      | none => some .illegible
    else none
  else none

/-- An integer in base 16, 8 or 2, after its mark. -/
def based (base : Nat) (s : List Char) : Option Value :=
  if s.isEmpty then some .illegible
  else if wellSpaced (isDigitAtMost base) s then
    (digitsFrom base (compact s) 0).map fun n => .integer n
  else none

/-- A number of exactly two digits, within bounds. -/
def twoDigits (low high : Nat) : List Char → Option (Nat × List Char)
  | a :: b :: s => do
    let n := (← digitValue? 10 a) * 10 + (← digitValue? 10 b)
    if low ≤ n ∧ n ≤ high ∧ !(s.head?.any Char.isDigit) then some (n, s) else none
  | _ => none

/-- The days of a month. -/
def daysIn (year month : Nat) : Nat :=
  if month = 2 then
    if year % 4 = 0 ∧ (year % 100 ≠ 0 ∨ year % 400 = 0) then 29 else 28
  else if month = 4 ∨ month = 6 ∨ month = 9 ∨ month = 11 then 30 else 31

/-- Year, month and day. -/
def date (s : List Char) : Option (List Char) :=
  match s with
  | a :: b :: c :: d :: '-' :: s => do
    let year := (((← digitValue? 10 a) * 10 + (← digitValue? 10 b)) * 10
      + (← digitValue? 10 c)) * 10 + (← digitValue? 10 d)
    let (month, s) ← twoDigits 1 12 s
    match s with
    | '-' :: s => do
      let (_, s) ← twoDigits 1 (daysIn year month) s
      some s
    | _ => none
  | _ => none

/-- The part of a second, after its point: at least one digit. -/
def fraction (s : List Char) : Option (List Char) :=
  if s.head?.any Char.isDigit then some (s.dropWhile Char.isDigit) else none

/-- Hour and minute, and perhaps second; a second may be a leap second. -/
def time (s : List Char) : Option (List Char) := do
  let (_, s) ← twoDigits 0 23 s
  match s with
  | ':' :: s => do
    let (_, s) ← twoDigits 0 59 s
    match s with
    | ':' :: s => do
      let (_, s) ← twoDigits 0 60 s
      match s with
      | '.' :: s => fraction s
      | _ => some s
    | _ => some s
  | _ => none

/-- The distance from universal time. -/
def offset (s : List Char) : Option (List Char) :=
  match s with
  | c :: s =>
    if c = 'Z' ∨ c = 'z' then some s
    else if c = '+' ∨ c = '-' then do
      let (_, s) ← twoDigits 0 23 s
      match s with
      | ':' :: s => do
        let (_, s) ← twoDigits 0 59 s
        some s
      | _ => none
    else none
  | [] => none

/-- A date, a time, or both with or without an offset. -/
def moment (s : List Char) : Option Value :=
  match date s with
  | some [] => some .moment
  | some (c :: s) =>
    if c = 'T' ∨ c = 't' ∨ c = ' ' then
      match time s with
      | some [] => some .moment
      | some s => if offset s = some [] then some .moment else none
      | none => none
    else none
  | none => if time s = some [] then some .moment else none

/-- A date alone, which a space and a time may follow. -/
def isDate (s : List Char) : Bool := date s = some []

/-- The value of a token. -/
def read (s : List Char) : Option Value :=
  match s with
  | ['t', 'r', 'u', 'e'] => some (.boolean true)
  | ['f', 'a', 'l', 's', 'e'] => some (.boolean false)
  | '0' :: 'x' :: s => based 16 s
  | '0' :: 'o' :: s => based 8 s
  | '0' :: 'b' :: s => based 2 s
  | s =>
    let (negative, body) := sign s
    if body = ['i', 'n', 'f'] then some (.float (.infinite negative))
    else if body = ['n', 'a', 'n'] then some (.float .nan)
    else match number s with
      | some v => some v
      | none => moment s

end SourceTidy.Toml.Scalar
