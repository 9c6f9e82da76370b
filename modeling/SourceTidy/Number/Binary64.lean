/-
  Double-precision numbers as exact fractions: reading a decimal to the nearest one, and the
  fewest decimal digits that read back as the same one. All arithmetic is on natural numbers,
  so no rounding happens but the one that is asked for.
-/
import SourceTidy.Number.Power

namespace SourceTidy.Number

/-- `num / den` to the nearest integer; a half goes to the even neighbour. -/
def roundDiv (num den : Nat) : Nat :=
  let q := num / den
  let twice := 2 * (num % den)
  if twice < den then q else if den < twice then q + 1 else if q % 2 = 0 then q else q + 1

/-- `num / den` to the nearest integer; a half goes up. -/
def roundHalfUp (num den : Nat) : Nat := (2 * num + den) / (2 * den)

/-- A positive double: `significand · 2 ^ exponent`, the significand below `2 ^ 53` and, unless
    the exponent is the least one, at least `2 ^ 52`. -/
structure Binary64 where
  significand : Nat
  exponent : Int
deriving DecidableEq, Repr

namespace Binary64

/-- The exponent of the smallest doubles. -/
def leastExponent : Int := -1074

/-- The exponent of the largest doubles. -/
def greatestExponent : Int := 971

/-- `num / den` over a power of two, as a fraction. -/
def overPower (num den : Nat) (q : Int) : Nat × Nat :=
  if 0 ≤ q then (num, den * twoTo q.toNat) else (num * twoTo (-q).toNat, den)

/-- The exponent at which `num / den` has a significand of 53 bits, or the least one. -/
def exponentOf (num den : Nat) : Int :=
  let q := (num.log2 : Int) - (den.log2 : Int) - 52
  let (n, d) := overPower num den q
  max leastExponent (if n / d < twoTo 52 then q - 1 else q)

/-- The double nearest to `num / den`; none if it is past the largest one. -/
def ofRatio? (num den : Nat) : Option Binary64 :=
  let q := exponentOf num den
  let (n, d) := overPower num den q
  let m := roundDiv n d
  let x : Binary64 := if m = twoTo 53 then ⟨twoTo 52, q + 1⟩ else ⟨m, q⟩
  if greatestExponent < x.exponent then none else some x

/-- The double nearest to `digits · 10 ^ exponent`; none if it is past the largest one. Decimals
    far outside the range of doubles are settled by their length alone. -/
def ofDecimal? (digits : Nat) (exponent : Int) : Option Binary64 :=
  if digits = 0 then some ⟨0, leastExponent⟩
  else
    let length : Int := (Nat.toDigits 10 digits).length
    if 310 < length + exponent then none
    else if length + exponent < -330 then some ⟨0, leastExponent⟩
    else if 0 ≤ exponent then ofRatio? (digits * tenTo exponent.toNat) 1
    else ofRatio? digits (tenTo (-exponent).toNat)

/-- The numbers that read as a double: from `low` to `high` around `value`, all over `unit`;
    the ends count too if the significand is even. -/
structure Neighbourhood where
  low : Nat
  value : Nat
  high : Nat
  unit : Nat
  closed : Bool

/-- Half the distance to each neighbour; below a power of two the doubles lie twice as dense. -/
def neighbourhood (x : Binary64) : Neighbourhood :=
  let below := if x.significand = twoTo 52 ∧ leastExponent < x.exponent then 1 else 2
  let q := x.exponent - 2
  let (num, unit) := if 0 ≤ q then (twoTo q.toNat, 1) else (1, twoTo (-q).toNat)
  { low := (4 * x.significand - below) * num
    value := 4 * x.significand * num
    high := (4 * x.significand + 2) * num
    unit := unit
    closed := x.significand % 2 = 0 }

/-- Of the two multiples of `10 ^ k` around the value, the nearer one that reads as the double;
    the greater one if they are equally near. -/
def multipleAt? (a : Neighbourhood) (k : Int) : Option Nat :=
  let (step, scale) := if 0 ≤ k then (a.unit * tenTo k.toNat, 1) else (a.unit, tenTo (-k).toNat)
  let inside (c : Nat) : Bool :=
    if a.closed then a.low * scale ≤ c * step && c * step ≤ a.high * scale
    else a.low * scale < c * step && c * step < a.high * scale
  let c := a.value * scale / step
  let nearest := roundHalfUp (a.value * scale) step
  if inside nearest then some nearest
  else if inside c then some c
  else if inside (c + 1) then some (c + 1)
  else none

/-- The first power of ten, going down from `k`, one of whose multiples reads as the double. -/
def coarsest (a : Neighbourhood) : Nat → Int → Nat × Int
  | 0, k => (0, k)
  | n + 1, k =>
    match multipleAt? a k with
    | some c => (c, k)
    | none => coarsest a n (k - 1)

/-- Digits and power of ten of the shortest decimal that reads as the double. -/
def shortest (x : Binary64) : Nat × Int :=
  if x.significand = 0 then (0, 0)
  else
    let a := x.neighbourhood
    coarsest a 700 (Nat.toDigits 10 (a.value / a.unit)).length

end Binary64

/-- A decimal without an exponent, and always with a point. -/
def positional (digits : Nat) (exponent : Int) : List Char :=
  let ds := Nat.toDigits 10 digits
  if 0 ≤ exponent then ds ++ List.replicate exponent.toNat '0' ++ ['.', '0']
  else
    let places := (-exponent).toNat
    if places < ds.length then
      ds.take (ds.length - places) ++ ['.'] ++ ds.drop (ds.length - places)
    else ['0', '.'] ++ List.replicate (places - ds.length) '0' ++ ds

/-- A number as it is written in a document, before it is rounded. -/
inductive FloatLiteral where
  | nan
  | infinite (negative : Bool)
  | decimal (negative : Bool) (digits : Nat) (exponent : Int)
deriving DecidableEq, Repr

/-- The text of the double that a literal stands for; none if there is no such double. -/
def FloatLiteral.text? : FloatLiteral → Option String
  | .nan => some "NaN"
  | .infinite negative => some (if negative then "-inf" else "inf")
  | .decimal negative digits exponent => do
    let x ← Binary64.ofDecimal? digits exponent
    let (ds, k) := x.shortest
    some (String.ofList ((if negative then ['-'] else []) ++ positional ds k))

end SourceTidy.Number
