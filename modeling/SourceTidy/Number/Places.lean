/-
  Fractions with a limited number of binary digits, and their decimal forms with a given
  number of places. A half goes to the even neighbour everywhere.
-/
import SourceTidy.Number.Binary64

namespace SourceTidy.Number

/-- A fraction that is not negative. -/
structure Fraction where
  num : Nat
  den : Nat
deriving DecidableEq, Repr

/-- A kind of binary floating-point number: the digits of its significand, and the exponents of
    its smallest and largest values. -/
structure BinaryFormat where
  bits : Nat
  least : Int
  greatest : Int

namespace BinaryFormat

def double : BinaryFormat := ⟨53, -1074, 971⟩

/-- Double precision with eleven more digits in the significand. -/
def extended : BinaryFormat := ⟨64, -16445, 16320⟩

/-- The number nearest to a fraction; none if it is past the largest one. -/
def nearest? (f : BinaryFormat) (x : Fraction) : Option Fraction :=
  if x.num = 0 then some ⟨0, 1⟩
  else
    let estimate := (x.num.log2 : Int) - (x.den.log2 : Int) - (f.bits - 1 : Nat)
    let (n, d) := Binary64.overPower x.num x.den estimate
    let q := max f.least (if n / d < twoTo (f.bits - 1) then estimate - 1 else estimate)
    let (n, d) := Binary64.overPower x.num x.den q
    let m := roundDiv n d
    if f.greatest < q ∨ (f.greatest = q ∧ m = twoTo f.bits) then none
    else if 0 ≤ q then some ⟨m * twoTo q.toNat, 1⟩
    else some ⟨m, twoTo (-q).toNat⟩

end BinaryFormat

/-- A fraction times a power of ten. -/
def Fraction.shift (x : Fraction) (k : Int) : Fraction :=
  if 0 ≤ k then ⟨x.num * tenTo k.toNat, x.den⟩ else ⟨x.num, x.den * tenTo (-k).toNat⟩

/-- A natural number in decimal digits, at least `width` of them. -/
def digitsOfWidth (width n : Nat) : List Char :=
  let ds := Nat.toDigits 10 n
  List.replicate (width - ds.length) '0' ++ ds

/-- The digits before and behind the point, with so many places. -/
def Fraction.fixed (x : Fraction) (places : Nat) : List Char × List Char :=
  let ds := digitsOfWidth (places + 1) (roundDiv (x.shift places).num (x.shift places).den)
  ds.splitAt (ds.length - places)

/-- The power of ten of the first digit of a fraction that is not zero. -/
def Fraction.magnitude (x : Fraction) : Int :=
  let k : Int := ((Nat.toDigits 10 x.num).length : Int) - (Nat.toDigits 10 x.den).length
  let one := x.shift (-k)
  if one.den ≤ one.num then k else k - 1

/-- The first digit, so many places behind it, and the power of ten of the first digit. -/
def Fraction.scientific (x : Fraction) (places : Nat) : List Char × List Char × Int :=
  if x.num = 0 then (['0'], List.replicate places '0', 0)
  else
    let k := x.magnitude
    let y := x.shift (places - k)
    let n := roundDiv y.num y.den
    let (n, k) := if n = tenTo (places + 1) then (tenTo places, k + 1) else (n, k)
    let ds := Nat.toDigits 10 n
    (ds.take 1, ds.drop 1, k)

end SourceTidy.Number
