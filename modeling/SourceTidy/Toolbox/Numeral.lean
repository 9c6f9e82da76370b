/-
  Numbers in the arguments of `printf`: how they are read from the front of a text, and what is
  wrong with the rest.
-/
import SourceTidy.Number.Places
import SourceTidy.Toolbox.Output

namespace SourceTidy.Toolbox

open Number (twoTo tenTo Fraction BinaryFormat)

/-- How much of an argument was a number. -/
inductive Fitness where
  | whole
  | partly
  | nothing
  | tooLarge
deriving DecidableEq

/-- A number with a sign, or something else that a number can be. -/
inductive RealNumber where
  | finite (negative : Bool) (x : Fraction)
  | infinite (negative : Bool)
  | undefined (negative : Bool)

/-- Digits of a base at the front: their value, how many there are, and what follows. -/
def digitsFrom (base : Nat) (s : List Char) : Nat × Nat × List Char :=
  let ds := s.takeWhile fun c => (hexadecimal? c).any (· < base)
  (ds.foldl (fun acc c => acc * base + (hexadecimal? c).getD 0) 0, ds.length, s.drop ds.length)

/-- A sign, if there is one, and whether it is a minus; blanks in front do not count. -/
def signFrom (s : List Char) : Bool × List Char :=
  match s.dropWhile fun c => c = ' ' || ('\t' ≤ c && c ≤ '\r') with
  | '-' :: s => (true, s)
  | '+' :: s => (false, s)
  | s => (false, s)

/-- The digits of a whole number at the front, hexadecimal, octal or decimal: their value and
    what follows; none if there are no digits. -/
def magnitudeFrom (s : List Char) : Option (Nat × List Char) :=
  let hexadecimal := match s with
    | '0' :: x :: t =>
      if (x = 'x' || x = 'X') && t.head?.any (fun c => (hexadecimal? c).isSome) then some t else none
    | _ => none
  match hexadecimal with
  | some t =>
    let (v, _, rest) := digitsFrom 16 t
    some (v, rest)
  | none =>
    let (v, count, rest) := digitsFrom (if s.head? = some '0' then 8 else 10) s
    if count = 0 then none else some (v, rest)

/-- The first byte of a character. -/
def firstByte (c : Char) : Nat := ((Text.Utf8.encodeChar c).headD 0).toNat

/-- The number of the byte behind a quote, if an argument is of that kind. -/
def quotedByte? (a : String) : Option Nat :=
  match a.toList with
  | q :: c :: _ => if q = '\x27' || q = '\x22' then some (firstByte c) else none
  | _ => none

/-- What is left of such an argument behind that byte. -/
def afterQuotedByte (a : String) : Text.Bytes := (bytes a).drop 2

/-- How fit an argument is, given what is left of it behind the number. -/
def fitnessOf (a : String) (found : Bool) (rest : List Char) (inRange : Bool) : Fitness :=
  if !found then (if a.isEmpty then .whole else .nothing)
  else if !inRange then .tooLarge
  else if rest.isEmpty then .whole
  else .partly

/-- A whole number of 64 bits at the front of an argument. With `signed`, half of the numbers are
    negative; without it, a minus takes the number from the top. -/
def wholeNumber (signed : Bool) (a : String) : Int × Fitness :=
  match quotedByte? a with
  | some n => (n, .whole)
  | none =>
    let (negative, s) := signFrom a.toList
    match magnitudeFrom s with
    | none => (0, fitnessOf a false [] true)
    | some (v, rest) =>
      let least : Int := -twoTo 63
      let n : Int := if negative then -(v : Int) else v
      if signed then
        if n < least then (least, fitnessOf a true rest false)
        else if n ≥ twoTo 63 then ((twoTo 63 : Int) - 1, fitnessOf a true rest false)
        else (n, fitnessOf a true rest true)
      else if v ≥ twoTo 64 then ((twoTo 64 : Int) - 1, fitnessOf a true rest false)
      else (n % twoTo 64, fitnessOf a true rest true)

/-- The text starts with a word, in either case. -/
def startsWith? (word : String) (s : List Char) : Option (List Char) :=
  if (s.take word.length).map Char.toLower = word.toList then some (s.drop word.length) else none

/-- The exponent of a number, behind one of two letters; nothing if there are no digits. -/
def exponentFrom (letter : Char) (s : List Char) : Int × List Char :=
  match s with
  | c :: t =>
    if c.toLower = letter then
      let (negative, u) := match t with
        | '-' :: u => (true, u)
        | '+' :: u => (false, u)
        | u => (false, u)
      let (v, count, rest) := digitsFrom 10 u
      if count = 0 then (0, s) else (if negative then -(v : Int) else v, rest)
    else (0, s)
  | [] => (0, [])

/-- Digits in a base with a point among them: their value, the places behind the point, and what
    follows; none if there are no digits. -/
def pointedFrom (base : Nat) (s : List Char) : Option (Nat × Nat × List Char) :=
  let (v, count, rest) := digitsFrom base s
  match rest with
  | '.' :: t =>
    let (w, places, after) := digitsFrom base t
    if count + places = 0 then none else some (v * Nat.pow base places + w, places, after)
  | rest => if count = 0 then none else some (v, 0, rest)

/-- Exponents past this bound are past every format. -/
def exponentBound : Int := 20000

/-- A number times a power of two or ten, rounded to a format; none if it is too large. -/
def scaled? (f : BinaryFormat) (base : Nat) (v : Nat) (k : Int) : Option Fraction :=
  let size : Int := (Nat.toDigits base v).length
  if v = 0 ∨ k + size < -exponentBound then some ⟨0, 1⟩
  else if exponentBound < k + size then none
  else if 0 ≤ k then f.nearest? ⟨v * Nat.pow base k.toNat, 1⟩
  else f.nearest? ⟨v, Nat.pow base (-k).toNat⟩

/-- A number of a format at the front of an argument. -/
def realNumber (f : BinaryFormat) (a : String) : RealNumber × Fitness :=
  match quotedByte? a with
  | some n => (.finite false ⟨n, 1⟩, .whole)
  | none =>
    let (negative, s) := signFrom a.toList
    let finish := fun (x : Option Fraction) (rest : List Char) =>
      match x with
      | some x => (RealNumber.finite negative x, fitnessOf a true rest true)
      | none => (RealNumber.infinite negative, fitnessOf a true rest false)
    let named := (startsWith? "infinity" s).orElse fun _ => startsWith? "inf" s
    match named, startsWith? "nan" s with
    | some rest, _ => (.infinite negative, fitnessOf a true rest true)
    | _, some rest => (.undefined negative, fitnessOf a true rest true)
    | none, none =>
      match (startsWith? "0x" s).bind (pointedFrom 16) with
      | some (v, places, rest) =>
        let (k, rest) := exponentFrom 'p' rest
        finish (scaled? f 2 v (k - 4 * places)) rest
      | none =>
        match pointedFrom 10 s with
        | some (v, places, rest) =>
          let (k, rest) := exponentFrom 'e' rest
          finish (scaled? f 10 v (k - places)) rest
        | none => (.finite false ⟨0, 1⟩, fitnessOf a false [] true)

end SourceTidy.Toolbox
