/-
  UTF-8. `encode` writes a text as bytes, `decode?` reads bytes that are UTF-8 throughout,
  and `decodeLossy` reads any bytes, with one replacement character for every longest run
  of bytes that begins a character and cannot be completed.
-/

namespace SourceTidy.Text

abbrev Bytes := List UInt8

namespace Utf8

/-- The bytes of one character. -/
def encodeChar (c : Char) : Bytes :=
  let n := c.toNat
  if n < 0x80 then [UInt8.ofNat n]
  else if n < 0x800 then [UInt8.ofNat (0xC0 + n / 0x40), UInt8.ofNat (0x80 + n % 0x40)]
  else if n < 0x10000 then
    [UInt8.ofNat (0xE0 + n / 0x1000), UInt8.ofNat (0x80 + n / 0x40 % 0x40),
      UInt8.ofNat (0x80 + n % 0x40)]
  else
    [UInt8.ofNat (0xF0 + n / 0x40000), UInt8.ofNat (0x80 + n / 0x1000 % 0x40),
      UInt8.ofNat (0x80 + n / 0x40 % 0x40), UInt8.ofNat (0x80 + n % 0x40)]

/-- The bytes of a text. -/
def encode (s : List Char) : Bytes := s.flatMap encodeChar

/-- What stands at the front of some bytes: the end, a character, or bytes that no
    character starts with. -/
inductive Front where
  | done
  | char (c : Char) (rest : Bytes)
  | broken (rest : Bytes)

/-- Whether a byte may be the second of a character that `lead` opens. The narrower ranges
    rule out long forms, surrogates and numbers past the last code point. -/
def isSecond (lead b : Nat) : Bool :=
  let low := if lead = 0xE0 then 0xA0 else if lead = 0xF0 then 0x90 else 0x80
  let high := if lead = 0xED then 0x9F else if lead = 0xF4 then 0x8F else 0xBF
  low ≤ b && b ≤ high

/-- A byte that continues a character, after its second. -/
def isTail (b : Nat) : Bool := 0x80 ≤ b && b ≤ 0xBF

/-- Read one character, or the longest broken beginning of one. -/
def front : Bytes → Front
  | [] => .done
  | a :: rest =>
    let m := a.toNat
    if m < 0x80 then .char (Char.ofNat m) rest
    else if 0xC2 ≤ m && m ≤ 0xDF then
      match rest with
      | [] => .broken []
      | b :: rest₁ =>
        if isSecond m b.toNat then
          .char (Char.ofNat ((m - 0xC0) * 0x40 + (b.toNat - 0x80))) rest₁
        else .broken rest
    else if 0xE0 ≤ m && m ≤ 0xEF then
      match rest with
      | [] => .broken []
      | b :: rest₁ =>
        if isSecond m b.toNat then
          match rest₁ with
          | [] => .broken []
          | c :: rest₂ =>
            if isTail c.toNat then
              .char (Char.ofNat
                ((m - 0xE0) * 0x1000 + (b.toNat - 0x80) * 0x40 + (c.toNat - 0x80))) rest₂
            else .broken rest₁
        else .broken rest
    else if 0xF0 ≤ m && m ≤ 0xF4 then
      match rest with
      | [] => .broken []
      | b :: rest₁ =>
        if isSecond m b.toNat then
          match rest₁ with
          | [] => .broken []
          | c :: rest₂ =>
            if isTail c.toNat then
              match rest₂ with
              | [] => .broken []
              | d :: rest₃ =>
                if isTail d.toNat then
                  .char (Char.ofNat ((m - 0xF0) * 0x40000 + (b.toNat - 0x80) * 0x1000 +
                    (c.toNat - 0x80) * 0x40 + (d.toNat - 0x80))) rest₃
                else .broken rest₂
            else .broken rest₁
        else .broken rest
    else .broken rest

/-- Read characters until the bytes end, at most `n` of them. -/
def decodeUpTo : Nat → Bytes → Option (List Char)
  | 0, bs => if bs.isEmpty then some [] else none
  | n + 1, bs =>
    match front bs with
    | .done => some []
    | .char c rest => (decodeUpTo n rest).map (c :: ·)
    | .broken _ => none

/-- The text that some bytes spell, if they are UTF-8 throughout. -/
def decode? (bs : Bytes) : Option (List Char) := decodeUpTo bs.length bs

/-- Like `decodeUpTo`, with a replacement character where a character is broken. -/
def decodeLossyUpTo : Nat → Bytes → List Char
  | 0, _ => []
  | n + 1, bs =>
    match front bs with
    | .done => []
    | .char c rest => c :: decodeLossyUpTo n rest
    | .broken rest => '\uFFFD' :: decodeLossyUpTo n rest

/-- The text of any bytes, broken characters replaced. -/
def decodeLossy (bs : Bytes) : List Char := decodeLossyUpTo bs.length bs

/-- The bytes of a string. -/
def ofString (s : String) : Bytes := encode s.toList

/-- The string that some bytes spell, if they are UTF-8 throughout. -/
def toString? (bs : Bytes) : Option String := (decode? bs).map String.ofList

/-- The bytes up to and including the first line feed; all of them if there is none. -/
def firstLine : Bytes → Bytes
  | [] => []
  | b :: bs => if b = 10 then [b] else b :: firstLine bs

end Utf8

end SourceTidy.Text
