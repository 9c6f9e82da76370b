/-
  Words as small commands show them. A word that a script would read in another way stands
  between quotes, in a form that a script reads back; bytes that are no graphic ASCII
  characters are spelled by letters or octal digits behind a backslash.
-/
import SourceTidy.Text.Utf8

namespace SourceTidy.Toolbox

open Text (Bytes)

/-- A graphic ASCII character or the space. -/
def isGraphic (b : UInt8) : Bool := 0x20 ≤ b && b < 0x7F

def byteChar (b : UInt8) : Char := Char.ofNat b.toNat

/-- The letter that stands for a control character behind a backslash. -/
def controlLetter? (b : UInt8) : Option Char :=
  [((7 : UInt8), 'a'), (8, 'b'), (9, 't'), (10, 'n'), (11, 'v'), (12, 'f'), (13, 'r')].lookup b

/-- A byte in three octal digits. -/
def octalDigits (b : UInt8) : List Char :=
  let n := b.toNat
  [n / 64, n / 8 % 8, n % 8].map Nat.digitChar

/-- What stands behind a backslash for a byte that cannot stand for itself. -/
def escapeOf? (b : UInt8) : Option (List Char) :=
  match controlLetter? b with
  | some letter => some [letter]
  | none => if isGraphic b then none else some (octalDigits b)

/-- Characters with a meaning in scripts, wherever they stand. -/
def scriptSigns : List Char := "?\\ !\x22$&()*;<=>[^\x60|\x27".toList

/-- Characters with a meaning at the start of a word. -/
def startSigns : List Char := ['#', '~']

/-- Characters with a meaning if nothing else is in the word. -/
def loneSigns : List Char := ['\x7b', '\x7d']

/-- A script would not read the bare word as this one. With `colon`, a colon counts as a sign. -/
def needsQuotes (colon : Bool) (word : Bytes) : Bool :=
  let cs := word.map byteChar
  word.isEmpty || word.any (fun b => (escapeOf? b).isSome) ||
    cs.any (fun c => scriptSigns.contains c || (colon && c = ':')) ||
    cs.head?.any startSigns.contains ||
    (cs.length = 1 && cs.any loneSigns.contains)

/-- The character stands for itself between double quotes, and needs no others. -/
def isMild (c : Char) : Bool :=
  c = ' ' || c = '\x27' || !(scriptSigns ++ startSigns ++ loneSigns).contains c

/-- The word can stand between double quotes as it is. -/
def fitsDoubleQuotes (word : Bytes) : Bool :=
  word.all isGraphic &&
    match word.map byteChar with
    | [] => true
    | c :: cs => (isMild c || startSigns.contains c) && cs.all isMild

/-- The word after an opening single quote, with the closing one. `spelled` says that the bytes
    just before were spelled, for which the quotation has another form. -/
def afterQuote : Bool → Bytes → List Char
  | _, [] => ['\x27']
  | spelled, b :: rest =>
    if b = 39 then ['\x27', '\\', '\x27', '\x27'] ++ afterQuote false rest
    else match escapeOf? b with
      | some e => (if spelled then [] else ['\x27', '$', '\x27']) ++ '\\' :: e ++ afterQuote true rest
      | none => (if spelled then ['\x27', '\x27'] else []) ++ byteChar b :: afterQuote false rest

/-- The word between quotes. -/
def inQuotes (word : Bytes) : String :=
  if word.contains 39 && fitsDoubleQuotes word then
    String.ofList (['\x22'] ++ word.map byteChar ++ ['\x22'])
  else String.ofList ('\x27' :: afterQuote false word)

/-- The word, between quotes where it needs them. -/
def asScriptWord (colon : Bool) (word : Bytes) : String :=
  if needsQuotes colon word then inQuotes word else String.ofList (word.map byteChar)

/-- A path in a complaint, always between quotes. -/
def shown (path : String) : String := inQuotes (Text.Utf8.ofString path)

/-- A path in front of a colon. -/
def shownBeforeColon (path : String) : String := asScriptWord true (Text.Utf8.ofString path)

/-- A value in a complaint: between single quotes, with a backslash before each of those. -/
def shownValue (value : String) : String :=
  String.ofList ('\x27' :: (Text.Utf8.ofString value).flatMap (fun b =>
    match escapeOf? b with
    | some e => '\\' :: e
    | none => if b = 39 || b = 92 then ['\\', byteChar b] else [byteChar b]) ++ ['\x27'])

end SourceTidy.Toolbox
