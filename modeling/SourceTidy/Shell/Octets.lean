/-
  Text as a shell sees it: octets, whatever characters they spell. An octet is held as a
  character below 256, so that the octets that mean something can be written as they are.
-/
import SourceTidy.Text.Utf8

namespace SourceTidy.Shell.Octets

open Text (Bytes)

/-- The octets of some bytes. -/
def ofBytes (b : Bytes) : List Char := b.map fun x => Char.ofNat x.toNat

/-- The bytes of some octets. -/
def toBytes (s : List Char) : Bytes := s.map fun c => UInt8.ofNat c.toNat

/-- The octets of a text. -/
def ofText (s : String) : String := String.ofList (ofBytes (Text.Utf8.ofString s))

/-- The text that octets spell; what spells none is replaced. -/
def toText (s : String) : String := String.ofList (Text.Utf8.decodeLossy (toBytes s.toList))

end SourceTidy.Shell.Octets
