/-
  Values of a TOML document. Tables keep their rows in the order of the document; `sortedRows`
  is the order in which they are looked at.
-/
import SourceTidy.Number.Binary64

namespace SourceTidy.Toml

/-- A value. An integer whose token holds more than digits, or no digit at all, is `illegible`:
    the document around it is still read, and only who looks at the value finds no number. -/
inductive Value where
  | string (s : String)
  | integer (n : Int)
  | illegible
  | float (x : Number.FloatLiteral)
  | boolean (b : Bool)
  | moment
  | array (items : List Value)
  | table (rows : List (String × Value))

/-- The rows of a table, by rising key. -/
def sortedRows (rows : List (String × Value)) : List (String × Value) :=
  rows.mergeSort fun a b => decide (a.1 ≤ b.1)

end SourceTidy.Toml
