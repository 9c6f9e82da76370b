/-
  Settings from a TOML document. The rows of a table are taken by rising key; the first row
  that does not fit is the one reported. Settings that the document does not give keep their
  defaults.
-/
import SourceTidy.Settings.Basic
import SourceTidy.Toml.Document

namespace SourceTidy

open Toml (Value)
open Number (twoTo)

/-- What a message calls a value that does not fit: its kind, and for a simple value its text.
    Integers that are illegible or too large for every kind of number have no description, nor
    have floats past the largest one. -/
def describe : Value → Except SettingsError String
  | .string s => .ok ("string " ++ Text.quoted s)
  | .integer n =>
    if -twoTo 63 ≤ n ∧ n < twoTo 64 then .ok ("integer " ++ SettingsError.marked (toString n))
    else if -twoTo 127 ≤ n ∧ n < twoTo 127 then
      .ok ("integer " ++ SettingsError.marked (toString n) ++ " as i128")
    else if 0 ≤ n ∧ n < twoTo 128 then
      .ok ("integer " ++ SettingsError.marked (toString n) ++ " as u128")
    else .error .integerOverflow
  | .illegible => .error .integerOverflow
  | .float x =>
    match x.text? with
    | some t => .ok ("floating point " ++ SettingsError.marked t)
    | none => .error .floatOverflow
  | .boolean b => .ok ("boolean " ++ SettingsError.marked (if b then "true" else "false"))
  | .array _ => .ok "sequence"
  | .moment => .ok "map"
  | .table _ => .ok "map"

/-- The error for a value of the wrong kind. -/
def misfit (wanted : String) (v : Value) : SettingsError :=
  match describe v with
  | .ok found => .wrongType found wanted
  | .error e => e

/-- A count of at most 64 bits. -/
def countOf (v : Value) : Except SettingsError Nat :=
  match v with
  | .integer n =>
    if 0 ≤ n ∧ n < twoTo 64 then .ok n.toNat
    else if -twoTo 63 ≤ n ∧ n < 0 then .error (.negative n)
    else .error (misfit "usize" v)
  | v => .error (misfit "usize" v)

def stringOf (v : Value) : Except SettingsError String :=
  match v with
  | .string s => .ok s
  | v => .error (misfit "a string" v)

def stringsOf (v : Value) : Except SettingsError (List String) :=
  match v with
  | .array items => items.mapM stringOf
  | v => .error (misfit "a sequence" v)

namespace ToolLines

/-- The keys of the table of tools, in the order in which an array gives them. -/
def keys : List String := ["formatter", "linter", "doctest"]

/-- Take one row of the table of tools. -/
def setRow (t : ToolLines) (row : String × Value) : Except SettingsError ToolLines :=
  match row with
  | ("formatter", v) => do return { t with formatter := ← stringsOf v }
  | ("linter", v) => do return { t with linter := ← stringsOf v }
  | ("doctest", v) => do return { t with doctest := ← stringsOf v }
  | (key, _) => .error (.unknownKey key keys)

/-- The tools from a table, or from an array that lists them; more items are not looked at. -/
def ofValue (v : Value) : Except SettingsError ToolLines :=
  match v with
  | .table rows => (Toml.sortedRows rows).foldlM setRow {}
  | .array items => (keys.zip items).foldlM setRow {}
  | .moment => .error (.unknownKey "$__toml_private_datetime" keys)
  | v => .error (misfit "struct ToolsConfig" v)

end ToolLines

namespace Settings

def keys : List String :=
  ["line_length", "extension", "repl_extension", "comment_marker", "tools"]

/-- Take one row of the document. -/
def setRow (s : Settings) (row : String × Value) : Except SettingsError Settings :=
  match row with
  | ("line_length", v) => do return { s with lineLength := ← countOf v }
  | ("extension", v) => do return { s with extension := ← stringOf v }
  | ("repl_extension", v) => do return { s with replExtension := ← stringOf v }
  | ("comment_marker", v) => do return { s with commentMarker := ← stringOf v }
  | ("tools", v) => do return { s with tools := ← ToolLines.ofValue v }
  | (key, _) => .error (.unknownKey key keys)

/-- The settings that the rows of a document give, not yet checked. -/
def ofRows (rows : List (String × Value)) : Except SettingsError Settings :=
  (Toml.sortedRows rows).foldlM setRow {}

/-- The settings that a text gives, if it is a document, its rows fit and the rules are met. -/
def parse (text : String) : Except SettingsError Settings :=
  match Toml.parse? text with
  | none => .error .malformed
  | some rows => do
    let s ← ofRows rows
    s.check
    return s

end Settings

end SourceTidy
