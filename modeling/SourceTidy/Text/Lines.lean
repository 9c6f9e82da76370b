/-
  Lines of a text. `splitLines` cuts behind every line feed and keeps it, so that the lines
  put together are the text again (`flatten_splitLines`). `displayLines` is the view for
  printing: line ends are dropped.
-/

namespace SourceTidy.Text

/-- The lines of a text, each with its line feed; the last one may lack it. -/
def splitLines : List Char → List (List Char)
  | [] => []
  | c :: s =>
    if c = '\n' then ['\n'] :: splitLines s
    else match splitLines s with
      | [] => [[c]]
      | l :: ls => (c :: l) :: ls

theorem flatten_splitLines (s : List Char) : (splitLines s).flatten = s := by
  induction s with
  | nil => rfl
  | cons c s ih =>
    rw [splitLines]
    split
    · next h => simp [h, ih]
    · split
      · next h => rw [h] at ih; simp [← ih]
      · next h => rw [h] at ih; simp [← ih]

/-- A line without its line feed, and without a carriage return right before that. -/
def dropLineEnd (l : List Char) : List Char :=
  match l.reverse with
  | '\n' :: '\r' :: r => r.reverse
  | '\n' :: r => r.reverse
  | _ => l

/-- The lines of a text as they are shown, without their ends. -/
def displayLines (s : String) : List String :=
  (splitLines s.toList).map fun l => String.ofList (dropLineEnd l)

end SourceTidy.Text
