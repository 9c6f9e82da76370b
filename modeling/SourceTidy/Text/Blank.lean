/-
  Blank characters and words: a character is blank when it has the Unicode property
  White_Space, and the words of a text are its longest runs of other characters.
-/

namespace SourceTidy.Text

/-- The Unicode property White_Space. -/
def isBlank (c : Char) : Bool :=
  let n := c.toNat
  (0x09 ≤ n && n ≤ 0x0D) || n == 0x20 || n == 0x85 || n == 0xA0 || n == 0x1680 ||
    (0x2000 ≤ n && n ≤ 0x200A) || n == 0x2028 || n == 0x2029 || n == 0x202F ||
    n == 0x205F || n == 0x3000

/-- Nothing but blank characters, possibly none at all. -/
def allBlank (s : List Char) : Bool := s.all isBlank

theorem allBlank_cons (c : Char) (s : List Char) :
    allBlank (c :: s) = (isBlank c && allBlank s) := rfl

theorem allBlank_append (s t : List Char) : allBlank (s ++ t) = (allBlank s && allBlank t) :=
  List.all_append

/-- Put a character in front of the first of some words. -/
def growFirst (c : Char) : List (List Char) → List (List Char)
  | [] => [[c]]
  | w :: ws => (c :: w) :: ws

/-- The longest runs of characters that are not blank, from left to right. -/
def words : List Char → List (List Char)
  | [] => []
  | [c] => if isBlank c then [] else [[c]]
  | c :: d :: s =>
    if isBlank c then words (d :: s)
    else if isBlank d then [c] :: words (d :: s)
    else growFirst c (words (d :: s))

/-- The last word of a text, if it has a word at all. -/
def lastWord? (s : List Char) : Option (List Char) := (words s).getLast?

end SourceTidy.Text
