import GuardedGateway.Text.Pieces

/-!
# Lines, and the end of a log

A line ends at a newline, and a carriage return before the newline belongs to the ending.  What
follows the last newline is a line too, unless it is empty.

`tail` keeps a number of lines from the end.  Line endings are written as newlines, and the last one
is there when the text had one, except after a single empty line.
-/

namespace GuardedGateway.Text

/-- A line without the carriage return at its end. -/
def dropReturn (line : List Char) : List Char :=
  if line.getLast? = some '\r' then line.dropLast else line

/-- The lines among the pieces between newlines. -/
def linesOfPieces : List (List Char) → List (List Char)
  | [] => []
  | [last] => if last.isEmpty then [] else [last]
  | line :: next :: rest => dropReturn line :: linesOfPieces (next :: rest)

/-- The lines of a text. -/
def lines (text : List Char) : List (List Char) :=
  linesOfPieces (pieces '\n' text)

/-- Lines with a newline between each two. -/
def joinLines : List (List Char) → List Char
  | [] => []
  | [line] => line
  | line :: next :: rest => line ++ '\n' :: joinLines (next :: rest)

/-- The last `count` lines of a text. -/
def tailChars (count : Nat) (text : List Char) : List Char :=
  let all := lines text
  let kept := joinLines (all.drop (all.length - count))
  if text.getLast? = some '\n' ∧ kept ≠ [] then kept ++ ['\n'] else kept

/-- The last `count` lines of a string. -/
def tail (count : Nat) (text : String) : String :=
  String.ofList (tailChars count text.toList)

end GuardedGateway.Text
