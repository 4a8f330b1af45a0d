/-!
# Lines

A line ends at a line feed, with or without a carriage return before it. What follows the last line
feed is a line if it is not empty.
-/

namespace RiskScoring

/-- Drops one carriage return at the end. -/
def dropReturn (line : List Char) : List Char :=
  if line.getLast? = some '\r' then line.dropLast else line

/-- The lines of a text; `line` holds the characters of the current one in reverse. -/
def linesFrom (line : List Char) : List Char → List (List Char)
  | [] => if line.isEmpty then [] else [line.reverse]
  | c :: rest =>
    if c = '\n' then dropReturn line.reverse :: linesFrom [] rest else linesFrom (c :: line) rest

/-- The lines of a text. -/
def textLines (text : String) : List String :=
  (linesFrom [] text.toList).map String.ofList

end RiskScoring
