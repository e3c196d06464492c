/-!
# Lines

The lines of a text. A line feed ends a line, together with a carriage return right before it; at
the end of the text it may be missing.
-/

namespace FeedExplorer.Text

/-- The lines of a text whose first line goes on from `current`, given in reverse. -/
def linesFrom : List Char → List Char → List (List Char)
  | [], [] => []
  | current, [] => [current.reverse]
  | '\r' :: current, '\n' :: cs => current.reverse :: linesFrom [] cs
  | current, '\n' :: cs => current.reverse :: linesFrom [] cs
  | current, c :: cs => linesFrom (c :: current) cs

def lines (s : String) : List String :=
  (linesFrom [] s.toList).map String.ofList

end FeedExplorer.Text
