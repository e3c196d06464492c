import FeedExplorer.Number.Sum
import FeedExplorer.Screen.Style
import FeedExplorer.Text.Lines
import FeedExplorer.Text.Width

/-!
# Lines of styled text

Runs of characters in one style, and the glyphs that they put on a screen.
-/

namespace FeedExplorer.Screen

open scoped Number

structure Span where
  text : String
  style : Style
  deriving DecidableEq, Repr

abbrev Line := List Span

/-- A cluster to be shown. -/
structure Glyph where
  symbol : List Char
  width : Nat
  style : Style
  deriving DecidableEq, Repr

def Span.width (s : Span) : Nat :=
  Text.width s.text

/-- Line feeds are not shown. -/
def Span.glyphs (s : Span) : List Glyph :=
  ((Text.clusters s.text.toList).filter (· != ['\n'])).map fun cs =>
    { symbol := cs, width := Text.clusterWidth cs, style := s.style }

namespace Line

def width (l : Line) : Nat :=
  (l.map (·.width)).sum

def glyphs (l : Line) : List Glyph :=
  l.flatMap (·.glyphs)

/-- The lines of a text as the spans of a single line. -/
def ofText (s : String) : Line :=
  (Text.lines s).map fun l => ⟨l, .plain⟩

end Line

/-- A text line by line. The empty text has one line. -/
def linesOf (s : String) : List Line :=
  if s.isEmpty then [[]] else (Text.lines s).map Line.ofText

end FeedExplorer.Screen
