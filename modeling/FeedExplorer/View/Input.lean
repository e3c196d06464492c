import FeedExplorer.Screen.Panel
import FeedExplorer.Session.LineInput

/-!
# Lines of input

How a line input is shown in an area, and where its cursor stands.
-/

namespace FeedExplorer.View

open Screen (Area Content Line Span)
open Session (LineInput)

/-- The text of a line, or a hint while it is empty. -/
def inputLine (l : LineInput) (hint : String) : Line :=
  if l.isEmpty then [⟨hint, .ofInk .darkGray⟩] else [⟨l.text, .ofInk .white⟩]

/-- Columns of a screen are counted in sixteen bits. -/
def columnLimit : Nat := 65536

/-- The columns skipped at the left are counted like those of a screen. -/
def inputContent (l : LineInput) (hint : String) (width : Nat) : Content :=
  .lines [inputLine l hint] .left (l.scroll width % columnLimit)

/-- How far the cursor stands from the left edge when `width` columns are shown. -/
def cursorOffset (l : LineInput) (width : Nat) : Nat :=
  l.cursorColumn - l.scroll width

/-- The cell of the cursor, which is not shown at or behind the column `stop`. Its distance from the
edge and its column go around when they do not fit. -/
def cursorCell? (l : LineInput) (x y width stop : Nat) : Option (Nat × Nat) :=
  let column := (x + cursorOffset l width % columnLimit) % columnLimit
  if column < stop then some (column, y) else none

end FeedExplorer.View
