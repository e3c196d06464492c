import FeedExplorer.View.BlockPage
import FeedExplorer.View.FeedPage
import FeedExplorer.View.Setup

/-!
# Drawing a session

Which page is drawn, and a session as the rows of a screen.
-/

namespace FeedExplorer.View

open Screen (Area Drawing Grid)

/-- The page that is open, or the set-up page while there is no feed. -/
def draw (now : Nat) (s : Session) (screen : Area) : Drawing :=
  if s.needsSetup then Setup.draw s screen
  else
    match s.page with
    | .feed => FeedPage.draw now s screen
    | .block b i => BlockPage.draw now b i screen

/-- A whole screen of some size. -/
def screenOf (width height : Nat) : Area :=
  { x := 0, y := 0, width, height }

/-- A session on a screen: the cells, and the cell of the cursor. -/
def paint (now : Nat) (s : Session) (width height : Nat) : Grid × Option (Nat × Nat) :=
  let drawing := draw now s (screenOf width height)
  (drawing.paint width height, drawing.cursor)

end FeedExplorer.View
