import FeedExplorer.Screen.Split
import FeedExplorer.Session.Basic
import FeedExplorer.View.Input

/-!
# Set-up page

The page on which the address of a feed is typed.
-/

namespace FeedExplorer.View

open Screen (Area Drawing Extent Panel Style linesOf)

def titleArt : String :=
  "\n" ++
  "███████╗███████╗███████╗██████╗ ███████╗██╗  ██╗\n" ++
  "██╔════╝██╔════╝██╔════╝██╔══██╗██╔════╝╚██╗██╔╝\n" ++
  "█████╗  █████╗  █████╗  ██║  ██║█████╗   ╚███╔╝\n" ++
  "██╔══╝  ██╔══╝  ██╔══╝  ██║  ██║██╔══╝   ██╔██╗\n" ++
  "██║     ███████╗███████╗██████╔╝███████╗██╔╝ ██╗\n" ++
  "╚═╝     ╚══════╝╚══════╝╚═════╝ ╚══════╝╚═╝  ╚═╝\n"

/-- A text without a frame, every line in the middle. -/
def centered (area : Area) (style : Style) (text : String) : Panel :=
  { area, style, frame := none, content := .lines (linesOf text) .center 0 }

namespace Setup

/-- Title, subtitle, a gap, the address box, a gap, help, and the rest. -/
def extents : List Extent :=
  [.exactly 8, .exactly 1, .exactly 2, .exactly 5, .exactly 2, .exactly 1, .atLeast 0]

/-- The strip `i` of the page. -/
def strip (screen : Area) (i : Nat) : Area :=
  ((screen.stacked extents)[i]?).getD screen

/-- The box around the address, seven tenths of the width. -/
def box (screen : Area) : Area :=
  let strip := strip screen 3
  ((strip.sideBySide 100 [15, 70, 15])[1]?).getD strip

/-- The lines inside the box: the label and the address. -/
def boxLine (screen : Area) (i : Nat) : Area :=
  let inside := (box screen).inner
  ((inside.stacked [.exactly 1, .exactly 1])[i]?).getD inside

def help (s : Session) : String :=
  s.status.getD "Press Enter to connect • Esc to quit"

def cursor (s : Session) (screen : Area) : Option (Nat × Nat) :=
  let line := boxLine screen 1
  cursorCell? s.address line.x line.y line.width line.right

def panels (s : Session) (screen : Area) : List Panel :=
  let line := boxLine screen 1
  [ centered (strip screen 0) (.boldInk .cyan) titleArt,
    centered (strip screen 1) (.ofInk .gray) "Terminal Block Feed Explorer",
    { area := box screen, style := .plain, content := .nothing
      frame := some
        { border := .ofInk .yellow, title := .ofText " ⚡ RPC Configuration Required "
          titleStyle := .ofInk .yellow } },
    { area := boxLine screen 0, style := .ofInk .white, frame := none
      content := .lines
        (linesOf "Enter the block feed RPC URL (e.g., http://127.0.0.1:3030):") .left 0 },
    { area := line, style := .plain, frame := none
      content := inputContent s.address "http://..." line.width },
    centered (strip screen 5) (.ofInk .darkGray) (help s) ]

def draw (s : Session) (screen : Area) : Drawing :=
  { panels := panels s screen, cursor := cursor s screen }

end Setup

end FeedExplorer.View
