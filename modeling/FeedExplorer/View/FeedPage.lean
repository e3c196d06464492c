import FeedExplorer.Screen.Split
import FeedExplorer.Session.Basic
import FeedExplorer.View.Input
import FeedExplorer.View.Row
import FeedExplorer.View.Setup

/-!
# Feed page

The page of the blocks: totals, the search line, the last failure and the list.
-/

namespace FeedExplorer.View.FeedPage

open Screen (Area Drawing Extent Line Panel Span Style linesOf)

/-- Header, totals, search line, failure, list and help. -/
def extents (s : Session) : List Extent :=
  [.exactly 1, .exactly 3, .exactly 3, .exactly (if s.feedState.lastError.isSome then 3 else 0),
    .atLeast 3, .exactly 1]

/-- The strip `i` of the page, which has a margin all around. -/
def strip (s : Session) (screen : Area) (i : Nat) : Area :=
  (((screen.padded 1).stacked (extents s))[i]?).getD screen

/-- A long address without its end. -/
def shownUrl (s : Session) : String :=
  let url := s.url.getD "Not configured"
  if 50 < url.length then String.ofList (url.toList.take 47) ++ "..." else url

def header (s : Session) : Line :=
  [⟨"Block Feed Explorer", .boldInk .cyan⟩, inked .darkGray "  RPC: ", inked .green (shownUrl s)]

/-- The box of a total, one of three. -/
def totalPanel (area : Area) (i : Nat) (label : String) (color : Screen.Color) (n : Nat) : Panel :=
  { area := ((area.sideBySide 3 [1, 1, 1])[i]?).getD area
    style := .plain
    frame := some
      { border := .ofInk color, title := .ofText (" " ++ label ++ " "), titleStyle := .ofInk color }
    content := .lines [[⟨toString n, .boldInk .white⟩]] .center 0 }

def totals (s : Session) (area : Area) : List Panel :=
  let state := s.feedState
  [ totalPanel area 0 "Total Blocks" .cyan state.totalBlocks,
    totalPanel area 1 "Total Transactions" .magenta state.filteredTransactionCount,
    totalPanel area 2 "Total Tokens" .yellow state.totalTokens.toNat ]

/-- The columns of the search line. -/
def searchWidth (area : Area) : Nat :=
  area.width - 2

def searchPanel (s : Session) (area : Area) : Panel :=
  { area, style := .plain
    frame := some
      { border := .ofInk .cyan, title := .ofText " 🔍 Search ", titleStyle := .ofInk .cyan }
    content :=
      inputContent s.search "Search by Transaction Sender or Receiver" (searchWidth area) }

def cursor (s : Session) (area : Area) : Option (Nat × Nat) :=
  cursorCell? s.search (area.x + 1) (area.y + 1) (searchWidth area) (area.x + (area.width - 1))

def failurePanel (area : Area) (text : String) : Panel :=
  { area, style := .ofInk .red
    frame := some
      { border := .ofInk .red, title := .ofText " ❌ Error ", titleStyle := .plain }
    content := .folded (linesOf text) }

def listTitle (s : Session) : String :=
  let count := " Blocks (" ++ toString s.visible.length ++ ") "
  let query := s.feedState.query
  if query.isEmpty then count else count ++ "• " ++ query.describe ++ " "

def emptyText (s : Session) : String :=
  if s.feedState.query.isEmpty then "No blocks found." else "No blocks found matching your search."

/-- The rows that the list has room for. -/
def listHeight (area : Area) : Nat :=
  area.height - 2

def listPanel (now : Nat) (s : Session) (area : Area) : Panel :=
  { area
    style := if s.visible.isEmpty then .ofInk .darkGray else .plain
    frame := some
      { border := .ofInk .darkGray, title := .ofText (listTitle s), titleStyle := .plain }
    content :=
      if s.visible.isEmpty then .lines (linesOf (emptyText s)) .center 0
      else .rows (blockRows now (listHeight area) s.highlighted s.visible) }

def helpText : String :=
  "↑↓ select • Enter open • ^N mint • ^R refresh • Esc quit"

/-- The status line, or what the keys do. -/
def helpPanel (s : Session) (area : Area) : Panel :=
  match s.status with
  | some text => centered area (.ofInk .yellow) text
  | none => centered area (.ofInk .darkGray) helpText

def panels (now : Nat) (s : Session) (screen : Area) : List Panel :=
  { area := strip s screen 0, style := .plain, frame := none
    content := .lines [header s] .left 0 } ::
  totals s (strip s screen 1) ++
  [searchPanel s (strip s screen 2)] ++
  (s.feedState.lastError.map (failurePanel (strip s screen 3))).toList ++
  [listPanel now s (strip s screen 4), helpPanel s (strip s screen 5)]

def draw (now : Nat) (s : Session) (screen : Area) : Drawing :=
  { panels := panels now s screen, cursor := cursor s (strip s screen 2) }

end FeedExplorer.View.FeedPage
