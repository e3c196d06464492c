import FeedExplorer.Screen.Split
import FeedExplorer.View.Row
import FeedExplorer.View.Setup

/-!
# Block page

The page of a single block and its transactions.
-/

namespace FeedExplorer.View.BlockPage

open Chain (Block)
open Screen (Area Drawing Extent Frame Line Panel linesOf)

/-- Ten rows and the help line are left to the block as far as the list keeps six rows; the list has
at most half of the page, or six rows. -/
def listHeight (height : Nat) : Nat :=
  min (max (height - 11) 6) (max (height / 2) 6)

/-- Facts, transactions and help. -/
def extents (height : Nat) : List Extent :=
  [.exactly (height - (listHeight height + 1)), .exactly (listHeight height), .exactly 1]

/-- The strip `i` of the page, which has a margin all around. -/
def strip (screen : Area) (i : Nat) : Area :=
  let page := screen.padded 1
  ((page.stacked (extents page.height))[i]?).getD page

def tokensText (b : Block) : String :=
  match b.tokenName with
  | some name => toString b.tokens.toNat ++ " " ++ name
  | none => toString b.tokens.toNat

def facts (now : Nat) (b : Block) : List Line :=
  [ entry "Hash" b.hash,
    entry "Parent Hash" (b.prevHash.getD "N/A"),
    entry "Timestamp" (age now b.timestamp.toNat),
    entry "Miner" b.minerAddress,
    [],
    entry "Transactions" (toString b.transactions.length),
    entry "Tokens Minted" (tokensText b) ]

def frame (title : String) : Frame :=
  { border := .ofInk .cyan, title := .ofText title, titleStyle := .plain }

def factsPanel (now : Nat) (b : Block) (area : Area) : Panel :=
  { area, style := .plain
    frame := some (frame (" 📦 Block #" ++ toString b.index.toNat ++ " "))
    content := .lines (facts now b) .left 0 }

/-- The rows for transactions, below the header. -/
def rowCount (area : Area) : Nat :=
  area.height - 3

def listPanel (b : Block) (selected : Nat) (area : Area) : Panel :=
  { area
    style := if b.transactions.isEmpty then .ofInk .darkGray else .plain
    frame := some (frame (" Transactions (" ++ toString b.transactions.length ++ ") "))
    content :=
      if b.transactions.isEmpty then .lines (linesOf "No transactions in this block") .left 0
      else .rows (transactionRows (rowCount area) selected b.transactions) }

def helpText : String :=
  "↑↓ navigate • b back • Esc quit"

def draw (now : Nat) (b : Block) (selected : Nat) (screen : Area) : Drawing :=
  { panels :=
      [ factsPanel now b (strip screen 0), listPanel b selected (strip screen 1),
        centered (strip screen 2) (.ofInk .darkGray) helpText ]
    cursor := none }

end FeedExplorer.View.BlockPage
