import FeedExplorer.Chain.Block
import FeedExplorer.Screen.Panel
import FeedExplorer.View.Field

/-!
# Rows of lists

The rows that stand for blocks and transactions, and which of them a list shows.
-/

namespace FeedExplorer.View

open Chain (Block Transaction)
open Screen (Line Row Span Style)

def inked (c : Screen.Color) (text : String) : Span :=
  ⟨text, .ofInk c⟩

def separator : Span :=
  inked .darkGray " │ "

/-- A selected row stands out against the others. -/
def rowStyle (selected : Bool) : Style :=
  if selected then ⟨some .black, some .cyan, false⟩ else .plain

def blockLine (now : Nat) (b : Block) : Line :=
  [ inked .yellow ("#" ++ Text.alignLeft 7 (toString b.index.toNat)),
    inked .cyan (Text.alignLeft addressWidth (shortened b.hash)),
    separator,
    inked .white (Text.alignRight 4 (toString b.transactions.length) ++ " txs"),
    separator,
    inked .magenta (Text.alignRight 8 (toString b.tokens.toNat) ++ " tokens"),
    separator,
    inked .gray (age now b.timestamp.toNat) ]

def transactionLine (index : Nat) (t : Transaction) : Line :=
  [ inked .darkGray (Text.alignRight 3 (toString index) ++ " "),
    inked .cyan (address t.sender),
    inked .darkGray " → ",
    inked .cyan (address t.receiver),
    separator,
    inked .yellow (Text.alignRight 12 (amount t.amount)),
    separator,
    inked .magenta (Text.alignRight 12 (amount t.gasCost)) ]

def transactionHeader : Line :=
  [ ⟨"    ", .plain⟩,
    inked .darkGray (Text.alignCenter addressWidth "Sender"),
    ⟨"   ", .plain⟩,
    inked .darkGray (Text.alignCenter addressWidth "Receiver"),
    separator,
    inked .darkGray (Text.alignRight 12 "Amount"),
    separator,
    inked .darkGray (Text.alignRight 12 "Gas") ]

/-- The part of a list that `height` rows show: about half of them come before the selected item.
Every item comes with its index. -/
def window {α : Type} (height selected : Nat) (items : List α) : List (α × Nat) :=
  (items.zipIdx.drop (selected - height / 2)).take height

def blockRows (now height selected : Nat) (blocks : List Block) : List Row :=
  (window height selected blocks).map fun (b, i) =>
    { style := rowStyle (i == selected), line := blockLine now b }

/-- The rows below a header. -/
def transactionRows (height selected : Nat) (ts : List Transaction) : List Row :=
  { style := .plain, line := transactionHeader } ::
    (window height selected ts).map fun (t, i) =>
      { style := rowStyle (i == selected), line := transactionLine i t }

/-- A name and a value. -/
def entry (key value : String) : Line :=
  [inked .darkGray (key ++ ": "), inked .white value]

end FeedExplorer.View
