import FeedExplorer.Chain.Block
import FeedExplorer.Number.Sum

/-!
# Queries

A free text that picks the blocks in which an address holds it. The empty query picks every
block, even one without transactions. Main statement: picking keeps the order of the blocks.
-/

namespace FeedExplorer.Chain

open scoped Number

/-- The text searched for, letter by letter as it was typed. -/
structure Query where
  text : String
  deriving DecidableEq, Repr, Inhabited

/-- `part` stands somewhere in `whole` without a gap. -/
def occursIn (part : List Char) : List Char → Bool
  | [] => part.isEmpty
  | c :: cs => part.isPrefixOf (c :: cs) || occursIn part cs

namespace Query

def isEmpty (q : Query) : Bool :=
  q.text.toList.isEmpty

def matchesTransaction (q : Query) (t : Transaction) : Bool :=
  occursIn q.text.toList t.sender.toList || occursIn q.text.toList t.receiver.toList

def matchesBlock (q : Query) (b : Block) : Bool :=
  q.isEmpty || b.transactions.any q.matchesTransaction

def filter (q : Query) (blocks : List Block) : List Block :=
  blocks.filter q.matchesBlock

/-- The number of transactions in the picked blocks, whether or not the query matches them. -/
def transactionCount (q : Query) (blocks : List Block) : Nat :=
  ((q.filter blocks).map (·.transactions.length)).sum

/-- What the query picks, in words. -/
def describe (q : Query) : String :=
  if q.isEmpty then "All blocks" else "Sender/receiver contains \"" ++ q.text ++ "\""

theorem filter_sublist (q : Query) (blocks : List Block) :
    (q.filter blocks).Sublist blocks :=
  List.filter_sublist

theorem mem_filter {q : Query} {blocks : List Block} {b : Block} :
    b ∈ q.filter blocks ↔ b ∈ blocks ∧ q.matchesBlock b = true :=
  List.mem_filter

end Query

end FeedExplorer.Chain
