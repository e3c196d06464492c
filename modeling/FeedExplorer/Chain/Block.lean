import FeedExplorer.Number.Binary64
import FeedExplorer.Number.Sum

/-!
# Blocks

The records of a chain: transfers between two addresses, and the blocks that carry them.
-/

namespace FeedExplorer.Chain

open scoped Number

/-- A transfer between two addresses. -/
structure Transaction where
  sender : String
  receiver : String
  amount : Binary64
  gasCost : Binary64
  deriving DecidableEq, Repr, Inhabited

/-- The time stamp counts milliseconds from the beginning of 1970. -/
structure Block where
  hash : String
  index : UInt64
  timestamp : UInt64
  transactions : List Transaction
  tokens : UInt64
  minerAddress : String
  prevHash : Option String
  tokenName : Option String
  deriving DecidableEq, Repr, Inhabited

/-- One answer to the question for all blocks, with the totals that came along. -/
structure Snapshot where
  blocks : List Block
  reportedTotalBlocks : Option UInt64
  reportedTotalTokens : Option UInt64
  deriving DecidableEq, Repr, Inhabited

/-- The tokens of all blocks together, as a word: the sum goes round at `2 ^ 64`. -/
def totalTokens (blocks : List Block) : UInt64 :=
  (blocks.map (·.tokens)).sum

theorem toNat_totalTokens (blocks : List Block) :
    (totalTokens blocks).toNat = (blocks.map (·.tokens.toNat)).sum % UInt64.size := by
  rw [totalTokens, Number.toNat_sum, List.map_map]
  rfl

end FeedExplorer.Chain
