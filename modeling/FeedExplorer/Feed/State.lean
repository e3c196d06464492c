import FeedExplorer.Chain.Failure
import FeedExplorer.Chain.Query

/-!
# Feed state

What is known of the chain: the blocks of the newest answer with the blocks minted since, their
totals, the query, and the last failure. Every refresh takes a number when it starts, and an
answer counts only if its number is above all that have counted before.
-/

namespace FeedExplorer.Feed

open Chain (Block Failure Query Snapshot)

structure State where
  blocks : List Block
  totalBlocks : Nat
  totalTokens : UInt64
  query : Query
  lastError : Option String
  /-- The highest number that has counted so far. -/
  appliedSeq : Nat
  deriving DecidableEq, Repr, Inhabited

/-- What became of a refresh. -/
inductive Outcome where
  | applied
  | failed
  /-- A newer answer had come first. -/
  | stale
  deriving DecidableEq, Repr

namespace State

/-- Nothing is known yet. -/
def initial : State :=
  { blocks := [], totalBlocks := 0, totalTokens := 0, query := ⟨""⟩, lastError := none,
    appliedSeq := 0 }

/-- The blocks replaced and the totals counted anew. -/
def withBlocks (s : State) (blocks : List Block) : State :=
  { s with blocks, totalBlocks := blocks.length, totalTokens := Chain.totalTokens blocks }

/-- Discards every answer whose number is at most `seq`. -/
def fence (s : State) (seq : Nat) : State :=
  { s with appliedSeq := max s.appliedSeq seq }

/-- Takes the answer to the refresh numbered `seq`. -/
def absorb (s : State) (seq : Nat) (answer : Except Failure Snapshot) : State × Outcome :=
  if seq ≤ s.appliedSeq then (s, .stale)
  else
    match answer with
    | .ok snapshot =>
      ({ s.withBlocks snapshot.blocks with lastError := none, appliedSeq := seq }, .applied)
    | .error e =>
      ({ s with
        lastError := some ("Failed to fetch blocks: " ++ e.message), appliedSeq := seq }, .failed)

/-- A block with this hash is known. -/
def knows (s : State) (hash : String) : Bool :=
  s.blocks.any (·.hash == hash)

/-- Puts a minted block in front, unless its hash is known, and discards the answers to all
refreshes up to `seq`. -/
def insertMinted (s : State) (seq : Nat) (b : Block) : State :=
  let s := s.fence seq
  if s.knows b.hash then s else s.withBlocks (b :: s.blocks)

def noteMintFailure (s : State) (e : Failure) : State :=
  { s with lastError := some ("Failed to create block: " ++ e.message) }

def filtered (s : State) : List Block :=
  s.query.filter s.blocks

def filteredTransactionCount (s : State) : Nat :=
  s.query.transactionCount s.blocks

theorem absorb_stale {s : State} {seq : Nat} (h : seq ≤ s.appliedSeq)
    (answer : Except Failure Snapshot) : s.absorb seq answer = (s, .stale) := by
  simp [absorb, h]

theorem le_appliedSeq_fence (s : State) (seq : Nat) : seq ≤ (s.fence seq).appliedSeq := by
  simp only [fence]; omega

end State

end FeedExplorer.Feed
