import FeedExplorer.Feed.State
import FeedExplorer.Log.Event

/-!
# Notes of a feed

The events that a feed writes down when an answer arrives.
-/

namespace FeedExplorer.Feed

open Chain (Failure Snapshot)

def logPart : String := "feedex::feed"

/-- The text of a number that may be missing. -/
def optionalText : Option UInt64 → String
  | none => "None"
  | some n => s!"Some({n.toNat})"

/-- The totals that came with a snapshot are not those of its blocks. -/
def disagrees (s : Snapshot) : Bool :=
  (match s.reportedTotalBlocks with
    | some n => n.toNat != s.blocks.length
    | none => false) ||
  (match s.reportedTotalTokens with
    | some n => n != Chain.totalTokens s.blocks
    | none => false)

/-- The notes on the answer to the refresh numbered `seq`. -/
def answerNotes (s : State) (seq : Nat) (answer : Except Failure Snapshot) : List Log.Event :=
  if seq ≤ s.appliedSeq then
    [{ level := .debug, part := logPart, message := "discarding stale refresh"
       fields := [("seq", toString seq), ("applied", toString s.appliedSeq)] }]
  else
    match answer with
    | .error e =>
      [{ level := .warn, part := logPart, message := "refresh failed"
         fields := [("seq", toString seq), ("error", e.message)] }]
    | .ok snapshot =>
      (if disagrees snapshot then
        [{ level := .warn, part := logPart, message := "source totals disagree with snapshot"
           fields := [("reported_blocks", optionalText snapshot.reportedTotalBlocks),
             ("reported_tokens", optionalText snapshot.reportedTotalTokens),
             ("blocks", toString snapshot.blocks.length),
             ("tokens", toString (Chain.totalTokens snapshot.blocks).toNat)] }]
      else []) ++
      [{ level := .debug, part := logPart, message := "snapshot applied"
         fields := [("seq", toString seq), ("blocks", toString snapshot.blocks.length)] }]

end FeedExplorer.Feed
