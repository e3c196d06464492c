import FeedExplorer.Feed.Timeline
import FeedExplorer.Source.Client

/-!
# Supplies

The sources that a feed can be run against: a script, or a client on a network. A call over the
network takes a millisecond, and one that is never answered the time limit.
-/

namespace FeedExplorer.Source

open Feed (Delayed Script)
open Net (Network)

inductive Supply where
  | script (s : Script)
  | client (c : Client) (n : Network)

/-- Milliseconds that a call may take. -/
def timeLimit : Nat := 10000

/-- The time that a call of the client takes, given the network before and after it: the last of
the replies decides. -/
def elapsed (c : Client) (before after : Network) : Nat :=
  let used := before.replies.take (before.replies.length - after.replies.length)
  if used.getLast?.any (·.outlasts c.reads) then timeLimit else 1

def Supply.source : Feed.Source Supply where
  fetch
    | .script s =>
      let (a, s) := Script.source.fetch s
      (a, .script s)
    | .client c n =>
      let (answer, next, later) := c.fetch n
      (⟨elapsed c n later, answer⟩, .client next later)
  mint
    | .script s =>
      let (a, s) := Script.source.mint s
      (a, .script s)
    | .client c n =>
      let (answer, next, later) := c.mint n
      (⟨elapsed c n later, answer⟩, .client next later)

end FeedExplorer.Source
