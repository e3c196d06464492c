/-!
# Ranges of code points

A set of code points as a list of closed ranges, none of which starts below the one before it.
-/

namespace FeedExplorer.Text

/-- Closed ranges, each given by its first and last code point. -/
abbrev Ranges := List (Nat × Nat)

/-- Whether a range holds the number; the search ends at the first range that starts above it. -/
def covers : Ranges → Nat → Bool
  | [], _ => false
  | (first, last) :: rest, n =>
    if n < first then false else decide (n ≤ last) || covers rest n

end FeedExplorer.Text
