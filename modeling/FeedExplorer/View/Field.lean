import FeedExplorer.Number.Notation
import FeedExplorer.Text.Field

/-!
# Fields of a page

The texts of addresses, amounts and ages.
-/

namespace FeedExplorer.View

/-- A long hash or address without its middle. -/
def shortened (s : String) : String :=
  let cs := s.toList
  if 20 < cs.length then
    String.ofList (cs.take 10 ++ ['.', '.', '.'] ++ cs.drop (cs.length - 6))
  else s

/-- The characters of an address field. -/
def addressWidth : Nat := 19

def address (s : String) : String :=
  Text.alignRight addressWidth (shortened s)

/-- Without the zeros at the end, and then without a point there. -/
def trimFraction (cs : List Char) : List Char :=
  (((cs.reverse).dropWhile (· == '0')).dropWhile (· == '.')).reverse

/-- An integer below 10^15 without a fraction; any other amount with up to eight places. -/
def amount (x : Binary64) : String :=
  if x.IsFinite ∧ x.isIntegral ∧ x.magnitudeBelow 1000000000000000 then Number.integer x.truncate
  else String.ofList (trimFraction (Number.places 8 x).toList)

/-- How long ago a time was, both in milliseconds since the beginning of 1970. What is yet to come
was just now. -/
def age (now time : Nat) : String :=
  let seconds := (now - time) / 1000
  if seconds < 60 then toString seconds ++ " secs ago"
  else if seconds < 3600 then toString (seconds / 60) ++ " mins ago"
  else if seconds < 86400 then toString (seconds / 3600) ++ " hours ago"
  else toString (seconds / 86400) ++ " days ago"

end FeedExplorer.View
