/-!
# Limits of words

How far the numbers of a machine word reach.
-/

namespace FeedExplorer.Number

/-- One more than the largest unsigned number of 64 bits. -/
abbrev wordLimit : Nat := 18446744073709551616

/-- One more than the largest signed number of 64 bits. -/
abbrev signedLimit : Nat := 9223372036854775808

end FeedExplorer.Number
