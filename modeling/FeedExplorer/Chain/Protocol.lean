import FeedExplorer.Json.Mismatch

/-!
# Protocols

The two ways in which a block source can be spoken to.
-/

namespace FeedExplorer.Chain

inductive Protocol where
  | rpc
  | rest
  deriving DecidableEq, Repr, Inhabited

namespace Protocol

open Json (Mismatch)

def name : Protocol → String
  | .rpc => "rpc"
  | .rest => "rest"

def ofName (s : String) : Except Mismatch Protocol :=
  if s = "rpc" then .ok .rpc
  else if s = "rest" then .ok .rest
  else .error (.unknownVariant s ["rpc", "rest"])

/-- A name, or an object whose one key is a name that stands over nothing. -/
def ofJson : Json → Except Mismatch Protocol
  | .str s => ofName s
  | .obj [(key, value)] => do
    let p ← ofName key
    match value with
    | .null => return p
    | v => throw (.wrongType v "unit")
  | .obj members => .error (.wrongValue (.obj members) "map with a single key")
  | v => .error (.wrongType v "string or map")

end Protocol

end FeedExplorer.Chain
