import FeedExplorer.Number.Notation

/-!
# Failures of a call

The three ways in which a call to a block source or to the file store can fail.
-/

namespace FeedExplorer.Chain

inductive Failure where
  /-- No answer, or one whose status tells of a failure. -/
  | transport (text : String)
  /-- The other side refused the call, with a code. -/
  | refused (code : Int) (text : String)
  /-- An answer that is not of the wanted form. -/
  | malformed (text : String)
  deriving DecidableEq, Repr

def Failure.message : Failure → String
  | .transport text => "transport error: " ++ text
  | .refused code text => "RPC error " ++ Number.integer code ++ ": " ++ text
  | .malformed text => "malformed response: " ++ text

end FeedExplorer.Chain
