import FeedExplorer.Json.Embedded
import FeedExplorer.Json.Shape

/-!
# Decoding texts

A text decoded straight into a record, or by way of the sorted value that it stands for. Embedded
texts are opened on the way by the value alone.
-/

namespace FeedExplorer.Json

/-- The text is not the text of a value, or the value is not of the wanted kind. -/
inductive DecodeError where
  | fault (fault : Fault)
  | mismatch (mismatch : Mismatch)

/-- The words of an error in a given text. -/
def DecodeError.message (text : String) : DecodeError → String
  | .fault f => f.message text.toList
  | .mismatch m => m.message

/-- Reads the value at the front, decodes it, and then sees that nothing follows. -/
def decodeStraight {α : Type} (decode : Json → Except Mismatch α) (text : String) :
    Except DecodeError α := do
  let (v, rest) ← (readPrefix text.toList).mapError .fault
  let a ← (decode v).mapError .mismatch
  (readEnd rest).mapError .fault
  return a

/-- Reads the whole text and decodes the value with its members sorted. -/
def decodeSorted {α : Type} (decode : Json → Except Mismatch α) (text : String) :
    Except DecodeError α := do
  let v ← (parseOpened text).mapError .fault
  (decode v.canonical).mapError .mismatch

end FeedExplorer.Json
