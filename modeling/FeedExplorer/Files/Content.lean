import FeedExplorer.Files.Base64

/-!
# File contents in a text

Contents travel as base64, bare or behind the head of a data address, with blanks around them.
-/

namespace FeedExplorer.Files

/-- Cuts a list at the first place where `mark` stands. -/
def splitAtMark (mark : List Char) : List Char → Option (List Char × List Char)
  | [] => if mark.isEmpty then some ([], []) else none
  | c :: cs =>
    if mark.isPrefixOf (c :: cs) then some ([], (c :: cs).drop mark.length)
    else (splitAtMark mark cs).map fun (before, after) => (c :: before, after)

/-- What stands behind the head of a data address, or all of a text without such a head. -/
def payloadChars (cs : List Char) : List Char :=
  match splitAtMark ";base64,".toList cs with
  | some (head, rest) => if "data:".toList.isPrefixOf head then rest else cs
  | none => cs

def decodeContent (data : String) : Except Base64.Fault (List UInt8) :=
  Base64.decode (String.ofList (Text.trimChars (payloadChars data.toList))).toUTF8.toList

end FeedExplorer.Files
