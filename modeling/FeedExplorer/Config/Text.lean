import FeedExplorer.Config.Basic
import FeedExplorer.Number.Word
import FeedExplorer.Toml.Table

/-!
# Configuration texts

A configuration as a settings text. A field that is not set is left out, and an interval that is
no signed 64-bit integer cannot be written.
-/

namespace FeedExplorer.Config

open Json (Mismatch)

/-- The line of one entry. -/
def entryLine (key : String) (value : List Char) : List Char :=
  key.toList ++ [' ', '=', ' '] ++ value ++ ['\n']

/-- The line of an entry that may be missing. -/
def optionalLine (key : String) : Option String → List Char
  | none => []
  | some s => entryLine key (Toml.quoteChars s.toList)

/-- The text of a configuration, if it has one. -/
def render? (c : Config) : Option (List Char) :=
  if Number.signedLimit ≤ c.refreshInterval.toNat then none
  else some (
    optionalLine "rpc_url" c.rpcUrl ++
    entryLine "transport" (Toml.quoteChars c.protocol.name.toList) ++
    entryLine "refresh_interval_ms" (Number.digitsOf c.refreshInterval.toNat) ++
    optionalLine "files_url" c.filesUrl ++
    entryLine "log_level" (Toml.quoteChars c.logLevel.toList))

/-- A protocol in a settings text: a name, or a table whose one key stands over nothing. -/
def readProtocol : Json → Except Mismatch Chain.Protocol
  | .str s => Chain.Protocol.ofName s
  | .obj [(key, value)] => do
    let p ← Chain.Protocol.ofName key
    match value with
    | .obj [] => return p
    | .arr [] => return p
    | _ => throw (.wanted "empty table")
  | .obj [] => .error (.wanted "exactly 1 element, found 0 elements")
  | .obj _ => .error (.wanted "exactly 1 element, more than 1 element")
  | _ => .error (.wanted "string or table")

/-- Fills the fields from the entries of a settings text, in their order. -/
def ofEntries : Toml.Entries → Config → Except Toml.Fault Config
  | [], c => .ok c
  | (key, node) :: rest, c =>
    match (shape readProtocol).field? key with
    | none => ofEntries rest c
    | some field =>
      match field.put node.toJson c with
      | .ok c => ofEntries rest c
      | .error mismatch =>
        .error ⟨mismatch.messageWith Number.pointed, node.place.1, node.place.2⟩

/-- The configuration that a settings text describes. -/
def parse (text : List Char) : Except Toml.Fault Config := do
  ofEntries (← Toml.parse text) initial

end FeedExplorer.Config
