import FeedExplorer.Chain.Protocol
import FeedExplorer.Json.Shape

/-!
# Configuration

What the program remembers between runs, and how it is read from a data value.
-/

namespace FeedExplorer

open Json (Shape Mismatch asString asWord asOptional)

structure Config where
  rpcUrl : Option String
  protocol : Chain.Protocol
  /-- Milliseconds between two refreshes. -/
  refreshInterval : UInt64
  /-- Where files are kept, if not at `rpcUrl`. -/
  filesUrl : Option String
  logLevel : String
  deriving DecidableEq, Repr

namespace Config

def initial : Config :=
  { rpcUrl := none, protocol := .rpc, refreshInterval := 5000, filesUrl := none,
    logLevel := "info" }

instance : Inhabited Config := ⟨initial⟩

/-- The fields, given how a protocol is read. -/
def shape (readProtocol : Json → Except Mismatch Chain.Protocol) : Shape Config where
  title := "Config"
  blank := initial
  fields :=
    [ { name := "rpc_url", spellings := [], required := false
        put := fun v c => do return { c with rpcUrl := ← asOptional asString v } },
      { name := "transport", spellings := [], required := false
        put := fun v c => do return { c with protocol := ← readProtocol v } },
      { name := "refresh_interval_ms", spellings := [], required := false
        put := fun v c => do return { c with refreshInterval := ← asWord v } },
      { name := "files_url", spellings := [], required := false
        put := fun v c => do return { c with filesUrl := ← asOptional asString v } },
      { name := "log_level", spellings := [], required := false
        put := fun v c => do return { c with logLevel := ← asString v } } ]

def ofJson : Json → Except Mismatch Config :=
  (shape Chain.Protocol.ofJson).decode

/-- Never below a tenth of a second. -/
def effectiveInterval (c : Config) : Nat :=
  max c.refreshInterval.toNat 100

def effectiveFilesUrl (c : Config) : Option String :=
  c.filesUrl <|> c.rpcUrl

end Config

end FeedExplorer
