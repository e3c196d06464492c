import FeedExplorer.Chain.Block
import FeedExplorer.Json.Printer
import FeedExplorer.Json.Shape

/-!
# Blocks on the wire

How the records of a chain are read from data values and written as such. Every answer shape of a
block source is accepted: a list of blocks, an object around one, a block, an object around one.
-/

namespace FeedExplorer.Chain

open Json (Shape Field Mismatch asString asWord asReal asList asOptional)

def blankTransaction : Transaction :=
  { sender := "", receiver := "", amount := .zero false, gasCost := .zero false }

def transactionShape : Shape Transaction where
  title := "Transaction"
  blank := blankTransaction
  fields :=
    [ { name := "sender", spellings := [], required := true
        put := fun v t => do return { t with sender := ← asString v } },
      { name := "receiver", spellings := [], required := true
        put := fun v t => do return { t with receiver := ← asString v } },
      { name := "amount", spellings := [], required := false
        put := fun v t => do return { t with amount := ← asReal v } },
      { name := "gas_cost", spellings := ["gasCost"], required := false
        put := fun v t => do return { t with gasCost := ← asReal v } } ]

def Transaction.ofJson : Json → Except Mismatch Transaction :=
  transactionShape.decode

def blankBlock : Block :=
  { hash := "", index := 0, timestamp := 0, transactions := [], tokens := 0, minerAddress := "",
    prevHash := none, tokenName := none }

def blockShape : Shape Block where
  title := "Block"
  blank := blankBlock
  fields :=
    [ { name := "hash", spellings := [], required := true
        put := fun v b => do return { b with hash := ← asString v } },
      { name := "index", spellings := [], required := true
        put := fun v b => do return { b with index := ← asWord v } },
      { name := "timestamp", spellings := [], required := true
        put := fun v b => do return { b with timestamp := ← asWord v } },
      { name := "transactions", spellings := [], required := false
        put := fun v b => do return { b with transactions := ← asList Transaction.ofJson v } },
      { name := "tokens", spellings := [], required := false
        put := fun v b => do return { b with tokens := ← asWord v } },
      { name := "miner_address", spellings := ["minerAddress"], required := false
        put := fun v b => do return { b with minerAddress := ← asString v } },
      { name := "prev_hash", spellings := ["prevHash"], required := false
        put := fun v b => do return { b with prevHash := ← asOptional asString v } },
      { name := "token_name", spellings := ["tokenName"], required := false
        put := fun v b => do return { b with tokenName := ← asOptional asString v } } ]

def Block.ofJson : Json → Except Mismatch Block :=
  blockShape.decode

/-- A snapshot under construction, the blocks not being optional. -/
def snapshotShape : Shape Snapshot where
  title := "Envelope"
  blank := { blocks := [], reportedTotalBlocks := none, reportedTotalTokens := none }
  fields :=
    [ { name := "blocks", spellings := [], required := true
        put := fun v s => do return { s with blocks := ← asList Block.ofJson v } },
      { name := "totalBlocks", spellings := ["total_blocks"], required := false
        put := fun v s => do return { s with reportedTotalBlocks := ← asOptional asWord v } },
      { name := "totalTokens", spellings := ["total_tokens"], required := false
        put := fun v s => do return { s with reportedTotalTokens := ← asOptional asWord v } } ]

/-- An object around the blocks, or the bare list of them. Any other value is refused without a
reason. -/
def Snapshot.ofJson : Json → Except Mismatch Snapshot
  | .obj members =>
    match snapshotShape.ofMembers members with
    | .ok s => .ok s
    | .error _ => .error (.noVariant "SnapshotPayload")
  | .arr items =>
    match items.mapM Block.ofJson with
    | .ok blocks => .ok { blocks, reportedTotalBlocks := none, reportedTotalTokens := none }
    | .error _ => .error (.noVariant "SnapshotPayload")
  | _ => .error (.noVariant "SnapshotPayload")

/-- A block with the message that came with it. -/
structure Minted where
  block : Block
  note : Option String

def mintedShape : Shape Minted where
  title := "Wrapped"
  blank := { block := blankBlock, note := none }
  fields :=
    [ { name := "block", spellings := [], required := true
        put := fun v m => do return { m with block := ← Block.ofJson v } },
      { name := "message", spellings := [], required := false
        put := fun v m => do return { m with note := ← asOptional asString v } } ]

/-- The block inside an object around it. -/
def mintedInside : Json → Except Mismatch Block
  | .obj members => (mintedShape.ofMembers members).map (·.block)
  | v => .error (.wrongType v "struct variant CreatedPayload::Wrapped")

/-- The answer to a request for a new block: an object around it, or the block itself. -/
def mintedBlock (v : Json) : Except Mismatch Block :=
  match mintedInside v with
  | .ok b => .ok b
  | .error _ =>
    match Block.ofJson v with
    | .ok b => .ok b
    | .error _ => .error (.noVariant "CreatedPayload")

def Transaction.toJson (t : Transaction) : Json :=
  .obj [("sender", .str t.sender), ("receiver", .str t.receiver), ("amount", .real t.amount),
    ("gas_cost", .real t.gasCost)]

/-- A member that is left out when there is nothing to tell. -/
def optionalMember (key : String) : Option String → List (String × Json)
  | none => []
  | some s => [(key, .str s)]

def Block.toJson (b : Block) : Json :=
  .obj ([("hash", .str b.hash), ("index", .int b.index.toNat),
    ("timestamp", .int b.timestamp.toNat),
    ("transactions", .arr (b.transactions.map Transaction.toJson)),
    ("tokens", .int b.tokens.toNat), ("miner_address", .str b.minerAddress)] ++
    optionalMember "prev_hash" b.prevHash ++ optionalMember "token_name" b.tokenName)

end FeedExplorer.Chain
