import FeedExplorer.Chain.Wire
import FeedExplorer.Proofs.Json.Kinds

/-!
# The grammar of snapshots

Which values are transaction records, block records and snapshots, and what each of them tells,
said of the values alone. Main statement: a value is read as a snapshot just when the grammar has
it, and the snapshot holds what the value tells and nothing else: every block in its place, with
every transaction in its place.
-/

namespace FeedExplorer.Chain

open Json

/-! ## Records -/

/-- The names of the fields of a transaction, in the order in which a list holds them. -/
def transactionNames : List String :=
  ["sender", "receiver", "amount", "gas_cost"]

structure TransactionMembers (members : List (String × Json)) : Prop where
  sender : Given IsString (valuesUnder ["sender"] members)
  receiver : Given IsString (valuesUnder ["receiver"] members)
  amount : Omissible IsNumber (valuesUnder ["amount"] members)
  gasCost : Omissible IsNumber (valuesUnder ["gas_cost", "gasCost"] members)

def IsTransaction (v : Json) : Prop :=
  ∃ members, v.asMembers transactionNames = some members ∧ TransactionMembers members

/-- The names of the fields of a block, in the order in which a list holds them. -/
def blockNames : List String :=
  ["hash", "index", "timestamp", "transactions", "tokens", "miner_address", "prev_hash",
    "token_name"]

structure BlockMembers (members : List (String × Json)) : Prop where
  hash : Given IsString (valuesUnder ["hash"] members)
  index : Given IsWord (valuesUnder ["index"] members)
  timestamp : Given IsWord (valuesUnder ["timestamp"] members)
  transactions : Omissible (IsListOf IsTransaction) (valuesUnder ["transactions"] members)
  tokens : Omissible IsWord (valuesUnder ["tokens"] members)
  minerAddress : Omissible IsString (valuesUnder ["miner_address", "minerAddress"] members)
  prevHash : Omissible (NullOr IsString) (valuesUnder ["prev_hash", "prevHash"] members)
  tokenName : Omissible (NullOr IsString) (valuesUnder ["token_name", "tokenName"] members)

def IsBlock (v : Json) : Prop :=
  ∃ members, v.asMembers blockNames = some members ∧ BlockMembers members

structure SnapshotMembers (members : List (String × Json)) : Prop where
  blocks : Given (IsListOf IsBlock) (valuesUnder ["blocks"] members)
  totalBlocks : Omissible (NullOr IsWord) (valuesUnder ["totalBlocks", "total_blocks"] members)
  totalTokens : Omissible (NullOr IsWord) (valuesUnder ["totalTokens", "total_tokens"] members)

/-- An object around the blocks, or the bare list of them. -/
def IsSnapshot : Json → Prop
  | .obj members => SnapshotMembers members
  | .arr items => ∀ item ∈ items, IsBlock item
  | _ => False

/-! ## What they tell -/

structure TransactionTold (members : List (String × Json)) (t : Transaction) : Prop where
  sender : GivenAs TellsString (valuesUnder ["sender"] members) t.sender
  receiver : GivenAs TellsString (valuesUnder ["receiver"] members) t.receiver
  amount : OmissibleAs TellsReal (.zero false) (valuesUnder ["amount"] members) t.amount
  gasCost : OmissibleAs TellsReal (.zero false) (valuesUnder ["gas_cost", "gasCost"] members)
    t.gasCost

def TellsTransaction (v : Json) (t : Transaction) : Prop :=
  ∃ members, v.asMembers transactionNames = some members ∧ TransactionTold members t

structure BlockTold (members : List (String × Json)) (b : Block) : Prop where
  hash : GivenAs TellsString (valuesUnder ["hash"] members) b.hash
  index : GivenAs TellsWord (valuesUnder ["index"] members) b.index
  timestamp : GivenAs TellsWord (valuesUnder ["timestamp"] members) b.timestamp
  transactions : OmissibleAs (ListTells TellsTransaction) [] (valuesUnder ["transactions"] members)
    b.transactions
  tokens : OmissibleAs TellsWord 0 (valuesUnder ["tokens"] members) b.tokens
  minerAddress : OmissibleAs TellsString "" (valuesUnder ["miner_address", "minerAddress"] members)
    b.minerAddress
  prevHash : OmissibleAs (NullOrTells TellsString) none
    (valuesUnder ["prev_hash", "prevHash"] members) b.prevHash
  tokenName : OmissibleAs (NullOrTells TellsString) none
    (valuesUnder ["token_name", "tokenName"] members) b.tokenName

def TellsBlock (v : Json) (b : Block) : Prop :=
  ∃ members, v.asMembers blockNames = some members ∧ BlockTold members b

structure SnapshotTold (members : List (String × Json)) (s : Snapshot) : Prop where
  blocks : GivenAs (ListTells TellsBlock) (valuesUnder ["blocks"] members) s.blocks
  totalBlocks : OmissibleAs (NullOrTells TellsWord) none
    (valuesUnder ["totalBlocks", "total_blocks"] members) s.reportedTotalBlocks
  totalTokens : OmissibleAs (NullOrTells TellsWord) none
    (valuesUnder ["totalTokens", "total_tokens"] members) s.reportedTotalTokens

/-- A bare list tells the blocks and no totals. -/
def TellsSnapshot (v : Json) (s : Snapshot) : Prop :=
  match v with
  | .obj members => SnapshotTold members s
  | .arr items => List.Forall₂ TellsBlock items s.blocks ∧ s.reportedTotalBlocks = none ∧
      s.reportedTotalTokens = none
  | _ => False

/-! ## Reading transactions -/

theorem transactionShape_fields : transactionShape.fields =
    [reading "sender" [] true asString ⟨(·.sender), fun s t => { t with sender := s }, fun _ => rfl⟩,
     reading "receiver" [] true asString
      ⟨(·.receiver), fun s t => { t with receiver := s }, fun _ => rfl⟩,
     reading "amount" [] false asReal ⟨(·.amount), fun x t => { t with amount := x }, fun _ => rfl⟩,
     reading "gas_cost" ["gasCost"] false asReal
      ⟨(·.gasCost), fun x t => { t with gasCost := x }, fun _ => rfl⟩] := rfl

theorem lawful_transactionShape : transactionShape.Lawful := by
  rw [Shape.Lawful, transactionShape_fields]
  simp only [List.pairwise_cons, List.forall_mem_cons, List.not_mem_nil, false_imp_iff,
    implies_true, List.Pairwise.nil, and_true]
  and_intros <;> exact apart_reading (by decide) fun _ _ _ => rfl

theorem transactionShape_ofMembers (members : List (String × Json)) :
    (transactionShape.ofMembers members).toOption = do
      let sender ← one asString (valuesUnder ["sender"] members)
      let receiver ← one asString (valuesUnder ["receiver"] members)
      let amount ← oneOr (.zero false) asReal (valuesUnder ["amount"] members)
      let gasCost ← oneOr (.zero false) asReal (valuesUnder ["gas_cost", "gasCost"] members)
      return { sender, receiver, amount, gasCost } := by
  rw [Shape.ofMembers_toOption lawful_transactionShape, transactionShape_fields]
  simp only [gather, settle_reading, Option.bind_map, Function.comp_def, if_true,
    Bool.false_eq_true, if_false]
  rfl

theorem transactionShape_ofMembers_eq_ok_iff {members : List (String × Json)} {t : Transaction} :
    transactionShape.ofMembers members = .ok t ↔ TransactionTold members t := by
  rw [← toOption_eq_some_iff, transactionShape_ofMembers]
  simp only [Option.bind_eq_bind, Option.bind_eq_some_iff, Option.pure_def, Option.some.injEq,
    reads_asString.one, reads_asReal.oneOr]
  constructor
  · rintro ⟨_, sender, _, receiver, _, amount, _, gasCost, rfl⟩
    exact ⟨sender, receiver, amount, gasCost⟩
  · rintro ⟨sender, receiver, amount, gasCost⟩
    exact ⟨_, sender, _, receiver, _, amount, _, gasCost, rfl⟩

theorem Transaction.reads_ofJson : Reads Transaction.ofJson TellsTransaction := by
  intro v t
  rw [← toOption_eq_some_iff, Transaction.ofJson, Shape.decode_toOption lawful_transactionShape]
  simp only [Option.bind_eq_some_iff, toOption_eq_some_iff, transactionShape_ofMembers_eq_ok_iff]
  rfl

theorem exists_transactionTold_iff {members : List (String × Json)} :
    (∃ t, TransactionTold members t) ↔ TransactionMembers members := by
  constructor
  · rintro ⟨t, h⟩
    exact {
      sender := covers_string.given.mp ⟨_, h.sender⟩
      receiver := covers_string.given.mp ⟨_, h.receiver⟩
      amount := covers_real.omissible.mp ⟨_, h.amount⟩
      gasCost := covers_real.omissible.mp ⟨_, h.gasCost⟩ }
  · intro h
    obtain ⟨sender, hsender⟩ := covers_string.given.mpr h.sender
    obtain ⟨receiver, hreceiver⟩ := covers_string.given.mpr h.receiver
    obtain ⟨amount, hamount⟩ := covers_real.omissible.mpr h.amount
    obtain ⟨gasCost, hgasCost⟩ := covers_real.omissible.mpr h.gasCost
    exact ⟨⟨sender, receiver, amount, gasCost⟩, hsender, hreceiver, hamount, hgasCost⟩

theorem covers_transaction : Covers IsTransaction TellsTransaction := by
  intro v
  simp only [TellsTransaction, IsTransaction, ← exists_transactionTold_iff]
  exact ⟨fun ⟨t, members, hv, ht⟩ => ⟨members, hv, t, ht⟩,
    fun ⟨members, hv, t, ht⟩ => ⟨t, members, hv, ht⟩⟩

/-! ## Reading blocks -/

theorem blockShape_fields : blockShape.fields =
    [reading "hash" [] true asString ⟨(·.hash), fun s b => { b with hash := s }, fun _ => rfl⟩,
     reading "index" [] true asWord ⟨(·.index), fun n b => { b with index := n }, fun _ => rfl⟩,
     reading "timestamp" [] true asWord
      ⟨(·.timestamp), fun n b => { b with timestamp := n }, fun _ => rfl⟩,
     reading "transactions" [] false (asList Transaction.ofJson)
      ⟨(·.transactions), fun ts b => { b with transactions := ts }, fun _ => rfl⟩,
     reading "tokens" [] false asWord ⟨(·.tokens), fun n b => { b with tokens := n }, fun _ => rfl⟩,
     reading "miner_address" ["minerAddress"] false asString
      ⟨(·.minerAddress), fun s b => { b with minerAddress := s }, fun _ => rfl⟩,
     reading "prev_hash" ["prevHash"] false (asOptional asString)
      ⟨(·.prevHash), fun o b => { b with prevHash := o }, fun _ => rfl⟩,
     reading "token_name" ["tokenName"] false (asOptional asString)
      ⟨(·.tokenName), fun o b => { b with tokenName := o }, fun _ => rfl⟩] := rfl

theorem lawful_blockShape : blockShape.Lawful := by
  rw [Shape.Lawful, blockShape_fields]
  simp only [List.pairwise_cons, List.forall_mem_cons, List.not_mem_nil, false_imp_iff,
    implies_true, List.Pairwise.nil, and_true]
  and_intros <;> exact apart_reading (by decide) fun _ _ _ => rfl

theorem blockShape_ofMembers (members : List (String × Json)) :
    (blockShape.ofMembers members).toOption = do
      let hash ← one asString (valuesUnder ["hash"] members)
      let index ← one asWord (valuesUnder ["index"] members)
      let timestamp ← one asWord (valuesUnder ["timestamp"] members)
      let transactions ←
        oneOr [] (asList Transaction.ofJson) (valuesUnder ["transactions"] members)
      let tokens ← oneOr 0 asWord (valuesUnder ["tokens"] members)
      let minerAddress ← oneOr "" asString (valuesUnder ["miner_address", "minerAddress"] members)
      let prevHash ← oneOr none (asOptional asString) (valuesUnder ["prev_hash", "prevHash"] members)
      let tokenName ←
        oneOr none (asOptional asString) (valuesUnder ["token_name", "tokenName"] members)
      return { hash, index, timestamp, transactions, tokens, minerAddress, prevHash, tokenName } := by
  rw [Shape.ofMembers_toOption lawful_blockShape, blockShape_fields]
  simp only [gather, settle_reading, Option.bind_map, Function.comp_def, if_true,
    Bool.false_eq_true, if_false]
  rfl

theorem reads_optionalString : Reads (asOptional asString) (NullOrTells TellsString) :=
  reads_asString.asOptional fun _ => Json.noConfusion

theorem reads_optionalWord : Reads (asOptional asWord) (NullOrTells TellsWord) :=
  reads_asWord.asOptional fun _ => Json.noConfusion

theorem blockShape_ofMembers_eq_ok_iff {members : List (String × Json)} {b : Block} :
    blockShape.ofMembers members = .ok b ↔ BlockTold members b := by
  rw [← toOption_eq_some_iff, blockShape_ofMembers]
  simp only [Option.bind_eq_bind, Option.bind_eq_some_iff, Option.pure_def, Option.some.injEq,
    reads_asString.one, reads_asWord.one, reads_asString.oneOr, reads_asWord.oneOr,
    reads_optionalString.oneOr, Transaction.reads_ofJson.asList.oneOr]
  constructor
  · rintro ⟨_, hash, _, index, _, timestamp, _, transactions, _, tokens, _, minerAddress, _,
      prevHash, _, tokenName, rfl⟩
    exact ⟨hash, index, timestamp, transactions, tokens, minerAddress, prevHash, tokenName⟩
  · rintro ⟨hash, index, timestamp, transactions, tokens, minerAddress, prevHash, tokenName⟩
    exact ⟨_, hash, _, index, _, timestamp, _, transactions, _, tokens, _, minerAddress, _,
      prevHash, _, tokenName, rfl⟩

theorem Block.reads_ofJson : Reads Block.ofJson TellsBlock := by
  intro v b
  rw [← toOption_eq_some_iff, Block.ofJson, Shape.decode_toOption lawful_blockShape]
  simp only [Option.bind_eq_some_iff, toOption_eq_some_iff, blockShape_ofMembers_eq_ok_iff]
  rfl

theorem exists_blockTold_iff {members : List (String × Json)} :
    (∃ b, BlockTold members b) ↔ BlockMembers members := by
  constructor
  · rintro ⟨b, h⟩
    exact {
      hash := covers_string.given.mp ⟨_, h.hash⟩
      index := covers_word.given.mp ⟨_, h.index⟩
      timestamp := covers_word.given.mp ⟨_, h.timestamp⟩
      transactions := covers_transaction.listOf.omissible.mp ⟨_, h.transactions⟩
      tokens := covers_word.omissible.mp ⟨_, h.tokens⟩
      minerAddress := covers_string.omissible.mp ⟨_, h.minerAddress⟩
      prevHash := covers_string.nullOr.omissible.mp ⟨_, h.prevHash⟩
      tokenName := covers_string.nullOr.omissible.mp ⟨_, h.tokenName⟩ }
  · intro h
    obtain ⟨hash, hhash⟩ := covers_string.given.mpr h.hash
    obtain ⟨index, hindex⟩ := covers_word.given.mpr h.index
    obtain ⟨timestamp, htimestamp⟩ := covers_word.given.mpr h.timestamp
    obtain ⟨transactions, htransactions⟩ :=
      covers_transaction.listOf.omissible.mpr h.transactions
    obtain ⟨tokens, htokens⟩ := covers_word.omissible.mpr h.tokens
    obtain ⟨minerAddress, hminerAddress⟩ := covers_string.omissible.mpr h.minerAddress
    obtain ⟨prevHash, hprevHash⟩ := covers_string.nullOr.omissible.mpr h.prevHash
    obtain ⟨tokenName, htokenName⟩ := covers_string.nullOr.omissible.mpr h.tokenName
    exact ⟨⟨hash, index, timestamp, transactions, tokens, minerAddress, prevHash, tokenName⟩,
      hhash, hindex, htimestamp, htransactions, htokens, hminerAddress, hprevHash, htokenName⟩

theorem covers_block : Covers IsBlock TellsBlock := by
  intro v
  simp only [TellsBlock, IsBlock, ← exists_blockTold_iff]
  exact ⟨fun ⟨b, members, hv, hb⟩ => ⟨members, hv, b, hb⟩,
    fun ⟨members, hv, b, hb⟩ => ⟨b, members, hv, hb⟩⟩

/-! ## Reading snapshots -/

theorem snapshotShape_fields : snapshotShape.fields =
    [reading "blocks" [] true (asList Block.ofJson)
      ⟨(·.blocks), fun bs s => { s with blocks := bs }, fun _ => rfl⟩,
     reading "totalBlocks" ["total_blocks"] false (asOptional asWord)
      ⟨(·.reportedTotalBlocks), fun o s => { s with reportedTotalBlocks := o }, fun _ => rfl⟩,
     reading "totalTokens" ["total_tokens"] false (asOptional asWord)
      ⟨(·.reportedTotalTokens), fun o s => { s with reportedTotalTokens := o }, fun _ => rfl⟩] :=
  rfl

theorem lawful_snapshotShape : snapshotShape.Lawful := by
  rw [Shape.Lawful, snapshotShape_fields]
  simp only [List.pairwise_cons, List.forall_mem_cons, List.not_mem_nil, false_imp_iff,
    implies_true, List.Pairwise.nil, and_true]
  and_intros <;> exact apart_reading (by decide) fun _ _ _ => rfl

theorem snapshotShape_ofMembers (members : List (String × Json)) :
    (snapshotShape.ofMembers members).toOption = do
      let blocks ← one (asList Block.ofJson) (valuesUnder ["blocks"] members)
      let reportedTotalBlocks ←
        oneOr none (asOptional asWord) (valuesUnder ["totalBlocks", "total_blocks"] members)
      let reportedTotalTokens ←
        oneOr none (asOptional asWord) (valuesUnder ["totalTokens", "total_tokens"] members)
      return { blocks, reportedTotalBlocks, reportedTotalTokens } := by
  rw [Shape.ofMembers_toOption lawful_snapshotShape, snapshotShape_fields]
  simp only [gather, settle_reading, Option.bind_map, Function.comp_def, if_true,
    Bool.false_eq_true, if_false]
  rfl

theorem snapshotShape_ofMembers_eq_ok_iff {members : List (String × Json)} {s : Snapshot} :
    snapshotShape.ofMembers members = .ok s ↔ SnapshotTold members s := by
  rw [← toOption_eq_some_iff, snapshotShape_ofMembers]
  simp only [Option.bind_eq_bind, Option.bind_eq_some_iff, Option.pure_def, Option.some.injEq,
    Block.reads_ofJson.asList.one, reads_optionalWord.oneOr]
  constructor
  · rintro ⟨_, blocks, _, totalBlocks, _, totalTokens, rfl⟩
    exact ⟨blocks, totalBlocks, totalTokens⟩
  · rintro ⟨blocks, totalBlocks, totalTokens⟩
    exact ⟨_, blocks, _, totalBlocks, _, totalTokens, rfl⟩

theorem Snapshot.reads_ofJson : Reads Snapshot.ofJson TellsSnapshot := by
  intro v s
  cases v with
  | obj members =>
    rw [TellsSnapshot, ← snapshotShape_ofMembers_eq_ok_iff, Snapshot.ofJson]
    cases snapshotShape.ofMembers members <;> simp
  | arr items =>
    rw [TellsSnapshot, ← Block.reads_ofJson.mapM, Snapshot.ofJson]
    cases items.mapM Block.ofJson with
    | error m => simp
    | ok blocks =>
      obtain ⟨bs, total, tokens⟩ := s
      simp [eq_comm]
  | _ => simp [Snapshot.ofJson, TellsSnapshot]

theorem exists_snapshotTold_iff {members : List (String × Json)} :
    (∃ s, SnapshotTold members s) ↔ SnapshotMembers members := by
  constructor
  · rintro ⟨s, h⟩
    exact {
      blocks := covers_block.listOf.given.mp ⟨_, h.blocks⟩
      totalBlocks := covers_word.nullOr.omissible.mp ⟨_, h.totalBlocks⟩
      totalTokens := covers_word.nullOr.omissible.mp ⟨_, h.totalTokens⟩ }
  · intro h
    obtain ⟨blocks, hblocks⟩ := covers_block.listOf.given.mpr h.blocks
    obtain ⟨totalBlocks, htotalBlocks⟩ := covers_word.nullOr.omissible.mpr h.totalBlocks
    obtain ⟨totalTokens, htotalTokens⟩ := covers_word.nullOr.omissible.mpr h.totalTokens
    exact ⟨⟨blocks, totalBlocks, totalTokens⟩, hblocks, htotalBlocks, htotalTokens⟩

theorem covers_snapshot : Covers IsSnapshot TellsSnapshot := by
  intro v
  cases v with
  | obj members => exact exists_snapshotTold_iff
  | arr items =>
    rw [IsSnapshot, ← covers_block.items]
    constructor
    · rintro ⟨s, hblocks, -⟩
      exact ⟨s.blocks, hblocks⟩
    · rintro ⟨blocks, hblocks⟩
      exact ⟨⟨blocks, none, none⟩, hblocks, rfl, rfl⟩
  | _ => simp [IsSnapshot, TellsSnapshot]

/-- A value is read as a snapshot just when the grammar has it, and what is read is what it
tells. -/
theorem snapshot_read_iff_grammar (v : Json) :
    ((∃ s, Snapshot.ofJson v = .ok s) ↔ IsSnapshot v) ∧
      ∀ s, Snapshot.ofJson v = .ok s ↔ TellsSnapshot v s := by
  refine ⟨?_, Snapshot.reads_ofJson v⟩
  rw [← covers_snapshot v]
  exact exists_congr fun s => Snapshot.reads_ofJson v s

end FeedExplorer.Chain
