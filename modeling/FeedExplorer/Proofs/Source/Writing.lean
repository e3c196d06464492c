import FeedExplorer.Proofs.Chain.Minted
import FeedExplorer.Proofs.Files.Record

/-!
# Blocks and stored files as they are written

The value that is written of a block tells that block. Main statement: what is written of a block
is decoded as the block, also where a minted block is expected, what is written of a list of blocks
as a snapshot without totals, and what is written of a stored file as the file.
-/

namespace FeedExplorer.Chain

open Json

/-! ## What is written tells what it was written of -/

theorem Transaction.tells_toJson (t : Transaction) : TellsTransaction t.toJson t :=
  ⟨_, rfl, {
    sender := ⟨_, rfl, rfl⟩
    receiver := ⟨_, rfl, rfl⟩
    amount := .inr ⟨_, rfl, .inl rfl⟩
    gasCost := .inr ⟨_, rfl, .inl rfl⟩ }⟩

theorem valuesUnder_optionalMember_of_notMem {keys : List String} {key : String} (h : key ∉ keys)
    (o : Option String) : valuesUnder keys (optionalMember key o) = [] := by
  cases o with
  | none => rfl
  | some s => exact valuesUnder_cons_of_notMem h []

/-- A member that is left out stands for nothing, and so does what is read of it. -/
theorem omissibleAs_optionalMember {keys : List String} {key : String} (h : key ∈ keys)
    (o : Option String) :
    OmissibleAs (NullOrTells TellsString) none (valuesUnder keys (optionalMember key o)) o := by
  cases o with
  | none => exact .inl ⟨rfl, rfl⟩
  | some s => exact .inr ⟨.str s, valuesUnder_cons_of_mem h [], rfl⟩

theorem Block.tells_toJson (b : Block) : TellsBlock b.toJson b := by
  -- the members that are always there come first
  have hgiven : ∀ {α : Type} {keys : List String} {tells : Json → α → Prop}
      {members : List (String × Json)} {a : α}, "prev_hash" ∉ keys → "token_name" ∉ keys →
      GivenAs tells (valuesUnder keys members) a →
      GivenAs tells (valuesUnder keys (members ++ optionalMember "prev_hash" b.prevHash ++
        optionalMember "token_name" b.tokenName)) a := by
    intro α keys tells members a hprev htoken h
    rwa [valuesUnder_append, valuesUnder_append, valuesUnder_optionalMember_of_notMem hprev,
      valuesUnder_optionalMember_of_notMem htoken, List.append_nil, List.append_nil]
  have htransactions : ListTells TellsTransaction (.arr (b.transactions.map Transaction.toJson))
      b.transactions :=
    ⟨_, rfl, List.forall₂_map_left_iff.mpr (List.forall₂_same.mpr fun t _ => t.tells_toJson)⟩
  refine ⟨_, rfl, {
    hash := hgiven (by decide) (by decide) ⟨_, rfl, rfl⟩
    index := hgiven (by decide) (by decide) ⟨_, rfl, rfl⟩
    timestamp := hgiven (by decide) (by decide) ⟨_, rfl, rfl⟩
    transactions := .inr (hgiven (by decide) (by decide) ⟨_, rfl, htransactions⟩)
    tokens := .inr (hgiven (by decide) (by decide) ⟨_, rfl, rfl⟩)
    minerAddress := .inr (hgiven (by decide) (by decide) ⟨_, rfl, rfl⟩)
    prevHash := ?_
    tokenName := ?_ }⟩
  · have hnot : "token_name" ∉ ["prev_hash", "prevHash"] := by decide
    rw [valuesUnder_append, valuesUnder_append, valuesUnder_optionalMember_of_notMem hnot,
      List.append_nil]
    exact omissibleAs_optionalMember (by decide) b.prevHash
  · have hnot : "prev_hash" ∉ ["token_name", "tokenName"] := by decide
    rw [valuesUnder_append, valuesUnder_append, valuesUnder_optionalMember_of_notMem hnot,
      List.append_nil]
    exact omissibleAs_optionalMember (by decide) b.tokenName

/-! ## What is written can be read -/

def Transaction.Legible (t : Transaction) : Prop :=
  ReadsBack t.amount ∧ ReadsBack t.gasCost

/-- Every double in the block is finite and read back from its text. -/
def Block.Legible (b : Block) : Prop :=
  ∀ t ∈ b.transactions, t.Legible

theorem Transaction.faithful_toJson {t : Transaction} (h : t.Legible) : t.toJson.Faithful := by
  obtain ⟨hamount, hgasCost⟩ := h
  simp [toJson, Faithful, FaithfulMembers, hamount, hgasCost]

theorem Transaction.within_toJson (t : Transaction) (depth : Nat) :
    t.toJson.Within (depth + 1) := by
  simp [toJson, Within, WithinMembers]

theorem Transaction.distinctKeys_toJson (t : Transaction) : t.toJson.DistinctKeys := by
  simp [toJson, DistinctKeys, DistinctKeysMembers]

/-- What is written of a block stands under names of fields, each of them once, and is a string, a
word, or the list of transactions. -/
theorem Block.exists_members (b : Block) :
    ∃ members, b.toJson = .obj members ∧ (members.map (·.1)).Nodup ∧
      (∀ m ∈ members, m.1 ∈ blockNames) ∧
      ∀ p : Json → Prop, (∀ s, p (.str s)) → (∀ w : UInt64, p (.int w.toNat)) →
        p (.arr (b.transactions.map Transaction.toJson)) → ∀ m ∈ members, p m.2 := by
  obtain ⟨hash, index, timestamp, transactions, tokens, minerAddress, prevHash, tokenName⟩ := b
  refine ⟨_, rfl, ?_, ?_, ?_⟩
  · cases prevHash <;> cases tokenName <;> simp [optionalMember]
  · cases prevHash <;> cases tokenName <;> simp [optionalMember, blockNames]
  · intro p hstring hword htransactions
    cases prevHash <;> cases tokenName <;>
      simp [optionalMember, hstring, hword, htransactions]

theorem Block.faithful_toJson {b : Block} (h : b.Legible) : b.toJson.Faithful := by
  obtain ⟨members, hmembers, -, -, hall⟩ := b.exists_members
  have htransactions : ∀ v ∈ b.transactions.map Transaction.toJson, v.Faithful :=
    List.forall_mem_map.mpr fun t ht => Transaction.faithful_toJson (h t ht)
  rw [hmembers]
  exact faithfulMembers_iff.mpr
    (hall Faithful (fun _ => trivial) fits64_word (faithfulItems_iff.mpr htransactions))

theorem Block.within_toJson (b : Block) (depth : Nat) : b.toJson.Within (depth + 3) := by
  obtain ⟨members, hmembers, -, -, hall⟩ := b.exists_members
  have htransactions : ∀ v ∈ b.transactions.map Transaction.toJson, v.Within (depth + 1) :=
    List.forall_mem_map.mpr fun t _ => t.within_toJson depth
  rw [hmembers]
  exact ⟨Nat.succ_pos _, withinMembers_iff.mpr (hall (Within (depth + 2)) (fun _ => trivial)
    (fun _ => trivial) ⟨Nat.succ_pos _, withinItems_iff.mpr htransactions⟩)⟩

theorem Block.distinctKeys_toJson (b : Block) : b.toJson.DistinctKeys := by
  obtain ⟨members, hmembers, hkeys, -, hall⟩ := b.exists_members
  have htransactions : ∀ v ∈ b.transactions.map Transaction.toJson, v.DistinctKeys :=
    List.forall_mem_map.mpr fun t _ => t.distinctKeys_toJson
  rw [hmembers]
  exact ⟨hkeys, distinctKeysMembers_iff.mpr (hall DistinctKeys (fun _ => trivial)
    (fun _ => trivial) (distinctKeysItems_iff.mpr htransactions))⟩

theorem Transaction.plain_toJson (t : Transaction) : t.toJson.Plain := by
  simp [toJson, Plain, PlainMembers, Embeds, embeddedKey]

/-- No field has the name that embeds a text. -/
theorem Block.plain_toJson (b : Block) : b.toJson.Plain := by
  obtain ⟨members, hmembers, -, hnames, hall⟩ := b.exists_members
  have htransactions : ∀ v ∈ b.transactions.map Transaction.toJson, v.Plain :=
    List.forall_mem_map.mpr fun t _ => t.plain_toJson
  have hkeys : ∀ m ∈ members, m.1 ≠ embeddedKey := by
    intro m hm hkey
    exact absurd (hkey ▸ hnames m hm) (by decide)
  rw [hmembers]
  exact ⟨not_embeds_of_forall hkeys, plainMembers_iff.mpr (hall Plain (fun _ => trivial)
    (fun _ => trivial) (plainItems_iff.mpr htransactions))⟩

/-! ## Reading it back -/

theorem Block.ofJson_toJson (b : Block) : Block.ofJson b.toJson = .ok b :=
  (Block.reads_ofJson b.toJson b).mpr b.tells_toJson

/-- Nothing is written of a block that would make it the object around another one. -/
theorem mintedBlock_toJson (b : Block) : mintedBlock b.toJson = .ok b := by
  obtain ⟨members, hmembers, -, hnames, -⟩ := b.exists_members
  have hbare : IsBare b.toJson := by
    rintro written hwritten
    obtain rfl := Json.obj.inj (hmembers.symm.trans hwritten)
    rw [valuesUnder, List.map_eq_nil_iff, List.filter_eq_nil_iff]
    intro m hm hblock
    have hname : m.1 = "block" := by simpa using hblock
    exact absurd (hname ▸ hnames m hm) (by decide)
  exact mintedBlock_of_isBare hbare b.ofJson_toJson

theorem Snapshot.ofJson_toJson (bs : List Block) :
    Snapshot.ofJson (.arr (bs.map Block.toJson)) = .ok ⟨bs, none, none⟩ := by
  refine (Snapshot.reads_ofJson _ _).mpr ⟨?_, rfl, rfl⟩
  exact List.forall₂_map_left_iff.mpr (List.forall₂_same.mpr fun b _ => b.tells_toJson)

theorem Block.decodes_render {b : Block} (h : b.Legible) :
    Decodes Block.ofJson (render b.toJson) b ∧ Decodes mintedBlock (render b.toJson) b := by
  have hdepth : b.toJson.Within maxDepth := b.within_toJson 124
  constructor
  · exact orderBlind_block.decodes_render (faithful_toJson h) hdepth b.distinctKeys_toJson
      b.plain_toJson b.ofJson_toJson
  · exact orderBlind_mintedBlock.decodes_render (faithful_toJson h) hdepth b.distinctKeys_toJson
      b.plain_toJson (mintedBlock_toJson b)

theorem Snapshot.decodes_render {bs : List Block} (h : ∀ b ∈ bs, b.Legible) :
    Decodes Snapshot.ofJson (render (.arr (bs.map Block.toJson))) ⟨bs, none, none⟩ := by
  refine orderBlind_snapshot.decodes_render ?_ ?_ ?_ ?_ (Snapshot.ofJson_toJson bs)
  · exact faithfulItems_iff.mpr (List.forall_mem_map.mpr fun b hb => Block.faithful_toJson (h b hb))
  · exact ⟨by decide, withinItems_iff.mpr (List.forall_mem_map.mpr fun b _ => b.within_toJson 123)⟩
  · exact distinctKeysItems_iff.mpr (List.forall_mem_map.mpr fun b _ => b.distinctKeys_toJson)
  · exact plainItems_iff.mpr (List.forall_mem_map.mpr fun b _ => b.plain_toJson)

end FeedExplorer.Chain

namespace FeedExplorer.Source

open Json Chain Files

/-- Decoding undoes writing, for the text as it stands and for its sorted value. -/
theorem decoding_undoes_writing :
    (∀ b : Block, b.Legible →
      Decodes Block.ofJson (render b.toJson) b ∧ Decodes mintedBlock (render b.toJson) b) ∧
    (∀ bs : List Block, (∀ b ∈ bs, b.Legible) →
      Decodes Snapshot.ofJson (render (.arr (bs.map Block.toJson)))
        { blocks := bs, reportedTotalBlocks := none, reportedTotalTokens := none }) ∧
    ∀ f : StoredFile, Decodes StoredFile.ofJson (render f.toJson) f :=
  ⟨fun _ h => Block.decodes_render h, fun _ h => Snapshot.decodes_render h,
    StoredFile.decodes_render⟩

/-- A block with one transfer of a tenth at the cost of `1e21`, and with strings to be escaped. -/
def inkedBlock : Block :=
  { hash := "\"\\\n", index := 18446744073709551615, timestamp := 2
    transactions :=
      [{ sender := "\x01é", receiver := "", amount := ⟨0x3FB999999999999A⟩
         gasCost := ⟨0x444B1AE4D6E2EF50⟩ }]
    tokens := 0, minerAddress := "m", prevHash := none, tokenName := some "t" }

theorem decoding_undoes_writing_inked :
    inkedBlock.Legible ∧
      (Decodes Block.ofJson (render inkedBlock.toJson) inkedBlock ∧
        Decodes mintedBlock (render inkedBlock.toJson) inkedBlock) ∧
      Decodes Snapshot.ofJson (render (.arr ([inkedBlock, inkedBlock].map Block.toJson)))
        { blocks := [inkedBlock, inkedBlock], reportedTotalBlocks := none
          reportedTotalTokens := none } := by
  have htenth : Number.data ⟨0x3FB999999999999A⟩ = "0.1" := by decide +kernel
  have hlarge : Number.data ⟨0x444B1AE4D6E2EF50⟩ = "1e+21" := by decide +kernel
  have hlegible : inkedBlock.Legible := by
    refine List.forall_mem_singleton.mpr ⟨⟨by decide, ?_⟩, by decide, ?_⟩
    · rw [htenth]
      rfl
    · rw [hlarge]
      rfl
  obtain ⟨hblock, hsnapshot, -⟩ := decoding_undoes_writing
  refine ⟨hlegible, hblock inkedBlock hlegible, hsnapshot [inkedBlock, inkedBlock] ?_⟩
  simp [hlegible]

end FeedExplorer.Source
