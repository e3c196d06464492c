import Mathlib
import FeedExplorer.Proofs.Chain.Grammar
import FeedExplorer.Proofs.Json.Sorting

/-!
# Two ways of decoding a text

A text can be decoded as it stands, or by way of the value that it stands for, with the texts in it
opened and the members of every object sorted. Main statement: where no object has a key twice and
none begins with the key of an embedded text, both ways fail or both give the same, for snapshots
and for minted blocks.
-/

namespace FeedExplorer.Chain

open Json

theorem orderBlind_transaction : OrderBlind Transaction.ofJson := by
  refine Shape.orderBlind_decode lawful_transactionShape ?_
  rw [transactionShape_fields]
  simp only [List.forall_mem_cons, List.not_mem_nil, false_imp_iff, implies_true, and_true]
  exact ⟨orderBlind_asString.reading _ _ _ _, orderBlind_asString.reading _ _ _ _,
    orderBlind_asReal.reading _ _ _ _, orderBlind_asReal.reading _ _ _ _⟩

theorem orderBlind_block : OrderBlind Block.ofJson := by
  refine Shape.orderBlind_decode lawful_blockShape ?_
  rw [blockShape_fields]
  simp only [List.forall_mem_cons, List.not_mem_nil, false_imp_iff, implies_true, and_true]
  exact ⟨orderBlind_asString.reading _ _ _ _, orderBlind_asWord.reading _ _ _ _,
    orderBlind_asWord.reading _ _ _ _, orderBlind_transaction.asList.reading _ _ _ _,
    orderBlind_asWord.reading _ _ _ _, orderBlind_asString.reading _ _ _ _,
    orderBlind_asString.asOptional.reading _ _ _ _, orderBlind_asString.asOptional.reading _ _ _ _⟩

theorem Snapshot.ofJson_obj_toOption (members : List (String × Json)) :
    (Snapshot.ofJson (.obj members)).toOption = (snapshotShape.ofMembers members).toOption := by
  rw [Snapshot.ofJson]
  cases snapshotShape.ofMembers members <;> rfl

theorem Snapshot.ofJson_arr_toOption (items : List Json) :
    (Snapshot.ofJson (.arr items)).toOption =
      (items.mapM Block.ofJson).toOption.map fun blocks => ⟨blocks, none, none⟩ := by
  rw [Snapshot.ofJson]
  cases items.mapM Block.ofJson <;> rfl

theorem orderBlind_snapshot : OrderBlind Snapshot.ofJson := by
  intro v hv
  cases v with
  | obj members =>
    rw [canonical_obj, Snapshot.ofJson_obj_toOption, Snapshot.ofJson_obj_toOption]
    refine Shape.ofMembers_sorted lawful_snapshotShape ?_ (distinctKeysMembers_iff.mp hv.2)
      (sorted_perm hv)
    rw [snapshotShape_fields]
    simp only [List.forall_mem_cons, List.not_mem_nil, false_imp_iff, implies_true, and_true]
    exact ⟨orderBlind_block.asList.reading _ _ _ _, orderBlind_asWord.asOptional.reading _ _ _ _,
      orderBlind_asWord.asOptional.reading _ _ _ _⟩
  | arr items =>
    rw [canonical_arr, Snapshot.ofJson_arr_toOption, Snapshot.ofJson_arr_toOption,
      orderBlind_block.mapM (distinctKeysItems_iff.mp hv)]
  | _ => rfl

theorem mintedShape_fields : mintedShape.fields =
    [reading "block" [] true Block.ofJson
      ⟨(·.block), fun b m => { m with block := b }, fun _ => rfl⟩,
     reading "message" [] false (asOptional asString)
      ⟨(·.note), fun o m => { m with note := o }, fun _ => rfl⟩] := rfl

theorem lawful_mintedShape : mintedShape.Lawful := by
  rw [Shape.Lawful, mintedShape_fields]
  simp only [List.pairwise_cons, List.forall_mem_cons, List.not_mem_nil, false_imp_iff,
    implies_true, List.Pairwise.nil, and_true]
  exact apart_reading (by decide) fun _ _ _ => rfl

theorem orderBlind_mintedInside : OrderBlind mintedInside := by
  intro v hv
  cases v with
  | obj members =>
    rw [canonical_obj, mintedInside, mintedInside, toOption_map, toOption_map]
    congr 1
    refine Shape.ofMembers_sorted lawful_mintedShape ?_ (distinctKeysMembers_iff.mp hv.2)
      (sorted_perm hv)
    rw [mintedShape_fields]
    simp only [List.forall_mem_cons, List.not_mem_nil, false_imp_iff, implies_true, and_true]
    exact ⟨orderBlind_block.reading _ _ _ _, orderBlind_asString.asOptional.reading _ _ _ _⟩
  | _ => rfl

theorem mintedBlock_toOption (v : Json) :
    (mintedBlock v).toOption = (mintedInside v).toOption.or (Block.ofJson v).toOption := by
  rw [mintedBlock]
  cases mintedInside v with
  | ok b => rfl
  | error m => cases Block.ofJson v <;> rfl

theorem orderBlind_mintedBlock : OrderBlind mintedBlock := by
  intro v hv
  rw [mintedBlock_toOption, mintedBlock_toOption, orderBlind_mintedInside v hv,
    orderBlind_block v hv]

/-- Where no object of a text has a key twice and none begins with the key of an embedded text, both
ways of decoding it fail or both give the same snapshot, and likewise the same minted block. -/
theorem decodings_agree (text : String)
    (hkeys : ∀ v, Json.parse text = .ok v → v.DistinctKeys)
    (hplain : ∀ v, Json.parse text = .ok v → v.Plain) :
    (decodeStraight Snapshot.ofJson text).toOption =
        (decodeSorted Snapshot.ofJson text).toOption ∧
      (decodeStraight mintedBlock text).toOption = (decodeSorted mintedBlock text).toOption :=
  ⟨orderBlind_snapshot.decode_text hkeys hplain, orderBlind_mintedBlock.decode_text hkeys hplain⟩

/-- An envelope around one block, neither of them in the order of its fields. -/
def reorderedText : String :=
  "\x7b\"totalBlocks\":7,\"blocks\":[\x7b\"timestamp\":2,\"minerAddress\":\"m\",\"index\":1,\"hash\":\"h\"\x7d]\x7d"

theorem decodings_agree_reordered :
    (∀ v, Json.parse reorderedText = .ok v → v.DistinctKeys) ∧
      (∀ v, Json.parse reorderedText = .ok v → v.Plain) ∧
      (decodeStraight Snapshot.ofJson reorderedText).toOption =
        (decodeSorted Snapshot.ofJson reorderedText).toOption ∧
      (decodeStraight mintedBlock reorderedText).toOption =
        (decodeSorted mintedBlock reorderedText).toOption := by
  have hparse : Json.parse reorderedText = .ok (.obj [("totalBlocks", .int 7), ("blocks", .arr
      [.obj [("timestamp", .int 2), ("minerAddress", .str "m"), ("index", .int 1),
        ("hash", .str "h")]])]) := by
    cbv
  have hkeys : ∀ v, Json.parse reorderedText = .ok v → v.DistinctKeys := by
    intro v hv
    obtain rfl := Except.ok.inj (hparse.symm.trans hv)
    simp [DistinctKeys, DistinctKeysItems, DistinctKeysMembers]
  have hplain : ∀ v, Json.parse reorderedText = .ok v → v.Plain := by
    intro v hv
    obtain rfl := Except.ok.inj (hparse.symm.trans hv)
    simp [Plain, PlainItems, PlainMembers, Embeds, embeddedKey]
  exact ⟨hkeys, hplain, decodings_agree reorderedText hkeys hplain⟩

/-- The text of a list without items, embedded in another text. -/
def embeddingText : String :=
  "\x7b\"$serde_json::private::RawValue\":\"[]\"\x7d"

/-- Only by way of its value does a text with another one in it stand for what that one says: here
for a snapshot without blocks, where the text as it stands is no snapshot at all. -/
theorem decodings_part_at_embedded_text :
    (∀ v, Json.parse embeddingText = .ok v → v.DistinctKeys) ∧
      (decodeStraight Snapshot.ofJson embeddingText).toOption = none ∧
      (decodeSorted Snapshot.ofJson embeddingText).toOption = some ⟨[], none, none⟩ := by
  have hparse : Json.parse embeddingText = .ok (.obj [(embeddedKey, .str "[]")]) := by cbv
  have hinner : Json.parse "[]" = .ok (.arr []) := by cbv
  have hopened : Json.parseOpened embeddingText = .ok (.arr []) := by
    refine parseOpened_eq_ok_iff.mpr ⟨_, hparse, ?_⟩
    have hempty : Json.parseOpened "[]" = .ok (.arr []) :=
      parseOpened_eq_ok_iff.mpr ⟨.arr [], hinner, rfl⟩
    simp [opened?, openWith, Embeds, soleText?, hempty]
  refine ⟨?_, ?_, ?_⟩
  · intro v hv
    obtain rfl := Except.ok.inj (hparse.symm.trans hv)
    simp [DistinctKeys, DistinctKeysMembers]
  · rw [decodeStraight_toOption, hparse]
    rfl
  · rw [decodeSorted, hopened]
    rfl

end FeedExplorer.Chain
