import FeedExplorer.Proofs.Chain.Agreement
import FeedExplorer.Proofs.Files.Record
import FeedExplorer.Proofs.Json.Rewriting

/-!
# Payloads and their spellings

The six kinds of payload that come over the wire, each with the layout that it is read by: which
members mean a field, under which spellings, and where the items of a list stand. Main statement:
rewriting a value by the layout of a payload, at any depth, changes neither whether the payload can
be read nor what is read, whether the value is read as it stands or with its members sorted.
-/

namespace FeedExplorer.Source

open Json
open Chain (Transaction Block Snapshot Minted)
open Files (StoredFile FilePayload)

inductive Payload where
  | transaction
  | block
  | snapshot
  | minted
  | storedFile
  | filePayload

/-! ## Layouts -/

def transactionFields : List (List String × Layout) :=
  [(["sender"], .plain), (["receiver"], .plain), (["amount"], .plain),
    (["gas_cost", "gasCost"], .plain)]

def blockFields : List (List String × Layout) :=
  [(["hash"], .plain), (["index"], .plain), (["timestamp"], .plain),
    (["transactions"], .listOf (.record transactionFields)), (["tokens"], .plain),
    (["miner_address", "minerAddress"], .plain), (["prev_hash", "prevHash"], .plain),
    (["token_name", "tokenName"], .plain)]

def envelopeFields : List (List String × Layout) :=
  [(["blocks"], .listOf (.record blockFields)), (["totalBlocks", "total_blocks"], .plain),
    (["totalTokens", "total_tokens"], .plain)]

/-- What stands around a minted block. -/
def wrapperFields : List (List String × Layout) :=
  [(["block"], .record blockFields), (["message"], .plain)]

def storedFileFields : List (List String × Layout) :=
  [(["id"], .plain), (["filename"], .plain), (["location"], .plain), (["size"], .plain),
    (["content_type", "contentType"], .plain)]

def filePayloadFields : List (List String × Layout) :=
  [(["filename"], .plain), (["content_type", "contentType"], .plain), (["data"], .plain)]

namespace Payload

def layout : Payload → Layout
  | .transaction => .record transactionFields
  | .block => .record blockFields
  | .snapshot => .either (.record envelopeFields) (.listOf (.record blockFields))
  | .minted => .either (.record (wrapperFields ++ blockFields)) (.record blockFields)
  | .storedFile => .record storedFileFields
  | .filePayload => .record filePayloadFields

/-- What is read of a payload. A minted block comes with what stood around it, or bare. -/
abbrev Content : Payload → Type
  | .transaction => Transaction
  | .block => Block
  | .snapshot => Snapshot
  | .minted => Minted ⊕ Block
  | .storedFile => StoredFile
  | .filePayload => FilePayload

end Payload

/-- A minted block inside an object around it. -/
def wrapped? : Json → Option Minted
  | .obj members => (Chain.mintedShape.ofMembers members).toOption
  | _ => none

namespace Payload

def read? : (p : Payload) → Json → Option p.Content
  | .transaction, v => (Transaction.ofJson v).toOption
  | .block, v => (Block.ofJson v).toOption
  | .snapshot, v => (Snapshot.ofJson v).toOption
  | .minted, v => ((wrapped? v).map .inl).or ((Block.ofJson v).toOption.map .inr)
  | .storedFile, v => (StoredFile.ofJson v).toOption
  | .filePayload, v => (FilePayload.ofJson v).toOption

end Payload

/-- The block that is made of an answer is the one inside it, or the bare one. -/
theorem mintedBlock_eq_read? (v : Json) :
    (Chain.mintedBlock v).toOption =
      (Payload.minted.read? v).map (Sum.elim (·.block) id) := by
  rw [Chain.mintedBlock_toOption, Payload.read?, Option.map_or]
  congr 1
  · cases v with
    | obj members =>
      rw [Chain.mintedInside, toOption_map, wrapped?, Option.map_map]
      rfl
    | _ => rfl
  · rw [Option.map_map, Sum.elim_comp_inr, Option.map_id]
    rfl

/-! ## Readers and their layouts -/

section goesBy

open Chain Files

theorem follows_transactionShape :
    transactionShape.Follows (.record transactionFields) transactionFields [] := by
  refine ⟨fun _ => by simp [Layout.fields], ?_, fun _ h => nomatch h⟩
  rw [transactionShape_fields]
  exact .cons ⟨rfl, goesBy_asString.reading _ _ _ _⟩ <|
    .cons ⟨rfl, goesBy_asString.reading _ _ _ _⟩ <|
    .cons ⟨rfl, goesBy_asReal.reading _ _ _ _⟩ <|
    .cons ⟨rfl, goesBy_asReal.reading _ _ _ _⟩ .nil

theorem goesBy_transaction : GoesBy (.record transactionFields) Transaction.ofJson :=
  follows_transactionShape.goesBy_decode lawful_transactionShape

theorem readBy_blockFields : List.Forall₂ Field.ReadBy blockShape.fields blockFields := by
  rw [blockShape_fields]
  exact .cons ⟨rfl, goesBy_asString.reading _ _ _ _⟩ <|
    .cons ⟨rfl, goesBy_asWord.reading _ _ _ _⟩ <|
    .cons ⟨rfl, goesBy_asWord.reading _ _ _ _⟩ <|
    .cons ⟨rfl, goesBy_transaction.asList.reading _ _ _ _⟩ <|
    .cons ⟨rfl, goesBy_asWord.reading _ _ _ _⟩ <|
    .cons ⟨rfl, goesBy_asString.reading _ _ _ _⟩ <|
    .cons ⟨rfl, goesBy_optionalString.reading _ _ _ _⟩ <|
    .cons ⟨rfl, goesBy_optionalString.reading _ _ _ _⟩ .nil

theorem goesBy_block : GoesBy (.record blockFields) Block.ofJson := by
  have hfollows : blockShape.Follows (.record blockFields) blockFields [] :=
    ⟨fun _ => by simp [Layout.fields], readBy_blockFields, fun _ h => nomatch h⟩
  exact hfollows.goesBy_decode lawful_blockShape

theorem follows_storedFileShape :
    storedFileShape.Follows (.record storedFileFields) storedFileFields [] := by
  refine ⟨fun _ => by simp [Layout.fields], ?_, fun _ h => nomatch h⟩
  rw [storedFileShape_fields]
  exact .cons ⟨rfl, goesBy_asString.reading _ _ _ _⟩ <|
    .cons ⟨rfl, goesBy_asString.reading _ _ _ _⟩ <|
    .cons ⟨rfl, goesBy_asString.reading _ _ _ _⟩ <|
    .cons ⟨rfl, goesBy_asWord.reading _ _ _ _⟩ <|
    .cons ⟨rfl, goesBy_asString.reading _ _ _ _⟩ .nil

theorem follows_filePayloadShape :
    filePayloadShape.Follows (.record filePayloadFields) filePayloadFields [] := by
  refine ⟨fun _ => by simp [Layout.fields], ?_, fun _ h => nomatch h⟩
  rw [filePayloadShape_fields]
  exact .cons ⟨rfl, goesBy_asString.reading _ _ _ _⟩ <|
    .cons ⟨rfl, goesBy_asString.reading _ _ _ _⟩ <|
    .cons ⟨rfl, goesBy_asString.reading _ _ _ _⟩ .nil

theorem follows_snapshotShape :
    snapshotShape.Follows Payload.snapshot.layout envelopeFields [] := by
  refine ⟨fun _ => by simp [Payload.layout, Layout.fields], ?_, fun _ h => nomatch h⟩
  rw [snapshotShape_fields]
  exact .cons ⟨rfl, goesBy_block.asList.reading _ _ _ _⟩ <|
    .cons ⟨rfl, goesBy_optionalWord.reading _ _ _ _⟩ <|
    .cons ⟨rfl, goesBy_optionalWord.reading _ _ _ _⟩ .nil

theorem goesBy_snapshot : GoesBy Payload.snapshot.layout Snapshot.ofJson := by
  intro v w hvw
  cases v with
  | obj members =>
    obtain ⟨members', rfl⟩ := hvw.exists_members
    rw [Snapshot.ofJson_obj_toOption, Snapshot.ofJson_obj_toOption]
    exact follows_snapshotShape.ofMembers_eq lawful_snapshotShape hvw
  | arr items =>
    cases hvw with
    | inItem hvw =>
      rw [Snapshot.ofJson_arr_toOption, Snapshot.ofJson_arr_toOption,
        mapM_middle (goesBy_block _ _ hvw)]
  | _ => cases hvw

theorem follows_mintedShape :
    mintedShape.Follows Payload.minted.layout wrapperFields blockFields := by
  refine ⟨fun _ => List.mem_append, ?_, ?_⟩
  · rw [mintedShape_fields]
    exact .cons ⟨rfl, goesBy_block.reading _ _ _ _⟩ <|
      .cons ⟨rfl, goesBy_optionalString.reading _ _ _ _⟩ .nil
  · rw [mintedShape_fields]
    simp [blockFields, reading, Field.keys]

/-- What stands around a minted block means nothing to the block. -/
theorem follows_blockShape :
    blockShape.Follows Payload.minted.layout blockFields wrapperFields := by
  refine ⟨fun _ => List.mem_append.trans or_comm, readBy_blockFields, ?_⟩
  rw [blockShape_fields]
  simp [wrapperFields, reading, Field.keys]

theorem wrapped?_eq {v w : Json} (hvw : Rewrite Payload.minted.layout v w) :
    wrapped? v = wrapped? w := by
  cases v with
  | obj members =>
    obtain ⟨members', rfl⟩ := hvw.exists_members
    exact follows_mintedShape.ofMembers_eq lawful_mintedShape hvw
  | arr items =>
    cases hvw
    rfl
  | _ => cases hvw

theorem goesBy_bareBlock : GoesBy Payload.minted.layout Block.ofJson := by
  intro v w hvw
  cases v with
  | obj members =>
    obtain ⟨members', rfl⟩ := hvw.exists_members
    exact follows_blockShape.ofMembers_eq lawful_blockShape hvw
  | arr items =>
    cases hvw with
    | inItem hvw => exact goesBy_block _ _ (.inItem hvw)
  | _ => cases hvw

theorem Payload.read?_eq {p : Payload} {v w : Json} (hvw : Rewrite p.layout v w) :
    p.read? v = p.read? w := by
  cases p with
  | transaction => exact goesBy_transaction v w hvw
  | block => exact goesBy_block v w hvw
  | snapshot => exact goesBy_snapshot v w hvw
  | minted => rw [read?, read?, wrapped?_eq hvw, goesBy_bareBlock v w hvw]
  | storedFile => exact follows_storedFileShape.goesBy_decode lawful_storedFileShape v w hvw
  | filePayload => exact follows_filePayloadShape.goesBy_decode lawful_filePayloadShape v w hvw

end goesBy

theorem Payload.read?_rewritten {p : Payload} {v w : Json} (h : Rewritten p.layout v w) :
    p.read? v = p.read? w :=
  h.eq_of_rewrite fun _ _ => read?_eq

/-- A rewriting by the layout of a payload changes nothing about what is read, and neither does it
where the members of every object are sorted first. -/
theorem rewriting_unnoticed (p : Payload) {v w : Json} (h : Rewritten p.layout v w) :
    p.read? v = p.read? w ∧
      (v.DistinctKeys → w.DistinctKeys → p.read? v.canonical = p.read? w.canonical) := by
  refine ⟨Payload.read?_rewritten h, fun hv hw => ?_⟩
  calc p.read? v.canonical
      = p.read? v := (Payload.read?_rewritten (rewritten_canonical p.layout v hv)).symm
    _ = p.read? w := Payload.read?_rewritten h
    _ = p.read? w.canonical := Payload.read?_rewritten (rewritten_canonical p.layout w hw)

/-- An envelope around one block. -/
def enveloped : Json :=
  .obj [("blocks", .arr [.obj [("hash", .str "h"), ("index", .int 1), ("timestamp", .int 2),
      ("minerAddress", .str "m")]]), ("totalBlocks", .int 1)]

/-- The same with other spellings in another order, and with a member that nobody asks for. -/
def reenveloped : Json :=
  .obj [("version", .null), ("total_blocks", .int 1), ("blocks", .arr [.obj [("hash", .str "h"),
      ("index", .int 1), ("timestamp", .int 2), ("miner_address", .str "m")]])]

theorem rewriting_unnoticed_envelope :
    Rewritten Payload.snapshot.layout enveloped reenveloped ∧
      (enveloped.DistinctKeys ∧ reenveloped.DistinctKeys) ∧
      Payload.snapshot.read? enveloped = Payload.snapshot.read? reenveloped ∧
      Payload.snapshot.read? enveloped.canonical =
        Payload.snapshot.read? reenveloped.canonical := by
  have hblock : Rewrite (.record blockFields)
      (.obj ([("hash", .str "h"), ("index", .int 1), ("timestamp", .int 2)] ++
        ("minerAddress", .str "m") :: []))
      (.obj ([("hash", .str "h"), ("index", .int 1), ("timestamp", .int 2)] ++
        ("miner_address", .str "m") :: [])) :=
    .respell (show (["miner_address", "minerAddress"], Layout.plain) ∈ blockFields by
      simp [blockFields]) (by simp) (by simp)
  have hblocks := Rewritten.inField
    (show (["blocks"], _) ∈ Payload.snapshot.layout.fields from List.mem_cons_self)
    List.mem_cons_self [] [("totalBlocks", .int 1)]
    (Rewritten.inItem [] [] (.rel _ _ hblock))
  have htotal : ∀ v, Rewrite Payload.snapshot.layout
      (.obj ([v] ++ ("totalBlocks", .int 1) :: []))
      (.obj ([v] ++ ("total_blocks", .int 1) :: [])) :=
    fun v => .respell (show (["totalBlocks", "total_blocks"], Layout.plain) ∈ envelopeFields by
      simp [envelopeFields]) (by simp) (by simp)
  have hswap : ∀ v w, Rewrite Payload.snapshot.layout (.obj [v, w]) (.obj [w, v]) :=
    fun v w => .permute (.swap w v [])
  have hversion : ∀ members, Rewrite Payload.snapshot.layout (.obj ([] ++ members))
      (.obj ([] ++ ("version", .null) :: members)) := by
    intro members
    refine .extra ?_
    simp [Payload.layout, Layout.fields, envelopeFields]
  have hrewritten : Rewritten Payload.snapshot.layout enveloped reenveloped :=
    .trans _ _ _ hblocks <| .trans _ _ _ (.rel _ _ (htotal _)) <|
      .trans _ _ _ (.rel _ _ (hswap _ _)) (.rel _ _ (hversion _))
  have hkeys : enveloped.DistinctKeys ∧ reenveloped.DistinctKeys := by
    simp [enveloped, reenveloped, DistinctKeys, DistinctKeysItems, DistinctKeysMembers]
  obtain ⟨hread, hsorted⟩ := rewriting_unnoticed .snapshot hrewritten
  exact ⟨hrewritten, hkeys, hread, hsorted hkeys.1 hkeys.2⟩

end FeedExplorer.Source
