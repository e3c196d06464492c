import FeedExplorer.Files.Record
import FeedExplorer.Proofs.Json.Writing

/-!
# Records of stored files, field by field

The fields of the two records of a file store as readers of one part each. Main statements: no two
of the fields meet, and what is written of a stored file is read back.
-/

namespace FeedExplorer.Files

open Json

theorem storedFileShape_fields : storedFileShape.fields =
    [reading "id" [] true asString ⟨(·.id), fun s f => { f with id := s }, fun _ => rfl⟩,
     reading "filename" [] true asString
      ⟨(·.filename), fun s f => { f with filename := s }, fun _ => rfl⟩,
     reading "location" [] false asString
      ⟨(·.location), fun s f => { f with location := s }, fun _ => rfl⟩,
     reading "size" [] false asWord ⟨(·.size), fun n f => { f with size := n }, fun _ => rfl⟩,
     reading "content_type" ["contentType"] false asString
      ⟨(·.contentType), fun s f => { f with contentType := s }, fun _ => rfl⟩] := rfl

theorem lawful_storedFileShape : storedFileShape.Lawful := by
  rw [Shape.Lawful, storedFileShape_fields]
  simp only [List.pairwise_cons, List.forall_mem_cons, List.not_mem_nil, false_imp_iff,
    implies_true, List.Pairwise.nil, and_true]
  and_intros <;> exact apart_reading (by decide) fun _ _ _ => rfl

theorem orderBlind_storedFile : OrderBlind StoredFile.ofJson := by
  refine Shape.orderBlind_decode lawful_storedFileShape ?_
  rw [storedFileShape_fields]
  simp only [List.forall_mem_cons, List.not_mem_nil, false_imp_iff, implies_true, and_true]
  exact ⟨orderBlind_asString.reading _ _ _ _, orderBlind_asString.reading _ _ _ _,
    orderBlind_asString.reading _ _ _ _, orderBlind_asWord.reading _ _ _ _,
    orderBlind_asString.reading _ _ _ _⟩

theorem StoredFile.ofJson_toJson (f : StoredFile) : StoredFile.ofJson f.toJson = .ok f := by
  have hsize : asWord (.int f.size.toNat) = .ok f.size := (reads_asWord _ _).mpr rfl
  have hfields : (storedFileShape.ofMembers [("id", .str f.id), ("filename", .str f.filename),
      ("location", .str f.location), ("size", .int f.size.toNat),
      ("content_type", .str f.contentType)]).toOption = some f := by
    rw [Shape.ofMembers_toOption lawful_storedFileShape, storedFileShape_fields]
    simp only [gather, settle_reading]
    simp [Field.keys, reading, valuesUnder, one, oneOr, asString, hsize]
  exact toOption_eq_some_iff.mp hfields

/-- What is written of a stored file is read back. -/
theorem StoredFile.decodes_render (f : StoredFile) :
    Decodes StoredFile.ofJson (render f.toJson) f := by
  refine orderBlind_storedFile.decodes_render ?_ ?_ ?_ ?_ f.ofJson_toJson
  · simp [toJson, Faithful, FaithfulMembers, fits64_word]
  · simp [toJson, Within, WithinMembers, maxDepth]
  · simp [toJson, DistinctKeys, DistinctKeysMembers]
  · simp [toJson, Plain, PlainMembers, Embeds, embeddedKey]

theorem filePayloadShape_fields : filePayloadShape.fields =
    [reading "filename" [] true asString
      ⟨(·.filename), fun s f => { f with filename := s }, fun _ => rfl⟩,
     reading "content_type" ["contentType"] false asString
      ⟨(·.contentType), fun s f => { f with contentType := s }, fun _ => rfl⟩,
     reading "data" [] true asString ⟨(·.data), fun s f => { f with data := s }, fun _ => rfl⟩] :=
  rfl

theorem lawful_filePayloadShape : filePayloadShape.Lawful := by
  rw [Shape.Lawful, filePayloadShape_fields]
  simp only [List.pairwise_cons, List.forall_mem_cons, List.not_mem_nil, false_imp_iff,
    implies_true, List.Pairwise.nil, and_true]
  and_intros <;> exact apart_reading (by decide) fun _ _ _ => rfl

/-- The names of the fields of a payload, in the order in which a list gives them. -/
def payloadNames : List String :=
  ["filename", "content_type", "data"]

structure PayloadTold (members : List (String × Json)) (p : FilePayload) : Prop where
  filename : GivenAs TellsString (valuesUnder ["filename"] members) p.filename
  contentType : OmissibleAs TellsString "" (valuesUnder ["content_type", "contentType"] members)
    p.contentType
  data : GivenAs TellsString (valuesUnder ["data"] members) p.data

def TellsPayload (v : Json) (p : FilePayload) : Prop :=
  ∃ members, v.asMembers payloadNames = some members ∧ PayloadTold members p

theorem filePayloadShape_ofMembers (members : List (String × Json)) :
    (filePayloadShape.ofMembers members).toOption = do
      let filename ← one asString (valuesUnder ["filename"] members)
      let contentType ← oneOr "" asString (valuesUnder ["content_type", "contentType"] members)
      let data ← one asString (valuesUnder ["data"] members)
      return { filename, contentType, data } := by
  rw [Shape.ofMembers_toOption lawful_filePayloadShape, filePayloadShape_fields]
  simp only [gather, settle_reading, Option.bind_map, Function.comp_def, if_true,
    Bool.false_eq_true, if_false]
  rfl

theorem filePayloadShape_ofMembers_eq_ok_iff {members : List (String × Json)} {p : FilePayload} :
    filePayloadShape.ofMembers members = .ok p ↔ PayloadTold members p := by
  rw [← toOption_eq_some_iff, filePayloadShape_ofMembers]
  simp only [Option.bind_eq_bind, Option.bind_eq_some_iff, Option.pure_def, Option.some.injEq,
    reads_asString.one, reads_asString.oneOr]
  constructor
  · rintro ⟨_, filename, _, contentType, _, data, rfl⟩
    exact ⟨filename, contentType, data⟩
  · rintro ⟨filename, contentType, data⟩
    exact ⟨_, filename, _, contentType, _, data, rfl⟩

theorem FilePayload.reads_ofJson : Reads FilePayload.ofJson TellsPayload := by
  intro v p
  rw [← toOption_eq_some_iff, FilePayload.ofJson, Shape.decode_toOption lawful_filePayloadShape]
  simp only [Option.bind_eq_some_iff, toOption_eq_some_iff, filePayloadShape_ofMembers_eq_ok_iff]
  rfl

theorem givenAs_canonical {values : List Json} {s : String} (h : GivenAs TellsString values s) :
    values.length ≤ 1 ∧ GivenAs TellsString (values.map canonical) s := by
  obtain ⟨_, rfl, rfl⟩ := h
  exact ⟨le_rfl, _, rfl, rfl⟩

theorem omissibleAs_canonical {values : List Json} {default s : String}
    (h : OmissibleAs TellsString default values s) :
    values.length ≤ 1 ∧ OmissibleAs TellsString default (values.map canonical) s := by
  rcases h with ⟨rfl, rfl⟩ | h
  · exact ⟨Nat.zero_le 1, .inl ⟨rfl, rfl⟩⟩
  · obtain ⟨hlength, hgiven⟩ := givenAs_canonical h
    exact ⟨hlength, .inr hgiven⟩

/-- What tells of a payload tells of it when its members are sorted. -/
theorem TellsPayload.canonical {v : Json} {p : FilePayload} (h : TellsPayload v p) :
    TellsPayload v.canonical p := by
  obtain ⟨members, hmembers, hfilename, htype, hdata⟩ := h
  have hold : ∀ members', (∀ keys, (valuesUnder keys members).length ≤ 1 →
      valuesUnder keys members' = (valuesUnder keys members).map Json.canonical) →
      PayloadTold members' p := by
    intro members' hvalues
    obtain ⟨hone, hfilename⟩ := givenAs_canonical hfilename
    obtain ⟨hone', htype⟩ := omissibleAs_canonical htype
    obtain ⟨hone'', hdata⟩ := givenAs_canonical hdata
    rw [← hvalues _ hone] at hfilename
    rw [← hvalues _ hone'] at htype
    rw [← hvalues _ hone''] at hdata
    exact ⟨hfilename, htype, hdata⟩
  cases v with
  | obj given =>
    obtain rfl := Option.some.inj hmembers
    rw [canonical_obj]
    refine ⟨_, rfl, hold _ fun keys hone => ?_⟩
    rw [valuesUnder_sortMembers (by rwa [valuesUnder_map, List.length_map]), valuesUnder_map]
  | arr items =>
    rw [asMembers] at hmembers
    split at hmembers
    · next hlength =>
      obtain rfl := Option.some.inj hmembers
      rw [canonical_arr]
      refine ⟨payloadNames.zip (items.map Json.canonical), ?_, hold _ fun keys _ => ?_⟩
      · rw [asMembers, if_pos (by simpa using hlength)]
      · rw [← valuesUnder_map, List.zip_map_right]
        rfl
    · cases hmembers
  | _ => cases hmembers

end FeedExplorer.Files
