import FeedExplorer.Json.Decode
import FeedExplorer.Proofs.Json.Embedded
import FeedExplorer.Proofs.Json.Kinds

/-!
# Sorted members

What sorting the members of every object does to a value in which no object has a key twice. Main
statements: a record whose parts are read alike before and after the sorting is itself read alike,
and a text that embeds no other is then decoded alike as it stands and by way of the sorted value.
-/

namespace FeedExplorer.Json

mutual

/-- No object in the value has a key twice. -/
def DistinctKeys : Json → Prop
  | .arr items => DistinctKeysItems items
  | .obj members => (members.map (·.1)).Nodup ∧ DistinctKeysMembers members
  | _ => True

def DistinctKeysItems : List Json → Prop
  | [] => True
  | v :: rest => DistinctKeys v ∧ DistinctKeysItems rest

def DistinctKeysMembers : List (String × Json) → Prop
  | [] => True
  | (_, v) :: rest => DistinctKeys v ∧ DistinctKeysMembers rest

end

theorem distinctKeysItems_iff {items : List Json} :
    DistinctKeysItems items ↔ ∀ v ∈ items, v.DistinctKeys := by
  induction items with
  | nil => simp [DistinctKeysItems]
  | cons v items ih => simp [DistinctKeysItems, ih]

theorem distinctKeysMembers_iff {members : List (String × Json)} :
    DistinctKeysMembers members ↔ ∀ m ∈ members, m.2.DistinctKeys := by
  induction members with
  | nil => simp [DistinctKeysMembers]
  | cons m members ih => simp [DistinctKeysMembers, ih]

/-! ## Sorting -/

theorem canonicalItems_eq_map (items : List Json) : canonicalItems items = items.map canonical := by
  induction items with
  | nil => rfl
  | cons v items ih => rw [canonicalItems, ih, List.map_cons]

theorem canonicalMembers_eq_map (members : List (String × Json)) :
    canonicalMembers members = members.map fun m => (m.1, m.2.canonical) := by
  induction members with
  | nil => rfl
  | cons m members ih => rw [canonicalMembers, ih, List.map_cons]

theorem canonical_arr (items : List Json) : (arr items).canonical = arr (items.map canonical) := by
  rw [canonical, canonicalItems_eq_map]

theorem canonical_obj (members : List (String × Json)) :
    (obj members).canonical = obj (sortMembers (members.map fun m => (m.1, m.2.canonical))) := by
  rw [canonical, canonicalMembers_eq_map]

theorem canonical_eq_null_iff {v : Json} : v.canonical = .null ↔ v = .null := by
  cases v <;> simp [canonical]

theorem insertMember_perm {key : String} {members : List (String × Json)}
    (h : key ∉ members.map (·.1)) (value : Json) :
    (insertMember key value members).Perm ((key, value) :: members) := by
  induction members with
  | nil => exact .refl _
  | cons m members ih =>
    obtain ⟨k, v⟩ := m
    rw [List.map_cons, List.mem_cons, not_or] at h
    rw [insertMember, if_neg h.1]
    split
    · exact .refl _
    · exact ((ih h.2).cons (k, v)).trans (.swap _ _ _)

theorem sortMembers_perm {members : List (String × Json)} (h : (members.map (·.1)).Nodup) :
    (sortMembers members).Perm members := by
  -- told of a sorted part and the members still to be put into it
  have hfold : ∀ sorted : List (String × Json), ((members ++ sorted).map (·.1)).Nodup →
      (members.foldl (fun sorted m => insertMember m.1 m.2 sorted) sorted).Perm
        (members ++ sorted) := by
    clear h
    induction members with
    | nil => exact fun sorted _ => .refl _
    | cons m members ih =>
      intro sorted h
      rw [List.cons_append, List.map_cons, List.nodup_cons] at h
      have hm : m.1 ∉ sorted.map (·.1) := fun hm => h.1 (by simp_all)
      have hinsert := insertMember_perm hm m.2
      have hmiddle : (members ++ insertMember m.1 m.2 sorted).Perm (m :: (members ++ sorted)) :=
        (hinsert.append_left members).trans List.perm_middle
      refine (ih _ ?_).trans hmiddle
      exact (hmiddle.map (·.1)).nodup_iff.mpr (List.nodup_cons.mpr h)
  rw [← List.append_nil members] at h
  exact (hfold [] h).trans (by rw [List.append_nil])

theorem valuesUnder_perm {keys : List String} {members members' : List (String × Json)}
    (h : members.Perm members') : (valuesUnder keys members).Perm (valuesUnder keys members') :=
  (h.filter _).map _

theorem valuesUnder_map (keys : List String) (f : Json → Json) (members : List (String × Json)) :
    valuesUnder keys (members.map fun m => (m.1, f m.2)) = (valuesUnder keys members).map f := by
  simp [valuesUnder, List.filter_map, Function.comp_def]

theorem mem_of_mem_valuesUnder {keys : List String} {members : List (String × Json)} {v : Json}
    (h : v ∈ valuesUnder keys members) : ∃ key, (key, v) ∈ members := by
  obtain ⟨⟨key, v⟩, hm, rfl⟩ := List.mem_map.mp h
  exact ⟨key, (List.mem_filter.mp hm).1⟩

section insert

variable {keys : List String} {key : String} {members : List (String × Json)}

theorem valuesUnder_insertMember_of_notMem (hkey : key ∉ keys) (value : Json) :
    valuesUnder keys (insertMember key value members) = valuesUnder keys members := by
  induction members with
  | nil => exact valuesUnder_cons_of_notMem hkey []
  | cons m members ih =>
    obtain ⟨k, v⟩ := m
    rw [insertMember]
    split
    · next heq =>
      subst heq
      rw [valuesUnder_cons_of_notMem hkey, valuesUnder_cons_of_notMem hkey]
    split
    · exact valuesUnder_cons_of_notMem hkey _
    · by_cases hk : k ∈ keys
      · rw [valuesUnder_cons_of_mem hk, valuesUnder_cons_of_mem hk, ih]
      · rw [valuesUnder_cons_of_notMem hk, valuesUnder_cons_of_notMem hk, ih]

theorem valuesUnder_insertMember_of_mem (hkey : key ∈ keys) (value : Json)
    (hnone : valuesUnder keys members = []) :
    valuesUnder keys (insertMember key value members) = [value] := by
  induction members with
  | nil => exact valuesUnder_cons_of_mem hkey []
  | cons m members ih =>
    obtain ⟨k, v⟩ := m
    have hk : k ∉ keys := by
      intro hk
      rw [valuesUnder_cons_of_mem hk] at hnone
      cases hnone
    have hrest : valuesUnder keys members = [] := by
      rwa [valuesUnder_cons_of_notMem hk] at hnone
    rw [insertMember, if_neg fun heq : key = k => hk (heq ▸ hkey)]
    split
    · rw [valuesUnder_cons_of_mem hkey, hnone]
    · rw [valuesUnder_cons_of_notMem hk, ih hrest]

/-- Sorting keeps a value that no other one is given beside, whatever else is given twice. -/
theorem valuesUnder_sortMembers (h : (valuesUnder keys members).length ≤ 1) :
    valuesUnder keys (sortMembers members) = valuesUnder keys members := by
  -- told of a sorted part and the members still to be put into it
  have hfold : ∀ sorted : List (String × Json),
      (valuesUnder keys sorted ++ valuesUnder keys members).length ≤ 1 →
      valuesUnder keys (members.foldl (fun sorted m => insertMember m.1 m.2 sorted) sorted) =
        valuesUnder keys sorted ++ valuesUnder keys members := by
    clear h
    induction members with
    | nil => simp
    | cons m members ih =>
      intro sorted h
      by_cases hm : m.1 ∈ keys
      · rw [valuesUnder_cons_of_mem hm] at h ⊢
        simp only [List.length_append, List.length_cons] at h
        have hnone : valuesUnder keys sorted = [] := List.eq_nil_of_length_eq_zero (by omega)
        have hrest : valuesUnder keys members = [] := List.eq_nil_of_length_eq_zero (by omega)
        have hinsert := valuesUnder_insertMember_of_mem hm m.2 hnone
        rw [List.foldl_cons, ih _ (by simp [hinsert, hrest]), hinsert, hnone]
        rfl
      · have hinsert : valuesUnder keys (insertMember m.1 m.2 sorted) = valuesUnder keys sorted :=
          valuesUnder_insertMember_of_notMem hm m.2
        rw [valuesUnder_cons_of_notMem hm] at h ⊢
        rw [List.foldl_cons, ih _ (by rwa [hinsert]), hinsert]
  exact hfold [] h

end insert

/-! ## Reading -/

/-- Values are read alike before and after their members are sorted. -/
def OrderBlind {α : Type} (read : Json → Except Mismatch α) : Prop :=
  ∀ v, v.DistinctKeys → (read v.canonical).toOption = (read v).toOption

section reading

variable {α β : Type} {read : Json → Except Mismatch α}

theorem orderBlind_asString : OrderBlind asString := by
  intro v _
  cases v <;> rfl

theorem orderBlind_asWord : OrderBlind asWord := by
  intro v _
  cases v <;> rfl

theorem orderBlind_asReal : OrderBlind asReal := by
  intro v _
  cases v <;> rfl

theorem OrderBlind.asOptional (h : OrderBlind read) : OrderBlind (asOptional read) := by
  intro v hv
  by_cases hn : v = .null
  · rw [hn]
    rfl
  · rw [asOptional_of_ne_null read hn,
      asOptional_of_ne_null read (canonical_eq_null_iff.not.mpr hn), toOption_map, toOption_map,
      h v hv]

theorem OrderBlind.mapM (h : OrderBlind read) {items : List Json}
    (hi : ∀ v ∈ items, v.DistinctKeys) :
    ((items.map canonical).mapM read).toOption = (items.mapM read).toOption := by
  induction items with
  | nil => rfl
  | cons v items ih =>
    obtain ⟨hv, hi⟩ := List.forall_mem_cons.mp hi
    simp only [List.map_cons, List.mapM_cons, toOption_bind, h v hv, ih hi]

theorem OrderBlind.asList (h : OrderBlind read) : OrderBlind (asList read) := by
  intro v hv
  cases v with
  | arr items =>
    rw [canonical_arr]
    exact h.mapM (distinctKeysItems_iff.mp hv)
  | _ => rfl

theorem OrderBlind.reading (h : OrderBlind read) (name : String) (spellings : List String)
    (required : Bool) (part : Part β α) (record : β) :
    OrderBlind fun v => (reading name spellings required read part).put v record := by
  intro v hv
  simp only [Json.reading, toOption_map, h v hv]

theorem settle_perm {f : Field α} {values values' : List Json} (h : values.Perm values')
    (record : α) : f.settle [] values record = f.settle [] values' record := by
  have hlength := h.length_eq
  match values, values' with
  | [], [] => rfl
  | [v], [w] => rw [List.singleton_perm_singleton.mp h]
  | _ :: _ :: _, _ :: _ :: _ => rfl

theorem settle_canonical {f : Field α} (hf : ∀ record, OrderBlind (f.put · record))
    {values : List Json} (hv : ∀ v ∈ values, v.DistinctKeys) (record : α) :
    f.settle [] (values.map canonical) record = f.settle [] values record := by
  match values with
  | [] => rfl
  | [v] =>
    simp only [List.map_cons, List.map_nil, Field.settle]
    rw [hf record v (hv v (by simp))]
  | _ :: _ :: _ => rfl

theorem Shape.ofMembers_sorted {shape : Shape α} (lawful : shape.Lawful)
    (hput : ∀ f ∈ shape.fields, ∀ record, OrderBlind (f.put · record))
    {members sorted : List (String × Json)} (hm : ∀ m ∈ members, m.2.DistinctKeys)
    (hsorted : sorted.Perm (members.map fun m => (m.1, m.2.canonical))) :
    (shape.ofMembers sorted).toOption = (shape.ofMembers members).toOption := by
  rw [ofMembers_toOption lawful, ofMembers_toOption lawful]
  refine gather_congr (fun f hf record => ?_) _
  rw [settle_perm (valuesUnder_perm hsorted), valuesUnder_map]
  refine settle_canonical (hput f hf) (fun v hv => ?_) record
  obtain ⟨key, hkey⟩ := mem_of_mem_valuesUnder hv
  exact hm (key, v) hkey

theorem sorted_perm {members : List (String × Json)} (h : (obj members).DistinctKeys) :
    (sortMembers (members.map fun m => (m.1, m.2.canonical))).Perm
      (members.map fun m => (m.1, m.2.canonical)) := by
  refine sortMembers_perm ?_
  rw [List.map_map]
  exact h.1

theorem Shape.orderBlind_decode {shape : Shape α} (lawful : shape.Lawful)
    (hput : ∀ f ∈ shape.fields, ∀ record, OrderBlind (f.put · record)) :
    OrderBlind shape.decode := by
  intro v hv
  cases v with
  | obj members =>
    rw [canonical_obj]
    exact ofMembers_sorted lawful hput (distinctKeysMembers_iff.mp hv.2) (sorted_perm hv)
  | arr items =>
    rw [canonical_arr, decode, decode, ofItems_toOption lawful, ofItems_toOption lawful,
      List.length_map]
    congr 1
    refine ofMembers_sorted lawful hput ?_ (.of_eq ?_)
    · intro m hm
      exact distinctKeysItems_iff.mp hv m.2 (List.of_mem_zip hm).2
    · simp [membersOf, List.zip_map_right, Prod.map]
  | _ => rfl

end reading

/-! ## Decoding texts -/

theorem decodeStraight_toOption {α : Type} (read : Json → Except Mismatch α) (text : String) :
    (decodeStraight read text).toOption =
      (parse text).toOption.bind fun v => (read v).toOption := by
  simp only [decodeStraight, parse, toOption_bind, toOption_mapError, Option.bind_assoc,
    toOption_pure, Option.bind_some]
  congr 1
  funext ⟨v, rest⟩
  -- it makes no difference here which of the two is found wanting first
  cases readEnd rest <;> cases read v <;> rfl

theorem decodeStraight_eq_ok_iff {α : Type} {read : Json → Except Mismatch α} {text : String}
    {a : α} : decodeStraight read text = .ok a ↔ ∃ v, parse text = .ok v ∧ read v = .ok a := by
  rw [← toOption_eq_some_iff, decodeStraight_toOption]
  simp only [Option.bind_eq_some_iff, toOption_eq_some_iff]

theorem decodeSorted_toOption {α : Type} (read : Json → Except Mismatch α) (text : String) :
    (decodeSorted read text).toOption =
      (parse text).toOption.bind fun v =>
        v.opened?.bind fun opened => (read opened.canonical).toOption := by
  simp only [decodeSorted, toOption_bind, toOption_mapError, parseOpened_toOption,
    Option.bind_assoc]

/-- A reader that does not notice the sorting decodes a text that embeds no other alike in both
ways. -/
theorem OrderBlind.decode_text {α : Type} {read : Json → Except Mismatch α} (h : OrderBlind read)
    {text : String} (hkeys : ∀ v, parse text = .ok v → v.DistinctKeys)
    (hplain : ∀ v, parse text = .ok v → v.Plain) :
    (decodeStraight read text).toOption = (decodeSorted read text).toOption := by
  rw [decodeStraight_toOption, decodeSorted_toOption]
  cases hparse : parse text with
  | error fault => rfl
  | ok v =>
    dsimp only [Except.toOption, Option.bind_some]
    rw [opened?_of_plain (hplain v hparse), Option.bind_some]
    exact (h v (hkeys v hparse)).symm

end FeedExplorer.Json
