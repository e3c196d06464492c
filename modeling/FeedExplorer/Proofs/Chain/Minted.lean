import FeedExplorer.Proofs.Chain.Agreement

/-!
# Minted blocks

The shapes in which a minted block is told: its record, or an object around it. Main statement: a
value in one of these shapes is read as the block that the record is read as, as it stands or with
its members sorted.
-/

namespace FeedExplorer.Chain

open Json

/-- The value is an object around another, which stands under the name of a block. Beside it there
is a message, nothing or some words, or none; all other members are free. -/
def Encloses (w j : Json) : Prop :=
  ∃ members, w = .obj members ∧ valuesUnder ["block"] members = [j] ∧
    Omissible (NullOr IsString) (valuesUnder ["message"] members)

/-- The value has no member with the name of a block. -/
def IsBare (j : Json) : Prop :=
  ∀ members, j = .obj members → valuesUnder ["block"] members = []

/-- A reply that holds the record of a block. -/
def Presents (w j : Json) : Prop :=
  Encloses w j ∨ w = j ∧ IsBare j

section shapes

variable {v w j : Json} {b : Block}

theorem mintedShape_ofMembers (members : List (String × Json)) :
    (mintedShape.ofMembers members).toOption = do
      let block ← one Block.ofJson (valuesUnder ["block"] members)
      let note ← oneOr none (asOptional asString) (valuesUnder ["message"] members)
      return { block, note } := by
  rw [Shape.ofMembers_toOption lawful_mintedShape, mintedShape_fields]
  simp only [gather, settle_reading, Option.bind_map, Function.comp_def, if_true,
    Bool.false_eq_true, if_false]
  rfl

theorem exists_note_iff {values : List Json} :
    (∃ note, oneOr none (asOptional asString) values = some note) ↔
      Omissible (NullOr IsString) values := by
  simp only [reads_optionalString.oneOr]
  exact covers_string.nullOr.omissible

theorem mintedInside_eq_ok_iff :
    mintedInside v = .ok b ↔ ∃ j, Encloses v j ∧ Block.ofJson j = .ok b := by
  cases v with
  | obj members =>
    rw [← toOption_eq_some_iff, mintedInside, toOption_map, mintedShape_ofMembers]
    simp only [Encloses, Json.obj.injEq, ← exists_note_iff]
    constructor
    · intro h
      obtain ⟨m, hm, rfl⟩ := Option.map_eq_some_iff.mp h
      obtain ⟨block, hblock, hm⟩ := Option.bind_eq_some_iff.mp hm
      obtain ⟨note, hnote, hm⟩ := Option.bind_eq_some_iff.mp hm
      obtain rfl := Option.some.inj hm
      obtain ⟨j, hj, htells⟩ := Block.reads_ofJson.one.mp hblock
      exact ⟨j, ⟨members, rfl, hj, note, hnote⟩, (Block.reads_ofJson j block).mpr htells⟩
    · rintro ⟨j, ⟨_, rfl, hj, note, hnote⟩, hb⟩
      have hblock : one Block.ofJson (valuesUnder ["block"] members) = some b :=
        Block.reads_ofJson.one.mpr ⟨j, hj, (Block.reads_ofJson j b).mp hb⟩
      rw [hblock, hnote]
      rfl
  | _ => simp [mintedInside, Encloses]

/-- The object around a block is tried first. -/
theorem mintedBlock_eq_ok_iff :
    mintedBlock v = .ok b ↔ mintedInside v = .ok b ∨
      (∀ c, mintedInside v ≠ .ok c) ∧ Block.ofJson v = .ok b := by
  rw [← toOption_eq_some_iff, mintedBlock_toOption]
  cases hinside : mintedInside v with
  | ok c => simp
  | error m => simp [toOption_eq_some_iff]

theorem mintedBlock_of_isBare (hbare : IsBare j) (hj : Block.ofJson j = .ok b) :
    mintedBlock j = .ok b := by
  refine mintedBlock_eq_ok_iff.mpr (.inr ⟨fun c hc => ?_, hj⟩)
  obtain ⟨_, ⟨members, hmembers, hblock, -⟩, -⟩ := mintedInside_eq_ok_iff.mp hc
  rw [hbare members hmembers] at hblock
  cases hblock

/-- Members beside the block may well be given twice. -/
theorem Encloses.canonical (h : Encloses w j) : Encloses w.canonical j.canonical := by
  obtain ⟨members, rfl, hblock, hmessage⟩ := h
  have hsorted {keys : List String} (hkeys : (valuesUnder keys members).length ≤ 1) :
      valuesUnder keys (sortMembers (members.map fun m => (m.1, m.2.canonical))) =
        (valuesUnder keys members).map Json.canonical := by
    rw [valuesUnder_sortMembers, valuesUnder_map]
    rwa [valuesUnder_map, List.length_map]
  refine ⟨_, canonical_obj members, ?_, ?_⟩
  · rw [hsorted (by rw [hblock]; rfl), hblock]
    rfl
  · rcases hmessage with hnone | ⟨m, hm, hkind⟩
    · rw [hsorted (by rw [hnone]; exact Nat.zero_le 1), hnone]
      exact .inl rfl
    · rw [hsorted (by rw [hm]; rfl), hm]
      refine .inr ⟨m.canonical, rfl, ?_⟩
      rcases hkind with rfl | ⟨s, rfl⟩
      · exact .inl rfl
      · exact .inr ⟨s, rfl⟩

theorem IsBare.canonical (h : IsBare j) : IsBare j.canonical := by
  intro sorted hsorted
  cases j with
  | obj members =>
    rw [canonical_obj] at hsorted
    obtain rfl := Json.obj.inj hsorted
    have hnone : valuesUnder ["block"] (members.map fun m => (m.1, m.2.canonical)) = [] := by
      rw [valuesUnder_map, h members rfl]
      rfl
    rw [valuesUnder_sortMembers (by rw [hnone]; exact Nat.zero_le 1), hnone]
  | arr items =>
    rw [canonical_arr] at hsorted
    cases hsorted
  | _ => cases hsorted

theorem Presents.canonical (h : Presents w j) : Presents w.canonical j.canonical := by
  rcases h with h | ⟨rfl, hbare⟩
  · exact .inl h.canonical
  · exact .inr ⟨rfl, hbare.canonical⟩

end shapes

end FeedExplorer.Chain
