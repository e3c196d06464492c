import FeedExplorer.Proofs.Json.Reading
import FeedExplorer.Proofs.Json.Record

/-!
# Records read member by member

A record can be filled from the text of an object while the text is gone through, without the
object being built. Main statement: a loop that treats each member as the shape of the record does
gives the record that the shape makes of the object.
-/

namespace FeedExplorer.Json

section loop

variable {S α : Type} {shape : Shape α}

/-- The names met and the record after one more member. -/
def takeMember (shape : Shape α) (key : String) (v : Json) (names : List String) (record : α) :
    Option (List String × α) :=
  match shape.field? key with
  | none => some (names, record)
  | some f =>
    if f.name ∈ names then none
    else (f.put v record).toOption.map fun r => (f.name :: names, r)

theorem takeMember_reading {β : Type} {key : String} {required : Bool}
    {read : Json → Except Mismatch β} {part : Part α β}
    (hkey : shape.field? key = some (reading key [] required read part)) (v : Json)
    (names : List String) (record : α) :
    takeMember shape key v names record =
      if key ∈ names then none
      else (read v).toOption.map fun b => (key :: names, part.set b record) := by
  simp [takeMember, hkey, reading, toOption_map, Option.map_map, Function.comp_def]

theorem fill_cons_toOption (key : String) (v : Json) (members : List (String × Json))
    (names : List String) (record : α) :
    (shape.fill ((key, v) :: members) names record).toOption =
      (takeMember shape key v names record).bind fun taken =>
        (shape.fill members taken.1 taken.2).toOption := by
  rw [Shape.fill, takeMember]
  cases shape.field? key with
  | none => rfl
  | some f =>
    by_cases hseen : f.name ∈ names
    · simp [hseen]
    · simp only [hseen, List.contains_eq_mem, decide_false, Bool.false_eq_true, if_false,
        toOption_bind, Option.bind_map]
      rfl

/-- The record takes from a member what a loop does, which goes on with it; or both refuse it. -/
def InStep (look : S → α) (noted : S → List String → Prop) (taken : Option (List String × α))
    (ran : Except Fault (S × List Char)) (goOn : S → Except Fault (S × List Char)) : Prop :=
  (taken = none ∧ ran.toOption = none) ∨
    ∃ seen names, taken = some (names, look seen) ∧ noted seen names ∧ ran = goOn seen

/-- A loop is in step over a field when it refuses a member met before, and otherwise reads the
value of the field from the text. What it reads leads to what it has seen then, and where. -/
theorem inStep_reading {β γ : Type} {key : String} {required met : Bool}
    {value : Json → Except Mismatch β} {part : Part α β}
    {look : S → α} {noted : S → List String → Prop} {seen : S} {names : List String}
    {v : Json} {fault : Fault} {behind body rest : List Char}
    (goOn : S → List Char → Except Fault (S × List Char)) (read : List Char → Except Fault γ)
    (arrived : γ → S × List Char)
    (hkey : shape.field? key = some (reading key [] required value part))
    (hmet : key ∈ names ↔ met = true) (hcolon : readColon behind = .ok body)
    (hread : ((read body).toOption.map fun c => (look (arrived c).1, (arrived c).2)) =
      (value v).toOption.map fun b => (part.set b (look seen), rest))
    (hnoted : ∀ c, noted (arrived c).1 (key :: names)) :
    InStep look noted (takeMember shape key v names (look seen))
      (if met = true then .error fault
        else readColon behind >>= fun body => read body >>= fun c =>
          goOn (arrived c).1 (arrived c).2)
      (goOn · rest) := by
  rw [takeMember_reading hkey, hcolon, ok_bind]
  by_cases hseen : met = true
  · exact .inl ⟨if_pos (hmet.mpr hseen), by simp [hseen]⟩
  rw [if_neg hseen, if_neg (mt hmet.mp hseen)]
  cases hvalue : value v with
  | error m =>
    rw [hvalue] at hread
    refine .inl ⟨rfl, ?_⟩
    rw [toOption_bind, Option.map_eq_none_iff.mp hread]
    rfl
  | ok b =>
    rw [hvalue] at hread
    obtain ⟨c, hc, harrived⟩ := Option.map_eq_some_iff.mp hread
    obtain ⟨hlook, hrest⟩ := Prod.mk.inj harrived
    refine .inr ⟨(arrived c).1, key :: names, ?_, hnoted c, ?_⟩
    · rw [hlook]
      rfl
    · rw [toOption_eq_some_iff.mp hc, ok_bind, hrest]

/-- A loop that takes the members of an object from its text. What it has seen can be looked at as
a record, and it knows which names it has met. -/
structure Loop (S : Type) (shape : Shape α) where
  run : Nat → Bool → S → List Char → Except Fault (S × List Char)
  look : S → α
  noted : S → List String → Prop
  run_end {cs rest : List Char} (fuel : Nat) (first : Bool) (seen : S)
    (hcs : skipGap cs = '\x7d' :: rest) :
    run (fuel + 1) first seen cs = .ok (seen, '\x7d' :: rest)
  run_member {depth fuel : Nat} {first : Bool} {seen : S} {names : List String} {key : String}
    {v : Json} {cs place behind body rest : List Char} (hdepth : depth ≤ maxDepth)
    (hcs : nextMember first cs = .ok (some place)) (hkey : readKey place = .ok (key, behind))
    (hcolon : readColon behind = .ok body) (hv : Reading depth (.value v) body rest)
    (hseen : noted seen names) :
    InStep look noted (takeMember shape key v names (look seen)) (run (fuel + 1) first seen cs)
      (run fuel false · rest)

/-- A loop over the members of an object fills the record from them. -/
theorem Loop.run_toOption (loop : Loop S shape) {depth fuel : Nat} {first : Bool} {seen : S}
    {names : List String} {members : List (String × Json)} {cs rest : List Char}
    (h : Reading depth (.members first members) cs rest) (hdepth : depth ≤ maxDepth)
    (hfuel : cs.length < fuel) (hseen : loop.noted seen names) :
    ((loop.run fuel first seen cs).toOption.map fun ran => (loop.look ran.1, ran.2)) =
      (shape.fill members names (loop.look seen)).toOption.map fun filled =>
        (filled.2, '\x7d' :: rest) := by
  induction members generalizing fuel first seen names cs with
  | nil =>
    obtain ⟨fuel, rfl⟩ : ∃ n, fuel = n + 1 := ⟨fuel - 1, by omega⟩
    cases h with
    | noMember hcs =>
      rw [loop.run_end fuel first seen hcs]
      rfl
  | cons m members ih =>
    obtain ⟨fuel, rfl⟩ : ∃ n, fuel = n + 1 := ⟨fuel - 1, by omega⟩
    cases h with
    | member hcs hkey hv hmembers =>
      have hplace := hcs.length_le
      have hbody := hkey.length_lt
      have hmiddle := hv.length_lt
      obtain ⟨behind, hkey, hcolon⟩ := hkey
      rw [fill_cons_toOption]
      rcases loop.run_member hdepth (nextMember_eq_some_iff.mpr hcs) hkey hcolon hv hseen with
        ⟨htake, hrun⟩ | ⟨seen', names', htake, hnoted, hrun⟩
      · rw [htake, hrun]
        rfl
      · rw [htake, hrun]
        exact ih hmembers (by omega) hnoted

/-- A record none of whose members is required comes of filling it alone. -/
theorem ofMembers_toOption_of_optional (h : ∀ f ∈ shape.fields, f.required = false)
    (members : List (String × Json)) :
    (shape.ofMembers members).toOption =
      (shape.fill members [] shape.blank).toOption.map (·.2) := by
  have hmissing : ∀ names, shape.missing? names = none := by
    intro names
    rw [Shape.missing?, Option.map_eq_none_iff, List.find?_eq_none]
    intro f hf
    simp [h f hf]
  rw [Shape.ofMembers, toOption_bind]
  cases shape.fill members [] shape.blank with
  | error m => rfl
  | ok filled => simp [hmissing]

/-- From the start of an object, a loop gives the record that the members stand for. -/
theorem Loop.run_object (loop : Loop S shape) {depth : Nat} {seen : S}
    {members : List (String × Json)} {cs rest : List Char}
    (h : Reading depth (.members true members) cs rest) (hdepth : depth ≤ maxDepth)
    (hseen : loop.noted seen []) (hlook : loop.look seen = shape.blank)
    (hrequired : ∀ f ∈ shape.fields, f.required = false) :
    ((loop.run (cs.length + 1) true seen cs).toOption.map fun ran => (loop.look ran.1, ran.2)) =
      (shape.ofMembers members).toOption.map (·, '\x7d' :: rest) := by
  rw [loop.run_toOption h hdepth (Nat.lt_succ_self _) hseen, hlook,
    ofMembers_toOption_of_optional hrequired, Option.map_map]
  rfl

end loop

end FeedExplorer.Json
