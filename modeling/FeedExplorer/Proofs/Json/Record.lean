import FeedExplorer.Json.Shape
import Mathlib.Data.List.Basic

/-!
# Records told field by field

An object is put into a record member by member, in the order in which the members stand, and a
list item by item. Main statements: for a shape whose fields do not meet, the record that comes
out of an object is told by what stands under the spellings of each field, whatever the order, and
a list reads as the object in which the names of the fields stand before the items.
-/

namespace FeedExplorer.Json

section toOption

variable {ε α β : Type}

@[simp] theorem toOption_ok (a : α) : (.ok a : Except ε α).toOption = some a := rfl

@[simp] theorem toOption_pure (a : α) : (pure a : Except ε α).toOption = some a := rfl

@[simp] theorem throw_eq (e : ε) : (throw e : Except ε α) = .error e := rfl

@[simp] theorem toOption_error (e : ε) : (.error e : Except ε α).toOption = none := rfl

theorem toOption_bind (x : Except ε α) (f : α → Except ε β) :
    (x >>= f).toOption = x.toOption.bind fun a => (f a).toOption := by
  cases x <;> rfl

theorem toOption_map (f : α → β) (x : Except ε α) : (x.map f).toOption = x.toOption.map f := by
  cases x <;> rfl

theorem toOption_mapError {ε' : Type} (f : ε → ε') (x : Except ε α) :
    (x.mapError f).toOption = x.toOption := by
  cases x <;> rfl

@[simp] theorem ok_bind (a : α) (f : α → Except ε β) : (.ok a : Except ε α) >>= f = f a := rfl

@[simp] theorem error_bind (e : ε) (f : α → Except ε β) :
    (.error e : Except ε α) >>= f = .error e := rfl

theorem bind_eq_ok_iff {x : Except ε α} {f : α → Except ε β} {b : β} :
    x >>= f = .ok b ↔ ∃ a, x = .ok a ∧ f a = .ok b := by
  cases x <;> simp

theorem toOption_eq_some_iff {x : Except ε α} {a : α} : x.toOption = some a ↔ x = .ok a := by
  cases x <;> simp

end toOption

/-- The values under some keys, in the order in which they stand. -/
def valuesUnder (keys : List String) (members : List (String × Json)) : List Json :=
  (members.filter fun m => keys.contains m.1).map (·.2)

/-- The members of a record: those of an object, or the items of a list, each under the name at its
place. A list may stop before the names do, not after. -/
def asMembers (names : List String) : Json → Option (List (String × Json))
  | .obj members => some members
  | .arr items => if items.length ≤ names.length then some (names.zip items) else none
  | _ => none

@[simp] theorem valuesUnder_nil (keys : List String) : valuesUnder keys [] = [] := rfl

theorem valuesUnder_cons_of_mem {keys : List String} {m : String × Json} (h : m.1 ∈ keys)
    (members : List (String × Json)) :
    valuesUnder keys (m :: members) = m.2 :: valuesUnder keys members := by
  simp [valuesUnder, h]

theorem valuesUnder_cons_of_notMem {keys : List String} {m : String × Json} (h : m.1 ∉ keys)
    (members : List (String × Json)) :
    valuesUnder keys (m :: members) = valuesUnder keys members := by
  simp [valuesUnder, h]

theorem valuesUnder_append (keys : List String) (before after : List (String × Json)) :
    valuesUnder keys (before ++ after) = valuesUnder keys before ++ valuesUnder keys after := by
  simp [valuesUnder]

namespace Field

variable {α : Type} {f g : Field α}

/-- The keys that mean the field. -/
def keys (f : Field α) : List String :=
  f.name :: f.spellings

theorem answers_iff {key : String} : f.answers key = true ↔ key ∈ f.keys := by
  simp [answers, keys]

/-- The record with the field as its values tell, when the names in `seen` have been met before. A
field that is not given stays as it is. -/
def settle (f : Field α) (seen : List String) (values : List Json) (record : α) : Option α :=
  match values with
  | [] => if f.required && !seen.contains f.name then none else some record
  | [v] => if seen.contains f.name then none else (f.put v record).toOption
  | _ => none

/-- No key means both fields, and it does not matter which of them is put first. -/
structure Apart (f g : Field α) : Prop where
  keys : ∀ key ∈ f.keys, key ∉ g.keys
  puts : ∀ v w record,
    ((f.put v record).toOption.bind fun r => (g.put w r).toOption) =
      (g.put w record).toOption.bind fun r => (f.put v r).toOption

theorem Apart.name_ne (h : f.Apart g) : f.name ≠ g.name := fun he =>
  h.keys f.name (by simp [Field.keys]) (by simp [Field.keys, he])

theorem settle_of_seen {seen : List String} (h : f.name ∈ seen) (v : Json) (values : List Json)
    (record : α) : f.settle seen (v :: values) record = none := by
  cases values <;> simp [settle, h]

/-- A value taken now is one not met later. -/
theorem settle_cons {seen : List String} (h : f.name ∉ seen) (v : Json) (values : List Json)
    (record : α) :
    f.settle seen (v :: values) record =
      (f.put v record).toOption.bind (f.settle (f.name :: seen) values) := by
  cases values with
  | nil =>
    have hsome : f.settle (f.name :: seen) [] = some := by
      funext r
      simp [settle]
    rw [hsome, Option.bind_fun_some]
    simp [settle, h]
  | cons w values =>
    have hnone : f.settle (f.name :: seen) (w :: values) = fun _ => none :=
      funext fun r => settle_of_seen (by simp) w values r
    rw [hnone, Option.bind_fun_none]
    rfl

theorem settle_seen_cons {name : String} (h : f.name ≠ name) (seen : List String)
    (values : List Json) (record : α) :
    f.settle (name :: seen) values record = f.settle seen values record := by
  cases values <;> simp [settle, h]

theorem Apart.put_settle (h : f.Apart g) (seen : List String) (values : List Json) (w : Json)
    (record : α) :
    ((f.settle seen values record).bind fun r => (g.put w r).toOption) =
      (g.put w record).toOption.bind (f.settle seen values) := by
  unfold settle
  split
  · split
    · simp
    · simp
  · split
    · simp
    · exact h.puts _ _ _
  · simp

end Field

/-- The record that comes of settling some fields one after another. -/
def gather {α : Type} (seen : List String) (members : List (String × Json)) :
    List (Field α) → α → Option α
  | [], record => some record
  | f :: fields, record =>
    (f.settle seen (valuesUnder f.keys members) record).bind (gather seen members fields)

section gather

variable {α : Type} {seen seen' : List String} {members members' : List (String × Json)}

theorem gather_congr {fields : List (Field α)}
    (h : ∀ f ∈ fields, ∀ record, f.settle seen (valuesUnder f.keys members) record =
      f.settle seen' (valuesUnder f.keys members') record) (record : α) :
    gather seen members fields record = gather seen' members' fields record := by
  induction fields generalizing record with
  | nil => rfl
  | cons f fields ih =>
    have ih : gather seen members fields = gather seen' members' fields :=
      funext (ih fun g hg => h g (List.mem_cons_of_mem f hg))
    rw [gather, gather, h f List.mem_cons_self, ih]

theorem gather_eq_none {fields : List (Field α)} {f : Field α} (hf : f ∈ fields)
    (h : ∀ record, f.settle seen (valuesUnder f.keys members) record = none) (record : α) :
    gather seen members fields record = none := by
  induction fields generalizing record with
  | nil => exact absurd hf List.not_mem_nil
  | cons g fields ih =>
    rcases List.mem_cons.mp hf with rfl | hf
    · rw [gather, h, Option.bind_none]
    · rw [gather, funext (ih hf), Option.bind_fun_none]

/-- Fields of which nothing is given stay as they are, unless one of them is required. -/
theorem gather_nil (fields : List (Field α)) (record : α) :
    gather seen [] fields record =
      match fields.find? fun f => f.required && !seen.contains f.name with
      | some _ => none
      | none => some record := by
  induction fields with
  | nil => rfl
  | cons f fields ih =>
    rw [gather, valuesUnder_nil, Field.settle, List.find?_cons]
    cases f.required && !seen.contains f.name with
    | true => rfl
    | false => exact ih

/-- The first member of an object can be put into its field before all else. -/
theorem gather_cons {fields : List (Field α)} (apart : fields.Pairwise Field.Apart) {f : Field α}
    (hf : f ∈ fields) (hseen : f.name ∉ seen) {key : String} (hkey : key ∈ f.keys) (v : Json)
    (record : α) :
    gather seen ((key, v) :: members) fields record =
      (f.put v record).toOption.bind (gather (f.name :: seen) members fields) := by
  induction fields generalizing record with
  | nil => exact absurd hf List.not_mem_nil
  | cons g fields ih =>
    obtain ⟨hg, apart⟩ := List.pairwise_cons.mp apart
    rcases List.mem_cons.mp hf with rfl | hf
    · -- the other fields do not notice the member
      have hrest : gather seen ((key, v) :: members) fields =
          gather (f.name :: seen) members fields := by
        refine funext (gather_congr fun h hh r => ?_)
        rw [valuesUnder_cons_of_notMem ((hg h hh).keys key hkey),
          Field.settle_seen_cons (hg h hh).name_ne.symm]
      rw [gather, valuesUnder_cons_of_mem hkey, Field.settle_cons hseen, hrest, Option.bind_assoc]
      rfl
    · have hgf := hg f hf
      have hnot : key ∉ g.keys := fun h => hgf.keys key h hkey
      have hsettle : g.settle (f.name :: seen) (valuesUnder g.keys members) =
          g.settle seen (valuesUnder g.keys members) :=
        funext (Field.settle_seen_cons hgf.name_ne seen _)
      rw [gather, valuesUnder_cons_of_notMem hnot, funext (ih apart hf), ← Option.bind_assoc,
        hgf.put_settle, Option.bind_assoc]
      simp only [gather, hsettle]

end gather

namespace Shape

variable {α : Type} {shape : Shape α}

/-- The fields of the shape do not meet. -/
def Lawful (shape : Shape α) : Prop :=
  shape.fields.Pairwise Field.Apart

/-- What `fill` leads to, once it has been seen that no required field is missing. -/
def finish (shape : Shape α) (filled : List String × α) : Except Mismatch α :=
  match shape.missing? filled.1 with
  | some name => .error (.missingField name)
  | none => .ok filled.2

theorem finish_toOption (seen : List String) (record : α) :
    (shape.finish (seen, record)).toOption = gather seen [] shape.fields record := by
  rw [gather_nil, finish, missing?]
  cases shape.fields.find? fun f => f.required && !seen.contains f.name <;> rfl

theorem fill_toOption (lawful : shape.Lawful) (members : List (String × Json))
    (seen : List String) (record : α) :
    (shape.fill members seen record >>= shape.finish).toOption =
      gather seen members shape.fields record := by
  induction members generalizing seen record with
  | nil => exact finish_toOption seen record
  | cons m members ih =>
    obtain ⟨key, v⟩ := m
    rw [fill]
    cases hfield : shape.field? key with
    | none =>
      rw [ih]
      refine gather_congr (fun f hf r => ?_) record
      have hkey : key ∉ f.keys := by
        rw [← Field.answers_iff]
        exact List.find?_eq_none.mp hfield f hf
      rw [valuesUnder_cons_of_notMem hkey]
    | some f =>
      have hf : f ∈ shape.fields := List.mem_of_find?_eq_some hfield
      have hkey : key ∈ f.keys := by
        have hfind : shape.fields.find? (fun f => f.answers key) = some f := hfield
        simpa [Field.answers_iff] using List.find?_some hfind
      by_cases hseen : f.name ∈ seen
      · rw [gather_eq_none hf fun r => by
          rw [valuesUnder_cons_of_mem hkey, Field.settle_of_seen hseen]]
        simp only [List.contains_eq_mem, hseen, decide_true, if_true]
        rfl
      · rw [gather_cons lawful hf hseen hkey]
        simp only [List.contains_eq_mem, hseen, decide_false, Bool.false_eq_true, if_false]
        cases hput : f.put v record with
        | error m => rfl
        | ok r => exact ih (f.name :: seen) r

/-- The record of an object is told by the values under each field's spellings. -/
theorem ofMembers_toOption (lawful : shape.Lawful) (members : List (String × Json)) :
    (shape.ofMembers members).toOption = gather [] members shape.fields shape.blank :=
  fill_toOption lawful members [] shape.blank

/-- The members that items stand for: the names of fields before them, in order. -/
def membersOf (fields : List (Field α)) (items : List Json) : List (String × Json) :=
  (fields.map (·.name)).zip items

theorem valuesUnder_membersOf {f : Field α} {fields : List (Field α)}
    (apart : ∀ g ∈ fields, f.Apart g) (items : List Json) :
    valuesUnder f.keys (membersOf fields items) = [] := by
  simp only [valuesUnder, List.map_eq_nil_iff, List.filter_eq_nil_iff]
  rintro ⟨key, v⟩ hm
  obtain ⟨g, hg, rfl⟩ := List.mem_map.mp (List.of_mem_zip hm).1
  simpa using fun h => (apart g hg).keys _ h (by simp [Field.keys])

theorem fillInOrder_toOption {fields : List (Field α)} (apart : fields.Pairwise Field.Apart)
    (length place : Nat) (items : List Json) (record : α) :
    (shape.fillInOrder length fields place items record).toOption =
      if items.length ≤ fields.length then gather [] (membersOf fields items) fields record
      else none := by
  induction fields generalizing place items record with
  | nil => cases items <;> simp [fillInOrder, gather, Except.toOption]
  | cons f fields ih =>
    obtain ⟨hf, apart⟩ := List.pairwise_cons.mp apart
    cases items with
    | nil =>
      simp only [fillInOrder, membersOf, List.zip_nil_right, gather_nil]
      cases hr : f.required with
      | false =>
        simp only [Bool.false_eq_true, if_false, ih apart, membersOf, List.zip_nil_right,
          gather_nil]
        simp [hr]
      | true => simp [hr, Except.toOption]
    | cons item items =>
      -- the item is met by its own field alone
      have hrest : gather [] (membersOf (f :: fields) (item :: items)) fields =
          gather [] (membersOf fields items) fields := by
        refine funext (gather_congr fun g hg r => ?_)
        rw [membersOf, List.map_cons, List.zip_cons_cons, valuesUnder_cons_of_notMem
          ((hf g hg).keys f.name (by simp [Field.keys]))]
        rfl
      have hvalues : valuesUnder f.keys (membersOf (f :: fields) (item :: items)) = [item] := by
        rw [membersOf, List.map_cons, List.zip_cons_cons,
          valuesUnder_cons_of_mem (by simp [Field.keys])]
        exact congrArg (item :: ·) (valuesUnder_membersOf hf items)
      rw [fillInOrder, gather, hvalues, hrest, Field.settle]
      cases hput : f.put item record with
      | error m =>
        rw [toOption_bind]
        simp
      | ok r =>
        rw [toOption_bind]
        simpa using ih apart (place + 1) items r

/-- A list is read as the object in which each item stands under the name of its field. -/
theorem ofItems_toOption (lawful : shape.Lawful) (items : List Json) :
    (shape.ofItems items).toOption =
      if items.length ≤ shape.fields.length then
        (shape.ofMembers (membersOf shape.fields items)).toOption
      else none := by
  rw [ofMembers_toOption lawful]
  exact fillInOrder_toOption lawful items.length 0 items shape.blank

theorem decode_toOption (lawful : shape.Lawful) (v : Json) :
    (shape.decode v).toOption =
      (v.asMembers (shape.fields.map (·.name))).bind fun members =>
        (shape.ofMembers members).toOption := by
  cases v with
  | obj members => rfl
  | arr items =>
    rw [decode, ofItems_toOption lawful, asMembers, List.length_map]
    split <;> rfl
  | _ => rfl

end Shape

end FeedExplorer.Json
