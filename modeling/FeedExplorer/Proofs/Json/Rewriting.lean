import FeedExplorer.Proofs.Json.Sorting
import Mathlib.Logic.Relation

/-!
# Rewriting values

A value can be written in several ways that ought to make no difference to its readers: with the
members of an object in another order, with a field under another of its spellings, with members
that nobody asks for or without them. Main statements: readers of records and lists take no notice
of such a rewriting at any depth, and sorting the members of every object is one.
-/

namespace FeedExplorer.Json

/-- What is read by name in a value, and where. -/
inductive Layout where
  /-- Nothing is read by name. -/
  | plain
  /-- Every item of a list in one way. -/
  | listOf (item : Layout)
  /-- Fields, by their spellings in an object or by their places in a list. -/
  | record (fields : List (List String × Layout))
  /-- Objects in one way, lists in another. -/
  | either (object list : Layout)

namespace Layout

/-- The fields that are looked for in an object. -/
def fields : Layout → List (List String × Layout)
  | .record fields => fields
  | .either object _ => object.fields
  | _ => []

/-- The layout of an item of a list, by its place. -/
def place : Layout → Nat → Layout
  | .plain, _ => .plain
  | .listOf item, _ => item
  | .record fields, n => (fields[n]?.map (·.2)).getD .plain
  | .either _ list, n => list.place n

end Layout

/-- One step of rewriting a value that is read by a layout. -/
inductive Rewrite : Layout → Json → Json → Prop where
  | permute {layout : Layout} {members members' : List (String × Json)}
      (h : members.Perm members') : Rewrite layout (.obj members) (.obj members')
  | respell {layout : Layout} {field : List String × Layout} {key key' : String} {v : Json}
      {before after : List (String × Json)} (hfield : field ∈ layout.fields)
      (hkey : key ∈ field.1) (hkey' : key' ∈ field.1) :
      Rewrite layout (.obj (before ++ (key, v) :: after)) (.obj (before ++ (key', v) :: after))
  | extra {layout : Layout} {key : String} {v : Json} {before after : List (String × Json)}
      (hkey : ∀ field ∈ layout.fields, key ∉ field.1) :
      Rewrite layout (.obj (before ++ after)) (.obj (before ++ (key, v) :: after))
  | inField {layout : Layout} {field : List String × Layout} {key : String} {v w : Json}
      {before after : List (String × Json)} (hfield : field ∈ layout.fields)
      (hkey : key ∈ field.1) (h : Rewrite field.2 v w) :
      Rewrite layout (.obj (before ++ (key, v) :: after)) (.obj (before ++ (key, w) :: after))
  | inItem {layout : Layout} {v w : Json} {before after : List Json}
      (h : Rewrite (layout.place before.length) v w) :
      Rewrite layout (.arr (before ++ v :: after)) (.arr (before ++ w :: after))

theorem Rewrite.exists_members {layout : Layout} {members : List (String × Json)} {w : Json}
    (h : Rewrite layout (.obj members) w) : ∃ members', w = .obj members' := by
  cases h <;> exact ⟨_, rfl⟩

/-- The values are one and the same up to rewriting. -/
def Rewritten (layout : Layout) : Json → Json → Prop :=
  Relation.EqvGen (Rewrite layout)

namespace Rewritten

variable {layout : Layout} {v w : Json}

/-- What no single rewriting changes is not changed by many. -/
theorem eq_of_rewrite {α : Type} {f : Json → α} (h : Rewritten layout v w)
    (hf : ∀ v w, Rewrite layout v w → f v = f w) : f v = f w :=
  congrArg (Quot.lift f hf) (Quot.eqvGen_sound h)

/-- A place where one rewriting can be made is one where many can. -/
theorem inPlace {outer : Layout} {place : Json → Json} (h : Rewritten layout v w)
    (hplace : ∀ v w, Rewrite layout v w → Rewrite outer (place v) (place w)) :
    Rewritten outer (place v) (place w) := by
  induction h with
  | rel v w h => exact .rel _ _ (hplace v w h)
  | refl v => exact .refl _
  | symm v w _ ih => exact ih.symm
  | trans v w x _ _ ihv ihw => exact ihv.trans _ _ _ ihw

theorem inField {field : List String × Layout} (hfield : field ∈ layout.fields) {key : String}
    (hkey : key ∈ field.1) (before after : List (String × Json)) (h : Rewritten field.2 v w) :
    Rewritten layout (.obj (before ++ (key, v) :: after)) (.obj (before ++ (key, w) :: after)) :=
  h.inPlace fun _ _ h => .inField hfield hkey h

theorem inItem (before after : List Json) (h : Rewritten (layout.place before.length) v w) :
    Rewritten layout (.arr (before ++ v :: after)) (.arr (before ++ w :: after)) :=
  h.inPlace fun _ _ h => .inItem h

/-- What stands under a key can be rewritten by the layout of every field that the key means; what
nobody asks for can be anything. -/
theorem inMember {key : String}
    (h : ∀ field ∈ layout.fields, key ∈ field.1 → Rewritten field.2 v w)
    (before after : List (String × Json)) :
    Rewritten layout (.obj (before ++ (key, v) :: after)) (.obj (before ++ (key, w) :: after)) := by
  by_cases hkey : ∃ field ∈ layout.fields, key ∈ field.1
  · obtain ⟨field, hfield, hkey⟩ := hkey
    exact inField hfield hkey before after (h field hfield hkey)
  · push Not at hkey
    exact .trans _ _ _ (.symm _ _ (.rel _ _ (.extra hkey))) (.rel _ _ (.extra hkey))

end Rewritten

/-! ## Sorting as a rewriting -/

mutual

theorem rewritten_canonical (layout : Layout) :
    (v : Json) → v.DistinctKeys → Rewritten layout v v.canonical
  | .arr items, h => by
    rw [canonical_arr]
    exact rewritten_canonicalItems layout [] items h
  | .obj members, h => by
    rw [canonical_obj]
    refine .trans _ _ _ (rewritten_canonicalMembers layout [] members h.2) ?_
    exact .rel _ _ (.permute (sorted_perm h).symm)
  | .null, _ => .refl _
  | .bool _, _ => .refl _
  | .int _, _ => .refl _
  | .real _, _ => .refl _
  | .str _, _ => .refl _

/-- The items in front have been sorted. -/
theorem rewritten_canonicalItems (layout : Layout) (before : List Json) :
    (items : List Json) → DistinctKeysItems items →
      Rewritten layout (.arr (before ++ items)) (.arr (before ++ items.map canonical))
  | [], _ => .refl _
  | v :: items, h => by
    refine .trans _ _ _ (Rewritten.inItem before items (rewritten_canonical _ v h.1)) ?_
    have hrest := rewritten_canonicalItems layout (before ++ [v.canonical]) items h.2
    simpa only [Rewritten, List.append_assoc, List.cons_append, List.nil_append, List.map_cons]
      using hrest

theorem rewritten_canonicalMembers (layout : Layout) (before : List (String × Json)) :
    (members : List (String × Json)) → DistinctKeysMembers members →
      Rewritten layout (.obj (before ++ members))
        (.obj (before ++ members.map fun m => (m.1, m.2.canonical)))
  | [], _ => .refl _
  | (key, v) :: members, h => by
    refine .trans _ _ _ (Rewritten.inMember (fun field _ _ =>
      rewritten_canonical field.2 v h.1) before members) ?_
    have hrest := rewritten_canonicalMembers layout (before ++ [(key, v.canonical)]) members h.2
    simpa only [Rewritten, List.append_assoc, List.cons_append, List.nil_append, List.map_cons]
      using hrest

end

/-! ## Readers that take no notice -/

section goesBy

variable {α β : Type} {layout : Layout} {read : Json → Except Mismatch α}

/-- The reader reads what the layout tells and so takes no notice of a rewriting. -/
def GoesBy (layout : Layout) (read : Json → Except Mismatch α) : Prop :=
  ∀ v w, Rewrite layout v w → (read v).toOption = (read w).toOption

/-- Readers of plain kinds read neither objects nor lists. -/
theorem goesBy_of_plain (hobj : ∀ members, (read (.obj members)).toOption = none)
    (harr : ∀ items, (read (.arr items)).toOption = none) : GoesBy layout read := by
  intro v w h
  cases h <;> simp only [hobj, harr]

theorem goesBy_asString : GoesBy layout asString :=
  goesBy_of_plain (fun _ => rfl) fun _ => rfl

theorem goesBy_asWord : GoesBy layout asWord :=
  goesBy_of_plain (fun _ => rfl) fun _ => rfl

theorem goesBy_asReal : GoesBy layout asReal :=
  goesBy_of_plain (fun _ => rfl) fun _ => rfl

theorem goesBy_optionalString : GoesBy layout (asOptional asString) :=
  goesBy_of_plain (fun _ => rfl) fun _ => rfl

theorem goesBy_optionalWord : GoesBy layout (asOptional asWord) :=
  goesBy_of_plain (fun _ => rfl) fun _ => rfl

theorem mapM_middle {v w : Json} (h : (read v).toOption = (read w).toOption)
    (before after : List Json) :
    ((before ++ v :: after).mapM read).toOption = ((before ++ w :: after).mapM read).toOption := by
  simp only [List.mapM_append, List.mapM_cons, toOption_bind, h]

theorem GoesBy.asList (h : GoesBy layout read) : GoesBy (.listOf layout) (asList read) := by
  intro v w hvw
  cases hvw with
  | inItem hvw => exact mapM_middle (h _ _ hvw) _ _
  | _ => rfl

theorem GoesBy.reading (h : GoesBy layout read) (name : String) (spellings : List String)
    (required : Bool) (part : Part β α) (record : β) :
    GoesBy layout fun v => (reading name spellings required read part).put v record := by
  intro v w hvw
  simp only [Json.reading, toOption_map, h v w hvw]

end goesBy

/-! ## Records -/

namespace Field

variable {α : Type} {f : Field α} {v w : Json}

theorem settle_middle {record : α} (h : (f.put v record).toOption = (f.put w record).toOption)
    (before after : List Json) :
    f.settle [] (before ++ v :: after) record = f.settle [] (before ++ w :: after) record := by
  cases before with
  | nil =>
    cases after with
    | nil => simpa [settle] using h
    | cons x after => rfl
  | cons x before => cases before <;> rfl

/-- The field stands in a layout with its spellings, and with a layout that its value is read by. -/
def ReadBy (f : Field α) (field : List String × Layout) : Prop :=
  f.keys = field.1 ∧ ∀ record, GoesBy field.2 fun v => f.put v record

end Field

theorem exists_of_forall₂ {α β : Type} {r : α → β → Prop} {as : List α} {bs : List β}
    (h : List.Forall₂ r as bs) {a : α} (ha : a ∈ as) : ∃ b ∈ bs, r a b := by
  induction h with
  | nil => cases ha
  | @cons a' b as bs hr _ ih =>
    rcases List.mem_cons.mp ha with rfl | ha
    · exact ⟨b, List.mem_cons_self, hr⟩
    · obtain ⟨b, hb, hr⟩ := ih ha
      exact ⟨b, List.mem_cons_of_mem _ hb, hr⟩

namespace Shape

variable {α : Type} {shape : Shape α} {layout : Layout}
  {own others : List (List String × Layout)}

/-- The layout has the fields of the shape in their order, and beside them only fields that mean
nothing to the shape. -/
structure Follows (shape : Shape α) (layout : Layout) (own others : List (List String × Layout)) :
    Prop where
  fields : ∀ field, field ∈ layout.fields ↔ field ∈ own ∨ field ∈ others
  own : List.Forall₂ Field.ReadBy shape.fields own
  others : ∀ field ∈ others, ∀ key ∈ field.1, ∀ f ∈ shape.fields, key ∉ f.keys

/-- A key means one field at most. -/
theorem eq_of_key (lawful : shape.Lawful) {f g : Field α} (hf : f ∈ shape.fields)
    (hg : g ∈ shape.fields) {key : String} (hkf : key ∈ f.keys) (hkg : key ∈ g.keys) : f = g := by
  by_contra hne
  obtain ⟨i, hi, rfl⟩ := List.mem_iff_getElem.mp hf
  obtain ⟨j, hj, rfl⟩ := List.mem_iff_getElem.mp hg
  rcases Nat.lt_trichotomy i j with hij | rfl | hij
  · exact (List.pairwise_iff_getElem.mp lawful i j hi hj hij).keys key hkf hkg
  · exact hne rfl
  · exact (List.pairwise_iff_getElem.mp lawful j i hj hi hij).keys key hkg hkf

theorem membersOf_middle {fields : List (Field α)} {before : List Json}
    (h : before.length < fields.length) (v : Json) (after : List Json) :
    membersOf fields (before ++ v :: after) =
      membersOf (fields.take before.length) before ++
        (fields[before.length].name, v) :: membersOf (fields.drop (before.length + 1)) after := by
  have hfields : fields = fields.take before.length ++
      fields[before.length] :: fields.drop (before.length + 1) := by
    rw [List.getElem_cons_drop, List.take_append_drop]
  have hlength : ((fields.take before.length).map (·.name)).length = before.length := by
    rw [List.length_map, List.length_take]
    omega
  conv_lhs => rw [hfields]
  rw [membersOf, List.map_append, List.map_cons, List.zip_append hlength, List.zip_cons_cons]
  rfl

namespace Follows

section

variable (h : shape.Follows layout own others) (lawful : shape.Lawful)

include h

theorem known {f : Field α} (hf : f ∈ shape.fields) {key : String} (hkey : key ∈ f.keys) :
    ∃ field ∈ layout.fields, key ∈ field.1 := by
  obtain ⟨field, hfield, hkeys, -⟩ := exists_of_forall₂ h.own hf
  exact ⟨field, (h.fields field).mpr (.inl hfield), hkeys ▸ hkey⟩

include lawful

/-- A key that means a field of the shape stands in the layout for this field alone. -/
theorem field_of_key {field : List String × Layout} (hfield : field ∈ layout.fields)
    {f : Field α} (hf : f ∈ shape.fields) {key : String} (hkey : key ∈ field.1)
    (hkf : key ∈ f.keys) : f.ReadBy field := by
  rcases (h.fields field).mp hfield with hown | hother
  · obtain ⟨g, hg, hkeys, hput⟩ := exists_of_forall₂ h.own.flip hown
    obtain rfl := eq_of_key lawful hf hg hkf (hkeys ▸ hkey)
    exact ⟨hkeys, hput⟩
  · exact absurd hkf (h.others field hother key hkey f hf)

/-- The record of an object does not change when the object is rewritten. -/
theorem ofMembers_eq {members members' : List (String × Json)}
    (hrewrite : Rewrite layout (.obj members) (.obj members')) :
    (shape.ofMembers members).toOption = (shape.ofMembers members').toOption := by
  rw [ofMembers_toOption lawful, ofMembers_toOption lawful]
  refine gather_congr (fun f hf record => ?_) _
  cases hrewrite with
  | permute hperm => exact settle_perm (valuesUnder_perm hperm) record
  | @respell _ field key key' v before after hfield hkey hkey' =>
    have hiff : key ∈ f.keys ↔ key' ∈ f.keys := by
      constructor
      · intro hkf
        exact (h.field_of_key lawful hfield hf hkey hkf).1 ▸ hkey'
      · intro hkf
        exact (h.field_of_key lawful hfield hf hkey' hkf).1 ▸ hkey
    rw [valuesUnder_append, valuesUnder_append]
    by_cases hkf : key ∈ f.keys
    · rw [valuesUnder_cons_of_mem hkf, valuesUnder_cons_of_mem (hiff.mp hkf)]
    · rw [valuesUnder_cons_of_notMem hkf, valuesUnder_cons_of_notMem (mt hiff.mpr hkf)]
  | @extra _ key v before after hkey =>
    have hkf : key ∉ f.keys := by
      intro hkf
      obtain ⟨field, hfield, hknown⟩ := h.known hf hkf
      exact hkey field hfield hknown
    rw [valuesUnder_append, valuesUnder_append, valuesUnder_cons_of_notMem hkf]
  | @inField _ field key v w before after hfield hkey hvw =>
    rw [valuesUnder_append, valuesUnder_append]
    by_cases hkf : key ∈ f.keys
    · rw [valuesUnder_cons_of_mem hkf, valuesUnder_cons_of_mem hkf]
      have hput := (h.field_of_key lawful hfield hf hkey hkf).2 record
      exact Field.settle_middle (hput v w hvw) _ _
    · rw [valuesUnder_cons_of_notMem hkf, valuesUnder_cons_of_notMem hkf]

end

/-- An item that is rewritten at its place is rewritten under the name of its field. -/
theorem rewrite_membersOf (h : shape.Follows (.record own) own others) {v w : Json}
    {before after : List Json} (hplace : before.length < shape.fields.length)
    (hvw : Rewrite ((Layout.record own).place before.length) v w) :
    Rewrite (.record own) (.obj (membersOf shape.fields (before ++ v :: after)))
      (.obj (membersOf shape.fields (before ++ w :: after))) := by
  have hown : before.length < own.length := h.own.length_eq ▸ hplace
  have hkeys : shape.fields[before.length].keys = own[before.length].1 :=
    (h.own.get hplace hown).1
  rw [membersOf_middle hplace, membersOf_middle hplace]
  refine .inField (List.getElem_mem hown) ?_ ?_
  · rw [← hkeys]
    exact List.mem_cons_self
  · rw [Layout.place, List.getElem?_eq_getElem hown] at hvw
    exact hvw

/-- A shape that follows a layout reads objects and lists by it. -/
theorem goesBy_decode (h : shape.Follows (.record own) own others) (lawful : shape.Lawful) :
    GoesBy (.record own) shape.decode := by
  intro v w hvw
  cases v with
  | obj members =>
    obtain ⟨members', rfl⟩ := hvw.exists_members
    exact h.ofMembers_eq lawful hvw
  | arr items =>
    cases hvw with
    | inItem hvw =>
      rw [decode, decode, ofItems_toOption lawful, ofItems_toOption lawful]
      simp only [List.length_append, List.length_cons]
      split
      · refine h.ofMembers_eq lawful (h.rewrite_membersOf ?_ hvw)
        omega
      · rfl
  | _ => cases hvw

end Follows

end Shape

end FeedExplorer.Json
