import FeedExplorer.Json.Mismatch

/-!
# Shapes of records

How a record of named fields is read from a value: from the members of an object, each field
under one of its spellings, or from a list with the fields in order. Fields that are not required
keep what the blank record has for them; members that name no field are skipped.
-/

namespace FeedExplorer.Json

/-- One field of a record: its name, the other spellings of it, whether it has to be there, and
how its value is put into the record. -/
structure Field (α : Type) where
  name : String
  spellings : List String
  required : Bool
  put : Json → α → Except Mismatch α

/-- A kind of record. -/
structure Shape (α : Type) where
  title : String
  blank : α
  fields : List (Field α)

namespace Field

variable {α : Type}

/-- The field is meant by this key. -/
def answers (f : Field α) (key : String) : Bool :=
  key == f.name || f.spellings.contains key

end Field

namespace Shape

variable {α : Type}

/-- The field that a key means. -/
def field? (shape : Shape α) (key : String) : Option (Field α) :=
  shape.fields.find? (·.answers key)

/-- Puts the members into a record one after another, noting the names of the fields seen. -/
def fill (shape : Shape α) :
    List (String × Json) → List String → α → Except Mismatch (List String × α)
  | [], seen, record => .ok (seen, record)
  | (key, value) :: rest, seen, record =>
    match shape.field? key with
    | none => fill shape rest seen record
    | some f =>
      if seen.contains f.name then .error (.duplicateField f.name)
      else do
        let record ← f.put value record
        fill shape rest (f.name :: seen) record

/-- The first required field that has not been seen. -/
def missing? (shape : Shape α) (seen : List String) : Option String :=
  (shape.fields.find? fun f => f.required && !seen.contains f.name).map (·.name)

def ofMembers (shape : Shape α) (members : List (String × Json)) : Except Mismatch α := do
  let (seen, record) ← shape.fill members [] shape.blank
  match shape.missing? seen with
  | some name => .error (.missingField name)
  | none => .ok record

/-- Puts items into the fields in order. `place` is the number of the first of these fields. -/
def fillInOrder (shape : Shape α) (length : Nat) :
    List (Field α) → Nat → List Json → α → Except Mismatch α
  | [], _, [], record => .ok record
  | [], _, _ :: _, _ => .error (.wrongLength length "fewer elements in array")
  | f :: fields, place, [], record =>
    if f.required then
      .error (.wrongLength place s!"struct {shape.title} with {shape.fields.length} elements")
    else fillInOrder shape length fields (place + 1) [] record
  | f :: fields, place, item :: items, record => do
    let record ← f.put item record
    fillInOrder shape length fields (place + 1) items record

def ofItems (shape : Shape α) (items : List Json) : Except Mismatch α :=
  shape.fillInOrder items.length shape.fields 0 items shape.blank

def decode (shape : Shape α) : Json → Except Mismatch α
  | .obj members => shape.ofMembers members
  | .arr items => shape.ofItems items
  | v => .error (.wrongType v s!"struct {shape.title}")

end Shape

end FeedExplorer.Json
